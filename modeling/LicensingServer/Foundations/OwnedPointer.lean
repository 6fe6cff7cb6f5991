import Mathlib.Data.List.Nodup
import Mathlib.Tactic.Common

/-!
Owns a raw pointer and the objects that are allocated through it: what a
dereference, an allocation, a delete and an assignment of null do, where they
are undefined, and when every object is deleted exactly once.

The pointer is not copied. Does not own what performs the actions.
-/

set_option autoImplicit false

namespace LicensingServer.Foundations

namespace OwnedPointer

inductive Pointer
  | indeterminate
  | null
  | live (object : Nat)
deriving DecidableEq, Repr

inductive Action
  | dereference
  | allocate
  | delete
  | setNull
deriving DecidableEq, Repr

/-- The pointer and its objects, which are numbered as they are allocated. -/
structure Owner where
  pointer : Pointer
  allocated : Nat
  deleted : List Nat
deriving DecidableEq, Repr

/-- The pointer is declared and not set. -/
def declared : Owner := ⟨.indeterminate, 0, []⟩

/-- One action; `none` where its behaviour is undefined. A pointer to a deleted
object has no value. -/
def perform (owner : Owner) : Action → Option Owner
  | .dereference =>
      match owner.pointer with
      | .live _ => some owner
      | _ => none
  | .allocate => some ⟨.live owner.allocated, owner.allocated + 1, owner.deleted⟩
  | .delete =>
      match owner.pointer with
      | .live object => some ⟨.indeterminate, owner.allocated, owner.deleted ++ [object]⟩
      | .null => some owner
      | .indeterminate => none
  | .setNull => some { owner with pointer := .null }

def performAll (actions : List Action) (owner : Owner) : Option Owner :=
  actions.foldlM perform owner

@[simp] theorem performAll_nil (owner : Owner) : performAll [] owner = some owner := rfl

@[simp] theorem performAll_cons (action : Action) (rest : List Action) (owner : Owner) :
    performAll (action :: rest) owner = (perform owner action).bind (performAll rest) := rfl

theorem performAll_append (left right : List Action) (owner : Owner) :
    performAll (left ++ right) owner = (performAll left owner).bind (performAll right) :=
  List.foldlM_append

/-- Every object that was allocated has been deleted once. -/
def Settled (owner : Owner) : Prop :=
  ∀ object < owner.allocated, owner.deleted.count object = 1

/-! ### What holds of every owner -/

/-- Only allocated objects are deleted, each at most once, and the object that
the pointer is live with has not been. -/
structure Accounted (owner : Owner) : Prop where
  once : owner.deleted.Nodup
  allocated : ∀ object ∈ owner.deleted, object < owner.allocated
  held : ∀ object, owner.pointer = .live object →
    object < owner.allocated ∧ object ∉ owner.deleted

theorem declared_accounted : Accounted declared := by
  constructor
  · exact List.nodup_nil
  · intro object member
    cases member
  · intro object live
    cases live

theorem Accounted.perform {owner next : Owner} (accounted : Accounted owner) {action : Action}
    (performed : perform owner action = some next) : Accounted next := by
  rcases owner with ⟨pointer, allocated, deleted⟩
  cases action with
  | dereference =>
      cases pointer with
      | live object =>
          cases performed
          exact accounted
      | indeterminate => cases performed
      | null => cases performed
  | allocate =>
      cases performed
      constructor
      · exact accounted.once
      · intro object member
        exact Nat.lt_succ_of_lt (accounted.allocated object member)
      · intro object live
        have isNew : allocated = object := Pointer.live.inj live
        subst isNew
        refine ⟨Nat.lt_succ_self _, ?_⟩
        intro member
        exact Nat.lt_irrefl _ (accounted.allocated _ member)
  | delete =>
      cases pointer with
      | live object =>
          cases performed
          rcases accounted.held object rfl with ⟨isAllocated, notDeleted⟩
          constructor
          · apply List.Nodup.append accounted.once (List.pairwise_singleton _ _)
            intro other member isObject
            rw [List.mem_singleton.mp isObject] at member
            exact notDeleted member
          · intro other member
            rcases List.mem_append.mp member with before | isObject
            · exact accounted.allocated other before
            · rw [List.mem_singleton.mp isObject]
              exact isAllocated
          · intro other live
            cases live
      | null =>
          cases performed
          exact accounted
      | indeterminate => cases performed
  | setNull =>
      cases performed
      refine ⟨accounted.once, accounted.allocated, ?_⟩
      intro object live
      cases live

theorem Accounted.performAll {owner last : Owner} (accounted : Accounted owner)
    {actions : List Action} (performed : performAll actions owner = some last) :
    Accounted last := by
  induction actions generalizing owner with
  | nil =>
      cases performed
      exact accounted
  | cons action rest inductionHypothesis =>
      rw [performAll_cons] at performed
      rcases Option.bind_eq_some_iff.mp performed with ⟨next, first, later⟩
      exact inductionHypothesis (accounted.perform first) later

/-! ### Lost objects -/

/-- An object that no action can delete any more. -/
structure Lost (owner : Owner) (object : Nat) : Prop where
  allocated : object < owner.allocated
  notDeleted : object ∉ owner.deleted
  notHeld : owner.pointer ≠ .live object

/-- A lost object stays lost. -/
theorem Lost.perform {owner next : Owner} {object : Nat} (lost : Lost owner object)
    {action : Action} (performed : perform owner action = some next) : Lost next object := by
  rcases owner with ⟨pointer, allocated, deleted⟩
  cases action with
  | dereference =>
      cases pointer with
      | live other =>
          cases performed
          exact lost
      | indeterminate => cases performed
      | null => cases performed
  | allocate =>
      cases performed
      refine ⟨Nat.lt_succ_of_lt lost.allocated, lost.notDeleted, ?_⟩
      intro isNew
      have same : allocated = object := Pointer.live.inj isNew
      exact absurd lost.allocated (by simp [same])
  | delete =>
      cases pointer with
      | live other =>
          cases performed
          refine ⟨lost.allocated, ?_, by simp⟩
          intro member
          rcases List.mem_append.mp member with before | isOther
          · exact lost.notDeleted before
          · exact lost.notHeld (by rw [List.mem_singleton.mp isOther])
      | null =>
          cases performed
          exact lost
      | indeterminate => cases performed
  | setNull =>
      cases performed
      exact ⟨lost.allocated, lost.notDeleted, by simp⟩

theorem Lost.performAll {owner last : Owner} {object : Nat} (lost : Lost owner object)
    {actions : List Action} (performed : performAll actions owner = some last) :
    Lost last object := by
  induction actions generalizing owner with
  | nil =>
      cases performed
      exact lost
  | cons action rest inductionHypothesis =>
      rw [performAll_cons] at performed
      rcases Option.bind_eq_some_iff.mp performed with ⟨next, first, later⟩
      exact inductionHypothesis (lost.perform first) later

/-- Every object has been deleted or is the pointer's. -/
def NoneLost (owner : Owner) : Prop := ∀ object, ¬ Lost owner object

/-- Nothing was lost before a state in which nothing is. -/
theorem NoneLost.of_performAll {owner last : Owner} {actions : List Action}
    (performed : performAll actions owner = some last) (none : NoneLost last) :
    NoneLost owner := by
  intro object lost
  exact none object (lost.performAll performed)

/-- Allocating through a live pointer loses its object. -/
theorem lost_of_allocate {owner : Owner} (accounted : Accounted owner) {object : Nat}
    (live : owner.pointer = .live object) :
    Lost ⟨.live owner.allocated, owner.allocated + 1, owner.deleted⟩ object := by
  rcases accounted.held object live with ⟨isAllocated, notDeleted⟩
  refine ⟨Nat.lt_succ_of_lt isAllocated, notDeleted, ?_⟩
  intro isNew
  have same : owner.allocated = object := Pointer.live.inj isNew
  omega

theorem NoneLost.allocate {owner : Owner} (none : NoneLost owner)
    (free : ∀ object, owner.pointer ≠ .live object) :
    NoneLost ⟨.live owner.allocated, owner.allocated + 1, owner.deleted⟩ := by
  intro object lost
  have isOld : object ≠ owner.allocated := by
    intro isNew
    exact lost.notHeld (by rw [isNew])
  have before := lost.allocated
  simp only at before
  exact none object ⟨by omega, lost.notDeleted, free object⟩

/-- Deleting the pointer's object loses nothing, whatever the pointer is then. -/
theorem NoneLost.delete {owner : Owner} (none : NoneLost owner) {object : Nat}
    (live : owner.pointer = .live object) (pointer : Pointer) :
    NoneLost ⟨pointer, owner.allocated, owner.deleted ++ [object]⟩ := by
  intro other lost
  have apart : other ∉ owner.deleted ∧ other ≠ object := by
    simpa [not_or] using lost.notDeleted
  refine none other ⟨lost.allocated, apart.1, ?_⟩
  intro held
  rw [live] at held
  exact apart.2 (Pointer.live.inj held).symm

/-! ### The last delete -/

theorem settled_iff {owner : Owner} (accounted : Accounted owner) :
    Settled owner ↔ ∀ object < owner.allocated, object ∈ owner.deleted := by
  constructor
  · intro settled object isAllocated
    apply List.count_pos_iff.mp
    rw [settled object isAllocated]
    exact Nat.one_pos
  · intro all object isAllocated
    exact List.count_eq_one_of_mem accounted.once (all object isAllocated)

/-- A last delete settles all objects exactly where the pointer has a value and
nothing was lost. -/
theorem delete_settles_iff {owner : Owner} (accounted : Accounted owner) :
    (∃ last, performAll [.delete] owner = some last ∧ Settled last) ↔
      owner.pointer ≠ .indeterminate ∧ NoneLost owner := by
  constructor
  · intro deletes
    rcases deletes with ⟨last, performed, settled⟩
    constructor
    · intro unset
      simp [perform, unset] at performed
    · apply NoneLost.of_performAll performed
      intro object lost
      have all := (settled_iff (accounted.performAll performed)).mp settled
      exact lost.notDeleted (all object lost.allocated)
  · intro kept
    rcases kept with ⟨isSet, none⟩
    cases value : owner.pointer with
    | indeterminate => exact absurd value isSet
    | null =>
        refine ⟨owner, by simp [perform, value], (settled_iff accounted).mpr ?_⟩
        intro object isAllocated
        by_contra notDeleted
        exact none object ⟨isAllocated, notDeleted, by simp [value]⟩
    | live held =>
        have performed : performAll [.delete] owner =
            some ⟨.indeterminate, owner.allocated, owner.deleted ++ [held]⟩ := by
          simp [perform, value]
        refine ⟨_, performed, (settled_iff (accounted.performAll performed)).mpr ?_⟩
        intro object isAllocated
        by_contra notDeleted
        exact none.delete value .indeterminate object ⟨isAllocated, notDeleted, by simp⟩

end OwnedPointer

end LicensingServer.Foundations
