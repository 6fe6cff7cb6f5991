import LicensingServer.Crypto.KeyExchange
import LicensingServer.Foundations.OwnedPointer
import Mathlib.Data.List.Induction

/-!
Owns the lifetime of the object behind `_dhA`: what each call does with the
pointer, over any sequence of calls from the constructor to the destructor, and
exactly which sequences use it safely and delete every object once.

Does not own the values that the calls compute.
-/

set_option autoImplicit false

namespace LicensingServer

open LicensingServer.Foundations

namespace Crypto

open OwnedPointer

/-! ### What the calls do with the pointer -/

/-- What a statement does with `_dhA`. -/
def InitStatement.actions : InitStatement → List Action
  | .validateGroup => []
  | .verifyOrder => []
  | .newDh2 => [.allocate]
  | .cleanSpriv => [.dereference]
  | .cleanSpub => [.dereference]
  | .cleanEpriv => [.dereference]
  | .cleanEpub => [.dereference]
  | .generateStaticKeyPair => [.dereference]
  | .generateEphemeralKeyPair => [.dereference]

def XportStatement.actions : XportStatement → List Action
  | .allocateShared => [.dereference]
  | .agree => [.dereference]
  | .deleteDh2 => [.delete]
  | .clearDh2 => [.setNull]
  | _ => []

/-- The statements of `initKeyExchangeParams` that throw. -/
inductive InitCheck
  | validateGroup
  | verifyOrder
deriving DecidableEq, Repr

def InitCheck.statement : InitCheck → InitStatement
  | .validateGroup => .validateGroup
  | .verifyOrder => .verifyOrder

/-- The statement of `genXport` that throws. -/
inductive XportCheck
  | agree
deriving DecidableEq, Repr

def XportCheck.statement : XportCheck → XportStatement
  | .agree => .agree

/-- The statements that are started: all, or those up to the one that throws. -/
def started {Statement : Type} [DecidableEq Statement] (program : List Statement) :
    Option Statement → List Statement
  | none => program
  | some check => program.takeWhile (fun statement => statement ≠ check) ++ [check]

/-- A call that returns, or that throws at one of its checks. -/
inductive Operation
  | initKeyExchangeParams (thrownAt : Option InitCheck)
  | genXport (thrownAt : Option XportCheck)
deriving DecidableEq, Repr

def Operation.actions : Operation → List Action
  | .initKeyExchangeParams thrownAt =>
      (started Crypto.initKeyExchangeParams (thrownAt.map InitCheck.statement)).flatMap
        InitStatement.actions
  | .genXport thrownAt =>
      (started Crypto.genXport (thrownAt.map XportCheck.statement)).flatMap XportStatement.actions

/-- `Crypto::~Crypto`. -/
def destructor : List Action := [.delete]

/-- The object after the calls; `none` where one of them uses the pointer without
a defined behaviour. -/
def after (operations : List Operation) : Option Owner :=
  performAll (operations.flatMap Operation.actions) declared

/-- From the constructor to the destructor, the pointer is dereferenced only
when live and deleted only when live or null, and every object is deleted once. -/
def Owned (operations : List Operation) : Prop :=
  ∃ last, performAll (operations.flatMap Operation.actions ++ destructor) declared = some last ∧
    Settled last

/-! ### One call -/

theorem initKeyExchangeParams_thrown (check : InitCheck) (owner : Owner) :
    performAll (Operation.initKeyExchangeParams (some check)).actions owner = some owner := by
  cases check with
  | validateGroup => rfl
  | verifyOrder => rfl

theorem initKeyExchangeParams_returned (owner : Owner) :
    performAll (Operation.initKeyExchangeParams none).actions owner =
      some ⟨.live owner.allocated, owner.allocated + 1, owner.deleted⟩ := rfl

theorem genXport_actions_thrown (check : XportCheck) :
    (Operation.genXport (some check)).actions = [.dereference, .dereference] := by
  cases check
  decide

theorem genXport_actions_returned :
    (Operation.genXport none).actions = [.dereference, .dereference, .delete, .setNull] := by
  decide

theorem genXport_thrown (check : XportCheck) {owner : Owner} {object : Nat}
    (live : owner.pointer = .live object) :
    performAll (Operation.genXport (some check)).actions owner = some owner := by
  rw [genXport_actions_thrown]
  simp [perform, live]

theorem genXport_returned {owner : Owner} {object : Nat} (live : owner.pointer = .live object) :
    performAll (Operation.genXport none).actions owner =
      some ⟨.null, owner.allocated, owner.deleted ++ [object]⟩ := by
  rw [genXport_actions_returned]
  simp [perform, live]

theorem genXport_dead (thrownAt : Option XportCheck) {owner : Owner}
    (dead : ∀ object, owner.pointer ≠ .live object) :
    performAll (Operation.genXport thrownAt).actions owner = none := by
  have refused : perform owner .dereference = none := by
    unfold perform
    cases value : owner.pointer with
    | live object => exact absurd value (dead object)
    | null => rfl
    | indeterminate => rfl
  cases thrownAt with
  | none => rw [genXport_actions_returned, performAll_cons, refused, Option.bind_none]
  | some check => rw [genXport_actions_thrown, performAll_cons, refused, Option.bind_none]

/-! ### The calls on the members -/

section Members

variable {lib : CryptoPP}

/-- The pointer as the members show it, without the object. -/
def shown : Pointer → DhPointer
  | .indeterminate => .indeterminate
  | .null => .null
  | .live _ => .live

theorem shown_eq_live_iff (pointer : Pointer) :
    shown pointer = .live ↔ ∃ object, pointer = .live object := by
  cases pointer <;> simp [shown]

/-- How a call ends: it returns, or it throws at a check. -/
def Ends {Check : Type} (ending : Except Fault Unit) : Option Check → Prop
  | none => ending = .ok ()
  | some _ => ∃ what, ending = .error (.thrown what)

/-- `initKeyExchangeParams` from these members: what it leaves, and how it ends. -/
def leaveInit (draw : KeyDraw lib) (crypto : Crypto) : Crypto × Except Fault Unit :=
  StraightLine.leave (fun statement crypto => InitStatement.effect draw crypto statement)
    initKeyExchangeParams crypto

def leaveXport (draw : KeyDraw lib) (spubBHex epubBHex : Bytes) (crypto : Crypto) :
    (Crypto × XportLocals) × Except Fault Unit :=
  StraightLine.leave (fun statement (state : Crypto × XportLocals) =>
    XportStatement.effect lib draw state.1 state.2 statement) genXport
      (crypto, .enter spubBHex epubBHex)

theorem leaveInit_eq (draw : KeyDraw lib) (crypto : Crypto) :
    leaveInit draw crypto =
      if draw.groupValid then (crypto.withKeys draw, .ok ())
      else (crypto, .error (.thrown (.runtimeError "Failed to validate prime and generator"))) := by
  unfold leaveInit initKeyExchangeParams
  by_cases valid : draw.groupValid = true
  · simp only [StraightLine.leave, InitStatement.effect, valid, if_true, Group.order, ne_eq,
      not_true_eq_false, if_false, dereference, bind, Except.bind, pure, Except.pure]
    rfl
  · simp only [StraightLine.leave, InitStatement.effect, valid]
    rfl

/-- The keys are made or refused with the pointer as the actions have it. -/
theorem leaveInit_follows (draw : KeyDraw lib) {crypto : Crypto} {owner : Owner}
    (follows : crypto.dhA = shown owner.pointer) {thrownAt : Option InitCheck}
    (ends : Ends (leaveInit draw crypto).2 thrownAt) :
    ∃ next, performAll (Operation.initKeyExchangeParams thrownAt).actions owner = some next ∧
      (leaveInit draw crypto).1.dhA = shown next.pointer := by
  rw [leaveInit_eq] at ends ⊢
  cases thrownAt with
  | none =>
      refine ⟨_, initKeyExchangeParams_returned owner, ?_⟩
      by_cases valid : draw.groupValid = true
      · rw [if_pos valid]
        rfl
      · rw [if_neg valid] at ends
        cases ends
  | some check =>
      refine ⟨owner, initKeyExchangeParams_thrown check owner, ?_⟩
      by_cases valid : draw.groupValid = true
      · rw [if_pos valid] at ends
        rcases ends with ⟨what, thrown⟩
        cases thrown
      · rw [if_neg valid]
        exact follows

/-- Without a live pointer the third statement of `genXport` has no defined
behaviour, and neither have its actions. -/
theorem leaveXport_dead (draw : KeyDraw lib) (spubBHex epubBHex : Bytes) {crypto : Crypto}
    (dead : crypto.dhA ≠ .live) :
    (leaveXport draw spubBHex epubBHex crypto).2 = .error .deadPointer := by
  unfold leaveXport
  have split : genXport =
      .decodeSpub :: .decodeEpub :: .allocateShared :: .agree :: genXport.drop 4 := rfl
  rw [split]
  simp only [StraightLine.leave, XportStatement.effect, dereference, dead, if_false, bind,
    Except.bind]

/-- Only the key agreement throws. -/
theorem XportStatement.effect_thrown (draw : KeyDraw lib) {crypto : Crypto} {locals : XportLocals}
    {statement : XportStatement} {what : Exception}
    (thrown : statement.effect lib draw crypto locals = .error (.thrown what)) :
    statement = .agree := by
  have past : ∀ {size : Nat} {block : Bytes} {Result : Type} {next : Bytes → Except Fault Result},
      (∀ value, next value ≠ .error (.thrown what)) →
        (readBlock size block).bind next ≠ .error (.thrown what) := by
    intro size block Result next goesOn refused
    unfold readBlock at refused
    split_ifs at refused
    · exact goesOn _ refused
    · cases refused
  cases statement with
  | agree => rfl
  | allocateShared =>
      unfold effect dereference at thrown
      split_ifs at thrown
      · cases thrown
      · cases thrown
  | assignKek => exact absurd thrown (past fun _ refused => by cases refused)
  | copyMack => exact absurd thrown (past fun _ refused => by cases refused)
  | wrapCek => exact absurd thrown (past fun _ refused => by cases refused)
  | digest => exact absurd thrown (past fun _ refused => by cases refused)
  | _ => cases thrown

/-- An exchange is made or refused with the pointer as the actions have it. -/
theorem leaveXport_follows (draw : KeyDraw lib) (spubBHex epubBHex : Bytes) {crypto : Crypto}
    {owner : Owner} (follows : crypto.dhA = shown owner.pointer) {thrownAt : Option XportCheck}
    (ends : Ends (leaveXport draw spubBHex epubBHex crypto).2 thrownAt) :
    ∃ next, performAll (Operation.genXport thrownAt).actions owner = some next ∧
      (leaveXport draw spubBHex epubBHex crypto).1.1.dhA = shown next.pointer := by
  by_cases live : crypto.dhA = .live
  · rcases (shown_eq_live_iff owner.pointer).mp (follows.symm.trans live) with ⟨object, held⟩
    cases thrownAt with
    | none =>
        refine ⟨_, genXport_returned held, ?_⟩
        have returned : (leaveXport draw spubBHex epubBHex crypto).2 = .ok () := ends
        have done : StraightLine.execute (fun statement (state : Crypto × XportLocals) =>
            XportStatement.effect lib draw state.1 state.2 statement)
            (genXport.dropLast ++ [.clearDh2]) (crypto, .enter spubBHex epubBHex) =
              .ok (leaveXport draw spubBHex epubBHex crypto).1 := by
          have split : genXport.dropLast ++ [.clearDh2] = genXport := rfl
          rw [split, StraightLine.execute_eq_leave]
          unfold leaveXport at returned ⊢
          rw [returned]
          rfl
        -- The last statement leaves null, whatever the ones before it did.
        rcases StraightLine.execute_append_ok _ done with ⟨middle, -, cleared⟩
        rw [← Except.ok.inj cleared]
        rfl
    | some check =>
        refine ⟨owner, genXport_thrown check held, ?_⟩
        rcases ends with ⟨what, thrown⟩
        have split : genXport =
            [.decodeSpub, .decodeEpub, .allocateShared] ++ .agree :: genXport.drop 4 := rfl
        unfold leaveXport at thrown ⊢
        rw [split, StraightLine.leave_append _ _ _
          (execute_beforeAgree draw live spubBHex epubBHex)] at thrown ⊢
        cases met : XportStatement.effect lib draw crypto
            ⟨spubBHex, epubBHex, keyBlock lib spubBHex, keyBlock lib epubBHex,
              cleanNew agreedValueLength, []⟩ .agree with
        | error fault =>
            rw [StraightLine.leave_cons_error _ _ met]
            exact follows
        | ok next =>
            rw [StraightLine.leave_cons_ok _ _ met] at thrown
            rcases StraightLine.leave_error _ (Prod.ext rfl thrown) with ⟨statement, member, raised⟩
            rw [XportStatement.effect_thrown draw raised] at member
            exact absurd member (by decide)
  · have dead := leaveXport_dead draw spubBHex epubBHex live
    cases thrownAt with
    | none => cases dead.symm.trans ends
    | some check =>
        rcases ends with ⟨what, thrown⟩
        cases dead.symm.trans thrown

/-- The calls on an object since its construction, and its members after them. -/
inductive Lifetime (lib : CryptoPP) : List Operation → Crypto → Prop
  | constructed : Lifetime lib [] .initial
  | initKeyExchangeParams {operations : List Operation} {crypto : Crypto}
      (before : Lifetime lib operations crypto) (draw : KeyDraw lib)
      (thrownAt : Option InitCheck) (ends : Ends (leaveInit draw crypto).2 thrownAt) :
      Lifetime lib (operations ++ [.initKeyExchangeParams thrownAt]) (leaveInit draw crypto).1
  | genXport {operations : List Operation} {crypto : Crypto}
      (before : Lifetime lib operations crypto) (draw : KeyDraw lib) (spubBHex epubBHex : Bytes)
      (thrownAt : Option XportCheck)
      (ends : Ends (leaveXport draw spubBHex epubBHex crypto).2 thrownAt) :
      Lifetime lib (operations ++ [.genXport thrownAt])
        (leaveXport draw spubBHex epubBHex crypto).1.1

end Members

/-! ### Sequences of calls -/

/-- The calls of `initKeyExchangeParams` that return. -/
def initializations (operations : List Operation) : Nat :=
  operations.count (.initKeyExchangeParams none)

/-- The calls of `genXport` that return. -/
def agreements (operations : List Operation) : Nat := operations.count (.genXport none)

theorem after_concat (operations : List Operation) (operation : Operation) :
    after (operations ++ [operation]) = (after operations).bind (performAll operation.actions) := by
  rw [after, List.flatMap_append, performAll_append, List.flatMap_singleton]
  rfl

/-- The calls of an object's lifetime have a defined behaviour, and leave the
pointer that its members show. -/
theorem Lifetime.follows {lib : CryptoPP} {operations : List Operation} {crypto : Crypto}
    (lifetime : Lifetime lib operations crypto) :
    ∃ owner, after operations = some owner ∧ crypto.dhA = shown owner.pointer := by
  induction lifetime with
  | constructed => exact ⟨declared, rfl, rfl⟩
  | initKeyExchangeParams before draw thrownAt ends inductionHypothesis =>
      rcases inductionHypothesis with ⟨owner, reached, follows⟩
      rcases leaveInit_follows draw follows ends with ⟨next, performed, nextFollows⟩
      refine ⟨next, ?_, nextFollows⟩
      rw [after_concat, reached]
      exact performed
  | genXport before draw spubBHex epubBHex thrownAt ends inductionHypothesis =>
      rcases inductionHypothesis with ⟨owner, reached, follows⟩
      rcases leaveXport_follows draw spubBHex epubBHex follows ends with
        ⟨next, performed, nextFollows⟩
      refine ⟨next, ?_, nextFollows⟩
      rw [after_concat, reached]
      exact performed

/-- When a call is in turn: keys are made where no exchange is open, an exchange
where one is. A call that makes no keys is always in turn. -/
def InTurn (earlier : List Operation) : Operation → Prop
  | .initKeyExchangeParams (some _) => True
  | .initKeyExchangeParams none => initializations earlier = agreements earlier
  | .genXport _ => initializations earlier = agreements earlier + 1

def Alternating (operations : List Operation) : Prop :=
  ∀ earlier operation later, operations = earlier ++ operation :: later → InTurn earlier operation

theorem alternating_concat_iff (operations : List Operation) (operation : Operation) :
    Alternating (operations ++ [operation]) ↔
      Alternating operations ∧ InTurn operations operation := by
  constructor
  · intro alternating
    constructor
    · intro earlier other later split
      apply alternating earlier other (later ++ [operation])
      rw [split, List.append_assoc, List.cons_append]
    · exact alternating operations operation [] rfl
  · intro both earlier other later split
    rcases both with ⟨alternating, inTurn⟩
    rcases List.eq_nil_or_concat later with rfl | ⟨front, last, rfl⟩
    · rcases List.append_inj' split rfl with ⟨same, single⟩
      cases single
      rw [← same]
      exact inTurn
    · rw [List.concat_eq_append, ← List.cons_append, ← List.append_assoc] at split
      rcases List.append_inj' split rfl with ⟨same, -⟩
      exact alternating earlier other front same

/-- What the pointer is after so many calls. -/
inductive Stands (initializations agreements : Nat) : Pointer → Prop
  | unset (fresh : initializations = 0) (unused : agreements = 0) :
      Stands initializations agreements .indeterminate
  | held (object : Nat) (ahead : initializations = agreements + 1) :
      Stands initializations agreements (.live object)
  | released (even : initializations = agreements) (used : 0 < agreements) :
      Stands initializations agreements .null

theorem after_accounted {operations : List Operation} {owner : Owner}
    (reached : after operations = some owner) : Accounted owner :=
  declared_accounted.performAll reached

namespace Stands

variable {made used : Nat} {pointer : Pointer}

theorem live_iff (stands : Stands made used pointer) :
    (∃ object, pointer = .live object) ↔ made = used + 1 := by
  constructor
  · intro live
    rcases live with ⟨object, same⟩
    rw [same] at stands
    cases stands with
    | held _ ahead => exact ahead
  · intro isAhead
    cases stands with
    | unset fresh unused => omega
    | held object _ => exact ⟨object, rfl⟩
    | released even _ => omega

theorem dead_iff (stands : Stands made used pointer) :
    (∀ object, pointer ≠ .live object) ↔ made = used := by
  have ahead := stands.live_iff
  constructor
  · intro dead
    cases stands with
    | unset fresh unused => omega
    | held object _ => exact absurd rfl (dead object)
    | released even _ => exact even
  · intro even object live
    have isAhead := ahead.mp ⟨object, live⟩
    omega

end Stands

/-- A call in turn is one that has a defined behaviour and loses no object. -/
theorem inTurn_iff {operations : List Operation} {owner : Owner} (accounted : Accounted owner)
    (none : NoneLost owner)
    (stands : Stands (initializations operations) (agreements operations) owner.pointer)
    (operation : Operation) :
    InTurn operations operation ↔
      ∃ next, performAll operation.actions owner = some next ∧ NoneLost next := by
  cases operation with
  | initKeyExchangeParams thrownAt =>
      cases thrownAt with
      | some check =>
          constructor
          · intro _
            exact ⟨owner, initKeyExchangeParams_thrown check owner, none⟩
          · intro _
            trivial
      | none =>
          show initializations operations = agreements operations ↔ _
          rw [← stands.dead_iff]
          constructor
          · intro dead
            exact ⟨_, initKeyExchangeParams_returned owner, none.allocate dead⟩
          · intro kept object live
            rcases kept with ⟨next, performed, nextNone⟩
            rw [initKeyExchangeParams_returned] at performed
            cases performed
            exact nextNone object (lost_of_allocate accounted live)
  | genXport thrownAt =>
      show initializations operations = agreements operations + 1 ↔ _
      rw [← stands.live_iff]
      constructor
      · intro held
        rcases held with ⟨object, live⟩
        cases thrownAt with
        | none => exact ⟨_, genXport_returned live, none.delete live .null⟩
        | some check => exact ⟨owner, genXport_thrown check live, none⟩
      · intro kept
        rcases kept with ⟨next, performed, -⟩
        by_contra notHeld
        rw [genXport_dead thrownAt (fun object live => notHeld ⟨object, live⟩)] at performed
        cases performed

/-- What one call in turn does to the pointer. -/
theorem Stands.step {operations : List Operation} {owner next : Owner}
    (stands : Stands (initializations operations) (agreements operations) owner.pointer)
    {operation : Operation} (inTurn : InTurn operations operation)
    (performed : performAll operation.actions owner = some next) :
    Stands (initializations (operations ++ [operation])) (agreements (operations ++ [operation]))
      next.pointer := by
  unfold initializations agreements at *
  rw [List.count_append, List.count_append]
  cases operation with
  | initKeyExchangeParams thrownAt =>
      cases thrownAt with
      | some check =>
          rw [initKeyExchangeParams_thrown] at performed
          cases performed
          exact stands
      | none =>
          rw [initKeyExchangeParams_returned] at performed
          cases performed
          have even : operations.count (.initKeyExchangeParams none) =
              operations.count (.genXport none) := inTurn
          exact .held _ (congrArg (· + 1) even)
  | genXport thrownAt =>
      have ahead : operations.count (.initKeyExchangeParams none) =
          operations.count (.genXport none) + 1 := inTurn
      generalize value : owner.pointer = pointer at stands
      cases stands with
      | unset fresh unused => omega
      | released even used => omega
      | held object _ =>
          cases thrownAt with
          | some check =>
              rw [genXport_thrown check value] at performed
              cases performed
              rw [value]
              exact .held object ahead
          | none =>
              rw [genXport_returned value] at performed
              cases performed
              exact .released ahead (Nat.succ_pos _)

/-- After calls in turn the pointer is known from how many there were. -/
theorem Alternating.stands {operations : List Operation} (alternating : Alternating operations)
    {owner : Owner} (reached : after operations = some owner) :
    Stands (initializations operations) (agreements operations) owner.pointer := by
  induction operations using List.reverseRecOn generalizing owner with
  | nil =>
      cases reached
      exact .unset rfl rfl
  | append_singleton operations operation inductionHypothesis =>
      rcases (alternating_concat_iff operations operation).mp alternating with ⟨before, inTurn⟩
      rw [after_concat] at reached
      rcases Option.bind_eq_some_iff.mp reached with ⟨middle, first, performed⟩
      exact (inductionHypothesis before first).step inTurn performed

/-- The calls are all in turn exactly where none is undefined and no object is
lost. -/
theorem alternating_iff (operations : List Operation) :
    Alternating operations ↔ ∃ owner, after operations = some owner ∧ NoneLost owner := by
  induction operations using List.reverseRecOn with
  | nil =>
      constructor
      · intro _
        refine ⟨declared, rfl, ?_⟩
        intro object lost
        exact Nat.not_lt_zero _ lost.allocated
      · intro _ earlier operation later split
        exact absurd split (by simp)
  | append_singleton operations operation inductionHypothesis =>
      rw [alternating_concat_iff, after_concat]
      constructor
      · intro both
        rcases both with ⟨alternating, inTurn⟩
        rcases inductionHypothesis.mp alternating with ⟨owner, reached, none⟩
        rw [reached]
        exact (inTurn_iff (after_accounted reached) none (alternating.stands reached)
          operation).mp inTurn
      · intro kept
        rcases kept with ⟨next, reached, nextNone⟩
        rcases Option.bind_eq_some_iff.mp reached with ⟨owner, before, performed⟩
        have none := nextNone.of_performAll performed
        have alternating := inductionHypothesis.mpr ⟨owner, before, none⟩
        refine ⟨alternating, ?_⟩
        exact (inTurn_iff (after_accounted before) none (alternating.stands before) operation).mpr
          ⟨next, performed, nextNone⟩

theorem owned_iff_after (operations : List Operation) :
    Owned operations ↔ ∃ owner, after operations = some owner ∧
      owner.pointer ≠ .indeterminate ∧ NoneLost owner := by
  unfold Owned
  rw [performAll_append]
  constructor
  · intro owned
    rcases owned with ⟨last, performed, settled⟩
    rcases Option.bind_eq_some_iff.mp performed with ⟨owner, reached, deleted⟩
    have settles := delete_settles_iff (after_accounted reached)
    exact ⟨owner, reached, settles.mp ⟨last, deleted, settled⟩⟩
  · intro kept
    rcases kept with ⟨owner, reached, safe⟩
    have same : performAll (operations.flatMap Operation.actions) declared = some owner := reached
    rw [same]
    exact (delete_settles_iff (after_accounted reached)).mpr safe

/-- A lifetime is safe exactly where some call of `initKeyExchangeParams` returns,
each that does finds every earlier exchange finished, and each call of `genXport`
finds one open. -/
theorem owned_iff (operations : List Operation) :
    Owned operations ↔
      .initKeyExchangeParams none ∈ operations ∧ Alternating operations := by
  rw [owned_iff_after, alternating_iff, ← List.count_pos_iff]
  constructor
  · intro kept
    rcases kept with ⟨owner, reached, isSet, none⟩
    have stands := ((alternating_iff operations).mpr ⟨owner, reached, none⟩).stands reached
    refine ⟨?_, owner, reached, none⟩
    show 0 < initializations operations
    generalize owner.pointer = pointer at stands isSet
    cases stands with
    | unset fresh unused => exact absurd rfl isSet
    | held object ahead => omega
    | released even used => omega
  · intro both
    rcases both with ⟨some, owner, reached, none⟩
    have stands := ((alternating_iff operations).mpr ⟨owner, reached, none⟩).stands reached
    have some : 0 < initializations operations := some
    refine ⟨owner, reached, ?_, none⟩
    intro unset
    rw [unset] at stands
    cases stands with
    | unset fresh unused => omega

/-- Where the keys are refused at once, unwinding deletes a pointer that was never
set. -/
theorem unset_pointer_deleted :
    ¬ Owned [.initKeyExchangeParams (some .validateGroup)] := by
  intro owned
  rcases owned with ⟨last, performed, -⟩
  cases performed

end Crypto

end LicensingServer
