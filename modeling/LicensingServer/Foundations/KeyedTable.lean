import Mathlib.Data.List.Induction
import Mathlib.Tactic.Common

/-!
Owns tables whose rows have a key: at most one row for each key, inserts that are
turned away where the key is taken, and the rows of one key.

A row may have no key; it then stands in no other row's way.
-/

set_option autoImplicit false

namespace LicensingServer.Foundations

universe u v

namespace KeyedTable

variable {Row : Type u} {Key : Type v} (key : Row → Option Key)

/-- No two rows have the same key. -/
def Keyed (rows : List Row) : Prop :=
  rows.Pairwise fun left right => key left = none ∨ key left ≠ key right

variable [DecidableEq Key]

/-- The rows with this key, in the order of the table. -/
def owned (wanted : Key) (rows : List Row) : List Row :=
  rows.filter fun row => decide (key row = some wanted)

/-- A row whose key is taken is turned away. -/
def insert (rows : List Row) (row : Row) : List Row :=
  if (key row).isSome ∧ ∃ other ∈ rows, key other = key row then rows else rows ++ [row]

/-- The table after inserting the rows one after the other. -/
def insertAll (rows : List Row) : List Row := rows.foldl (insert key) []

variable {key} {wanted : Key} {rows : List Row}

theorem mem_owned {row : Row} :
    row ∈ owned key wanted rows ↔ row ∈ rows ∧ key row = some wanted := by
  rw [owned, List.mem_filter, decide_eq_true_eq]

/-! ### One row for each key -/

/-- A key owns no row or one. -/
theorem Keyed.owned_cases (keyed : Keyed key rows) (wanted : Key) :
    owned key wanted rows = [] ∨ ∃ row, owned key wanted rows = [row] := by
  have apart : (owned key wanted rows).Pairwise fun left right =>
      key left = none ∨ key left ≠ key right := keyed.filter _
  have same : ∀ row ∈ owned key wanted rows, key row = some wanted := by
    intro row member
    exact (mem_owned.mp member).2
  cases owns : owned key wanted rows with
  | nil => exact .inl rfl
  | cons first rest =>
      cases rest with
      | nil => exact .inr ⟨first, rfl⟩
      | cons second rest =>
          rw [owns] at apart same
          have firstKey := same first (by simp)
          have secondKey := same second (by simp)
          rcases (List.pairwise_cons.mp apart).1 second (by simp) with absent | differ
          · rw [firstKey] at absent
            cases absent
          · exact absurd (firstKey.trans secondKey.symm) differ

/-- Tables that agree on the rows of a key as sets have them in the same order. -/
theorem Keyed.owned_eq {others : List Row} (keyed : Keyed key rows) (othersKeyed : Keyed key others)
    (agree : ∀ row, key row = some wanted → (row ∈ rows ↔ row ∈ others)) :
    owned key wanted rows = owned key wanted others := by
  have members : ∀ row, row ∈ owned key wanted rows ↔ row ∈ owned key wanted others := by
    intro row
    rw [mem_owned, mem_owned]
    constructor
    · intro owns
      exact ⟨(agree row owns.2).mp owns.1, owns.2⟩
    · intro owns
      exact ⟨(agree row owns.2).mpr owns.1, owns.2⟩
  rcases keyed.owned_cases wanted with none | ⟨row, one⟩
  · rcases othersKeyed.owned_cases wanted with otherNone | ⟨other, otherOne⟩
    · rw [none, otherNone]
    · have found := (members other).mpr (by rw [otherOne]; exact List.mem_singleton_self other)
      rw [none] at found
      cases found
  · have found := (members row).mp (by rw [one]; exact List.mem_singleton_self row)
    rcases othersKeyed.owned_cases wanted with otherNone | ⟨other, otherOne⟩
    · rw [otherNone] at found
      cases found
    · rw [otherOne] at found ⊢
      rw [one, List.mem_singleton.mp found]

/-! ### Inserts -/

theorem insert_of_taken {row other : Row} (isKey : (key row).isSome) (member : other ∈ rows)
    (same : key other = key row) : insert key rows row = rows :=
  if_pos ⟨isKey, other, member, same⟩

theorem insert_of_free {row : Row} (free : ∀ other ∈ rows, key other ≠ key row) :
    insert key rows row = rows ++ [row] := by
  apply if_neg
  intro taken
  rcases taken with ⟨-, other, member, same⟩
  exact free other member same

theorem insertAll_concat (row : Row) :
    insertAll key (rows ++ [row]) = insert key (insertAll key rows) row := by
  rw [insertAll, List.foldl_append]
  rfl

theorem Keyed.insert (keyed : Keyed key rows) (row : Row) : Keyed key (insert key rows row) := by
  unfold KeyedTable.insert
  split_ifs with taken
  · exact keyed
  · apply List.pairwise_append.mpr
    refine ⟨keyed, List.pairwise_singleton _ _, ?_⟩
    intro other member last isLast
    rw [List.mem_singleton.mp isLast]
    by_cases isKey : key other = none
    · exact .inl isKey
    · right
      intro same
      apply taken
      refine ⟨?_, other, member, same⟩
      rw [← same]
      exact Option.isSome_iff_ne_none.mpr isKey

theorem keyed_insertAll (rows : List Row) : Keyed key (insertAll key rows) := by
  induction rows using List.reverseRecOn with
  | nil => exact List.Pairwise.nil
  | append_singleton rows row inductionHypothesis =>
      rw [insertAll_concat]
      exact inductionHypothesis.insert row

/-- Of the rows inserted for a key, the table keeps the first. -/
theorem owned_insertAll (rows : List Row) (wanted : Key) :
    owned key wanted (insertAll key rows) =
      (rows.find? fun row => decide (key row = some wanted)).toList := by
  induction rows using List.reverseRecOn with
  | nil => rfl
  | append_singleton rows row inductionHypothesis =>
      rw [insertAll_concat, List.find?_append]
      by_cases own : key row = some wanted
      · cases found : rows.find? fun row => decide (key row = some wanted) with
        | none =>
            rw [found] at inductionHypothesis
            have free : ∀ other ∈ insertAll key rows, key other ≠ key row := by
              intro other member same
              have owns : other ∈ owned key wanted (insertAll key rows) :=
                mem_owned.mpr ⟨member, same.trans own⟩
              rw [inductionHypothesis] at owns
              cases owns
            rw [insert_of_free free, owned, List.filter_append, ← owned, inductionHypothesis]
            simp [own]
        | some first =>
            rw [found] at inductionHypothesis
            have owns : first ∈ owned key wanted (insertAll key rows) := by
              rw [inductionHypothesis]
              exact List.mem_singleton_self first
            rcases mem_owned.mp owns with ⟨member, firstKey⟩
            rw [insert_of_taken (by rw [own]; rfl) member (firstKey.trans own.symm),
              inductionHypothesis]
            rfl
      · have skipped : owned key wanted (insert key (insertAll key rows) row) =
            owned key wanted (insertAll key rows) := by
          unfold insert
          split_ifs
          · rfl
          · rw [owned, List.filter_append, ← owned]
            simp [own]
        rw [skipped, inductionHypothesis]
        simp [own]

end KeyedTable

end LicensingServer.Foundations
