import Mathlib.Data.List.Induction

/-!
Owns the cutting of a sequence of parts into messages: a message ends with a
part that announces no more.

Does not own what the parts hold, nor who sends them.
-/

set_option autoImplicit false

namespace LicensingServer.Foundations

universe u

/-- What a sequence of parts amounts to: whole messages, and the parts of a
message that has not ended. -/
structure Multipart (Part : Type u) where
  complete : List (List Part)
  unfinished : List Part
deriving DecidableEq, Repr

namespace Multipart

variable {Part : Type u} (more : Part → Bool)

def empty : Multipart Part := ⟨[], []⟩

def add (cut : Multipart Part) (part : Part) : Multipart Part :=
  if more part then { cut with unfinished := cut.unfinished ++ [part] }
  else ⟨cut.complete ++ [cut.unfinished ++ [part]], []⟩

def cut (parts : List Part) : Multipart Part := parts.foldl (add more) empty

theorem cut_concat (parts : List Part) (part : Part) :
    cut more (parts ++ [part]) = add more (cut more parts) part := by
  rw [cut, List.foldl_append]
  rfl

theorem cut_concat_more {part : Part} (goesOn : more part = true) (parts : List Part) :
    cut more (parts ++ [part]) =
      ⟨(cut more parts).complete, (cut more parts).unfinished ++ [part]⟩ := by
  rw [cut_concat, add, if_pos goesOn]

theorem cut_concat_last {part : Part} (ends : more part = false) (parts : List Part) :
    cut more (parts ++ [part]) =
      ⟨(cut more parts).complete ++ [(cut more parts).unfinished ++ [part]], []⟩ := by
  rw [cut_concat, add, ends]
  rfl

/-- No part is lost, and none is moved. -/
theorem flatten_cut (parts : List Part) :
    (cut more parts).complete.flatten ++ (cut more parts).unfinished = parts := by
  induction parts using List.reverseRecOn with
  | nil => rfl
  | append_singleton parts part inductionHypothesis =>
      cases goesOn : more part with
      | true =>
          rw [cut_concat_more more goesOn, ← List.append_assoc, inductionHypothesis]
      | false =>
          rw [cut_concat_last more goesOn, List.append_nil, List.flatten_append,
            List.flatten_singleton, ← List.append_assoc, inductionHypothesis]

end Multipart

end LicensingServer.Foundations
