import Mathlib.Data.List.Basic
import Mathlib.Data.List.Flatten

/-!
# Texts joined by a separator

Parts that are joined by a separator can be told from the joined text only up to the separators
that they hold themselves: the text determines the fields between all separators.

## Main definitions

* `fields` — the parts, cut at the separators inside them.

## Main results

* `intercalate_eq_iff` — joined texts agree exactly if the fields do.
* `append_cons_eq_iff` — of two parts, one may have moved a field to the other.
-/
namespace Lib

variable {α : Type*} [DecidableEq α] (sep : α)

/-- The parts, cut at every separator. -/
def fields (parts : List (List α)) : List (List α) := parts.flatMap (List.splitOn sep)

variable {sep}

theorem splitOn_intercalate_eq_fields {parts : List (List α)} (h : parts ≠ []) :
    ([sep].intercalate parts).splitOn sep = fields sep parts := by
  induction parts with
  | nil => exact absurd rfl h
  | cons part parts ih =>
      cases parts with
      | nil => simp [fields]
      | cons next parts =>
          have hnext := ih (List.cons_ne_nil _ _)
          rw [List.intercalate_cons_cons, List.append_assoc, List.singleton_append, List.splitOn,
            List.splitOnP_append_cons _ _ (by simp), fields, List.flatMap_cons]
          exact congrArg _ hnext

/-- Joined texts agree exactly if the parts have the same fields. -/
theorem intercalate_eq_iff {parts parts' : List (List α)} (h : parts ≠ []) (h' : parts' ≠ []) :
    [sep].intercalate parts = [sep].intercalate parts' ↔ fields sep parts = fields sep parts' := by
  rw [← splitOn_intercalate_eq_fields h, ← splitOn_intercalate_eq_fields h']
  constructor
  · intro heq
    rw [heq]
  · intro heq
    have hjoin : [sep].intercalate (([sep].intercalate parts).splitOn sep) =
        [sep].intercalate parts := List.intercalate_splitOn sep
    rw [← hjoin, heq, List.intercalate_splitOn]

omit [DecidableEq α] in
theorem append_cons_inj {a a' b b' : List α} (ha : sep ∉ a) (ha' : sep ∉ a') :
    a ++ sep :: b = a' ++ sep :: b' ↔ a = a' ∧ b = b' := by
  constructor
  · intro h
    rcases List.append_eq_append_iff.mp h with ⟨x, rfl, hx⟩ | ⟨x, rfl, hx⟩
    · cases x with
      | nil => simpa using hx
      | cons c x =>
          obtain ⟨rfl, -⟩ := List.cons.inj hx
          simp at ha'
    · cases x with
      | nil => simpa using hx.symm
      | cons c x =>
          obtain ⟨rfl, -⟩ := List.cons.inj hx
          simp at ha
  · rintro ⟨rfl, rfl⟩
    rfl

omit [DecidableEq α] in
/-- Two parts joined to one text are the same, or a field has moved from one to the other. -/
theorem append_cons_eq_iff {a a' b b' : List α} :
    a ++ sep :: b = a' ++ sep :: b' ↔ (a = a' ∧ b = b') ∨
      (∃ x, a = a' ++ sep :: x ∧ b' = x ++ sep :: b) ∨
        ∃ x, a' = a ++ sep :: x ∧ b = x ++ sep :: b' := by
  constructor
  · intro h
    rcases List.append_eq_append_iff.mp h with ⟨x, rfl, hx⟩ | ⟨x, rfl, hx⟩
    · cases x with
      | nil => exact .inl (by simpa using hx)
      | cons c x =>
          obtain ⟨rfl, rfl⟩ := List.cons.inj hx
          exact .inr (.inr ⟨x, rfl, rfl⟩)
    · cases x with
      | nil => exact .inl (by simpa using hx.symm)
      | cons c x =>
          obtain ⟨rfl, rfl⟩ := List.cons.inj hx
          exact .inr (.inl ⟨x, rfl, rfl⟩)
  · rintro (⟨rfl, rfl⟩ | ⟨x, rfl, rfl⟩ | ⟨x, rfl, rfl⟩) <;> simp

end Lib
