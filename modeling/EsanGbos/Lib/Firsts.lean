import Mathlib.Data.List.Basic
import Mathlib.Data.List.Nodup

/-!
# First occurrences

A list without the later elements of a key that an earlier one has, and a loop that collects one
list from another.

## Main definitions

* `firsts` — the first element of every key, in order.

## Main results

* `firsts_append_singleton` — what one more element adds.
* `foldlM_flatMap` — what a loop of loops has collected.
-/
namespace Lib

section Firsts
variable {α κ : Type} [DecidableEq κ] (key : α → κ)

/-- The first element of every key. -/
def firsts : List α → List α
  | [] => []
  | a :: as => a :: (firsts as).filter (key · ≠ key a)

variable {key}

theorem mem_map_firsts {k : κ} {l : List α} : k ∈ (firsts key l).map key ↔ k ∈ l.map key := by
  induction l with
  | nil => rfl
  | cons a as ih =>
      rw [firsts, List.map_cons, List.map_cons, List.mem_cons, List.mem_cons, ← ih]
      by_cases hk : k = key a
      · simp [hk]
      · simp only [hk, false_or, List.mem_map, List.mem_filter, decide_eq_true_eq]
        constructor
        · rintro ⟨b, ⟨hb, -⟩, rfl⟩
          exact ⟨b, hb, rfl⟩
        · rintro ⟨b, hb, rfl⟩
          exact ⟨b, ⟨hb, hk⟩, rfl⟩

theorem nodup_map_firsts (l : List α) : ((firsts key l).map key).Nodup := by
  induction l with
  | nil => exact List.nodup_nil
  | cons a as ih =>
      rw [firsts, List.map_cons, List.nodup_cons]
      refine ⟨?_, ih.sublist (List.filter_sublist.map key)⟩
      intro hmem
      obtain ⟨b, hb, hkey⟩ := List.mem_map.mp hmem
      exact (of_decide_eq_true (List.mem_filter.mp hb).2) hkey

theorem firsts_sublist (l : List α) : (firsts key l).Sublist l := by
  induction l with
  | nil => exact .slnil
  | cons a as ih => exact .cons_cons a (List.filter_sublist.trans ih)

/-- One more element counts if its key is new. -/
theorem firsts_append_singleton (l : List α) (a : α) :
    firsts key (l ++ [a]) = if key a ∈ l.map key then firsts key l else firsts key l ++ [a] := by
  induction l with
  | nil => rfl
  | cons b l ih =>
      rw [List.cons_append, firsts, ih, firsts, List.map_cons]
      by_cases hmem : key a ∈ l.map key
      · rw [if_pos hmem, if_pos (List.mem_cons_of_mem _ hmem)]
      · rw [if_neg hmem, List.filter_append]
        by_cases hb : key a = key b
        · rw [if_pos (List.mem_cons.mpr (.inl hb))]
          simp [hb]
        · rw [if_neg fun h => (List.mem_cons.mp h).elim hb hmem]
          simp [hb]

end Firsts

section Collect
variable {ε σ α β : Type} {f : σ → α → Except ε σ} {g : α → List β} {Inv : List β → σ → Prop}

/-- What a loop has collected, if each round adds what `g` says. -/
theorem foldlM_flatMap (hstep : ∀ bs s a s', Inv bs s → f s a = .ok s' → Inv (bs ++ g a) s')
    {l : List α} {bs : List β} {s s' : σ} (h : Inv bs s) (hfold : l.foldlM f s = .ok s') :
    Inv (bs ++ l.flatMap g) s' := by
  induction l generalizing bs s with
  | nil =>
      obtain rfl : s = s' := Except.ok.inj hfold
      rwa [List.flatMap_nil, List.append_nil]
  | cons a l ih =>
      rw [List.foldlM_cons] at hfold
      cases ha : f s a with
      | error e =>
          rw [ha] at hfold
          cases hfold
      | ok t =>
          rw [ha] at hfold
          rw [List.flatMap_cons, ← List.append_assoc]
          exact ih (hstep bs s a t h ha) hfold

/-- The elements that `q` keeps, and what `f` makes of them. -/
theorem forall₂_filter_filterMap {q : α → Bool} {f : α → Option β} {R : α → β → Prop} {l : List α}
    (h : ∀ a ∈ l, if q a then ∃ b, f a = some b ∧ R a b else f a = none) :
    List.Forall₂ R (l.filter q) (l.filterMap f) := by
  induction l with
  | nil => exact .nil
  | cons a l ih =>
      obtain ⟨ha, hl⟩ := List.forall_mem_cons.mp h
      by_cases hq : q a = true
      · rw [if_pos hq] at ha
        obtain ⟨b, hb, hR⟩ := ha
        rw [List.filter_cons_of_pos hq, List.filterMap_cons_some hb]
        exact .cons hR (ih hl)
      · rw [if_neg hq] at ha
        rw [List.filter_cons_of_neg hq, List.filterMap_cons_none ha]
        exact ih hl

end Collect
end Lib
