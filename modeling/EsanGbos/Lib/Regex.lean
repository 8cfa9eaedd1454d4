import Mathlib.Data.List.Basic
import Mathlib.Data.List.Range

/-!
# Backtracking regular expressions

A pattern denotes, at each position of a text, the list of the positions where a
match that starts there can end, in the order a backtracking engine tries them.
The first of them is the engine's match. Repetition is greedy, and an iteration
must consume a character.

## Main definitions

* `Regex.ends`, `Regex.search`, `Regex.finditer` — matching at a position, the leftmost
  match, and the scan for successive matches.
* `Regex.lit` — the pattern of a literal word up to an equivalence of letters.
* `Regex.finditer_covers` — the scan skips a start only inside a match it found.
-/
namespace Lib

universe u

/-- Patterns over an alphabet; a character class is its predicate. -/
inductive Regex (α : Type u) where
  | eps
  | cls (p : α → Bool)
  | seq (a b : Regex α)
  | alt (a b : Regex α)
  | rep (r : Regex α) (lo : ℕ) (hi : Option ℕ)
  | notBehind (p : α → Bool)
  | notAhead (p : α → Bool)
  | boundary (p : α → Bool)

namespace Regex
variable {α : Type u}

/-- Ends of `lo` to `hi` iterations of `step`, longest first. -/
def repEnds (step : ℕ → List ℕ) : ℕ → ℕ → Option ℕ → ℕ → List ℕ
  | 0, lo, _, i => if lo = 0 then [i] else []
  | fuel + 1, lo, hi, i =>
      (if hi = some 0 then []
        else ((step i).filter (i < ·)).flatMap (repEnds step fuel (lo - 1) (hi.map (· - 1))))
      ++ if lo = 0 then [i] else []

/-- Does the character at `i`, if there is one, satisfy `p`? -/
def holdsAt (p : α → Bool) (t : List α) (i : ℕ) : Bool := t[i]?.any p

/-- Does the character before `i`, if there is one, satisfy `p`? -/
def holdsBefore (p : α → Bool) (t : List α) (i : ℕ) : Bool := 0 < i && holdsAt p t (i - 1)

/-- Where the matches that start at `i` can end, preferred ones first. -/
def ends : Regex α → List α → ℕ → List ℕ
  | eps, _, i => [i]
  | cls p, t, i => if holdsAt p t i then [i + 1] else []
  | seq a b, t, i => (ends a t i).flatMap (ends b t)
  | alt a b, t, i => ends a t i ++ ends b t i
  | rep r lo hi, t, i => repEnds (ends r t) (t.length - i) lo hi i
  | notBehind p, t, i => if holdsBefore p t i then [] else [i]
  | notAhead p, t, i => if holdsAt p t i then [] else [i]
  | boundary p, t, i => if holdsBefore p t i = holdsAt p t i then [] else [i]

/-- The first of the next `n` starts from `i` on at which the pattern matches. -/
def searchFrom (r : Regex α) (t : List α) : ℕ → ℕ → Option (ℕ × ℕ)
  | 0, _ => none
  | n + 1, i =>
      match (ends r t i).head? with
      | some e => some (i, e)
      | none => searchFrom r t n (i + 1)

/-- The leftmost match that starts at `i` or later. -/
def search (r : Regex α) (t : List α) (i : ℕ) : Option (ℕ × ℕ) :=
  searchFrom r t (t.length + 1 - i) i

/-- The scan resumes where a match ended. None of the patterns scanned for
matches the empty word; past an empty match the scan would move on by one. -/
def finditerFrom (r : Regex α) (t : List α) : ℕ → ℕ → List (ℕ × ℕ)
  | 0, _ => []
  | fuel + 1, i =>
      match search r t i with
      | none => []
      | some (s, e) => (s, e) :: finditerFrom r t fuel (max e (s + 1))

def finditer (r : Regex α) (t : List α) : List (ℕ × ℕ) := finditerFrom r t (t.length + 1) 0

def isMatchIn (r : Regex α) (t : List α) : Bool := (search r t 0).isSome

/-! ## Derived patterns -/

def seqs (rs : List (Regex α)) : Regex α := rs.foldr seq eps
def opt (r : Regex α) : Regex α := rep r 0 (some 1)
def plus (r : Regex α) : Regex α := rep r 1 none

/-- A literal word, each letter up to `eqv`. -/
def lit (eqv : α → α → Bool) (w : List α) : Regex α := seqs (w.map fun c => cls (eqv c))

/-! ## Matches stay in the text -/

theorem holdsAt_lt {p : α → Bool} {t : List α} {i : ℕ} (h : holdsAt p t i = true) :
    i < t.length := by
  by_contra hi
  simp [holdsAt, List.getElem?_eq_none (Nat.le_of_not_lt hi)] at h

theorem le_of_mem_repEnds {step : ℕ → List ℕ} (n lo : ℕ) (hi : Option ℕ) (i e : ℕ)
    (h : e ∈ repEnds step n lo hi i) : i ≤ e := by
  induction n generalizing lo hi i with
  | zero => simp only [repEnds] at h; split at h <;> simp_all
  | succ n ih =>
      simp only [repEnds, List.mem_append] at h
      rcases h with h | h
      · split at h
        · simp at h
        · obtain ⟨j, hj, he⟩ := List.mem_flatMap.mp h
          have hij : i < j := by simpa using (List.mem_filter.mp hj).2
          exact hij.le.trans (ih _ _ _ he)
      · split at h <;> simp_all

theorem repEnds_le {step : ℕ → List ℕ} {b : ℕ} (hstep : ∀ i ≤ b, ∀ e ∈ step i, e ≤ b)
    (n lo : ℕ) (hi : Option ℕ) (i e : ℕ) (hib : i ≤ b) (h : e ∈ repEnds step n lo hi i) :
    e ≤ b := by
  induction n generalizing lo hi i with
  | zero => simp only [repEnds] at h; split at h <;> simp_all
  | succ n ih =>
      simp only [repEnds, List.mem_append] at h
      rcases h with h | h
      · split at h
        · simp at h
        · obtain ⟨j, hj, he⟩ := List.mem_flatMap.mp h
          exact ih _ _ _ (hstep i hib j (List.mem_filter.mp hj).1) he
      · split at h <;> simp_all

/-- A match does not run backwards. -/
theorem le_of_mem_ends {r : Regex α} {t : List α} {i e : ℕ} (h : e ∈ ends r t i) : i ≤ e := by
  induction r generalizing i e with
  | eps => simp_all [ends]
  | cls p => simp only [ends] at h; split at h <;> simp_all
  | seq a b iha ihb =>
      obtain ⟨j, hj, he⟩ := List.mem_flatMap.mp h
      exact (iha hj).trans (ihb he)
  | alt a b iha ihb => exact (List.mem_append.mp h).elim iha ihb
  | rep r lo hi ih => exact le_of_mem_repEnds _ _ _ _ _ h
  | notBehind p => simp only [ends] at h; split at h <;> simp_all
  | notAhead p => simp only [ends] at h; split at h <;> simp_all
  | boundary p => simp only [ends] at h; split at h <;> simp_all

/-- A match that starts in the text ends in it. -/
theorem ends_le {r : Regex α} {t : List α} {i e : ℕ} (hi : i ≤ t.length) (h : e ∈ ends r t i) :
    e ≤ t.length := by
  induction r generalizing i e with
  | eps => simp_all [ends]
  | cls p =>
      simp only [ends] at h
      split at h
      next hp => simp only [List.mem_singleton] at h; have := holdsAt_lt hp; omega
      next => simp at h
  | seq a b iha ihb =>
      obtain ⟨j, hj, he⟩ := List.mem_flatMap.mp h
      exact ihb (iha hi hj) he
  | alt a b iha ihb => exact (List.mem_append.mp h).elim (iha hi) (ihb hi)
  | rep r lo hi' ih => exact repEnds_le (fun j hj e he => ih hj he) _ _ _ _ _ hi h
  | notBehind p => simp only [ends] at h; split at h <;> simp_all
  | notAhead p => simp only [ends] at h; split at h <;> simp_all
  | boundary p => simp only [ends] at h; split at h <;> simp_all

/-! ## Patterns that match no empty word -/

/-- Every match takes at least one character. -/
def Consumes (r : Regex α) : Prop := ∀ t i e, e ∈ ends r t i → i < e

theorem consumes_cls (p : α → Bool) : Consumes (cls p) := by
  intro t i e h
  simp only [ends] at h
  split at h <;> simp_all

theorem consumes_rep {r : Regex α} {lo : ℕ} {hi : Option ℕ} (hlo : 0 < lo) :
    Consumes (rep r lo hi) := by
  intro t i e h
  rw [ends] at h
  cases hn : t.length - i with
  | zero => rw [hn, repEnds, if_neg (by omega)] at h; simp at h
  | succ n =>
      rw [hn, repEnds, if_neg (show ¬lo = 0 by omega), List.append_nil] at h
      split at h
      · simp at h
      · obtain ⟨j, hj, he⟩ := List.mem_flatMap.mp h
        have hij : i < j := by simpa using (List.mem_filter.mp hj).2
        exact hij.trans_le (le_of_mem_repEnds _ _ _ _ _ he)

/-- A sequence takes a character if one of its parts does. -/
theorem consumes_seqs {rs : List (Regex α)} {r : Regex α} (hr : r ∈ rs) (h : Consumes r) :
    Consumes (seqs rs) := by
  induction rs with
  | nil => simp at hr
  | cons a rs ih =>
      intro t i e he
      obtain ⟨j, hj, he'⟩ := List.mem_flatMap.mp he
      rcases List.mem_cons.mp hr with rfl | hr
      · exact (h t i j hj).trans_le (le_of_mem_ends (r := seqs rs) he')
      · exact (le_of_mem_ends hj).trans_lt (ih hr t j e he')

/-! ## Searching -/

theorem searchFrom_eq_some {r : Regex α} {t : List α} {n i s e : ℕ}
    (h : searchFrom r t n i = some (s, e)) :
    i ≤ s ∧ s < i + n ∧ (ends r t s).head? = some e ∧ ∀ j, i ≤ j → j < s → ends r t j = [] := by
  induction n generalizing i with
  | zero => simp [searchFrom] at h
  | succ n ih =>
      simp only [searchFrom] at h
      split at h
      next e' he =>
        obtain ⟨rfl, rfl⟩ : i = s ∧ e' = e := by simpa using h
        exact ⟨le_rfl, by omega, he, fun j hj hj' => by omega⟩
      next hnone =>
        obtain ⟨his, hsn, hhead, hskip⟩ := ih h
        refine ⟨by omega, by omega, hhead, fun j hj hjs => ?_⟩
        rcases eq_or_lt_of_le hj with rfl | hj
        · exact List.head?_eq_none_iff.mp hnone
        · exact hskip j hj hjs

theorem searchFrom_eq_none {r : Regex α} {t : List α} {n i : ℕ}
    (h : searchFrom r t n i = none) : ∀ j, i ≤ j → j < i + n → ends r t j = [] := by
  induction n generalizing i with
  | zero => intro j hj hj'; omega
  | succ n ih =>
      simp only [searchFrom] at h
      split at h
      next => simp at h
      next hnone =>
        intro j hj hjn
        rcases eq_or_lt_of_le hj with rfl | hj
        · exact List.head?_eq_none_iff.mp hnone
        · exact ih h j hj (by omega)

/-- A pattern matches somewhere in the text exactly when some start has an end. -/
theorem isMatchIn_iff {r : Regex α} {t : List α} :
    isMatchIn r t = true ↔ ∃ i ≤ t.length, ends r t i ≠ [] := by
  unfold isMatchIn search
  constructor
  · intro h
    obtain ⟨⟨s, e⟩, hse⟩ := Option.isSome_iff_exists.mp h
    obtain ⟨-, hs, hhead, -⟩ := searchFrom_eq_some hse
    refine ⟨s, by omega, fun hnil => by simp [hnil] at hhead⟩
  · rintro ⟨i, hi, hne⟩
    cases h : searchFrom r t (t.length + 1 - 0) 0 with
    | some m => rfl
    | none => exact absurd (searchFrom_eq_none h i (Nat.zero_le i) (by omega)) hne

/-! ## The scan for successive matches -/

theorem mem_finditerFrom {r : Regex α} {t : List α} {n i : ℕ} {m : ℕ × ℕ}
    (h : m ∈ finditerFrom r t n i) :
    i ≤ m.1 ∧ m.1 ≤ t.length ∧ (ends r t m.1).head? = some m.2 := by
  induction n generalizing i with
  | zero => simp [finditerFrom] at h
  | succ n ih =>
      simp only [finditerFrom] at h
      split at h
      next => simp at h
      next s e hse =>
        obtain ⟨his, hs, hhead, -⟩ := searchFrom_eq_some hse
        rcases List.mem_cons.mp h with rfl | h
        · exact ⟨his, by dsimp only; omega, hhead⟩
        · obtain ⟨hm, hlen, hhead'⟩ := ih h
          exact ⟨by omega, hlen, hhead'⟩

/-- A found match is the preferred match at its start. -/
theorem head?_of_mem_finditer {r : Regex α} {t : List α} {m : ℕ × ℕ} (h : m ∈ finditer r t) :
    m.1 ≤ t.length ∧ (ends r t m.1).head? = some m.2 :=
  (mem_finditerFrom h).2

theorem le_of_mem_finditer {r : Regex α} {t : List α} {m : ℕ × ℕ} (h : m ∈ finditer r t) :
    m.1 ≤ m.2 ∧ m.2 ≤ t.length := by
  obtain ⟨hm, hhead⟩ := head?_of_mem_finditer h
  have hmem : m.2 ∈ ends r t m.1 := List.mem_of_head? hhead
  exact ⟨le_of_mem_ends hmem, ends_le hm hmem⟩

theorem finditerFrom_covers {r : Regex α} {t : List α} {n i a : ℕ} (hn : t.length < i + n)
    (hia : i ≤ a) (ha : a ≤ t.length) (hne : ends r t a ≠ []) :
    ∃ m ∈ finditerFrom r t n i, m.1 ≤ a ∧ a < max m.2 (m.1 + 1) := by
  induction n generalizing i with
  | zero => omega
  | succ n ih =>
      simp only [finditerFrom]
      split
      next hnone =>
        exact absurd (searchFrom_eq_none hnone a hia (by omega)) hne
      next s e hse =>
        obtain ⟨his, -, -, hskip⟩ := searchFrom_eq_some hse
        have hsa : s ≤ a := by
          by_contra hlt
          exact hne (hskip a hia (by omega))
        by_cases hlt : a < max e (s + 1)
        · exact ⟨(s, e), by simp, hsa, hlt⟩
        · obtain ⟨m, hm, hma⟩ := ih (i := max e (s + 1)) (by omega) (by omega)
          exact ⟨m, List.mem_cons_of_mem _ hm, hma⟩

/-- The scan skips a start only inside a match it found. -/
theorem finditer_covers {r : Regex α} {t : List α} {a : ℕ} (ha : a ≤ t.length)
    (hne : ends r t a ≠ []) : ∃ m ∈ finditer r t, m.1 ≤ a ∧ a < max m.2 (m.1 + 1) :=
  finditerFrom_covers (by omega) (Nat.zero_le a) ha hne

theorem lt_of_mem_finditer {r : Regex α} (hr : Consumes r) {t : List α} {m : ℕ × ℕ}
    (h : m ∈ finditer r t) : m.1 < m.2 :=
  hr t m.1 m.2 (List.mem_of_head? (head?_of_mem_finditer h).2)

/-! ## Literals -/

/-- The word occurs at `i`, each of its letters up to `eqv`. -/
def occursAt (eqv : α → α → Bool) (w t : List α) (i : ℕ) : Bool :=
  w.length ≤ (t.drop i).length && (w.zip (t.drop i)).all fun c => eqv c.1 c.2

theorem occursAt_cons (eqv : α → α → Bool) (c : α) (w t : List α) (i : ℕ) :
    occursAt eqv (c :: w) t i = (holdsAt (eqv c) t i && occursAt eqv w t (i + 1)) := by
  unfold occursAt holdsAt
  rcases hd : t.drop i with _ | ⟨d, ds⟩
  · have hi : t.length ≤ i := List.drop_eq_nil_iff.mp hd
    simp [List.getElem?_eq_none hi]
  · have hget : t[i]? = some d := by
      have := congrArg List.head? hd
      simpa using this
    have htl : t.drop (i + 1) = ds := by
      have := congrArg List.tail hd
      simpa using this
    simp only [hget, htl, Option.any_some, List.length_cons, List.zip_cons_cons, List.all_cons,
      Nat.add_le_add_iff_right]
    cases eqv c d <;> simp

/-- A literal matches where its word occurs, and only there. -/
theorem ends_lit (eqv : α → α → Bool) (w t : List α) (i : ℕ) :
    ends (lit eqv w) t i = if occursAt eqv w t i then [i + w.length] else [] := by
  induction w generalizing i with
  | nil => simp [lit, seqs, ends, occursAt]
  | cons c w ih =>
      have hstep : ends (lit eqv (c :: w)) t i
          = (ends (cls (eqv c)) t i).flatMap (ends (lit eqv w) t) := rfl
      rw [hstep, occursAt_cons]
      cases hc : holdsAt (eqv c) t i with
      | false => simp [ends, hc]
      | true => simp [ends, hc, ih, Nat.add_assoc, Nat.add_comm 1]

theorem consumes_lit {eqv : α → α → Bool} {w : List α} (hw : w ≠ []) :
    Consumes (lit eqv w) := by
  cases w with
  | nil => exact absurd rfl hw
  | cons c w => exact consumes_seqs (List.mem_cons_self) (consumes_cls (eqv c))

theorem occursAt_le {eqv : α → α → Bool} {w t : List α} {i : ℕ}
    (h : occursAt eqv w t i = true) (hw : w ≠ []) : i + w.length ≤ t.length := by
  simp only [occursAt, Bool.and_eq_true, decide_eq_true_eq, List.length_drop] at h
  have := List.length_pos_iff.mpr hw
  omega

/-- The scan for a word finds whole occurrences, and skips one only inside another. -/
theorem finditer_lit_covers {eqv : α → α → Bool} {w t : List α} {a : ℕ} (hw : w ≠ [])
    (h : occursAt eqv w t a = true) :
    ∃ c, (c, c + w.length) ∈ finditer (lit eqv w) t ∧ c ≤ a ∧ a < c + w.length := by
  have hle := occursAt_le h hw
  obtain ⟨⟨c, d⟩, hm, hca, had⟩ := finditer_covers (r := lit eqv w) (t := t) (a := a) (by omega)
    (by rw [ends_lit, if_pos h]; simp)
  have hend := (head?_of_mem_finditer hm).2
  rw [ends_lit] at hend
  split at hend
  next =>
    obtain rfl : c + w.length = d := by simpa using hend
    have := List.length_pos_iff.mpr hw
    exact ⟨c, hm, hca, by dsimp only at had; omega⟩
  next => simp at hend

end Regex
end Lib
