import Mathlib.Data.List.Sort
import EsanGbos.Lib.Regex

/-!
# Spans of a text

A span is a stretch of positions with a label. Greedy selection walks through sorted
candidates and drops those that overlap an earlier choice; on candidates sorted by start
it is a sweep to the right. The chosen spans cut the text into gaps.

## Main definitions

* `Span.select`, `Span.sweep` — greedy selection, and the sweep it comes down to.
* `Span.Swept`, `Span.Chosen` — the same on a set of candidates, without an order of visit.
* `Span.exists_gap_iff` — which stretches of the text meet no chosen span.
* `Span.gaps`, `Span.weave` — what is left of a text, and the text with its spans replaced.
-/
namespace Lib

universe u v

/-- A stretch `[start, stop)` of positions. -/
structure Span (κ : Type u) where
  start : ℕ
  stop : ℕ
  label : κ
deriving DecidableEq, Repr

namespace Span
variable {κ : Type u}

/-! ## Greedy selection -/

def overlaps (c m : Span κ) : Bool := c.start < m.stop && m.start < c.stop

/-- Candidates that overlap no earlier choice, after those in `selected`. -/
def select (selected : List (Span κ)) : List (Span κ) → List (Span κ)
  | [] => selected
  | c :: cs => if selected.any (overlaps c) then select selected cs else select (selected ++ [c]) cs

/-- The candidates met by a sweep that starts at `x` and jumps to the end of each of them. -/
def sweep (x : ℕ) : List (Span κ) → List (Span κ)
  | [] => []
  | c :: cs => if c.start < x then sweep x cs else c :: sweep c.stop cs

/-- The order of visit: by start, the longer first, then by the rank of the label. -/
def Before (rank : κ → ℕ) (a b : Span κ) : Prop :=
  a.start < b.start ∨ a.start = b.start ∧
    (b.stop < a.stop ∨ b.stop = a.stop ∧ rank a.label ≤ rank b.label)

variable {rank : κ → ℕ}

theorem Before.start_le {a b : Span κ} (h : Before rank a b) : a.start ≤ b.start := by
  unfold Before at h; omega

theorem Before.refl (a : Span κ) : Before rank a a := by unfold Before; omega

theorem Before.trans {a b c : Span κ} (h : Before rank a b) (h' : Before rank b c) :
    Before rank a c := by unfold Before at *; omega

theorem Before.antisymm {a b : Span κ} (h : Before rank a b) (h' : Before rank b a) :
    a.start = b.start ∧ a.stop = b.stop ∧ rank a.label = rank b.label := by
  unfold Before at *; omega

/-- Leftmost first, then longest. -/
def LeftmostLongest (a b : Span κ) : Prop :=
  a.start < b.start ∨ a.start = b.start ∧ b.stop ≤ a.stop

instance : DecidableRel (LeftmostLongest (κ := κ)) := fun a b =>
  inferInstanceAs (Decidable (a.start < b.start ∨ a.start = b.start ∧ b.stop ≤ a.stop))

/-- A stable sort of candidates listed by rank puts them in the order of visit. -/
theorem pairwise_insertionSort {cs : List (Span κ)}
    (hrank : cs.Pairwise fun a b => rank a.label ≤ rank b.label) :
    (cs.insertionSort LeftmostLongest).Pairwise (Before rank) := by
  induction cs with
  | nil => simp
  | cons c cs ih =>
      obtain ⟨hc, hcs⟩ := List.pairwise_cons.mp hrank
      rw [List.insertionSort_cons]
      have hle : ∀ d ∈ cs.insertionSort LeftmostLongest, rank c.label ≤ rank d.label :=
        fun d hd => hc d (List.mem_insertionSort _ |>.mp hd)
      have hsorted := ih hcs
      generalize cs.insertionSort LeftmostLongest = l at hle hsorted
      induction l with
      | nil => simp
      | cons d l ihl =>
          obtain ⟨hd, hl⟩ := List.pairwise_cons.mp hsorted
          obtain ⟨hcd, hcl⟩ := List.forall_mem_cons.mp hle
          rw [List.orderedInsert_cons]
          by_cases hvisit : LeftmostLongest c d
          · have hbefore : Before rank c d := by unfold LeftmostLongest at hvisit; unfold Before; omega
            rw [if_pos hvisit]
            exact List.pairwise_cons.mpr
              ⟨List.forall_mem_cons.mpr ⟨hbefore, fun e he => hbefore.trans (hd e he)⟩, hsorted⟩
          · have hbefore : Before rank d c := by unfold LeftmostLongest at hvisit; unfold Before; omega
            rw [if_neg hvisit]
            refine List.pairwise_cons.mpr ⟨fun e he => ?_, ihl hcl hl⟩
            rcases (List.mem_orderedInsert _).mp he with rfl | he
            · exact hbefore
            · exact hd e he

/-- On candidates in order, greedy selection is the sweep from the end of the last choice. -/
theorem select_eq_sweep {cs selected : List (Span κ)} {x : ℕ}
    (hcs : cs.Pairwise (Before rank)) (hlt : ∀ c ∈ cs, c.start < c.stop)
    (hbefore : ∀ m ∈ selected, ∀ c ∈ cs, m.start ≤ c.start)
    (hle : ∀ m ∈ selected, m.stop ≤ x) (hx : x = 0 ∨ ∃ m ∈ selected, m.stop = x) :
    select selected cs = selected ++ sweep x cs := by
  induction cs generalizing selected x with
  | nil => simp [select, sweep]
  | cons c cs ih =>
      have hc := hlt c (by simp)
      have hany : selected.any (overlaps c) = true ↔ c.start < x := by
        simp only [List.any_eq_true, overlaps, Bool.and_eq_true, decide_eq_true_eq]
        constructor
        · rintro ⟨m, hm, hmc, -⟩
          exact hmc.trans_le (hle m hm)
        · intro hcx
          rcases hx with rfl | ⟨m, hm, rfl⟩
          · omega
          · exact ⟨m, hm, hcx, (hbefore m hm c (by simp)).trans_lt hc⟩
      have hcs' := List.pairwise_cons.mp hcs
      have hlt' : ∀ d ∈ cs, d.start < d.stop := fun d hd => hlt d (List.mem_cons_of_mem _ hd)
      rw [select, sweep]
      by_cases hcx : c.start < x
      · rw [if_pos (hany.mpr hcx), if_pos hcx]
        exact ih hcs'.2 hlt' (fun m hm d hd => hbefore m hm d (List.mem_cons_of_mem _ hd)) hle hx
      · rw [if_neg (fun h => hcx (hany.mp h)), if_neg hcx]
        rw [ih (x := c.stop) hcs'.2 hlt' ?_ ?_ (.inr ⟨c, by simp, rfl⟩), List.append_assoc]
        · rfl
        · intro m hm d hd
          rcases List.mem_append.mp hm with hm | hm
          · exact hbefore m hm d (List.mem_cons_of_mem _ hd)
          · rw [List.mem_singleton.mp hm]
            exact (hcs'.1 d hd).start_le
        · intro m hm
          rcases List.mem_append.mp hm with hm | hm
          · have := hle m hm; omega
          · rw [List.mem_singleton.mp hm]

/-- Spans from left to right, none before `x`, each ending before the next starts. -/
def Increasing : ℕ → List (Span κ) → Prop
  | _, [] => True
  | x, m :: ms => x ≤ m.start ∧ m.start ≤ m.stop ∧ Increasing m.stop ms

theorem Increasing.mono {x y : ℕ} {ms : List (Span κ)} (h : Increasing y ms) (hxy : x ≤ y) :
    Increasing x ms := by
  cases ms with
  | nil => trivial
  | cons m ms => exact ⟨hxy.trans h.1, h.2⟩

theorem Increasing.le_start {x : ℕ} {ms : List (Span κ)} (h : Increasing x ms) :
    ∀ m ∈ ms, x ≤ m.start := by
  induction ms generalizing x with
  | nil => simp
  | cons m ms ih =>
      intro m' hm'
      rcases List.mem_cons.mp hm' with rfl | hm'
      · exact h.1
      · exact (h.1.trans h.2.1).trans (ih h.2.2 m' hm')

theorem sweep_increasing {cs : List (Span κ)} (hlt : ∀ c ∈ cs, c.start < c.stop) (x : ℕ) :
    Increasing x (sweep x cs) := by
  induction cs generalizing x with
  | nil => trivial
  | cons c cs ih =>
      have hlt' : ∀ d ∈ cs, d.start < d.stop := fun d hd => hlt d (List.mem_cons_of_mem _ hd)
      rw [sweep]
      split
      next => exact ih hlt' x
      next hx => exact ⟨by omega, (hlt c (by simp)).le, ih hlt' c.stop⟩

theorem sweep_subset {cs : List (Span κ)} (x : ℕ) : sweep x cs ⊆ cs := by
  induction cs generalizing x with
  | nil => simp [sweep]
  | cons c cs ih =>
      rw [sweep]
      split
      next => exact List.Subset.trans (ih x) (List.subset_cons_self c cs)
      next => exact List.cons_subset_cons c (ih c.stop)

/-! ## The sweep, without an order of visit -/

/-- The first candidate that starts at `x` or later. -/
structure First (rank : κ → ℕ) (cs : List (Span κ)) (x : ℕ) (m : Span κ) : Prop where
  mem : m ∈ cs
  le_start : x ≤ m.start
  before : ∀ c ∈ cs, x ≤ c.start → Before rank m c

/-- The positions a sweep from `x` stops at: there, and where a first candidate ends. -/
inductive Swept (rank : κ → ℕ) (cs : List (Span κ)) (x : ℕ) : ℕ → Prop where
  | base : Swept rank cs x x
  | jump {y : ℕ} {m : Span κ} (hy : Swept rank cs x y) (hm : First rank cs y m) :
      Swept rank cs x m.stop

/-- A candidate that is first from a position the sweep stops at. -/
def Chosen (rank : κ → ℕ) (cs : List (Span κ)) (m : Span κ) : Prop :=
  ∃ x, Swept rank cs 0 x ∧ First rank cs x m

theorem Swept.le {cs : List (Span κ)} {x y : ℕ} (hlt : ∀ c ∈ cs, c.start < c.stop)
    (h : Swept rank cs x y) : x ≤ y := by
  induction h with
  | base => exact le_rfl
  | jump _ hm ih =>
      have := hlt _ hm.mem
      have := hm.le_start
      omega

/-- A candidate that starts before `x` does not matter to a sweep from `x`. -/
theorem First.cons_iff {c m : Span κ} {cs : List (Span κ)} {x : ℕ} (hc : c.start < x) :
    First rank (c :: cs) x m ↔ First rank cs x m := by
  constructor
  · rintro ⟨hmem, hle, hbefore⟩
    refine ⟨?_, hle, fun d hd => hbefore d (List.mem_cons_of_mem _ hd)⟩
    rcases List.mem_cons.mp hmem with rfl | hmem
    · omega
    · exact hmem
  · rintro ⟨hmem, hle, hbefore⟩
    refine ⟨List.mem_cons_of_mem _ hmem, hle, fun d hd hxd => ?_⟩
    rcases List.mem_cons.mp hd with rfl | hd
    · omega
    · exact hbefore d hd hxd

theorem Swept.cons_iff {c : Span κ} {cs : List (Span κ)} {x y : ℕ} (hc : c.start < x)
    (hlt : ∀ d ∈ c :: cs, d.start < d.stop) :
    Swept rank (c :: cs) x y ↔ Swept rank cs x y := by
  have hlt' : ∀ d ∈ cs, d.start < d.stop := fun d hd => hlt d (List.mem_cons_of_mem _ hd)
  constructor
  · intro h
    induction h with
    | base => exact .base
    | jump hy hm ih => exact .jump ih ((First.cons_iff (hc.trans_le (hy.le hlt))).mp hm)
  · intro h
    induction h with
    | base => exact .base
    | jump hy hm ih => exact .jump ih ((First.cons_iff (hc.trans_le (hy.le hlt'))).mpr hm)

/-- A sweep that does not stay where it starts goes through its first jump. -/
theorem Swept.head {cs : List (Span κ)} {x y : ℕ} {c : Span κ} (hfirst : First rank cs x c)
    (h : Swept rank cs x y) : y = x ∨ Swept rank cs c.stop y := by
  induction h with
  | base => exact .inl rfl
  | @jump _ m hy hm ih =>
      rcases ih with rfl | ih
      · have h₁ := hfirst.before _ hm.mem hm.le_start
        have h₂ := hm.before _ hfirst.mem hfirst.le_start
        have hstop : c.stop = m.stop := by
          unfold Before at h₁ h₂
          omega
        exact .inr (hstop ▸ .base)
      · exact .inr (.jump ih hm)

theorem Swept.trans {cs : List (Span κ)} {x y z : ℕ} (h : Swept rank cs x y)
    (h' : Swept rank cs y z) : Swept rank cs x z := by
  induction h' with
  | base => exact h
  | jump _ hm ih => exact .jump ih hm

/-- The sweep from `x` chooses the first candidate, and goes on from its end. -/
theorem First.of_cons {c : Span κ} {cs : List (Span κ)} {x : ℕ}
    (hcs : (c :: cs).Pairwise (Before rank)) (hx : x ≤ c.start) : First rank (c :: cs) x c where
  mem := by simp
  le_start := hx
  before d hd _ := by
    rcases List.mem_cons.mp hd with rfl | hd
    · exact Before.refl _
    · exact (List.pairwise_cons.mp hcs).1 d hd

/-- What the sweep over ordered candidates chooses are first candidates. -/
theorem first_of_mem_sweep {cs : List (Span κ)} {x : ℕ} {m : Span κ}
    (hcs : cs.Pairwise (Before rank)) (hlt : ∀ c ∈ cs, c.start < c.stop) (hm : m ∈ sweep x cs) :
    ∃ y, Swept rank cs x y ∧ First rank cs y m := by
  induction cs generalizing x with
  | nil => simp [sweep] at hm
  | cons c cs ih =>
      have hlt' : ∀ d ∈ cs, d.start < d.stop := fun d hd => hlt d (List.mem_cons_of_mem _ hd)
      have hc := hlt c (by simp)
      rw [sweep] at hm
      split at hm
      next hx =>
        obtain ⟨y, hy, hfirst⟩ := ih (List.pairwise_cons.mp hcs).2 hlt' hm
        exact ⟨y, (Swept.cons_iff hx hlt).mpr hy,
          (First.cons_iff (hx.trans_le (hy.le hlt'))).mpr hfirst⟩
      next hx =>
        have hfirst := First.of_cons (x := x) hcs (by omega)
        rcases List.mem_cons.mp hm with rfl | hm
        · exact ⟨x, .base, hfirst⟩
        · obtain ⟨y, hy, hfirst'⟩ := ih (List.pairwise_cons.mp hcs).2 hlt' hm
          refine ⟨y, .trans (.jump .base hfirst) ((Swept.cons_iff hc hlt).mpr hy), ?_⟩
          exact (First.cons_iff (hc.trans_le (hy.le hlt'))).mpr hfirst'

/-- A first candidate is chosen by the sweep, up to candidates of the same place and rank. -/
theorem mem_sweep_of_first {cs : List (Span κ)} {x y : ℕ} {m : Span κ}
    (hcs : cs.Pairwise (Before rank)) (hlt : ∀ c ∈ cs, c.start < c.stop)
    (hy : Swept rank cs x y) (hm : First rank cs y m) :
    ∃ m' ∈ sweep x cs, Before rank m m' ∧ Before rank m' m := by
  induction cs generalizing x with
  | nil => exact absurd hm.mem (by simp)
  | cons c cs ih =>
      have hlt' : ∀ d ∈ cs, d.start < d.stop := fun d hd => hlt d (List.mem_cons_of_mem _ hd)
      have hc := hlt c (by simp)
      have hxy := hy.le hlt
      rw [sweep]
      split
      next hx =>
        exact ih (List.pairwise_cons.mp hcs).2 hlt' ((Swept.cons_iff hx hlt).mp hy)
          ((First.cons_iff (hx.trans_le hxy)).mp hm)
      next hx =>
        have hfirst := First.of_cons (x := x) hcs (by omega)
        rcases hy.head hfirst with rfl | hy
        · exact ⟨c, by simp, hm.before c (by simp) (by omega), hfirst.before m hm.mem hm.le_start⟩
        · obtain ⟨m', hm', hbefore⟩ := ih (List.pairwise_cons.mp hcs).2 hlt'
            ((Swept.cons_iff hc hlt).mp hy) ((First.cons_iff (hc.trans_le (hy.le hlt))).mp hm)
          exact ⟨m', List.mem_cons_of_mem _ hm', hbefore⟩

/-- A stretch `[a, b)` past `x` meets no choice of the sweep from `x` exactly when the sweep
stops at or before it with no candidate to jump to before its end. -/
theorem exists_gap_iff {cs : List (Span κ)} {x a b : ℕ} (hcs : cs.Pairwise (Before rank))
    (hlt : ∀ c ∈ cs, c.start < c.stop) (hxa : x ≤ a) (hab : a < b) :
    (∀ m ∈ sweep x cs, m.stop ≤ a ∨ b ≤ m.start) ↔
      ∃ y ≤ a, Swept rank cs x y ∧ ∀ c ∈ cs, c.start < y ∨ b ≤ c.start := by
  induction cs generalizing x with
  | nil => exact ⟨fun _ => ⟨x, hxa, .base, by simp⟩, fun _ => by simp [sweep]⟩
  | cons c cs ih =>
      have hlt' : ∀ d ∈ cs, d.start < d.stop := fun d hd => hlt d (List.mem_cons_of_mem _ hd)
      have hc := hlt c (by simp)
      have hcs' := List.pairwise_cons.mp hcs
      rw [sweep]
      by_cases hx : c.start < x
      · rw [if_pos hx, ih hcs'.2 hlt' hxa]
        refine exists_congr fun y => and_congr_right fun _ => ?_
        rw [Swept.cons_iff hx hlt, List.forall_mem_cons]
        refine and_congr_right fun hy => (and_iff_right (.inl ?_)).symm
        exact hx.trans_le (hy.le hlt')
      · rw [if_neg hx, List.forall_mem_cons]
        have hfirst := First.of_cons (x := x) hcs (by omega)
        constructor
        · rintro ⟨hca | hbc, hrest⟩
          · obtain ⟨y, hya, hy, hgap⟩ := (ih hcs'.2 hlt' hca).mp hrest
            refine ⟨y, hya, .trans (.jump .base hfirst) ((Swept.cons_iff hc hlt).mpr hy), ?_⟩
            exact List.forall_mem_cons.mpr ⟨.inl (hc.trans_le (hy.le hlt')), hgap⟩
          · -- the first candidate starts past the stretch, and so do the others
            refine ⟨x, hxa, .base, fun d hd => .inr ?_⟩
            exact hbc.trans (hfirst.before d hd (by
              rcases List.mem_cons.mp hd with rfl | hd
              · omega
              · have := (hcs'.1 d hd).start_le; omega)).start_le
        · rintro ⟨y, hya, hy, hgap⟩
          have hgap' := List.forall_mem_cons.mp hgap
          rcases hy.head hfirst with rfl | hy
          · have hbc : b ≤ c.start := by have := hgap'.1; omega
            refine ⟨.inr hbc, fun m hm => .inr ?_⟩
            exact hbc.trans (hcs'.1 m (sweep_subset _ hm)).start_le
          · have hcy := hy.le hlt
            refine ⟨.inl (by omega), (ih hcs'.2 hlt' (by omega)).mpr ⟨y, hya, ?_, hgap'.2⟩⟩
            exact (Swept.cons_iff hc hlt).mp hy

/-! ## The order of the list does not matter -/

theorem First.congr {cs cs' : List (Span κ)} {x : ℕ} {m : Span κ} (h : ∀ c, c ∈ cs ↔ c ∈ cs')
    (hm : First rank cs x m) : First rank cs' x m :=
  ⟨(h m).mp hm.mem, hm.le_start, fun c hc => hm.before c ((h c).mpr hc)⟩

theorem Swept.congr {cs cs' : List (Span κ)} {x y : ℕ} (h : ∀ c, c ∈ cs ↔ c ∈ cs')
    (hy : Swept rank cs x y) : Swept rank cs' x y := by
  induction hy with
  | base => exact .base
  | jump _ hm ih => exact .jump ih (hm.congr h)

/-- Sorted by start, the last first, increasing spans are reversed. -/
theorem insertionSort_reverse {ms : List (Span κ)} {x : ℕ} (h : Increasing x ms)
    (hlt : ∀ m ∈ ms, m.start < m.stop) :
    ms.insertionSort (fun a b => b.start ≤ a.start) = ms.reverse := by
  induction ms generalizing x with
  | nil => rfl
  | cons m ms ih =>
      have hlast : ∀ l : List (Span κ), (∀ d ∈ l, m.start < d.start) →
          l.orderedInsert (fun a b => b.start ≤ a.start) m = l ++ [m] := by
        intro l hl
        induction l with
        | nil => rfl
        | cons d l ihl =>
            obtain ⟨hd, hl⟩ := List.forall_mem_cons.mp hl
            rw [List.orderedInsert_cons, if_neg (by omega), ihl hl, List.cons_append]
      rw [List.insertionSort_cons, ih h.2.2 fun d hd => hlt d (List.mem_cons_of_mem _ hd),
        List.reverse_cons]
      refine hlast _ fun d hd => ?_
      exact (hlt m (by simp)).trans_le (h.2.2.le_start d (List.mem_reverse.mp hd))

/-! ## Cutting a text -/

variable {α : Type v}

/-- The text in a span. -/
def slice (text : List α) (m : Span κ) : List α := (text.take m.stop).drop m.start

/-- One span of a text replaced. -/
def splice (f : Span κ → List α) (text : List α) (m : Span κ) : List α :=
  text.take m.start ++ f m ++ text.drop m.stop

/-- The text from `x` on as what the spans leave of it and, between, the spans. -/
def pieces (text : List α) : ℕ → List (Span κ) → List (List α ⊕ Span κ)
  | x, [] => [.inl (text.drop x)]
  | x, m :: ms => .inl ((text.take m.start).drop x) :: .inr m :: pieces text m.stop ms

/-- The pieces put together, each span replaced. -/
def weave (f : Span κ → List α) (ps : List (List α ⊕ Span κ)) : List α :=
  ps.flatMap (Sum.elim id f)

/-- The pieces that are no spans. -/
def gaps (ps : List (List α ⊕ Span κ)) : List (List α) := ps.filterMap Sum.getLeft?

theorem weave_cons (f : Span κ → List α) (gap : List α) (m : Span κ)
    (ps : List (List α ⊕ Span κ)) :
    weave f (.inl gap :: .inr m :: ps) = gap ++ (f m ++ weave f ps) := rfl

theorem gaps_nil (text : List α) (x : ℕ) :
    gaps (pieces text x ([] : List (Span κ))) = [text.drop x] := rfl

theorem gaps_cons (text : List α) (x : ℕ) (m : Span κ) (ms : List (Span κ)) :
    gaps (pieces text x (m :: ms))
      = (text.take m.start).drop x :: gaps (pieces text m.stop ms) := rfl

theorem drop_take_append_drop (text : List α) {x y : ℕ} (hxy : x ≤ y) :
    (text.take y).drop x ++ text.drop y = text.drop x := by
  have hdrop : text.drop y = (text.drop x).drop (y - x) := by
    rw [List.drop_drop, Nat.add_sub_cancel' hxy]
  rw [List.drop_take, hdrop, List.take_append_drop]

theorem take_append_drop_take (text : List α) {x y : ℕ} (hxy : x ≤ y) :
    text.take x ++ (text.take y).drop x = text.take y := by
  conv_rhs => rw [← List.take_append_drop x (text.take y), List.take_take, min_eq_left hxy]

/-- Replacing spans from the last to the first keeps the positions of those still to come. -/
theorem foldl_splice (f : Span κ → List α) {text : List α} {x : ℕ} {ms : List (Span κ)}
    (h : Increasing x ms) (hle : ∀ m ∈ ms, m.stop ≤ text.length) :
    ms.reverse.foldl (splice f) text = text.take x ++ weave f (pieces text x ms) := by
  induction ms generalizing x with
  | nil => simp [pieces, weave]
  | cons m ms ih =>
      obtain ⟨hxm, hm, hms⟩ := h
      have hlen : (text.take m.stop).length = m.stop := by
        rw [List.length_take, min_eq_left (hle m (by simp))]
      have htake : (text.take m.stop ++ weave f (pieces text m.stop ms)).take m.start
          = text.take m.start := by
        rw [List.take_append_of_le_length (by omega), List.take_take, min_eq_left hm]
      have hdrop : (text.take m.stop ++ weave f (pieces text m.stop ms)).drop m.stop
          = weave f (pieces text m.stop ms) := by
        conv_lhs => rw [List.drop_append_of_le_length hlen.ge, List.drop_of_length_le hlen.le]
        rw [List.nil_append]
      rw [List.reverse_cons, List.foldl_append, ih hms fun d hd => hle d (List.mem_cons_of_mem _ hd),
        List.foldl_cons, List.foldl_nil, splice, htake, hdrop, pieces, weave_cons, List.append_assoc, ← List.append_assoc (text.take x), take_append_drop_take text hxm]

/-- Replacing the spans gives the text back exactly when each is replaced by its own text,
where no replacement can run on into what follows. -/
theorem weave_eq_drop_iff {f : Span κ → List α} {text : List α} {x : ℕ} {ms : List (Span κ)}
    (h : Increasing x ms)
    (hf : ∀ m ∈ ms, ∀ r r', f m ++ r = slice text m ++ r' → f m = slice text m) :
    weave f (pieces text x ms) = text.drop x ↔ ∀ m ∈ ms, f m = slice text m := by
  induction ms generalizing x with
  | nil => simp [pieces, weave]
  | cons m ms ih =>
      obtain ⟨hxm, hm, hms⟩ := h
      have htext : text.drop x
          = (text.take m.start).drop x ++ (slice text m ++ text.drop m.stop) := by
        rw [slice, drop_take_append_drop text hm, drop_take_append_drop text hxm]
      have hih := ih hms fun d hd => hf d (List.mem_cons_of_mem _ hd)
      rw [pieces, weave_cons, htext, List.append_cancel_left_eq, List.forall_mem_cons]
      constructor
      · intro heq
        have hm := hf m (by simp) _ _ heq
        rw [hm, List.append_cancel_left_eq] at heq
        exact ⟨hm, hih.mp heq⟩
      · rintro ⟨hm, hrest⟩
        rw [hm, hih.mpr hrest]

/-- A word occurs in a cut where it occurs in the text, within the cut. -/
theorem occursAt_cut (eqv : α → α → Bool) (w text : List α) (x y i : ℕ) :
    Regex.occursAt eqv w ((text.take y).drop x) i = true ↔
      Regex.occursAt eqv w text (x + i) = true ∧ (w = [] ∨ x + i + w.length ≤ y) := by
  induction w generalizing i with
  | nil => simp [Regex.occursAt]
  | cons c w ih =>
      have hholds : Regex.holdsAt (eqv c) ((text.take y).drop x) i = true ↔
          Regex.holdsAt (eqv c) text (x + i) = true ∧ x + i < y := by
        unfold Regex.holdsAt
        rw [List.getElem?_drop, List.getElem?_take]
        split
        next h => simp [h]
        next h => simp [h]
      rw [Regex.occursAt_cons, Regex.occursAt_cons, Bool.and_eq_true, Bool.and_eq_true, hholds, ih,
        ← Nat.add_assoc, List.length_cons]
      have hlen : (x + i < y ∧ (w = [] ∨ x + i + 1 + w.length ≤ y)) ↔
          x + i + (w.length + 1) ≤ y := by
        rcases w with _ | ⟨d, w⟩
        · simp only [true_or, and_true, List.length_nil]; omega
        · simp only [List.length_cons, reduceCtorEq, false_or]; omega
      simp only [reduceCtorEq, false_or, ← hlen]
      tauto

/-- A word occurs in some gap exactly when it occurs in the text clear of every span. -/
theorem exists_gap_occursAt_iff {eqv : α → α → Bool} {w text : List α} (hw : w ≠ []) {x : ℕ}
    {ms : List (Span κ)} (h : Increasing x ms) :
    (∃ gap ∈ gaps (pieces text x ms), ∃ i, Regex.occursAt eqv w gap i = true) ↔
      ∃ a, x ≤ a ∧ Regex.occursAt eqv w text a = true ∧
        ∀ m ∈ ms, m.stop ≤ a ∨ a + w.length ≤ m.start := by
  induction ms generalizing x with
  | nil =>
      have hwhole : text.drop x = (text.take text.length).drop x := by rw [List.take_length]
      simp only [gaps_nil, List.mem_singleton, exists_eq_left, hwhole, occursAt_cut, hw, false_or,
        List.not_mem_nil, false_implies, implies_true, and_true]
      constructor
      · rintro ⟨i, hocc, -⟩
        exact ⟨x + i, Nat.le_add_right x i, hocc⟩
      · rintro ⟨a, hxa, hocc⟩
        obtain ⟨i, rfl⟩ := Nat.exists_eq_add_of_le hxa
        exact ⟨i, hocc, Regex.occursAt_le hocc hw⟩
  | cons m ms ih =>
      obtain ⟨hxm, hm, hms⟩ := h
      have hfirst : (∃ i, Regex.occursAt eqv w ((text.take m.start).drop x) i = true) ↔
          ∃ a, x ≤ a ∧ Regex.occursAt eqv w text a = true ∧ a + w.length ≤ m.start := by
        simp only [occursAt_cut, hw, false_or]
        constructor
        · rintro ⟨i, hocc, hle⟩
          exact ⟨x + i, Nat.le_add_right x i, hocc, hle⟩
        · rintro ⟨a, hxa, hocc, hle⟩
          obtain ⟨i, rfl⟩ := Nat.exists_eq_add_of_le hxa
          exact ⟨i, hocc, hle⟩
      rw [gaps_cons, List.exists_mem_cons_iff, hfirst, ih hms]
      constructor
      · rintro (⟨a, hxa, hocc, hle⟩ | ⟨a, hma, hocc, hclear⟩)
        · refine ⟨a, hxa, hocc, List.forall_mem_cons.mpr ⟨.inr hle, fun d hd => .inr ?_⟩⟩
          have := hms.le_start d hd
          omega
        · exact ⟨a, by omega, hocc, List.forall_mem_cons.mpr ⟨.inl hma, hclear⟩⟩
      · rintro ⟨a, hxa, hocc, hclear⟩
        obtain ⟨hma | hle, hclear⟩ := List.forall_mem_cons.mp hclear
        · exact .inr ⟨a, hma, hocc, hclear⟩
        · exact .inl ⟨a, hxa, hocc, hle⟩

end Span
end Lib
