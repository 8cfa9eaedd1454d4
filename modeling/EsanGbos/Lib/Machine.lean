import Mathlib.Logic.Basic
import Mathlib.Data.List.Induction

/-!
# Deterministic machines and their runs

A machine answers one call at a time and moves its state. Everything a
nondeterministic environment chooses (an argument, a clock reading, a fault) is
part of the call, so a run is a list of calls and an interleaving of several
parties is a run of the machine they share.

## Main definitions

* `Machine.final`, `Machine.trace` — the last state and the answers of a run.
* `Machine.Reachable` — the states of runs that start in a given state.
* `Machine.Guarded` — every call of a run meets a condition on the state it is made in.
-/
namespace Lib

universe u v w
variable {σ : Type u} {ι : Type v} {ω : Type w}

/-- A step function: the answer to a call and the state after it. -/
structure Machine (σ : Type u) (ι : Type v) (ω : Type w) where
  step : σ → ι → ω × σ

namespace Machine
variable (M : Machine σ ι ω)

/-- The state after a run. -/
def final (s : σ) : List ι → σ
  | [] => s
  | i :: is => final (M.step s i).2 is

/-- The calls of a run with their answers. -/
def trace (s : σ) : List ι → List (ι × ω)
  | [] => []
  | i :: is => (i, (M.step s i).1) :: trace (M.step s i).2 is

@[simp] theorem final_nil (s : σ) : M.final s [] = s := rfl
@[simp] theorem final_cons (s : σ) (i : ι) (is : List ι) :
    M.final s (i :: is) = M.final (M.step s i).2 is := rfl
@[simp] theorem trace_nil (s : σ) : M.trace s [] = [] := rfl
@[simp] theorem trace_cons (s : σ) (i : ι) (is : List ι) :
    M.trace s (i :: is) = (i, (M.step s i).1) :: M.trace (M.step s i).2 is := rfl

theorem final_append (s : σ) (is js : List ι) :
    M.final s (is ++ js) = M.final (M.final s is) js := by
  induction is generalizing s with
  | nil => rfl
  | cons i is ih => exact ih _

theorem trace_append (s : σ) (is js : List ι) :
    M.trace s (is ++ js) = M.trace s is ++ M.trace (M.final s is) js := by
  induction is generalizing s with
  | nil => rfl
  | cons i is ih => simp [ih]

/-- An answer was given in the state the calls before it left. -/
theorem exists_of_mem_trace {s : σ} {is : List ι} {i : ι} {a : ω} (h : (i, a) ∈ M.trace s is) :
    i ∈ is ∧ ∃ before, (M.step (M.final s before) i).1 = a := by
  induction is generalizing s with
  | nil => simp at h
  | cons j is ih =>
      rcases List.mem_cons.mp h with heq | h
      · obtain ⟨rfl, rfl⟩ := Prod.mk.inj heq
        exact ⟨List.mem_cons_self, [], rfl⟩
      · obtain ⟨hmem, before, hbefore⟩ := ih h
        exact ⟨List.mem_cons_of_mem j hmem, j :: before, hbefore⟩

/-- The states of the runs that start in `s`. -/
def Reachable (s t : σ) : Prop := ∃ is, M.final s is = t

variable {M}

theorem Reachable.refl (s : σ) : M.Reachable s s := ⟨[], rfl⟩

theorem Reachable.step {s t : σ} (h : M.Reachable s t) (i : ι) :
    M.Reachable s (M.step t i).2 := by
  obtain ⟨is, rfl⟩ := h
  exact ⟨is ++ [i], by simp [final_append]⟩

theorem Reachable.trans {s t u : σ} (h : M.Reachable s t) (h' : M.Reachable t u) :
    M.Reachable s u := by
  obtain ⟨is, rfl⟩ := h
  obtain ⟨js, rfl⟩ := h'
  exact ⟨is ++ js, M.final_append s is js⟩

/-- What the start satisfies and every call preserves holds in every reachable state. -/
theorem Reachable.invariant {P : σ → Prop} (hstep : ∀ s i, P s → P (M.step s i).2)
    {s t : σ} (h : M.Reachable s t) (hs : P s) : P t := by
  obtain ⟨is, rfl⟩ := h
  induction is generalizing s with
  | nil => exact hs
  | cons i is ih => exact ih (hstep s i hs)

/-- A reflexive and transitive relation that every call from an invariant state
respects relates the ends of every run. -/
theorem Reachable.relation {P : σ → Prop} {R : σ → σ → Prop}
    (hP : ∀ s i, P s → P (M.step s i).2) (hrefl : ∀ s, R s s)
    (htrans : ∀ s t u, R s t → R t u → R s u) (hR : ∀ s i, P s → R s (M.step s i).2)
    {s t : σ} (h : M.Reachable s t) (hs : P s) : R s t := by
  obtain ⟨is, rfl⟩ := h
  induction is generalizing s with
  | nil => exact hrefl s
  | cons i is ih => exact htrans _ _ _ (hR s i hs) (ih (hP s i hs))

/-- Induction along a run, for a property of the answers given so far and the
state they left. -/
theorem trace_induction {P : List (ι × ω) → σ → Prop} {s : σ} (h0 : P [] s)
    (hstep : ∀ tr t i, P tr t → P (tr ++ [(i, (M.step t i).1)]) (M.step t i).2)
    (is : List ι) : P (M.trace s is) (M.final s is) := by
  induction is using List.reverseRecOn with
  | nil => exact h0
  | append_singleton is i ih =>
      rw [trace_append, final_append]
      exact hstep _ _ i ih

/-- Repeating a call leads to `Q`, where each time it does or leaves less to be done. -/
theorem exists_final_replicate {P Q : σ → Prop} (μ : σ → ℕ) (i : ι)
    (hstep : ∀ s, P s → Q (M.step s i).2 ∨ P (M.step s i).2 ∧ μ (M.step s i).2 < μ s)
    {s : σ} (hs : P s) : ∃ n, Q (M.final s (List.replicate n i)) := by
  induction hμ : μ s using Nat.strongRecOn generalizing s with
  | _ m ih =>
      rcases hstep s hs with hdone | ⟨hkeep, hless⟩
      · exact ⟨1, hdone⟩
      · obtain ⟨n, hn⟩ := ih _ (hμ ▸ hless) hkeep rfl
        exact ⟨n + 1, hn⟩

variable (M) in
/-- Every call of the run meets `G` in the state it is made in. -/
def Guarded (G : σ → ι → Prop) (s : σ) : List ι → Prop
  | [] => True
  | i :: is => G s i ∧ Guarded G (M.step s i).2 is

instance Guarded.decidable {G : σ → ι → Prop} [∀ s i, Decidable (G s i)] :
    (s : σ) → (is : List ι) → Decidable (M.Guarded G s is)
  | _, [] => inferInstanceAs (Decidable True)
  | s, i :: is =>
      have : Decidable (M.Guarded G (M.step s i).2 is) := decidable (M.step s i).2 is
      inferInstanceAs (Decidable (G s i ∧ M.Guarded G (M.step s i).2 is))

/-- The invariant rule for runs whose calls are all guarded. -/
theorem Guarded.invariant {G : σ → ι → Prop} {P : σ → Prop}
    (hstep : ∀ s i, P s → G s i → P (M.step s i).2) {s : σ} {is : List ι}
    (hg : M.Guarded G s is) (hs : P s) : P (M.final s is) := by
  induction is generalizing s with
  | nil => exact hs
  | cons i is ih => exact ih hg.2 (hstep s i hs hg.1)

/-- A guard may be replaced by one that it implies under an invariant. -/
theorem Guarded.imp {G G' : σ → ι → Prop} {P : σ → Prop}
    (hstep : ∀ s i, P s → G s i → P (M.step s i).2) (himp : ∀ s i, P s → G s i → G' s i)
    {s : σ} {is : List ι} (hg : M.Guarded G s is) (hs : P s) : M.Guarded G' s is := by
  induction is generalizing s with
  | nil => trivial
  | cons i is ih => exact ⟨himp s i hs hg.1, ih hg.2 (hstep s i hs hg.1)⟩

theorem Guarded.and {G G' : σ → ι → Prop} {s : σ} {is : List ι} (hg : M.Guarded G s is)
    (hg' : M.Guarded G' s is) : M.Guarded (fun s i => G s i ∧ G' s i) s is := by
  induction is generalizing s with
  | nil => trivial
  | cons i is ih => exact ⟨⟨hg.1, hg'.1⟩, ih hg.2 hg'.2⟩

/-- The guard of a call, where the calls before it have led. -/
theorem Guarded.at {G : σ → ι → Prop} {s : σ} {is js : List ι} {i : ι}
    (hg : M.Guarded G s (is ++ i :: js)) : G (M.final s is) i := by
  induction is generalizing s with
  | nil => exact hg.1
  | cons j is ih => exact ih hg.2

/-- A guard that every call meets. -/
theorem Guarded.of_forall {G : σ → ι → Prop} {is : List ι} (h : ∀ i ∈ is, ∀ s, G s i) (s : σ) :
    M.Guarded G s is := by
  induction is generalizing s with
  | nil => trivial
  | cons i is ih =>
      obtain ⟨hi, his⟩ := List.forall_mem_cons.mp h
      exact ⟨hi s, ih his _⟩

/-- Induction along a run whose calls are all guarded, for a property of the answers given so far and
the state they left. -/
theorem Guarded.trace_induction {G : σ → ι → Prop} {P : List (ι × ω) → σ → Prop}
    (hstep : ∀ tr t i, P tr t → G t i → P (tr ++ [(i, (M.step t i).1)]) (M.step t i).2) {s : σ}
    {is : List ι} (hg : M.Guarded G s is) {tr : List (ι × ω)} (h : P tr s) :
    P (tr ++ M.trace s is) (M.final s is) := by
  induction is generalizing s tr with
  | nil => simpa using h
  | cons i is ih => simpa using ih hg.2 (hstep tr s i h hg.1)

/-- A property that a step keeps exactly under `G` holds all along a run exactly when every call
of the run meets `G`. -/
theorem forall_prefix_iff_guarded {G : σ → ι → Prop} {I P : σ → Prop}
    (hinv : ∀ s i, I s → I (M.step s i).2)
    (hstep : ∀ s i, I s → P s → (P (M.step s i).2 ↔ G s i)) {s : σ} (hI : I s) (hP : P s)
    (is : List ι) : (∀ js, js <+: is → P (M.final s js)) ↔ M.Guarded G s is := by
  induction is generalizing s with
  | nil =>
      refine ⟨fun _ => trivial, fun _ js hjs => ?_⟩
      rw [List.prefix_nil.mp hjs]
      exact hP
  | cons i is ih =>
      constructor
      · intro h
        have hi : P (M.step s i).2 := h [i] ⟨is, rfl⟩
        refine ⟨(hstep s i hI hP).mp hi, (ih (hinv s i hI) hi).mp fun js hjs => ?_⟩
        exact h (i :: js) ((List.prefix_cons_inj i).mpr hjs)
      · intro hg js hjs
        cases js with
        | nil => exact hP
        | cons j js =>
            obtain ⟨rfl, hprefix⟩ := List.cons_prefix_cons.mp hjs
            have hi := (hstep s j hI hP).mpr hg.1
            exact (ih (hinv s j hI) hi).mpr hg.2 js hprefix

/-! ## Simulation -/

/-- A machine that makes the steps of another on the image of its states answers every run alike. -/
theorem Guarded.trace_eq {τ : Type*} {N : Machine τ ι ω} {f : σ → τ} {G : σ → ι → Prop}
    {P : σ → Prop} (hstep : ∀ s i, P s → G s i → P (M.step s i).2)
    (hsim : ∀ s i, P s → G s i → N.step (f s) i = ((M.step s i).1, f (M.step s i).2)) {s : σ}
    {is : List ι} (hg : M.Guarded G s is) (hs : P s) : N.trace (f s) is = M.trace s is := by
  induction is generalizing s with
  | nil => rfl
  | cons i is ih =>
      rw [trace_cons, trace_cons, hsim s i hs hg.1]
      exact congrArg _ (ih hg.2 (hstep s i hs hg.1))

/-- Two machines whose steps keep a relation between their states answer every run alike, up to a
relation between their answers. -/
theorem Guarded.forall₂_trace {τ ω' : Type*} {N : Machine τ ι ω'} {G : σ → ι → Prop}
    {R : σ → τ → Prop} {A : ω → ω' → Prop}
    (hstep : ∀ s t i, R s t → G s i →
      A (M.step s i).1 (N.step t i).1 ∧ R (M.step s i).2 (N.step t i).2)
    {s : σ} {t : τ} {is : List ι} (hg : M.Guarded G s is) (h : R s t) :
    List.Forall₂ (fun a b => a.1 = b.1 ∧ A a.2 b.2) (M.trace s is) (N.trace t is) := by
  induction is generalizing s t with
  | nil => exact .nil
  | cons i is ih =>
      obtain ⟨hanswer, hnext⟩ := hstep s t i h hg.1
      exact .cons ⟨rfl, hanswer⟩ (ih hg.2 hnext)

/-- Two machines whose answers agree exactly under `G`, and then leave related states, answer a run
alike exactly if every call of the run meets `G`. -/
theorem forall₂_trace_iff_guarded {τ ω' : Type*} {N : Machine τ ι ω'} {G : σ → ι → Prop}
    {R : σ → τ → Prop} {A : ω → ω' → Prop}
    (hstep : ∀ s t i, R s t → G s i →
      A (M.step s i).1 (N.step t i).1 ∧ R (M.step s i).2 (N.step t i).2)
    (hguard : ∀ s t i, R s t → A (M.step s i).1 (N.step t i).1 → G s i)
    {s : σ} {t : τ} (h : R s t) (is : List ι) :
    List.Forall₂ (fun a b => a.1 = b.1 ∧ A a.2 b.2) (M.trace s is) (N.trace t is) ↔
      M.Guarded G s is := by
  refine ⟨fun hall => ?_, fun hg => hg.forall₂_trace hstep h⟩
  induction is generalizing s t with
  | nil => trivial
  | cons i is ih =>
      rw [trace_cons, trace_cons, List.forall₂_cons] at hall
      have hi : G s i := hguard s t i h hall.1.2
      exact ⟨hi, ih (hstep s t i h hi).2 hall.2⟩

end Machine
end Lib
