import EsanGbos.Lib.Prog

/-!
# Programs that have ended

The programs of a pool may promise something of the state they end in. What one of them has promised
is still true as long as the others keep to its rely, so in every state of an interleaving it is true
of all programs that have ended.

## Main definitions

* `Pool.AllEnd` — every program of the pool keeps its side of a contract, and its promise.

## Main results

* `Pool.AllEnd.step` — an event keeps this.
* `Pool.AllEnd.ended` — what a program that has ended has promised.
-/
namespace Lib.Pool

variable {κ : Type} {ρ : κ → Type} {ε α ι χ π ω : Type} {σ : Type*} [DecidableEq ι]
  {program : π → Prog κ ρ ε α} {exec : Exec κ ρ ε ι χ σ} {others : ω → σ → σ}
  {K : Contract κ ι χ σ} {B : ω → σ → Prop} {Q : Except ε α → σ → Prop}

/-- Every program of the pool keeps its side, and ends with `Q`. -/
def AllEnd (exec : Exec κ ρ ε ι χ σ) (K : Contract κ ι χ σ) (Q : Except ε α → σ → Prop)
    (s : Pool κ ρ ε α ι σ) : Prop :=
  ∀ i p, s.runs i = some p → p.Holds exec K i Q s.shared

omit [DecidableEq ι] in
theorem AllEnd.ended {s : Pool κ ρ ε α ι σ} (h : AllEnd exec K Q s) {i : ι} {r : Except ε α}
    (hrun : s.runs i = some (.done r)) : Q r s.shared :=
  h i _ hrun

omit [DecidableEq ι] in
/-- The guarantee of the call a program makes. -/
theorem AllEnd.guar {s : Pool κ ρ ε α ι σ} {i : ι} {x : χ} (h : AllEnd exec K Q s) {c : κ}
    {next : Except ε (ρ c) → Prog κ ρ ε α} (hrun : s.runs i = some (.call c next))
    (hx : K.allowed i x c s.shared) : K.guar i s.shared (exec i x c s.shared).2 :=
  (h i _ hrun s.shared (K.rely_refl i _) x hx).1

theorem AllEnd.step (hprogram : ∀ p i s, (program p).Holds exec K i Q s)
    (hguar : ∀ i j s t, i ≠ j → K.guar j s t → K.rely i s t)
    (hothers : ∀ i command s, B command s → K.rely i s (others command s))
    (hstable : ∀ i s t r, K.rely i s t → Q r s → Q r t)
    {s : Pool κ ρ ε α ι σ} {e : Event ι π χ ω} (h : AllEnd exec K Q s) (he : Allowed K B s e) :
    AllEnd exec K Q ((machine program exec others).step s e).2 := by
  intro i p hp
  cases e with
  | start j p' =>
      cases hrun : s.runs j with
      | some _ =>
          simp only [machine, hrun] at hp ⊢
          exact h i p hp
      | none =>
          simp only [machine, hrun] at hp ⊢
          by_cases hij : i = j
          · subst hij
            obtain rfl : program p' = p := by simpa using hp
            exact hprogram p' i _
          · exact h i p (by simpa [hij] using hp)
  | step j x =>
      cases hrun : s.runs j with
      | none =>
          simp only [machine, hrun] at hp ⊢
          exact h i p hp
      | some q =>
          cases q with
          | done =>
              simp only [machine, hrun] at hp ⊢
              exact h i p hp
          | call c next =>
              simp only [machine, hrun] at hp ⊢
              obtain ⟨hstep, hnext⟩ := h j _ hrun s.shared (K.rely_refl j _) x (he c next hrun)
              by_cases hij : i = j
              · subst hij
                obtain rfl : next (exec i x c s.shared).1 = p := by simpa using hp
                exact hnext
              · have hrely := hguar i j _ _ hij hstep
                exact (h i p (by simpa [hij] using hp)).rely hrely fun r => hstable i _ _ r hrely
  | other command =>
      have hrely := hothers i command _ he
      exact (h i p hp).rely hrely fun r => hstable i _ _ r hrely

end Lib.Pool
