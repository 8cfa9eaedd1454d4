import Mathlib.Logic.Function.Basic
import EsanGbos.Lib.Machine

/-!
# Programs that share a state

A program makes calls, one atomic step of the shared state each, and goes on with what
comes back. Several programs run as a pool, and the environment chooses who goes next and
whatever else a call needs. A contract says what a program may rely on between its calls
and what each of its calls guarantees to the others.

## Main definitions

* `Prog` — programs, with `Prog.attempt` for exception handlers.
* `Pool.machine` — the interleavings of a pool of programs.
* `Prog.solo` — a program by itself.
* `Prog.Holds` — a program keeps its side of a contract.
* `Pool.run_holds` — so does every program of a pool, in every interleaving.
-/
namespace Lib

universe u

/-- A program answers or raises, or makes a call and goes on with its outcome. -/
inductive Prog (κ : Type) (ρ : κ → Type) (ε α : Type) where
  | done (outcome : Except ε α)
  | call (c : κ) (next : Except ε (ρ c) → Prog κ ρ ε α)

namespace Prog
variable {κ : Type} {ρ : κ → Type} {ε α β : Type}

def bind (p : Prog κ ρ ε α) (f : α → Prog κ ρ ε β) : Prog κ ρ ε β :=
  match p with
  | .done (.ok a) => f a
  | .done (.error e) => .done (.error e)
  | .call c next => .call c fun r => (next r).bind f

instance : Monad (Prog κ ρ ε) where
  pure a := .done (.ok a)
  bind := bind

/-- The outcome of a program as a value, for an exception handler to look at. -/
def attempt : Prog κ ρ ε α → Prog κ ρ ε (Except ε α)
  | .done r => .done (.ok r)
  | .call c next => .call c fun r => (next r).attempt

/-- One call. -/
def invoke (c : κ) : Prog κ ρ ε (ρ c) := .call c .done

@[simp] theorem pure_bind (a : α) (f : α → Prog κ ρ ε β) : (pure a >>= f) = f a := rfl
@[simp] theorem done_ok_bind (a : α) (f : α → Prog κ ρ ε β) :
    ((.done (.ok a) : Prog κ ρ ε α) >>= f) = f a := rfl
@[simp] theorem done_error_bind (e : ε) (f : α → Prog κ ρ ε β) :
    ((.done (.error e) : Prog κ ρ ε α) >>= f) = .done (.error e) := rfl
@[simp] theorem call_bind (c : κ) (next : Except ε (ρ c) → Prog κ ρ ε α)
    (f : α → Prog κ ρ ε β) : (.call c next >>= f) = .call c fun r => next r >>= f := rfl

end Prog

/-! ## Programs alone -/

section Solo
variable {κ : Type} {ρ : κ → Type} {ε α β ι χ : Type} {σ : Type u}
  (exec : ι → χ → (c : κ) → σ → Except ε (ρ c) × σ) (i : ι) (x : χ)

/-- A program that nothing comes between, where the environment always chooses `x`. -/
def Prog.solo : Prog κ ρ ε α → σ → Except ε α × σ
  | .done r, s => (r, s)
  | .call c next, s => solo (next (exec i x c s).1) (exec i x c s).2

namespace Prog
variable {exec i x}

@[simp] theorem solo_done (r : Except ε α) (s : σ) :
    (.done r : Prog κ ρ ε α).solo exec i x s = (r, s) := rfl

@[simp] theorem solo_invoke (c : κ) (s : σ) :
    (invoke c : Prog κ ρ ε (ρ c)).solo exec i x s = exec i x c s := rfl

theorem solo_bind (p : Prog κ ρ ε α) (f : α → Prog κ ρ ε β) (s : σ) :
    (p >>= f).solo exec i x s = match p.solo exec i x s with
      | (.ok a, t) => (f a).solo exec i x t
      | (.error e, t) => (.error e, t) := by
  induction p generalizing s with
  | done r => cases r <;> rfl
  | call c next ih => exact ih _ _

theorem solo_bind_ok {p : Prog κ ρ ε α} {f : α → Prog κ ρ ε β} {s t : σ} {a : α}
    (h : p.solo exec i x s = (.ok a, t)) :
    (p >>= f).solo exec i x s = (f a).solo exec i x t := by
  rw [solo_bind, h]

theorem solo_attempt (p : Prog κ ρ ε α) (s : σ) :
    p.attempt.solo exec i x s = (.ok (p.solo exec i x s).1, (p.solo exec i x s).2) := by
  induction p generalizing s with
  | done r => rfl
  | call c next ih => exact ih _ _

end Prog
end Solo

/-! ## Contracts -/

variable {κ : Type} {ρ : κ → Type} {ε α β ι χ : Type} {σ : Type u}

/-- What a caller may rely on between its calls, what its calls guarantee, and what the
environment may choose for them. -/
structure Contract (κ ι χ : Type) (σ : Type u) where
  rely : ι → σ → σ → Prop
  guar : ι → σ → σ → Prop
  allowed : ι → χ → κ → σ → Prop
  rely_refl : ∀ i s, rely i s s
  rely_trans : ∀ i s t u, rely i s t → rely i t u → rely i s u

/-- The effect of a call, given the caller and the choice of the environment. -/
abbrev Exec (κ : Type) (ρ : κ → Type) (ε ι χ : Type) (σ : Type u) :=
  ι → χ → (c : κ) → σ → Except ε (ρ c) × σ

namespace Prog
variable (exec : Exec κ ρ ε ι χ σ) (K : Contract κ ι χ σ)

/-- The program keeps the guarantee of `i`, whatever the others do meanwhile, and ends with
`Q`. -/
def Holds (i : ι) (Q : Except ε α → σ → Prop) : Prog κ ρ ε α → σ → Prop
  | .done r, s => Q r s
  | .call c next, s => ∀ t, K.rely i s t → ∀ x, K.allowed i x c t →
      K.guar i t (exec i x c t).2 ∧ Holds i Q (next (exec i x c t).1) (exec i x c t).2

variable {exec K} {i : ι} {Q : Except ε α → σ → Prop} {p : Prog κ ρ ε α} {s : σ}

theorem Holds.imp {Q' : Except ε α → σ → Prop} (h : Holds exec K i Q p s)
    (hQ : ∀ r t, Q r t → Q' r t) : Holds exec K i Q' p s := by
  induction p generalizing s with
  | done r => exact hQ r s h
  | call c next ih =>
      intro t ht x hx
      obtain ⟨hguar, hnext⟩ := h t ht x hx
      exact ⟨hguar, ih _ hnext⟩

theorem Holds.bind {Q' : Except ε β → σ → Prop} {f : α → Prog κ ρ ε β}
    (h : Holds exec K i Q p s) (hok : ∀ a t, Q (.ok a) t → Holds exec K i Q' (f a) t)
    (herror : ∀ e t, Q (.error e) t → Q' (.error e) t) : Holds exec K i Q' (p >>= f) s := by
  induction p generalizing s with
  | done r =>
      cases r with
      | ok a => exact hok a s h
      | error e => exact herror e s h
  | call c next ih =>
      intro t ht x hx
      obtain ⟨hguar, hnext⟩ := h t ht x hx
      exact ⟨hguar, ih _ hnext⟩

theorem Holds.attempt {Q' : Except ε (Except ε α) → σ → Prop} (h : Holds exec K i Q p s)
    (hQ : ∀ r t, Q r t → Q' (.ok r) t) : Holds exec K i Q' p.attempt s := by
  induction p generalizing s with
  | done r => exact hQ r s h
  | call c next ih =>
      intro t ht x hx
      obtain ⟨hguar, hnext⟩ := h t ht x hx
      exact ⟨hguar, ih _ hnext⟩

/-- A program that goes on with the outcome of another. -/
theorem Holds.attempt_bind {Q' : Except ε β → σ → Prop} {f : Except ε α → Prog κ ρ ε β}
    (h : Holds exec K i Q p s) (hnext : ∀ r t, Q r t → Holds exec K i Q' (f r) t) :
    Holds exec K i Q' (p.attempt >>= f) s := by
  induction p generalizing s with
  | done r => exact hnext r s h
  | call c next ih =>
      intro t ht x hx
      obtain ⟨hguar, hnext'⟩ := h t ht x hx
      exact ⟨hguar, ih _ hnext'⟩

theorem Holds.invoke {c : κ} {Q : Except ε (ρ c) → σ → Prop}
    (h : ∀ t, K.rely i s t → ∀ x, K.allowed i x c t →
      K.guar i t (exec i x c t).2 ∧ Q (exec i x c t).1 (exec i x c t).2) :
    Holds exec K i Q (Prog.invoke c) s :=
  fun t ht x hx => h t ht x hx

/-- What both sides of a contract do to the state is done by every run. -/
theorem Holds.along {R : σ → σ → Prop} (h : Holds exec K i Q p s) (hrefl : ∀ s, R s s)
    (htrans : ∀ s t u, R s t → R t u → R s u) (hrely : ∀ s t, K.rely i s t → R s t)
    (hguar : ∀ s t, K.guar i s t → R s t) : Holds exec K i (fun r t => Q r t ∧ R s t) p s := by
  suffices hfrom : ∀ s₀, R s₀ s → Holds exec K i (fun r t => Q r t ∧ R s₀ t) p s from
    hfrom s (hrefl s)
  induction p generalizing s with
  | done r => exact fun s₀ hs₀ => ⟨h, hs₀⟩
  | call c next ih =>
      intro s₀ hs₀ t ht x hx
      obtain ⟨hstep, hnext⟩ := h t ht x hx
      have hreach : R s₀ (exec i x c t).2 :=
        htrans _ _ _ (htrans _ _ _ hs₀ (hrely _ _ ht)) (hguar _ _ hstep)
      exact ⟨hstep, ih _ hnext s₀ hreach⟩

/-- What the others do does not end the contract. -/
theorem Holds.rely {t : σ} (h : Holds exec K i Q p s) (ht : K.rely i s t)
    (hQ : ∀ r, Q r s → Q r t) : Holds exec K i Q p t := by
  cases p with
  | done r => exact hQ r h
  | call c next => exact fun u hu => h u (K.rely_trans i s t u ht hu)

end Prog

/-! ## Pools -/

/-- A shared state and the programs that run over it, as far as they have come. -/
structure Pool (κ : Type) (ρ : κ → Type) (ε α ι : Type) (σ : Type u) where
  shared : σ
  runs : ι → Option (Prog κ ρ ε α)

/-- What can happen next: a program starts, one makes its next call, or a command that is no
program's changes the shared state. -/
inductive Event (ι π χ ω : Type) where
  | start (i : ι) (program : π)
  | step (i : ι) (choice : χ)
  | other (command : ω)

namespace Pool
variable {π ω : Type} [DecidableEq ι] (program : π → Prog κ ρ ε α) (exec : Exec κ ρ ε ι χ σ)
  (others : ω → σ → σ)

/-- The interleavings. Each identity runs one program. -/
def machine : Machine (Pool κ ρ ε α ι σ) (Event ι π χ ω) Unit where
  step s
    | .start i p =>
        match s.runs i with
        | none => ((), { s with runs := Function.update s.runs i (some (program p)) })
        | some _ => ((), s)
    | .step i x =>
        match s.runs i with
        | some (.call c next) =>
            let (r, t) := exec i x c s.shared
            ((), { shared := t, runs := Function.update s.runs i (some (next r)) })
        | _ => ((), s)
    | .other command => ((), { s with shared := others command s.shared })

section Shared
variable {program exec others} {P : σ → Prop} {s : Pool κ ρ ε α ι σ}

/-- A program that starts leaves the shared state alone. -/
theorem shared_start (i : ι) (p : π) (hs : P s.shared) :
    P ((machine program exec others).step s (.start i p)).2.shared := by
  simp only [machine]
  cases s.runs i <;> exact hs

/-- A step makes the next call of a program, if it has one. -/
theorem shared_step (i : ι) (x : χ) (hs : P s.shared)
    (hcall : ∀ c next, s.runs i = some (.call c next) → P (exec i x c s.shared).2) :
    P ((machine program exec others).step s (.step i x)).2.shared := by
  simp only [machine]
  rcases hrun : s.runs i with _ | (_ | ⟨c, next⟩)
  · exact hs
  · exact hs
  · exact hcall c next hrun

end Shared

/-- A program whose steps nothing comes between does what it does alone. -/
theorem exists_final_solo (p : Prog κ ρ ε α) (i : ι) (x : χ) (s : Pool κ ρ ε α ι σ)
    (hrun : s.runs i = some p) : ∃ n,
      ((machine program exec others).final s (List.replicate n (.step i x))).shared =
        (p.solo exec i x s.shared).2 := by
  induction p generalizing s with
  | done r => exact ⟨0, rfl⟩
  | call c next ih =>
      have hstep : ((machine program exec others).step s (.step i x)).2 =
          ⟨(exec i x c s.shared).2,
            Function.update s.runs i (some (next (exec i x c s.shared).1))⟩ := by
        simp only [machine, hrun]
      obtain ⟨n, hn⟩ := ih (exec i x c s.shared).1
        ((machine program exec others).step s (.step i x)).2 (by rw [hstep]; simp)
      refine ⟨n + 1, ?_⟩
      rw [List.replicate_succ, Machine.final_cons, hn, hstep]
      rfl

/-- What the environment may choose. -/
def Allowed (K : Contract κ ι χ σ) (B : ω → σ → Prop) (s : Pool κ ρ ε α ι σ) :
    Event ι π χ ω → Prop
  | .start _ _ => True
  | .step i x => ∀ c next, s.runs i = some (.call c next) → K.allowed i x c s.shared
  | .other command => B command s.shared

/-- Every program of the pool keeps its side. -/
def AllHold (K : Contract κ ι χ σ) (s : Pool κ ρ ε α ι σ) : Prop :=
  ∀ i p, s.runs i = some p → p.Holds exec K i (fun _ _ => True) s.shared

variable {program exec others} {K : Contract κ ι χ σ} {B : ω → σ → Prop}

theorem AllHold.step (hprogram : ∀ p i s, (program p).Holds exec K i (fun _ _ => True) s)
    (hguar : ∀ i j s t, i ≠ j → K.guar j s t → K.rely i s t)
    (hothers : ∀ i command s, B command s → K.rely i s (others command s))
    {s : Pool κ ρ ε α ι σ} {e : Event ι π χ ω} (h : AllHold exec K s) (he : Allowed K B s e) :
    AllHold exec K ((machine program exec others).step s e).2 := by
  intro i p hp
  cases e with
  | start j p' =>
      cases hrun : s.runs j with
      | some _ =>
          simp only [machine, hrun] at hp ⊢
          exact h i p hp
      | none =>
          simp only [machine, hrun] at hp ⊢
          by_cases hij : i = j
          · subst hij
            obtain rfl : program p' = p := by simpa using hp
            exact hprogram p' i _
          · exact h i p (by simpa [hij] using hp)
  | step j x =>
      match hrun : s.runs j with
      | none | some (.done _) =>
          simp only [machine, hrun] at hp ⊢
          exact h i p hp
      | some (.call c next) =>
          simp only [machine, hrun] at hp ⊢
          obtain ⟨hstep, hnext⟩ := h j _ hrun s.shared (K.rely_refl j _) x (he c next hrun)
          by_cases hij : i = j
          · subst hij
            obtain rfl : next (exec i x c s.shared).1 = p := by simpa using hp
            exact hnext
          · exact (h i p (by simpa [hij] using hp)).rely (hguar i j _ _ hij hstep) fun _ _ => trivial
  | other command =>
      exact (h i p hp).rely (hothers i command _ he) fun _ _ => trivial

/-- In every interleaving each program keeps its side of the contract. -/
theorem run_holds (hprogram : ∀ p i s, (program p).Holds exec K i (fun _ _ => True) s)
    (hguar : ∀ i j s t, i ≠ j → K.guar j s t → K.rely i s t)
    (hothers : ∀ i command s, B command s → K.rely i s (others command s))
    {s : Pool κ ρ ε α ι σ} {es : List (Event ι π χ ω)} (h : AllHold exec K s)
    (hes : (machine program exec others).Guarded (Allowed K B) s es) :
    AllHold exec K ((machine program exec others).final s es) :=
  hes.invariant (fun _ _ hs he => hs.step hprogram hguar hothers he) h

omit [DecidableEq ι] in
/-- The guarantee of the call a program makes. -/
theorem AllHold.guar {s : Pool κ ρ ε α ι σ} {i : ι} {x : χ} (h : AllHold exec K s)
    {c : κ} {next : Except ε (ρ c) → Prog κ ρ ε α} (hrun : s.runs i = some (.call c next))
    (hx : K.allowed i x c s.shared) : K.guar i s.shared (exec i x c s.shared).2 :=
  (h i _ hrun s.shared (K.rely_refl i _) x hx).1

end Pool
end Lib
