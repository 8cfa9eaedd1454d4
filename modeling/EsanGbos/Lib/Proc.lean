import Mathlib.Order.Defs.Unbundled
import EsanGbos.Lib.Machine

/-!
# Procedures over a mutable state

A procedure reads and writes a state and then answers or raises. What it wrote
before it raised stays written: undoing it is the program's own business, so a
missing rollback can be seen.

## Main definitions

* `Proc` — the monad.
* `Proc.run_bind`, `Proc.run_lift_bind` and their companions — running a sequence.
* `Proc.rejectIf` — a check that raises when its condition holds.
* `Proc.Respects` — the states before and after are related, whatever happens.
-/
namespace Lib

/-- From a state to an answer or an exception, and the state left behind. -/
structure Proc (ε σ α : Type) where
  run : σ → Except ε α × σ

namespace Proc
variable {ε σ α β : Type}

instance : Monad (Proc ε σ) where
  pure a := ⟨fun s => (.ok a, s)⟩
  bind x f := ⟨fun s =>
    match x.run s with
    | (.ok a, s') => (f a).run s'
    | (.error e, s') => (.error e, s')⟩

instance : MonadStateOf σ (Proc ε σ) where
  get := ⟨fun s => (.ok s, s)⟩
  set s' := ⟨fun _ => (.ok (), s')⟩
  modifyGet f := ⟨fun s => (.ok (f s).1, (f s).2)⟩

instance : MonadExceptOf ε (Proc ε σ) where
  throw e := ⟨fun s => (.error e, s)⟩
  tryCatch x h := ⟨fun s =>
    match x.run s with
    | (.ok a, s') => (.ok a, s')
    | (.error e, s') => (h e).run s'⟩

/-- A check or a computation that does not touch the state. -/
instance : MonadLift (Except ε) (Proc ε σ) where
  monadLift x := ⟨fun s => (x, s)⟩

/-- A transaction: what was written is undone when an exception leaves it. -/
def atomically (x : Proc ε σ α) : Proc ε σ α := ⟨fun s =>
  match x.run s with
  | (.ok a, s') => (.ok a, s')
  | (.error e, _) => (.error e, s)⟩

/-! ## Running a sequence -/

theorem run_bind (x : Proc ε σ α) (f : α → Proc ε σ β) (s : σ) :
    (x >>= f).run s = match x.run s with
      | (.ok a, s') => (f a).run s'
      | (.error e, s') => (.error e, s') := rfl

theorem run_bind_ok {x : Proc ε σ α} {f : α → Proc ε σ β} {s s' : σ} {a : α}
    (h : x.run s = (.ok a, s')) : (x >>= f).run s = (f a).run s' := by rw [run_bind, h]

theorem run_bind_error {x : Proc ε σ α} {f : α → Proc ε σ β} {s s' : σ} {e : ε}
    (h : x.run s = (.error e, s')) : (x >>= f).run s = (.error e, s') := by rw [run_bind, h]

@[simp] theorem run_pure (a : α) (s : σ) : (pure a : Proc ε σ α).run s = (.ok a, s) := rfl
@[simp] theorem run_throw (e : ε) (s : σ) : (throw e : Proc ε σ α).run s = (.error e, s) := rfl
@[simp] theorem run_set (s' s : σ) : (set s' : Proc ε σ PUnit).run s = (.ok (), s') := rfl
@[simp] theorem run_lift (x : Except ε α) (s : σ) : (liftM x : Proc ε σ α).run s = (x, s) := rfl
@[simp] theorem run_get_bind (f : σ → Proc ε σ β) (s : σ) : (get >>= f).run s = (f s).run s := rfl
@[simp] theorem run_getThe_bind (f : σ → Proc ε σ β) (s : σ) :
    (getThe σ >>= f).run s = (f s).run s := rfl
@[simp] theorem run_modify (g : σ → σ) (s : σ) :
    (modify g : Proc ε σ PUnit).run s = (.ok (), g s) := rfl
@[simp] theorem run_modify_bind (g : σ → σ) (f : PUnit → Proc ε σ β) (s : σ) :
    ((modify g : Proc ε σ PUnit) >>= f).run s = (f ()).run (g s) := rfl

@[simp] theorem run_throw_bind (e : ε) (f : α → Proc ε σ β) (s : σ) :
    ((throw e : Proc ε σ α) >>= f).run s = (.error e, s) := rfl

/-- A check either stops the sequence or hands its value on. -/
theorem run_lift_bind (x : Except ε α) (f : α → Proc ε σ β) (s : σ) :
    ((liftM x : Proc ε σ α) >>= f).run s = match x with
      | .ok a => (f a).run s
      | .error e => (.error e, s) := by
  cases x <;> rfl

/-- A check leaves the state alone. -/
theorem run_lift_snd {x : Except ε α} {f : α → Proc ε σ β} {s : σ} {P : σ → Prop} (hs : P s)
    (h : ∀ a, x = .ok a → P ((f a).run s).2) : P (((liftM x : Proc ε σ α) >>= f).run s).2 := by
  rw [run_lift_bind]
  cases x with
  | ok a => exact h a rfl
  | error e => exact hs

theorem run_map (g : α → β) (x : Proc ε σ α) (s : σ) :
    (g <$> x).run s = ((x.run s).1.map g, (x.run s).2) := by
  change (x >>= fun a => pure (g a)).run s = _
  rw [run_bind]
  rcases x.run s with ⟨_ | _, s'⟩ <;> rfl

/-- An exception handler sees what was written before the exception. -/
theorem run_tryCatch (x : Proc ε σ α) (h : ε → Proc ε σ α) (s : σ) :
    (tryCatch x h).run s = match x.run s with
      | (.ok a, s') => (.ok a, s')
      | (.error e, s') => (h e).run s' := rfl

theorem run_atomically (x : Proc ε σ α) (s : σ) :
    (atomically x).run s = match x.run s with
      | (.ok a, s') => (.ok a, s')
      | (.error e, _) => (.error e, s) := rfl

theorem run_atomically_ok {x : Proc ε σ α} {s s' : σ} {a : α} :
    (atomically x).run s = (.ok a, s') ↔ x.run s = (.ok a, s') := by
  rw [run_atomically]
  rcases x.run s with ⟨_ | _, _⟩ <;> simp

/-- A transaction that fails leaves the state alone. -/
theorem run_atomically_snd {x : Proc ε σ α} {s : σ} {P : σ → Prop} (hs : P s)
    (h : ∀ a s', x.run s = (.ok a, s') → P s') : P ((atomically x).run s).2 := by
  rw [run_atomically]
  split
  next a s' heq => exact h a s' heq
  next => exact hs

/-- What the first part leaves, the second one keeps. -/
theorem run_bind_snd {x : Proc ε σ α} {f : α → Proc ε σ β} {s : σ} {P : σ → Prop}
    (hx : P (x.run s).2) (hf : ∀ a s', x.run s = (.ok a, s') → P s' → P ((f a).run s').2) :
    P ((x >>= f).run s).2 := by
  rw [run_bind]
  rcases heq : x.run s with ⟨_ | a, s'⟩
  all_goals rw [heq] at hx
  · exact hx
  · exact hf a s' heq hx

/-- A sequence answers when each part does. -/
theorem run_bind_eq_ok {x : Proc ε σ α} {f : α → Proc ε σ β} {s s' : σ} {b : β} :
    (x >>= f).run s = (.ok b, s') ↔
      ∃ a s₁, x.run s = (.ok a, s₁) ∧ (f a).run s₁ = (.ok b, s') := by
  rw [run_bind]
  rcases x.run s with ⟨_ | a, s₁⟩ <;> simp

/-- A sequence that starts with a check answers when the check passes and the rest answers. -/
theorem run_lift_bind_eq_ok {ε σ α β : Type} {x : Except ε α} {f : α → Proc ε σ β} {s s' : σ}
    {b : β} : ((liftM x : Proc ε σ α) >>= f).run s = (.ok b, s') ↔
      ∃ a, x = .ok a ∧ (f a).run s = (.ok b, s') := by
  rw [run_lift_bind]
  cases x <;> simp

theorem run_ite (c : Prop) [Decidable c] (x y : Proc ε σ α) (s : σ) :
    (if c then x else y).run s = if c then x.run s else y.run s := by split <;> rfl

theorem ok_bind (a : α) (f : α → Except ε β) : (Except.ok a >>= f) = f a := rfl

/-- A sequence of checks passes when each does. -/
theorem bind_eq_ok {x : Except ε α} {f : α → Except ε β} {b : β} :
    x >>= f = .ok b ↔ ∃ a, x = .ok a ∧ f a = .ok b := by
  cases x with
  | ok a => exact ⟨fun h => ⟨a, rfl, h⟩, fun ⟨_, ha, hb⟩ => Except.ok.inj ha ▸ hb⟩
  | error e => exact ⟨fun h => (by cases h), fun ⟨_, ha, _⟩ => (by cases ha)⟩

/-- A check that raises when its condition holds. -/
def rejectIf {ε : Type} (c : Prop) [Decidable c] (e : ε) : Except ε Unit :=
  if c then .error e else .ok ()

theorem rejectIf_eq_ok {ε : Type} {c : Prop} [Decidable c] {e : ε} {u : Unit} :
    rejectIf c e = .ok u ↔ ¬c := by
  unfold rejectIf
  split <;> simp_all

/-- A check of every element passes when each check does. -/
theorem forM_eq_ok {ε α : Type} {f : α → Except ε Unit} {l : List α} {u : Unit} :
    l.forM f = .ok u ↔ ∀ a ∈ l, f a = .ok u := by
  induction l with
  | nil => simp [pure, Except.pure]
  | cons a l ih =>
      change (f a >>= fun _ => l.forM f) = _ ↔ _
      rw [bind_eq_ok, List.forall_mem_cons, ← ih]
      exact ⟨fun ⟨_, h⟩ => h, fun h => ⟨u, h⟩⟩

/-- A check before another one. -/
theorem bind_unit_eq_ok {ε : Type} {x : Except ε Unit} {f : Unit → Except ε Unit} :
    (x >>= f) = .ok () ↔ x = .ok () ∧ f () = .ok () := by
  rw [bind_eq_ok]
  constructor
  · rintro ⟨_, hx, hf⟩
    exact ⟨hx, hf⟩
  · rintro ⟨hx, hf⟩
    exact ⟨(), hx, hf⟩

theorem throw_bind_eq {ε α β : Type} {e : ε} {f : α → Except ε β} :
    (throw e >>= f) = throw e := rfl

theorem ite_throw_eq_ok {ε α : Type} {c : Prop} [Decidable c] {e : ε} {x : Except ε α} {a : α} :
    (if c then throw e else x) = .ok a ↔ ¬c ∧ x = .ok a := by
  by_cases h : c <;> simp [h, throw, throwThe, MonadExceptOf.throw]

theorem ite_else_throw_eq_ok {ε α : Type} {c : Prop} [Decidable c] {e : ε} {x : Except ε α}
    {a : α} : (if c then x else throw e) = .ok a ↔ c ∧ x = .ok a := by
  by_cases h : c <;> simp [h, throw, throwThe, MonadExceptOf.throw]

/-- A loop of checks, none of which leaves it. -/
theorem forIn_eq_ok {ε α : Type} {l : List α} {f : α → PUnit → Except ε (ForInStep PUnit)}
    (hf : ∀ a, f a PUnit.unit ≠ .ok (.done PUnit.unit)) :
    forIn l PUnit.unit f = .ok PUnit.unit ↔
      ∀ a ∈ l, f a PUnit.unit = .ok (.yield PUnit.unit) := by
  induction l with
  | nil => simp [pure, Except.pure]
  | cons a l ih =>
      rw [List.forIn_cons, List.forall_mem_cons]
      cases hfa : f a PUnit.unit with
      | error e => simp [bind, Except.bind]
      | ok step =>
          cases step with
          | done u => exact absurd hfa (hf a)
          | yield u => exact ih.trans (by simp)

/-- What each element gives, if every one gives something. -/
theorem forall₂_of_mapM {ε α β : Type} {f : α → Except ε β} {xs : List α} {ys : List β}
    (h : xs.mapM f = .ok ys) : List.Forall₂ (fun x y => f x = .ok y) xs ys := by
  induction xs generalizing ys with
  | nil =>
      obtain rfl := Except.ok.inj h
      exact .nil
  | cons x xs ih =>
      rw [List.mapM_cons] at h
      obtain ⟨y, hy, h⟩ := bind_eq_ok.mp h
      obtain ⟨rest, hrest, h⟩ := bind_eq_ok.mp h
      obtain rfl := Except.ok.inj h
      exact .cons hy (ih hrest)

/-! ## What a procedure does to the state

A procedure respects a relation when every state is related to the one it leaves behind. With
a preorder this composes, so a sequence is taken apart one call at a time. -/

def Respects (R : σ → σ → Prop) (x : Proc ε σ α) : Prop := ∀ s, R s (x.run s).2

section Respects
variable {R : σ → σ → Prop}

theorem respects_ite {c : Prop} [Decidable c] {x y : Proc ε σ α} (hx : c → Respects R x)
    (hy : ¬c → Respects R y) : Respects R (if c then x else y) := by
  split
  next h => exact hx h
  next h => exact hy h

/-- Each state may have its own reason. -/
theorem respects_get {f : σ → Proc ε σ β} (h : ∀ s, R s ((f s).run s).2) :
    Respects R (get >>= f) := h

variable [IsPreorder σ R]

theorem respects_pure (a : α) : Respects R (pure a : Proc ε σ α) := fun s => refl s
theorem respects_throw (e : ε) : Respects R (throw e : Proc ε σ α) := fun s => refl s
theorem respects_lift (x : Except ε α) : Respects R (liftM x : Proc ε σ α) := fun s => refl s

theorem respects_bind {x : Proc ε σ α} {f : α → Proc ε σ β} (hx : Respects R x)
    (hf : ∀ a, Respects R (f a)) : Respects R (x >>= f) := by
  intro s
  have hfirst := hx s
  rw [run_bind]
  rcases heq : x.run s with ⟨_ | a, s₁⟩
  all_goals rw [heq] at hfirst
  · exact hfirst
  · exact IsTrans.trans _ _ _ hfirst (hf a s₁)

theorem respects_forM {f : α → Proc ε σ PUnit} (hf : ∀ a, Respects R (f a)) (l : List α) :
    Respects R (l.forM f) := by
  induction l with
  | nil => exact respects_pure _
  | cons a l ih => exact respects_bind (hf a) fun _ => ih

theorem respects_lift_bind {x : Except ε α} {f : α → Proc ε σ β} (hf : ∀ a, Respects R (f a)) :
    Respects R ((liftM x : Proc ε σ α) >>= f) := respects_bind (respects_lift x) hf

theorem respects_atomically {x : Proc ε σ α} (hx : Respects R x) :
    Respects R (atomically x) := by
  intro s
  exact run_atomically_snd (refl s) fun a s' h => by simpa [h] using hx s

end Respects

end Proc
end Lib
