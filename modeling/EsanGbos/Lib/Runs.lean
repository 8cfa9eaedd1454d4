import EsanGbos.Lib.Prog

/-!
# Runs of a program in an unknown environment

A program by itself, whose calls may be answered in any way. A run is the list of its calls with
the answers, and an outcome; every environment makes one of these runs.

## Main definitions

* `Prog.Runs` — the runs of a program.
* `Prog.trace` — its run in an environment that always answers a call alike.
* `Prog.Only` — all its calls are of a kind.

## Main results

* `Prog.runs_bind`, `Prog.runs_invoke_bind`, `Prog.runs_attempt_bind` — a run of a sequence.
-/
namespace Lib

namespace Prog
variable {κ : Type} {ρ : κ → Type} {ε α β : Type}

/-- The program makes these calls, gets these answers and ends so. -/
def Runs : Prog κ ρ ε α → List (Σ c, Except ε (ρ c)) → Except ε α → Prop
  | .done r, events, outcome => events = [] ∧ outcome = r
  | .call c next, events, outcome => ∃ answer rest, events = ⟨c, answer⟩ :: rest ∧
      Runs (next answer) rest outcome

/-- The run in an environment without a state, and its outcome. -/
def trace (answer : (c : κ) → Except ε (ρ c)) :
    Prog κ ρ ε α → List (Σ c, Except ε (ρ c)) × Except ε α
  | .done r => ([], r)
  | .call c next =>
      (⟨c, answer c⟩ :: (trace answer (next (answer c))).1, (trace answer (next (answer c))).2)

theorem runs_trace (answer : (c : κ) → Except ε (ρ c)) (p : Prog κ ρ ε α) :
    p.Runs (p.trace answer).1 (p.trace answer).2 := by
  induction p with
  | done r => exact ⟨rfl, rfl⟩
  | call c next ih => exact ⟨answer c, _, rfl, ih (answer c)⟩

/-- An exception. -/
def raise (e : ε) : Prog κ ρ ε α := .done (.error e)

variable {p : Prog κ ρ ε α} {f : α → Prog κ ρ ε β} {c : κ}
  {events : List (Σ c, Except ε (ρ c))} {outcome : Except ε β}

@[simp] theorem runs_pure {b : β} :
    Runs (pure b : Prog κ ρ ε β) events outcome ↔ events = [] ∧ outcome = .ok b := Iff.rfl

@[simp] theorem runs_raise {e : ε} :
    Runs (raise e : Prog κ ρ ε β) events outcome ↔ events = [] ∧ outcome = .error e := Iff.rfl

/-- A computation that makes no call. -/
theorem runs_done_bind {r : Except ε α} :
    Runs ((.done r : Prog κ ρ ε α) >>= f) events outcome ↔
      (∃ e, r = .error e ∧ events = [] ∧ outcome = .error e) ∨
        ∃ a, r = .ok a ∧ Runs (f a) events outcome := by
  cases r with
  | ok a =>
      constructor
      · exact fun h => .inr ⟨a, rfl, h⟩
      · rintro (⟨e, he, -⟩ | ⟨a', ha, h⟩)
        · cases he
        · obtain rfl := Except.ok.inj ha
          exact h
  | error e =>
      constructor
      · exact fun h => .inl ⟨e, rfl, h⟩
      · rintro (⟨e', he, h⟩ | ⟨a, ha, -⟩)
        · obtain rfl := Except.error.inj he
          exact h
        · cases ha

/-- A run of a sequence is a run of its first part that raises, or one that is gone on with. -/
theorem runs_bind : Runs (p >>= f) events outcome ↔
    (∃ e, Runs p events (.error e) ∧ outcome = .error e) ∨
      ∃ a before after, Runs p before (.ok a) ∧ Runs (f a) after outcome ∧
        events = before ++ after := by
  induction p generalizing events with
  | done r =>
      cases r with
      | ok a =>
          constructor
          · intro h
            exact .inr ⟨a, [], events, ⟨rfl, rfl⟩, h, rfl⟩
          · rintro (⟨e, ⟨-, h⟩, -⟩ | ⟨a', before, after, ⟨rfl, h⟩, hf, rfl⟩)
            · cases h
            · obtain rfl := Except.ok.inj h
              exact hf
      | error e =>
          constructor
          · rintro ⟨rfl, rfl⟩
            exact .inl ⟨e, ⟨rfl, rfl⟩, rfl⟩
          · rintro (⟨e', ⟨rfl, h⟩, rfl⟩ | ⟨a', before, after, ⟨-, h⟩, -⟩)
            · obtain rfl := Except.error.inj h
              exact ⟨rfl, rfl⟩
            · cases h
  | call c next ih =>
      constructor
      · rintro ⟨answer, rest, rfl, h⟩
        rcases (ih answer).mp h with ⟨e, hp, rfl⟩ | ⟨a, before, after, hp, hf, rfl⟩
        · exact .inl ⟨e, ⟨answer, rest, rfl, hp⟩, rfl⟩
        · exact .inr ⟨a, _, after, ⟨answer, before, rfl, hp⟩, hf, rfl⟩
      · rintro (⟨e, ⟨answer, rest, rfl, hp⟩, rfl⟩ | ⟨a, _, after, ⟨answer, before, rfl, hp⟩, hf, rfl⟩)
        · exact ⟨answer, rest, rfl, (ih answer).mpr (.inl ⟨e, hp, rfl⟩)⟩
        · exact ⟨answer, before ++ after, rfl, (ih answer).mpr (.inr ⟨a, before, after, hp, hf, rfl⟩)⟩

/-- A run that begins with a call. -/
theorem runs_invoke_bind {f : ρ c → Prog κ ρ ε β} :
    Runs ((invoke c : Prog κ ρ ε (ρ c)) >>= f) events outcome ↔
      (∃ e, events = [⟨c, .error e⟩] ∧ outcome = .error e) ∨
        ∃ a rest, events = ⟨c, .ok a⟩ :: rest ∧ Runs (f a) rest outcome := by
  constructor
  · rintro ⟨answer, rest, rfl, h⟩
    cases answer with
    | error e =>
        obtain ⟨rfl, rfl⟩ := h
        exact .inl ⟨e, rfl, rfl⟩
    | ok a => exact .inr ⟨a, rest, rfl, h⟩
  · rintro (⟨e, rfl, rfl⟩ | ⟨a, rest, rfl, h⟩)
    · exact ⟨.error e, [], rfl, rfl, rfl⟩
    · exact ⟨.ok a, rest, rfl, h⟩

/-- A run that begins with a call whose exceptions are handled. -/
theorem runs_attempt_invoke_bind {f : Except ε (ρ c) → Prog κ ρ ε β} :
    Runs ((invoke c : Prog κ ρ ε (ρ c)).attempt >>= f) events outcome ↔
      ∃ answer rest, events = ⟨c, answer⟩ :: rest ∧ Runs (f answer) rest outcome := Iff.rfl

/-- A run of a program whose exceptions are handled. -/
theorem runs_attempt_bind {f : Except ε α → Prog κ ρ ε β} :
    Runs (p.attempt >>= f) events outcome ↔ ∃ r before after, Runs p before r ∧
      Runs (f r) after outcome ∧ events = before ++ after := by
  induction p generalizing events with
  | done r =>
      constructor
      · intro h
        exact ⟨r, [], events, ⟨rfl, rfl⟩, h, rfl⟩
      · rintro ⟨r', before, after, ⟨rfl, rfl⟩, hf, rfl⟩
        exact hf
  | call c next ih =>
      constructor
      · rintro ⟨answer, rest, rfl, h⟩
        obtain ⟨r, before, after, hp, hf, rfl⟩ := (ih answer).mp h
        exact ⟨r, _, after, ⟨answer, before, rfl, hp⟩, hf, rfl⟩
      · rintro ⟨r, _, after, ⟨answer, before, rfl, hp⟩, hf, rfl⟩
        exact ⟨answer, before ++ after, rfl, (ih answer).mpr ⟨r, before, after, hp, hf, rfl⟩⟩

/-! ## Which calls are made -/

/-- The program only makes calls of a kind. -/
def Only (P : κ → Prop) : Prog κ ρ ε α → Prop
  | .done _ => True
  | .call c next => P c ∧ ∀ answer, Only P (next answer)

variable {P : κ → Prop}

theorem Only.bind (hp : Only P p) (hf : ∀ a, Only P (f a)) : Only P (p >>= f) := by
  induction p with
  | done r =>
      cases r with
      | ok a => exact hf a
      | error e => trivial
  | call c next ih => exact ⟨hp.1, fun answer => ih answer (hp.2 answer)⟩

theorem Only.attempt (hp : Only P p) : Only P p.attempt := by
  induction p with
  | done r => trivial
  | call c next ih => exact ⟨hp.1, fun answer => ih answer (hp.2 answer)⟩

theorem only_invoke (h : P c) : Only P (invoke c : Prog κ ρ ε (ρ c)) := ⟨h, fun _ => trivial⟩

/-- So are the calls of its runs. -/
theorem Only.runs {outcome : Except ε α} (hp : Only P p) (h : p.Runs events outcome) :
    ∀ e ∈ events, P e.1 := by
  induction p generalizing events with
  | done r =>
      obtain ⟨rfl, -⟩ := h
      intro e he
      cases he
  | call c next ih =>
      obtain ⟨answer, rest, rfl, h⟩ := h
      rw [List.forall_mem_cons]
      exact ⟨hp.1, ih answer (hp.2 answer) h⟩

end Prog
end Lib
