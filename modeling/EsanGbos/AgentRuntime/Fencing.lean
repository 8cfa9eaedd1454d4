import EsanGbos.AgentRuntime.Operations

/-!
# Attempts over whole runs

Whatever the workers call and in whatever order, the maps stay coherent, and the
attempts of a task that have been handed out are exactly those up to its attempt
number, each once. So a worker that holds an old attempt can change nothing.

## Main definitions

* `Repository.run_coherent` — the representation invariant after every run.
* `Repository.handouts` — the attempts that the claims of a run handed out.
* `Repository.run_fenced` — fencing, and the finality of finished tasks.
-/
namespace EsanGbos.AgentRuntime.Repository
open Lib

theorem run_consistent (py : Stdlib) (calls : List Call) :
    Consistent ((machine py).final {} calls) :=
  reachable_consistent ⟨calls, rfl⟩ consistent_empty

/-- The representation invariant of the maps about tasks holds after every run. -/
theorem run_coherent (py : Stdlib) (calls : List Call) :
    Coherent ((machine py).final {} calls) := (run_consistent py calls).coherent

/-! ## Attempts -/

/-- The attempt number of a task, zero before the task exists. -/
def attemptOf (s : Repository) (k : String × String) : ℤ :=
  ((s.tasks.get? k).map (·.attempt)).getD 0

/-- A stored transition moves the attempt number by the events named `leased`. -/
theorem Commit.attemptOf_eq {s s' : Repository} {t t' : AgentTaskMetadata}
    {kinds : List EventType} {events : List TimelineEventMetadata} (h : Commit s s' t' events)
    (hget : s.tasks.get? t.key = some t) (hchange : Change t t' kinds) (k : String × String) :
    attemptOf s' k = if k = t'.key then attemptOf s k + (kinds.count EventType.leased : ℕ)
      else attemptOf s k := by
  unfold attemptOf
  rw [h.tasks]
  split
  next hk =>
    rw [hk, hchange.key_eq, hget]
    exact hchange.attempt_eq
  next => rfl

/-- The events of a transition name at most one attempt. -/
theorem Change.leased_count {t t' : AgentTaskMetadata} {kinds : List EventType}
    (h : Change t t' kinds) :
    kinds.count EventType.leased = if EventType.leased ∈ kinds then 1 else 0 := by
  cases h <;> rfl

/-- The attempt number of the task that is handed out rises by one, and no other. -/
def Advances (s s' : Repository) : Option Handout → Prop
  | none => ∀ k, attemptOf s' k = attemptOf s k
  | some (k, n) => n = attemptOf s k + 1 ∧
      ∀ k', attemptOf s' k' = if k' = k then n else attemptOf s k'

theorem Move.advances {s s' : Repository} {o : Option Handout} (h : Move s o s') :
    Advances s s' o := by
  cases h with
  | create t events _ hcommit hkinds htask hidem hwf hattempt =>
      intro k
      unfold attemptOf
      rw [hcommit.tasks]
      split
      next hk => rw [hk, htask]; exact hattempt
      next => rfl
  | change t t' kinds events _ hget hchange hcommit =>
      have heq := hcommit.attemptOf_eq hget hchange
      rw [Change.leased_count hchange] at heq
      have hold : attemptOf s t'.key = t.attempt := by
        unfold attemptOf
        rw [hchange.key_eq, hget]
        rfl
      have hnew := hchange.attempt_eq
      rw [Change.leased_count hchange] at hnew
      by_cases hleased : EventType.leased ∈ kinds
      · rw [if_pos hleased] at hnew heq
        rw [handoutOf, if_pos hleased]
        refine ⟨by rw [hold, hnew]; rfl, fun k => ?_⟩
        rw [heq]
        split
        next hk => rw [hk, hold, hnew]
        next => rfl
      · rw [handoutOf, if_neg hleased]
        intro k
        rw [heq, if_neg hleased]
        split <;> simp
  | deliver t p m now events _ hget hactive hcommit =>
      intro k
      rw [hcommit.attemptOf_eq hget (Change.succeed _ now hactive)]
      split <;> simp
  | file r => exact fun _ => rfl

theorem Settles.attemptOf_eq {s s' : Repository} (h : Settles s s') (k : String × String) :
    attemptOf s' k = attemptOf s k := by
  induction h with
  | refl => rfl
  | tail _ hmove ih => exact (hmove.advances k).trans ih

/-! ## Handouts -/

/-- The attempts that the claims of a run handed out. -/
def handouts (tr : List (Call × Except Raise Answer)) : List Handout :=
  tr.filterMap fun entry => handout entry.2

theorem handouts_append (tr : List (Call × Except Raise Answer)) (c : Call)
    (r : Except Raise Answer) : handouts (tr ++ [(c, r)]) = handouts tr ++ (handout r).toList := by
  rcases h : handout r with _ | o <;> simp [handouts, h]

/-- The attempts handed out so far are those up to the attempt numbers, each once. -/
structure HandedOut (given : List Handout) (s : Repository) : Prop where
  consistent : Consistent s
  nodup : given.Nodup
  mem_iff : ∀ k n, (k, n) ∈ given ↔ 1 ≤ n ∧ n ≤ attemptOf s k

theorem attemptOf_nonneg {s : Repository} (hs : Coherent s) (k : String × String) :
    0 ≤ attemptOf s k := by
  unfold attemptOf
  rcases hk : s.tasks.get? k with _ | t
  · exact le_rfl
  · exact (hs.wellFormed k t hk).attempt_nonneg

theorem HandedOut.step {given : List Handout} {s : Repository}
    {r : Except Raise Answer × Repository} (h : HandedOut given s) (heff : Effect s r) :
    HandedOut (given ++ (handout r.1).toList) r.2 := by
  have hcons := heff.consistent h.consistent
  obtain ⟨s₁, hsettles, ⟨hstate, hnone⟩ | ⟨⟨k, n⟩, hmove, hsome⟩⟩ := heff
  · refine ⟨hcons, by simpa [hnone] using h.nodup, fun k n => ?_⟩
    rw [hstate, Settles.attemptOf_eq hsettles, ← h.mem_iff]
    simp [hnone]
  · obtain ⟨hn, hattempts⟩ := hmove.advances
    rw [Settles.attemptOf_eq hsettles] at hn
    have hnonneg := attemptOf_nonneg h.consistent.coherent k
    refine ⟨hcons, ?_, fun k' n' => ?_⟩
    · -- The new attempt is one above all that were handed out for this task.
      rw [hsome, Option.toList_some, List.nodup_append_comm]
      refine List.nodup_cons.mpr ⟨fun hmem => ?_, h.nodup⟩
      have := (h.mem_iff k n).mp hmem
      omega
    · rw [hsome, Option.toList_some, List.mem_append, List.mem_singleton, h.mem_iff, hattempts,
        Settles.attemptOf_eq hsettles, Prod.mk.injEq]
      split
      next hk => subst hk; simp only [true_and]; omega
      next hk => simp [hk]

/-- The attempts of every run. -/
theorem run_handedOut (py : Stdlib) (calls : List Call) :
    HandedOut (handouts ((machine py).trace {} calls)) ((machine py).final {} calls) := by
  refine (machine py).trace_induction (P := fun tr s => HandedOut (handouts tr) s) ?_ ?_ calls
  · refine ⟨consistent_empty, List.nodup_nil, fun k n => ?_⟩
    simp only [handouts, List.filterMap_nil, List.not_mem_nil, attemptOf, Dict.get?_empty,
      Option.map_none, Option.getD_none, false_iff]
    omega
  · intro tr s c h
    rw [handouts_append]
    exact h.step (perform_effect h.consistent py c)

/-! ## Fencing -/

/-- A call that names an attempt shows at a task only if it names that task's attempt. -/
theorem Fenced.sameView {s s' : Repository} {k k' : String × String} {n : ℤ}
    (h : Fenced s k' n s') (hne : k = k' → n ≠ attemptOf s k) : SameView s s' k := by
  rcases h with rfl | ⟨⟨t, hget, hattempt⟩, -, hother⟩
  · exact SameView.refl _ k
  · by_cases hk : k = k'
    · refine absurd ?_ (hne hk)
      rw [hk, attemptOf, hget, ← hattempt]
      rfl
    · exact hother k hk

/-- No attempt is handed out twice. Once an attempt of a task has been handed out, a call
that carries another one changes nothing about the task, except in a newer attempt that
has been handed out in turn. A finished task stays as it is. -/
theorem run_fenced (py : Stdlib) (calls : List Call) :
    (handouts ((machine py).trace {} calls)).Nodup ∧
      (∀ (k : String × String) (attempt : ℤ) (c : Call) (k' : String × String)
        (expectedAttempt : ℤ),
        (k, attempt) ∈ handouts ((machine py).trace {} calls) →
        c.fence = some (k', expectedAttempt) → expectedAttempt ≠ attempt →
        ((k, expectedAttempt) ∈ handouts ((machine py).trace {} calls) →
          expectedAttempt < attempt) →
        SameView ((machine py).final {} calls)
          ((machine py).step ((machine py).final {} calls) c).2 k) ∧
      ∀ (k : String × String) (t : AgentTaskMetadata) (more : List Call),
        ((machine py).final {} calls).tasks.get? k = some t →
        t.status = .succeeded ∨ t.status = .deadLetter →
        ((machine py).final {} (calls ++ more)).tasks.get? k = some t := by
  have hrun := run_handedOut py calls
  refine ⟨hrun.nodup, ?_, ?_⟩
  · intro k attempt c k' e hgiven hfence hne hnewer
    refine (perform_fenced hrun.consistent py hfence).sameView fun hk => ?_
    rintro rfl
    rw [hrun.mem_iff] at hgiven hnewer
    have := hnewer (by omega)
    omega
  · intro k t more hget hfinished
    rw [Machine.final_append]
    refine (reachable_extends ⟨more, rfl⟩ hrun.consistent).terminal k t hget ?_
    rcases hfinished with h | h <;> rw [h] <;> rfl

end EsanGbos.AgentRuntime.Repository
