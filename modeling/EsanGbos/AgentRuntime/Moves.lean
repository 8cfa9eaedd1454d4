import Mathlib.Logic.Relation
import EsanGbos.AgentRuntime.Lifecycle

/-!
# Moves of the repository

A move is one consistent change of the maps: a task is created, one transition of its
life is stored and recorded, an invocation is filed, or a completion is delivered. An
operation makes several moves or none. What every move keeps, every operation keeps.

## Main definitions

* `Repository.Coherent` — the representation invariant of the maps about tasks.
* `Repository.Move` — the moves, each with the attempt it hands out, if any.
* `Repository.Consistent` — that invariant, with those of completions and invocations.
* `Repository.Extends` — what a move never takes back.
* `Repository.Move.consistent`, `Repository.Move.extends` — a move keeps all of this.
-/
namespace EsanGbos.AgentRuntime.Repository
open Lib

/-! ## The representation invariant -/

/-- The timeline of a task: numbered from zero, opened by its creation, with one
`leased` event for each attempt. -/
structure Logged (t : AgentTaskMetadata) (events : List TimelineEventMetadata) : Prop where
  sequence_eq : events.map (·.sequence) = List.range events.length
  first : events.head?.map (·.eventType) = some .created
  leased_count : ((events.map (·.eventType)).count .leased : ℤ) = t.attempt
  task : ∀ e ∈ events, e.siteId = t.siteId ∧ e.taskId = t.taskId

structure Coherent (s : Repository) : Prop where
  task_key : ∀ k t, s.tasks.get? k = some t → t.key = k
  wellFormed : ∀ k t, s.tasks.get? k = some t → WellFormed t
  idempotency_iff : ∀ k t, s.idempotency.get? k = some t ↔
    s.tasks.get? t.key = some t ∧ k = (t.siteId, t.idempotencyKey)
  deadLetter_iff : ∀ k, (s.deadLetters.get? k).isSome = true ↔
    ∃ t, s.tasks.get? k = some t ∧ t.status = .deadLetter
  deadLetter_attempts : ∀ k t d, s.tasks.get? k = some t → s.deadLetters.get? k = some d →
    d.attempts = t.attempt
  logged : ∀ k t, s.tasks.get? k = some t → ∃ events, s.timeline.get? k = some events ∧
    Logged t events
  timeline_task : ∀ k, (s.timeline.get? k).isSome = true → (s.tasks.get? k).isSome = true

theorem coherent_empty : Coherent {} := by
  constructor <;> simp

/-! ## Moves -/

/-- The maps about tasks after one task record and its events are stored. -/
structure Commit (s s' : Repository) (t' : AgentTaskMetadata)
    (events : List TimelineEventMetadata) : Prop where
  tasks : ∀ k, s'.tasks.get? k = if k = t'.key then some t' else s.tasks.get? k
  idempotency : ∀ k, s'.idempotency.get? k =
    if k = (t'.siteId, t'.idempotencyKey) then some t' else s.idempotency.get? k
  timeline : ∀ k, s'.timeline.get? k =
    if k = t'.key then some ((s.timeline.get? k).getD [] ++ events) else s.timeline.get? k
  deadLetters : ∃ d, d.attempts = t'.attempt ∧ ∀ k, s'.deadLetters.get? k =
    if k = t'.key ∧ t'.status = .deadLetter then some d else s.deadLetters.get? k
  numbered : events.map (·.sequence)
    = List.range' ((s.timeline.get? t'.key).getD []).length events.length
  task : ∀ e ∈ events, e.siteId = t'.siteId ∧ e.taskId = t'.taskId

/-- The maps about completions and invocations. -/
def SameBooks (s s' : Repository) : Prop :=
  s'.proposals = s.proposals ∧ s'.proposalIdempotency = s.proposalIdempotency ∧
    s'.materializations = s.materializations ∧ s'.invocations = s.invocations ∧
    s'.invocationIdempotency = s.invocationIdempotency

/-- A task and the number of the attempt a claim hands out. -/
abbrev Handout := (String × String) × ℤ

def handoutOf (t' : AgentTaskMetadata) (kinds : List EventType) : Option Handout :=
  if .leased ∈ kinds then some (t'.key, t'.attempt) else none

inductive Move (s : Repository) : Option Handout → Repository → Prop where
  | create (t : AgentTaskMetadata) (events : List TimelineEventMetadata) (s' : Repository)
      (hcommit : Commit s s' t events) (hkinds : events.map (·.eventType) = [.created])
      (htask : s.tasks.get? t.key = none)
      (hidem : s.idempotency.get? (t.siteId, t.idempotencyKey) = none)
      (hwf : WellFormed t) (hattempt : t.attempt = 0) (hqueued : t.status = .queued)
      (hbooks : SameBooks s s') : Move s none s'
  | change (t t' : AgentTaskMetadata) (kinds : List EventType)
      (events : List TimelineEventMetadata) (s' : Repository)
      (hget : s.tasks.get? t.key = some t) (hchange : Change t t' kinds)
      (hcommit : Commit s s' t' events) (hkinds : events.map (·.eventType) = kinds)
      (hbooks : SameBooks s s') : Move s (handoutOf t' kinds) s'
  | deliver (t : AgentTaskMetadata) (p : ActionProposalRecord)
      (m : MaterializationOutboxRecord) (now : Datetime)
      (events : List TimelineEventMetadata) (s' : Repository)
      (hget : s.tasks.get? t.key = some t) (hactive : t.status.isActive = true)
      (hcommit : Commit s s' (succeeded t [p.proposalId] now) events)
      (hkinds : events.map (·.eventType) = [.succeeded])
      (hp : p.siteId = t.siteId ∧ p.taskId = t.taskId ∧ p.taskAttempt = t.attempt)
      (hm : m.proposalId = p.proposalId ∧ m.status = .pending ∧ m.origin = "AI" ∧
        m.reviewStatus = "AI Draft")
      (hfresh : s.proposals.get? (t.siteId, t.taskId, t.attempt) = none)
      (hproposals : s'.proposals = s.proposals.set (t.siteId, t.taskId, t.attempt) p)
      (hkeys : s'.proposalIdempotency
        = s.proposalIdempotency.set (p.siteId, p.idempotencyKey) p)
      (hmaterializations : s'.materializations
        = s.materializations.set (t.siteId, t.taskId, t.attempt) m)
      (hinvocations : s'.invocations = s.invocations ∧
        s'.invocationIdempotency = s.invocationIdempotency) : Move s none s'
  | file (r : ModelInvocationRecord)
      (hid : s.invocations.get? (r.siteId, r.invocationId) = none)
      (hkey : s.invocationIdempotency.get? (r.siteId, r.idempotencyKey) = none) :
      Move s none { s with
        invocations := s.invocations.set (r.siteId, r.invocationId) r
        invocationIdempotency := s.invocationIdempotency.set (r.siteId, r.idempotencyKey) r }

/-- Moves that hand no attempt out, one after another. -/
abbrev Settles : Repository → Repository → Prop := Relation.ReflTransGen fun s s' => Move s none s'

/-! ## A move keeps the invariant -/

/-- Storing a record keeps the index by idempotency key, when the record replaces the one
its keys lead to. -/
theorem Commit.idempotency_iff {s s' : Repository} {t' : AgentTaskMetadata}
    {events : List TimelineEventMetadata} (h : Commit s s' t' events) (hs : Coherent s)
    (htask : ∀ u, s.tasks.get? t'.key = some u →
      (u.siteId, u.idempotencyKey) = (t'.siteId, t'.idempotencyKey))
    (hidem : ∀ u, s.idempotency.get? (t'.siteId, t'.idempotencyKey) = some u → u.key = t'.key)
    (k : String × String) (u : AgentTaskMetadata) :
    s'.idempotency.get? k = some u ↔
      s'.tasks.get? u.key = some u ∧ k = (u.siteId, u.idempotencyKey) := by
  rw [h.idempotency, h.tasks]
  by_cases hk : k = (t'.siteId, t'.idempotencyKey)
  · by_cases hu : u.key = t'.key
    · simp only [hk, hu, if_true, Option.some.injEq]
      exact ⟨fun h => ⟨h, by rw [h]⟩, fun h => h.1⟩
    · simp only [hk, hu, if_true, if_false, Option.some.injEq]
      constructor
      · rintro rfl; exact absurd rfl hu
      · rintro ⟨hget, hkeys⟩
        have := (hs.idempotency_iff _ _).mpr ⟨hget, rfl⟩
        rw [← hkeys] at this
        exact absurd (hidem u this) hu
  · simp only [hk, if_false]
    by_cases hu : u.key = t'.key
    · simp only [hu, if_true, Option.some.injEq]
      constructor
      · intro hget
        obtain ⟨hget, hkeys⟩ := (hs.idempotency_iff _ _).mp hget
        rw [hu] at hget
        exact absurd (hkeys.trans (htask u hget)) hk
      · rintro ⟨rfl, hkeys⟩; exact absurd hkeys hk
    · simp only [hu, if_false]
      exact hs.idempotency_iff k u

/-- The timeline grows by the events of a transition. -/
theorem Logged.append {t t' : AgentTaskMetadata} {old events : List TimelineEventMetadata}
    (hlog : Logged t old) (hseq : events.map (·.sequence) = List.range' old.length events.length)
    (hcount : t'.attempt = t.attempt + ((events.map (·.eventType)).count .leased : ℕ))
    (hid : t'.siteId = t.siteId ∧ t'.taskId = t.taskId)
    (htask : ∀ e ∈ events, e.siteId = t'.siteId ∧ e.taskId = t'.taskId) :
    Logged t' (old ++ events) where
  sequence_eq := by
    have hrange := List.range'_append_1 (s := 0) (m := old.length) (n := events.length)
    rw [Nat.zero_add] at hrange
    rw [List.map_append, hlog.sequence_eq, hseq, List.length_append, List.range_eq_range',
      List.range_eq_range', hrange]
  first := by
    cases old with
    | nil => exact absurd hlog.first (by simp)
    | cons e old => simpa using hlog.first
  leased_count := by
    rw [List.map_append, List.count_append, Nat.cast_add, hlog.leased_count, hcount]
  task := by
    intro e he
    rcases List.mem_append.mp he with he | he
    · rw [hid.1, hid.2]; exact hlog.task e he
    · exact htask e he

/-- Storing the new record of a task, or the first one, keeps the invariant. -/
theorem Commit.coherent {s s' : Repository} {t' : AgentTaskMetadata}
    {events : List TimelineEventMetadata} (h : Commit s s' t' events) (hs : Coherent s)
    (hwf : WellFormed t')
    (htask : ∀ u, s.tasks.get? t'.key = some u →
      (u.siteId, u.idempotencyKey) = (t'.siteId, t'.idempotencyKey) ∧ u.status ≠ .deadLetter)
    (hidem : ∀ u, s.idempotency.get? (t'.siteId, t'.idempotencyKey) = some u → u.key = t'.key)
    (hlog : Logged t' ((s.timeline.get? t'.key).getD [] ++ events)) : Coherent s' where
  task_key k t ht := by
    rw [h.tasks] at ht
    split at ht
    next hk => rw [← Option.some.inj ht, hk]
    next => exact hs.task_key k t ht
  wellFormed k t ht := by
    rw [h.tasks] at ht
    split at ht
    next => exact Option.some.inj ht ▸ hwf
    next => exact hs.wellFormed k t ht
  idempotency_iff := h.idempotency_iff hs (fun u hu => (htask u hu).1) hidem
  deadLetter_iff k := by
    obtain ⟨d, -, hd⟩ := h.deadLetters
    rw [hd, h.tasks]
    by_cases hk : k = t'.key
    · subst hk
      by_cases hdead : t'.status = .deadLetter
      · simp [hdead]
      · have hnone : ¬(s.deadLetters.get? t'.key).isSome = true := by
          rw [hs.deadLetter_iff]
          rintro ⟨u, hu, hud⟩
          exact (htask u hu).2 hud
        simpa [hdead] using hnone
    · simpa [hk] using hs.deadLetter_iff k
  deadLetter_attempts k t d ht hdl := by
    obtain ⟨d', hd', hd⟩ := h.deadLetters
    rw [hd] at hdl
    rw [h.tasks] at ht
    by_cases hk : k = t'.key
    · subst hk
      obtain rfl : t' = t := by simpa using ht
      by_cases hdead : t'.status = .deadLetter
      · simp only [hdead, and_self, if_true, Option.some.injEq] at hdl
        rw [← hdl, hd']
      · simp only [hdead, and_false, if_false] at hdl
        obtain ⟨u, hu, hud⟩ := (hs.deadLetter_iff t'.key).mp (by rw [hdl]; rfl)
        exact absurd hud (htask u hu).2
    · simp only [hk, false_and, if_false] at ht hdl
      exact hs.deadLetter_attempts k t d ht hdl
  logged k t ht := by
    rw [h.tasks] at ht
    rw [h.timeline]
    by_cases hk : k = t'.key
    · subst hk
      obtain rfl : t' = t := by simpa using ht
      exact ⟨_, if_pos rfl, hlog⟩
    · simp only [hk, if_false] at ht ⊢
      exact hs.logged k t ht
  timeline_task k hk := by
    rw [h.timeline] at hk
    rw [h.tasks]
    split
    next => rfl
    next hne => rw [if_neg hne] at hk; exact hs.timeline_task k hk

/-- The transition of a stored task keeps the invariant. -/
theorem Commit.coherent_change {s s' : Repository} {t t' : AgentTaskMetadata}
    {kinds : List EventType} {events : List TimelineEventMetadata} (h : Commit s s' t' events)
    (hs : Coherent s) (hget : s.tasks.get? t.key = some t) (hchange : Change t t' kinds)
    (hkinds : events.map (·.eventType) = kinds) : Coherent s' := by
  have hkey : t'.key = t.key := hchange.key_eq
  have hkeys : (t'.siteId, t'.idempotencyKey) = (t.siteId, t.idempotencyKey) := by
    rw [hchange.idempotencyKey_eq.1, hchange.idempotencyKey_eq.2]
  obtain ⟨old, hold, hlog⟩ := hs.logged t.key t hget
  have hnumbered := h.numbered
  rw [hkey, hold, Option.getD_some] at hnumbered
  refine h.coherent hs (hchange.wellFormed (hs.wellFormed _ _ hget)) ?_ ?_ ?_
  · intro u hu
    rw [hkey, hget] at hu
    obtain rfl := Option.some.inj hu
    exact ⟨hkeys.symm, TaskStatus.ne_deadLetter hchange.not_terminal⟩
  · intro u hu
    rw [hkeys, (hs.idempotency_iff _ t).mpr ⟨hget, rfl⟩] at hu
    rw [← Option.some.inj hu, hkey]
  · rw [hkey, hold, Option.getD_some]
    exact hlog.append hnumbered (by rw [hkinds]; exact hchange.attempt_eq)
      ⟨hchange.subject_eq.1, hchange.subject_eq.2.1⟩ h.task

theorem Coherent.of_same {s s' : Repository} (hs : Coherent s) (htasks : s'.tasks = s.tasks)
    (hidem : s'.idempotency = s.idempotency) (htimeline : s'.timeline = s.timeline)
    (hdead : s'.deadLetters = s.deadLetters) : Coherent s' := by
  obtain ⟨h1, h2, h3, h4, h5, h6, h7⟩ := hs
  constructor <;> simpa only [htasks, hidem, htimeline, hdead]

/-- A move keeps the representation invariant. -/
theorem Move.coherent {s s' : Repository} {o : Option Handout} (h : Move s o s')
    (hs : Coherent s) : Coherent s' := by
  cases h with
  | create t events _ hcommit hkinds htask hidem hwf hattempt hqueued =>
      have htimeline : s.timeline.get? t.key = none := by
        by_contra hne
        have := hs.timeline_task t.key (Option.isSome_iff_ne_none.mpr hne)
        rw [htask] at this
        exact absurd this (by simp)
      refine hcommit.coherent hs hwf (by simp [htask]) (by simp [hidem]) ?_
      have hnumbered := hcommit.numbered
      obtain ⟨e, rfl⟩ : ∃ e, events = [e] := by
        have := congrArg List.length hkinds
        rw [List.length_map] at this
        exact List.length_eq_one_iff.mp this
      rw [htimeline] at hnumbered ⊢
      simp only [List.map_cons, List.map_nil, List.cons.injEq, and_true] at hkinds
      exact ⟨by simpa using hnumbered, by simp [hkinds], by simp [hkinds, hattempt], hcommit.task⟩
  | change t t' kinds events _ hget hchange hcommit hkinds =>
      exact hcommit.coherent_change hs hget hchange hkinds
  | deliver t p m now events _ hget hactive hcommit hkinds =>
      exact hcommit.coherent_change hs hget (Change.succeed _ _ hactive) hkinds
  | file r => exact hs.of_same rfl rfl rfl rfl

/-! ## Completions and invocations -/

/-- A proposal stands for the completed attempt of a task, and has its materialization. -/
structure Delivered (s : Repository) : Prop where
  completed : ∀ site task n p, s.proposals.get? (site, task, n) = some p →
    (p.siteId, p.taskId, p.taskAttempt) = (site, task, n) ∧
      ∃ t, s.tasks.get? (site, task) = some t ∧ t.status = .succeeded ∧ t.attempt = n ∧
        t.outputArtifactRefs = [p.proposalId]
  materialized : ∀ k, (s.materializations.get? k).isSome = (s.proposals.get? k).isSome
  pending : ∀ k p m, s.proposals.get? k = some p → s.materializations.get? k = some m →
    m.proposalId = p.proposalId ∧ m.status = .pending ∧ m.origin = "AI" ∧
      m.reviewStatus = "AI Draft"
  by_key : ∀ k p, s.proposalIdempotency.get? k = some p →
    s.proposals.get? (p.siteId, p.taskId, p.taskAttempt) = some p

/-- An invocation is filed under its identifier and under its idempotency key. -/
structure Filed (s : Repository) : Prop where
  by_id : ∀ k r, s.invocations.get? k = some r → k = (r.siteId, r.invocationId) ∧
    s.invocationIdempotency.get? (r.siteId, r.idempotencyKey) = some r
  by_key : ∀ k r, s.invocationIdempotency.get? k = some r → k = (r.siteId, r.idempotencyKey) ∧
    s.invocations.get? (r.siteId, r.invocationId) = some r

/-- The invariant of the repository. -/
structure Consistent (s : Repository) : Prop where
  coherent : Coherent s
  delivered : Delivered s
  filed : Filed s

theorem consistent_empty : Consistent {} :=
  ⟨coherent_empty, by constructor <;> simp, by constructor <;> simp⟩

/-- What a move never takes back: finished tasks, attempts, completions and invocations. -/
structure Extends (s s' : Repository) : Prop where
  terminal : ∀ k t, s.tasks.get? k = some t → t.status.isTerminal = true →
    s'.tasks.get? k = some t
  attempt : ∀ k t, s.tasks.get? k = some t → ∃ t', s'.tasks.get? k = some t' ∧
    t.attempt ≤ t'.attempt
  proposals : ∀ k p, s.proposals.get? k = some p → s'.proposals.get? k = some p
  materializations : ∀ k m, s.materializations.get? k = some m →
    s'.materializations.get? k = some m
  invocations : ∀ k r, s.invocations.get? k = some r → s'.invocations.get? k = some r

theorem Extends.refl (s : Repository) : Extends s s :=
  ⟨fun _ _ h _ => h, fun _ t h => ⟨t, h, le_rfl⟩, fun _ _ h => h, fun _ _ h => h, fun _ _ h => h⟩

theorem Extends.trans {s₁ s₂ s₃ : Repository} (h : Extends s₁ s₂) (h' : Extends s₂ s₃) :
    Extends s₁ s₃ where
  terminal k t ht hterm := h'.terminal k t (h.terminal k t ht hterm) hterm
  attempt k t ht := by
    obtain ⟨t₂, h₂, hle⟩ := h.attempt k t ht
    obtain ⟨t₃, h₃, hle'⟩ := h'.attempt k t₂ h₂
    exact ⟨t₃, h₃, hle.trans hle'⟩
  proposals k p hp := h'.proposals k p (h.proposals k p hp)
  materializations k m hm := h'.materializations k m (h.materializations k m hm)
  invocations k r hr := h'.invocations k r (h.invocations k r hr)

/-- A stored transition leaves finished tasks alone and lowers no attempt. -/
theorem Commit.keeps_tasks {s s' : Repository} {t t' : AgentTaskMetadata} {kinds : List EventType}
    {events : List TimelineEventMetadata} (h : Commit s s' t' events)
    (hget : s.tasks.get? t.key = some t) (hchange : Change t t' kinds) (k : String × String)
    (u : AgentTaskMetadata) (hu : s.tasks.get? k = some u) :
    (u.status.isTerminal = true → s'.tasks.get? k = some u) ∧
      ∃ u', s'.tasks.get? k = some u' ∧ u.attempt ≤ u'.attempt := by
  rw [h.tasks]
  by_cases hk : k = t'.key
  · rw [hchange.key_eq] at hk
    obtain rfl : t = u := by rw [hk, hget] at hu; exact Option.some.inj hu
    refine ⟨fun hterm => absurd hterm (by simp [hchange.not_terminal]), t', ?_, ?_⟩
    · rw [if_pos (hk.trans hchange.key_eq.symm)]
    · rw [hchange.attempt_eq]; omega
  · rw [if_neg hk]
    exact ⟨fun _ => hu, u, hu, le_rfl⟩

theorem Move.extends {s s' : Repository} {o : Option Handout} (h : Move s o s')
    (hs : Consistent s) : Extends s s' := by
  cases h with
  | create t events _ hcommit hkinds htask hidem hwf hattempt hqueued hbooks =>
      obtain ⟨hp, -, hm, hi, -⟩ := hbooks
      have hkeep : ∀ k u, s.tasks.get? k = some u → s'.tasks.get? k = some u := by
        intro k u hu
        rw [hcommit.tasks, if_neg, hu]
        rintro rfl
        simp [htask] at hu
      exact ⟨fun k u hu _ => hkeep k u hu, fun k u hu => ⟨u, hkeep k u hu, le_rfl⟩,
        by simp [hp], by simp [hm], by simp [hi]⟩
  | change t t' kinds events _ hget hchange hcommit hkinds hbooks =>
      obtain ⟨hp, -, hm, hi, -⟩ := hbooks
      exact ⟨fun k u hu => (hcommit.keeps_tasks hget hchange k u hu).1,
        fun k u hu => (hcommit.keeps_tasks hget hchange k u hu).2,
        by simp [hp], by simp [hm], by simp [hi]⟩
  | deliver t p m now events _ hget hactive hcommit hkinds hp hm hfresh hproposals hkeys
      hmaterializations hinvocations =>
      have hchange := Change.succeed [p.proposalId] now hactive
      refine ⟨fun k u hu => (hcommit.keeps_tasks hget hchange k u hu).1,
        fun k u hu => (hcommit.keeps_tasks hget hchange k u hu).2, ?_, ?_, by simp [hinvocations.1]⟩
      · intro k q hq
        rw [hproposals, Dict.get?_set_of_ne, hq]
        rintro rfl; simp [hfresh] at hq
      · intro k q hq
        rw [hmaterializations, Dict.get?_set_of_ne, hq]
        rintro rfl
        have := hs.delivered.materialized (t.siteId, t.taskId, t.attempt)
        simp [hfresh, hq] at this
  | file r hid hkey =>
      refine ⟨fun _ _ hu _ => hu, fun _ u hu => ⟨u, hu, le_rfl⟩, fun _ _ h => h, fun _ _ h => h, ?_⟩
      intro k q hq
      rw [Dict.get?_set_of_ne, hq]
      rintro rfl; simp [hid] at hq

/-- Moves that do not complete a task with a proposal leave the completions alone. -/
theorem Delivered.of_same {s s' : Repository} (hs : Delivered s) (hext : Extends s s')
    (hbooks : s'.proposals = s.proposals ∧ s'.proposalIdempotency = s.proposalIdempotency ∧
      s'.materializations = s.materializations) : Delivered s' := by
  obtain ⟨hp, hk, hm⟩ := hbooks
  refine ⟨?_, by rw [hp, hm]; exact hs.materialized, by rw [hp, hm]; exact hs.pending,
    by rw [hp, hk]; exact hs.by_key⟩
  intro site task n p hget
  rw [hp] at hget
  obtain ⟨hkey, t, ht, hsucc, hrest⟩ := hs.completed site task n p hget
  exact ⟨hkey, t, hext.terminal _ t ht (by rw [hsucc]; rfl), hsucc, hrest⟩

theorem Move.delivered {s s' : Repository} {o : Option Handout} (h : Move s o s')
    (hs : Consistent s) : Delivered s' := by
  have hext := h.extends hs
  cases h with
  | create t events _ hcommit hkinds htask hidem hwf hattempt hqueued hbooks =>
      exact hs.delivered.of_same hext ⟨hbooks.1, hbooks.2.1, hbooks.2.2.1⟩
  | change t t' kinds events _ hget hchange hcommit hkinds hbooks =>
      exact hs.delivered.of_same hext ⟨hbooks.1, hbooks.2.1, hbooks.2.2.1⟩
  | file r hid hkey => exact hs.delivered.of_same hext ⟨rfl, rfl, rfl⟩
  | deliver t p m now events _ hget hactive hcommit hkinds hp hm hfresh hproposals hkeys
      hmaterializations hinvocations =>
      constructor
      · intro site task n q hq
        rw [hproposals, Dict.get?_set] at hq
        split at hq
        next hk =>
          obtain rfl := Option.some.inj hq
          obtain ⟨rfl, rfl, rfl⟩ : site = t.siteId ∧ task = t.taskId ∧ n = t.attempt := by
            simpa using hk
          refine ⟨by rw [hp.1, hp.2.1, hp.2.2], succeeded t [p.proposalId] now, ?_, rfl, rfl, rfl⟩
          rw [hcommit.tasks]
          exact if_pos rfl
        next =>
          obtain ⟨hkey, u, hu, hsucc, hrest⟩ := hs.delivered.completed site task n q hq
          exact ⟨hkey, u, hext.terminal _ u hu (by rw [hsucc]; rfl), hsucc, hrest⟩
      · intro k
        rw [hproposals, hmaterializations, Dict.get?_set, Dict.get?_set]
        split
        next => rfl
        next => exact hs.delivered.materialized k
      · intro k q m' hq hm'
        rw [hproposals, Dict.get?_set] at hq
        rw [hmaterializations, Dict.get?_set] at hm'
        split at hq
        next hk =>
          rw [if_pos hk] at hm'
          obtain rfl := Option.some.inj hq
          obtain rfl := Option.some.inj hm'
          exact hm
        next hk =>
          rw [if_neg hk] at hm'
          exact hs.delivered.pending k q m' hq hm'
      · intro k q hq
        rw [hkeys, Dict.get?_set] at hq
        split at hq
        next =>
          obtain rfl := Option.some.inj hq
          rw [hproposals, hp.1, hp.2.1, hp.2.2, Dict.get?_set_self]
        next => exact hext.proposals _ q (hs.delivered.by_key k q hq)

theorem Filed.of_same {s s' : Repository} (hs : Filed s) (hi : s'.invocations = s.invocations)
    (hk : s'.invocationIdempotency = s.invocationIdempotency) : Filed s' := by
  obtain ⟨h1, h2⟩ := hs
  constructor <;> simpa only [hi, hk]

theorem Move.filed {s s' : Repository} {o : Option Handout} (h : Move s o s')
    (hs : Filed s) : Filed s' := by
  cases h with
  | create t events _ hcommit hkinds htask hidem hwf hattempt hqueued hbooks =>
      exact hs.of_same hbooks.2.2.2.1 hbooks.2.2.2.2
  | change t t' kinds events _ hget hchange hcommit hkinds hbooks =>
      exact hs.of_same hbooks.2.2.2.1 hbooks.2.2.2.2
  | deliver t p m now events _ hget hactive hcommit hkinds hp hm hfresh hproposals hkeys
      hmaterializations hinvocations => exact hs.of_same hinvocations.1 hinvocations.2
  | file r hid hkey =>
      constructor
      · intro k q hq
        rw [Dict.get?_set] at hq
        split at hq
        next hk =>
          obtain rfl := Option.some.inj hq
          exact ⟨hk, Dict.get?_set_self _ _ _⟩
        next =>
          obtain ⟨hkq, hq'⟩ := hs.by_id k q hq
          refine ⟨hkq, ?_⟩
          rw [Dict.get?_set_of_ne, hq']
          intro heq; simp [heq, hkey] at hq'
      · intro k q hq
        rw [Dict.get?_set] at hq
        split at hq
        next hk =>
          obtain rfl := Option.some.inj hq
          exact ⟨hk, Dict.get?_set_self _ _ _⟩
        next =>
          obtain ⟨hkq, hq'⟩ := hs.by_key k q hq
          refine ⟨hkq, ?_⟩
          rw [Dict.get?_set_of_ne, hq']
          intro heq; simp [heq, hid] at hq'

/-- A move keeps the invariant of the repository. -/
theorem Move.consistent {s s' : Repository} {o : Option Handout} (h : Move s o s')
    (hs : Consistent s) : Consistent s' :=
  ⟨h.coherent hs.coherent, h.delivered hs, h.filed hs.filed⟩

theorem Settles.consistent {s s' : Repository} (h : Settles s s') (hs : Consistent s) :
    Consistent s' := by
  induction h with
  | refl => exact hs
  | tail _ hmove ih => exact hmove.consistent ih

theorem Settles.extends {s s' : Repository} (h : Settles s s') (hs : Consistent s) :
    Extends s s' := by
  induction h with
  | refl => exact Extends.refl _
  | tail hsteps hmove ih => exact ih.trans (hmove.extends (Settles.consistent hsteps hs))

end EsanGbos.AgentRuntime.Repository
