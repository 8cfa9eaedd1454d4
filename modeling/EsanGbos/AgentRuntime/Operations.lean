import EsanGbos.AgentRuntime.Moves

/-!
# The operations as moves

Each operation is followed through its checks and writes, once, and shown to be a
sequence of moves from any consistent state. A claim ends with the move that hands the
attempt out; the calls that name an attempt move only their task, and only while that
is its attempt.

## Main definitions

* `Repository.perform_effect` — a call settles, and hands out an attempt if it answers so.
* `Repository.perform_fenced` — what a call that names an attempt can change.
-/
namespace EsanGbos.AgentRuntime.Repository
open Lib

/-! ## The writes -/

/-- The state after `_store_task`. -/
def stored (s : Repository) (t : AgentTaskMetadata) : Repository :=
  { s with
    tasks := s.tasks.set t.key t
    idempotency := s.idempotency.set (t.siteId, t.idempotencyKey) t }

/-- The state after `_append_event`, when the timeline of the task was `old`. -/
def appended (s : Repository) (t : AgentTaskMetadata) (old : List TimelineEventMetadata)
    (e : TimelineEventMetadata) : Repository :=
  { s with timeline := s.timeline.set t.key (old ++ [e]) }

theorem storeTask_bind {α : Type} (t : AgentTaskMetadata) (f : Unit → Op α) (s : Repository) :
    (storeTask t >>= f).run s = (f ()).run (stored s t) := rfl

theorem appendEvent_bind {α : Type} {t : AgentTaskMetadata} {k : EventType} {now : Datetime}
    {actor : ActorType} {ref : Option String} (f : Unit → Op α) {s : Repository}
    {old : List TimelineEventMetadata} (h : s.timeline.get? t.key = some old) :
    (appendEvent t k now actor ref >>= f).run s
      = (f ()).run (appended s t old (event t old.length k now actor ref)) := by
  refine Proc.run_bind_ok ?_
  simp only [appendEvent, Proc.run_get_bind, h, Proc.run_set]
  rfl

/-- A commit, from what the operation did to each map. -/
theorem commit_of_writes {s s' : Repository} {t : AgentTaskMetadata}
    {old events : List TimelineEventMetadata} (hold : s.timeline.get? t.key = some old)
    (htasks : s'.tasks = s.tasks.set t.key t)
    (hidem : s'.idempotency = s.idempotency.set (t.siteId, t.idempotencyKey) t)
    (htimeline : ∀ k, s'.timeline.get? k =
      if k = t.key then some (old ++ events) else s.timeline.get? k)
    (hdead : s'.deadLetters = s.deadLetters ∧ t.status ≠ .deadLetter ∨
      ∃ d, d.attempts = t.attempt ∧ s'.deadLetters = s.deadLetters.set t.key d ∧
        t.status = .deadLetter)
    (hnumbered : events.map (·.sequence) = List.range' old.length events.length)
    (htask : ∀ e ∈ events, e.siteId = t.siteId ∧ e.taskId = t.taskId) :
    Commit s s' t events where
  tasks k := by rw [htasks, Dict.get?_set]
  idempotency k := by rw [hidem, Dict.get?_set]
  timeline k := by
    rw [htimeline]
    split
    next h => rw [h, hold, Option.getD_some]
    next => rfl
  deadLetters := by
    rcases hdead with ⟨hsame, hlive⟩ | ⟨d, hd, hset, hdead⟩
    · exact ⟨⟨"", "", t.attempt, .internal, "", t.updatedAt, "", ""⟩, rfl, by simp [hsame, hlive]⟩
    · exact ⟨d, hd, by simp [hset, hdead, Dict.get?_set]⟩
  numbered := by rw [hold, Option.getD_some, hnumbered]
  task := htask

theorem SameBooks.refl (s : Repository) : SameBooks s s := ⟨rfl, rfl, rfl, rfl, rfl⟩

/-- A transition with one event, as an operation writes it. -/
theorem run_change {s : Repository} {t t' : AgentTaskMetadata} {k : EventType} (hs : Coherent s)
    (hget : s.tasks.get? t.key = some t) (hchange : Change t t' [k]) (hk : k ≠ .deadLettered)
    {α : Type} (a : α) (now : Datetime) (ref : Option String) :
    ∃ s' events,
      (do storeTask t'; appendEvent t' k now .worker ref; return a : Op α).run s = (.ok a, s') ∧
      Commit s s' t' events ∧ events.map (·.eventType) = [k] ∧ SameBooks s s' := by
  obtain ⟨old, hold, -⟩ := hs.logged _ _ hget
  rw [← hchange.key_eq] at hold
  have hlive : t'.status ≠ .deadLetter := by
    rw [Ne, hchange.deadLetter_iff]
    simpa using hk.symm
  have hold' : (stored s t').timeline.get? t'.key = some old := hold
  have hrun : (appendEvent t' k now .worker ref >>= fun _ => (pure a : Op α)).run (stored s t')
      = _ := appendEvent_bind _ hold'
  refine ⟨_, [event t' old.length k now .worker ref], hrun, ?_, rfl, rfl, rfl, rfl, rfl, rfl⟩
  exact commit_of_writes hold rfl rfl (fun _ => Dict.get?_set _ _ _ _) (.inl ⟨rfl, hlive⟩)
    (by simp [event]) (by simp [event])

/-- A transition with two events. -/
theorem run_change₂ {s : Repository} {t t' : AgentTaskMetadata} {k k' : EventType}
    (hs : Coherent s) (hget : s.tasks.get? t.key = some t) (hchange : Change t t' [k, k'])
    (hk : k ≠ .deadLettered) (hk' : k' ≠ .deadLettered) {α : Type} (a : α) (now : Datetime)
    (ref : Option String) :
    ∃ s' events, (do
        storeTask t'
        appendEvent t' k now .worker ref
        appendEvent t' k' now .worker ref
        return a : Op α).run s = (.ok a, s') ∧
      Commit s s' t' events ∧ events.map (·.eventType) = [k, k'] ∧ SameBooks s s' := by
  obtain ⟨old, hold, -⟩ := hs.logged _ _ hget
  rw [← hchange.key_eq] at hold
  have hlive : t'.status ≠ .deadLetter := by
    rw [Ne, hchange.deadLetter_iff]
    simp [hk.symm, hk'.symm]
  have hold' : (stored s t').timeline.get? t'.key = some old := hold
  let first := event t' old.length k now .worker ref
  have hold'' : (appended (stored s t') t' old first).timeline.get? t'.key
      = some (old ++ [first]) := Dict.get?_set_self _ _ _
  have hrun : (do
      storeTask t'
      appendEvent t' k now .worker ref
      appendEvent t' k' now .worker ref
      return a : Op α).run s = _ :=
    (appendEvent_bind _ hold').trans (appendEvent_bind (fun _ => (pure a : Op α)) hold'')
  refine ⟨_, [first, event t' (old ++ [first]).length k' now .worker ref], hrun, ?_, rfl,
    rfl, rfl, rfl, rfl, rfl⟩
  refine commit_of_writes hold rfl rfl (fun key => ?_) (.inl ⟨rfl, hlive⟩)
    (by simp [first, event, List.range'_succ]) (by simp [first, event])
  simp only [appended, Dict.get?_set, List.append_assoc, List.cons_append, List.nil_append]
  split <;> rfl

/-- A transition that records nothing. -/
theorem run_renew {s : Repository} {t t' : AgentTaskMetadata} (hs : Coherent s)
    (hget : s.tasks.get? t.key = some t) (hchange : Change t t' []) :
    ∃ s', (do storeTask t'; return t' : Op AgentTaskMetadata).run s = (.ok t', s') ∧
      Commit s s' t' [] ∧ SameBooks s s' := by
  obtain ⟨old, hold, -⟩ := hs.logged _ _ hget
  rw [← hchange.key_eq] at hold
  have hlive : t'.status ≠ .deadLetter := by
    rw [Ne, hchange.deadLetter_iff]
    simp
  refine ⟨stored s t', rfl, ?_, rfl, rfl, rfl, rfl, rfl⟩
  refine commit_of_writes hold rfl rfl (fun key => ?_) (.inl ⟨rfl, hlive⟩) rfl (by simp)
  simp only [stored, List.append_nil]
  split
  next h => rw [h, hold]
  next => rfl

/-- A burial, with its record in the dead letter. -/
theorem run_bury {s : Repository} {t : AgentTaskMetadata} (hs : Coherent s)
    (hget : s.tasks.get? t.key = some t) (now : Datetime)
    (classification : FailureClassification) (reasonCode : String) (ref : Option String) :
    ∃ s' events, (moveToDeadLetter t now classification reasonCode ref).run s
        = (.ok (buried t classification now), s') ∧
      Commit s s' (buried t classification now) events ∧
      events.map (·.eventType) = [.deadLettered] ∧ SameBooks s s' := by
  obtain ⟨old, hold, -⟩ := hs.logged _ _ hget
  let actor : ActorType := if ref.isSome then .worker else .system
  let letter : DeadLetterMetadata :=
    ⟨t.taskId, t.siteId, t.attempt, classification, reasonCode, now, t.causationId,
      t.correlationId⟩
  let s₁ : Repository := { stored s (buried t classification now) with
    deadLetters := s.deadLetters.set t.key letter }
  have hold' : s₁.timeline.get? (buried t classification now).key = some old := hold
  have hwrite : (appendEvent (buried t classification now) .deadLettered now actor ref >>=
      fun _ => (pure (buried t classification now) : Op AgentTaskMetadata)).run s₁ = _ :=
    appendEvent_bind _ hold'
  have hrun : (moveToDeadLetter t now classification reasonCode ref).run s = _ := hwrite
  refine ⟨_, [event (buried t classification now) old.length .deadLettered now actor ref], hrun,
    ?_, rfl, rfl, rfl, rfl, rfl, rfl⟩
  exact commit_of_writes hold rfl rfl (fun _ => Dict.get?_set _ _ _ _)
    (.inr ⟨letter, rfl, rfl, rfl⟩) (by simp [event]) (by simp [event])

/-! ## Reaping -/

/-- Burying active tasks settles; a task that is not buried is still stored as it was. -/
theorem run_buryAll (now : Datetime) (ts : List AgentTaskMetadata) {s : Repository}
    (hs : Consistent s) (hnodup : (ts.map (·.key)).Nodup)
    (hstored : ∀ t ∈ ts, s.tasks.get? t.key = some t ∧ t.status.isActive = true) :
    ∃ s', (buryAll now ts).run s = (.ok (), s') ∧ Settles s s' ∧
      ∀ k u, s'.tasks.get? k = some u →
        u.status = .deadLetter ∨ s.tasks.get? k = some u ∧ ∀ t ∈ ts, t.key ≠ k := by
  induction ts generalizing s with
  | nil => exact ⟨s, rfl, .refl, fun k u hu => .inr ⟨hu, by simp⟩⟩
  | cons t ts ih =>
      rw [List.map_cons, List.nodup_cons] at hnodup
      obtain ⟨hget, hact⟩ := hstored t (by simp)
      obtain ⟨s₁, events, hrun, hcommit, hkinds, hbooks⟩ := run_bury hs.coherent hget now
        .internal "lease_expired_max_attempts" none
      have hmove : Move s none s₁ :=
        .change t _ _ events s₁ hget (Change.bury now .internal hact) hcommit hkinds hbooks
      have hother : ∀ u ∈ ts, u.key ≠ t.key := fun u hu heq =>
        hnodup.1 (List.mem_map.mpr ⟨u, hu, heq⟩)
      obtain ⟨s', hrun', hsettles, hkept⟩ := ih (hmove.consistent hs) hnodup.2 (fun u hu => by
        obtain ⟨hgetu, hactu⟩ := hstored u (List.mem_cons_of_mem _ hu)
        exact ⟨(hcommit.tasks _).trans ((if_neg (hother u hu)).trans hgetu), hactu⟩)
      refine ⟨s', ?_, .head hmove hsettles, ?_⟩
      · rw [buryAll, Proc.run_bind_ok hrun, hrun']
      · intro k u hu
        rcases hkept k u hu with hdead | ⟨hs₁, hne⟩
        · exact .inl hdead
        · rw [hcommit.tasks] at hs₁
          split at hs₁
          next => exact .inl (by rw [← Option.some.inj hs₁]; rfl)
          next hk => exact .inr ⟨hs₁, List.forall_mem_cons.mpr ⟨fun h => hk h.symm, hne⟩⟩

/-- After reaping, no lease that expired on its last attempt is left in the site. -/
theorem run_reapExpired {s : Repository} (hs : Consistent s) (siteId : String) (now : Datetime) :
    ∃ s', (reapExpired siteId now).run s = (.ok (), s') ∧ Settles s s' ∧
      ∀ k u, s'.tasks.get? k = some u → isExhausted siteId now u = false := by
  have hmem : ∀ t, t ∈ (s.tasks.values.filter (isExhausted siteId now)).insertionSort
      (fun a b => a.taskId ≤ b.taskId) ↔
      (∃ k, s.tasks.get? k = some t) ∧ isExhausted siteId now t = true := by
    intro t
    rw [(List.perm_insertionSort _ _).mem_iff, List.mem_filter, Dict.mem_values]
  obtain ⟨s', hrun, hsettles, hkept⟩ := run_buryAll now
    ((s.tasks.values.filter (isExhausted siteId now)).insertionSort fun a b => a.taskId ≤ b.taskId)
    hs
    (by
      rw [((List.perm_insertionSort _ _).map _).nodup_iff]
      exact (Dict.nodup_map_values hs.coherent.task_key).sublist (List.filter_sublist.map _))
    (by
      intro t ht
      obtain ⟨⟨k, hk⟩, hex⟩ := (hmem t).mp ht
      rw [hs.coherent.task_key k t hk]
      simp only [isExhausted, Bool.and_eq_true] at hex
      exact ⟨hk, hex.1.1.2⟩)
  refine ⟨s', hrun, hsettles, fun k u hu => ?_⟩
  rcases hkept k u hu with hdead | ⟨hsame, hne⟩
  · simp [isExhausted, hdead]
  · by_contra hex
    exact hne u ((hmem u).mpr ⟨⟨k, hsame⟩, by simpa using hex⟩) (hs.coherent.task_key k u hsame)

/-! ## Claims -/

/-- The attempt an answer hands out. -/
def handout : Except Raise Answer → Option Handout
  | .ok (.claimed t) => some (t.key, t.attempt)
  | .ok (.execution c) => some (c.metadata.key, c.metadata.attempt)
  | _ => none

/-- A call settles, and makes one more move exactly when its answer hands an attempt out. -/
def Effect (s : Repository) (r : Except Raise Answer × Repository) : Prop :=
  ∃ s₁, Settles s s₁ ∧
    ((r.2 = s₁ ∧ handout r.1 = none) ∨ ∃ h, Move s₁ (some h) r.2 ∧ handout r.1 = some h)

theorem Effect.error {s s' : Repository} (h : Settles s s') (e : Raise) :
    Effect s (.error e, s') := ⟨s', h, .inl ⟨rfl, rfl⟩⟩

/-- The candidate a claim takes has an attempt left. -/
theorem candidate_spec {s : Repository} {siteId : String} {now : Datetime} (hs : Coherent s)
    (hfree : ∀ k u, s.tasks.get? k = some u → isExhausted siteId now u = false)
    {t : AgentTaskMetadata} (h : (claimCandidates s siteId now).argmin claimKey = some t) :
    s.tasks.get? t.key = some t ∧ t.status.isTerminal = false ∧ t.attempt < t.maxAttempts := by
  have hmem := List.argmin_mem h
  obtain ⟨hvalues, hcand⟩ := List.mem_filter.mp hmem
  obtain ⟨k, hk⟩ := Dict.mem_values.mp hvalues
  have hkey := hs.task_key k t hk
  simp only [isCandidate, Bool.and_eq_true, Bool.or_eq_true, decide_eq_true_eq] at hcand
  refine ⟨by rw [hkey, hk], ?_, ?_⟩
  · rcases hcand.2 with hw | ha
    · simp [TaskStatus.isTerminal, hw.1]
    · simp [TaskStatus.isTerminal, ha.1]
  · rcases hcand.2 with hw | ha
    · exact (hs.wellFormed k t hk).waiting_lt hw.1
    · have := hfree k t hk
      simp only [isExhausted, hcand.1, ha.1, ha.2, decide_true, Bool.true_and] at this
      simpa using this

theorem claim_effect {s : Repository} (hs : Consistent s) (py : Stdlib)
    (siteId workerId : String) (now : Option Datetime) (leaseDuration : Timedelta) :
    Effect s ((perform py (.claim siteId workerId now leaseDuration)).run s) := by
  simp only [perform, Proc.run_map, claim, Proc.run_lift_bind]
  rcases requireAware now "now" with e | now
  · exact .error .refl e
  rcases requireWorker workerId with e | _
  · exact .error .refl e
  rcases requirePositive leaseDuration "lease_duration" with e | _
  · exact .error .refl e
  obtain ⟨s₁, hreap, hsettles, hfree⟩ := run_reapExpired hs siteId now
  simp only [Proc.run_bind_ok hreap, Proc.run_get_bind]
  rcases hcand : (claimCandidates s₁ siteId now).argmin claimKey with _ | current
  · exact ⟨s₁, hsettles, .inl ⟨rfl, rfl⟩⟩
  obtain ⟨hget, hterm, hlt⟩ := candidate_spec (Settles.consistent hsettles hs).coherent hfree hcand
  simp only [Proc.run_lift_bind]
  rcases leaseEnd now leaseDuration with e | expiry
  · exact .error hsettles e
  have hchange := Change.lease workerId now expiry hterm hlt
  obtain ⟨s', events, hrun, hcommit, hkinds, hbooks⟩ := run_change
    (Settles.consistent hsettles hs).coherent hget hchange (by simp)
    (some (leased current .leased workerId now expiry)) now (some workerId)
  simp only [hrun]
  exact ⟨s₁, hsettles, .inr ⟨_, .change _ _ _ events s' hget hchange hcommit hkinds hbooks, rfl⟩⟩

theorem claimForExecution_effect {s : Repository} (hs : Consistent s) (py : Stdlib)
    (siteId workerId : String) (now : Option Datetime) (leaseDuration : Timedelta) :
    Effect s ((perform py (.claimForExecution siteId workerId now leaseDuration)).run s) := by
  simp only [perform, Proc.run_map, claimForExecution, Proc.run_lift_bind]
  rcases requireAware now "now" with e | now
  · exact .error .refl e
  rcases requireWorker workerId with e | _
  · exact .error .refl e
  rcases requirePositive leaseDuration "lease_duration" with e | _
  · exact .error .refl e
  obtain ⟨s₁, hreap, hsettles, hfree⟩ := run_reapExpired hs siteId now
  simp only [Proc.run_bind_ok hreap, Proc.run_get_bind]
  rcases hcand : (claimCandidates s₁ siteId now).argmin claimKey with _ | current
  · exact ⟨s₁, hsettles, .inl ⟨rfl, rfl⟩⟩
  obtain ⟨hget, hterm, hlt⟩ := candidate_spec (Settles.consistent hsettles hs).coherent hfree hcand
  simp only [Proc.run_lift_bind, Proc.run_get_bind]
  rcases payloadOf py s₁ current with e | payload
  · exact .error hsettles e
  rcases leaseEnd now leaseDuration with e | expiry
  · exact .error hsettles e
  have hchange := Change.execute workerId now expiry hterm hlt
  obtain ⟨s', events, hrun, hcommit, hkinds, hbooks⟩ := run_change₂
    (Settles.consistent hsettles hs).coherent hget hchange (by simp) (by simp)
    (some (⟨leased current .running workerId now expiry, payload⟩ : AgentTaskClaim)) now
    (some workerId)
  simp only [hrun]
  exact ⟨s₁, hsettles, .inr ⟨_, .change _ _ _ events s' hget hchange hcommit hkinds hbooks, rfl⟩⟩

/-! ## Calls that name an attempt -/

/-- What a worker can see of a task. -/
structure SameView (s s' : Repository) (k : String × String) : Prop where
  task : s'.tasks.get? k = s.tasks.get? k
  timeline : s'.timeline.get? k = s.timeline.get? k
  deadLetter : s'.deadLetters.get? k = s.deadLetters.get? k
  proposals : ∀ n, s'.proposals.get? (k.1, k.2, n) = s.proposals.get? (k.1, k.2, n)
  materializations : ∀ n,
    s'.materializations.get? (k.1, k.2, n) = s.materializations.get? (k.1, k.2, n)

theorem SameView.refl (s : Repository) (k : String × String) : SameView s s k :=
  ⟨rfl, rfl, rfl, fun _ => rfl, fun _ => rfl⟩

theorem SameView.trans {s₁ s₂ s₃ : Repository} {k : String × String} (h : SameView s₁ s₂ k)
    (h' : SameView s₂ s₃ k) : SameView s₁ s₃ k :=
  ⟨h'.task.trans h.task, h'.timeline.trans h.timeline, h'.deadLetter.trans h.deadLetter,
    fun n => (h'.proposals n).trans (h.proposals n),
    fun n => (h'.materializations n).trans (h.materializations n)⟩

/-- A transition is seen only at its task. -/
theorem Commit.sameView {s s' : Repository} {t' : AgentTaskMetadata}
    {events : List TimelineEventMetadata} (h : Commit s s' t' events)
    (hbooks : SameBooks s s') {k : String × String} (hk : k ≠ t'.key) : SameView s s' k := by
  obtain ⟨d, -, hd⟩ := h.deadLetters
  exact ⟨by rw [h.tasks, if_neg hk], by rw [h.timeline, if_neg hk], by rw [hd]; simp [hk],
    by simp [hbooks.1], by simp [hbooks.2.2.1]⟩

/-- Either nothing changed, or the task at `k` was at attempt `n` and only it has moved. -/
def Fenced (s : Repository) (k : String × String) (n : ℤ) (s' : Repository) : Prop :=
  s' = s ∨ (∃ t, s.tasks.get? k = some t ∧ t.attempt = n) ∧ Settles s s' ∧
    ∀ k', k' ≠ k → SameView s s' k'

theorem Fenced.settles {s s' : Repository} {k : String × String} {n : ℤ}
    (h : Fenced s k n s') : Settles s s' := by
  rcases h with rfl | h
  · exact .refl
  · exact h.2.1

theorem requireLiveLease_ok {s : Repository} {siteId taskId workerId : String} {n : ℤ}
    {now : Datetime} {t : AgentTaskMetadata}
    (h : requireLiveLease s siteId taskId workerId n now = .ok t) :
    s.tasks.get? (siteId, taskId) = some t ∧ t.status.isActive = true ∧ t.attempt = n := by
  unfold requireLiveLease at h
  split at h
  next => cases h
  next task hget =>
    split at h
    next => cases h
    next hguard =>
      obtain rfl := Except.ok.inj h
      simp only [Bool.or_eq_true, not_or, Bool.not_eq_true, bne_eq_false_iff_eq] at hguard
      exact ⟨hget, by simpa using hguard.1.1.1.1, hguard.2⟩

/-- The transition of the task that holds the live lease is fenced. -/
theorem Fenced.of_change {s s' : Repository} {siteId taskId : String} {n : ℤ}
    {t t' : AgentTaskMetadata} {kinds : List EventType} {events : List TimelineEventMetadata}
    (hs : Coherent s)
    (hlive : s.tasks.get? (siteId, taskId) = some t ∧ t.status.isActive = true ∧ t.attempt = n)
    (hchange : Change t t' kinds) (hleased : .leased ∉ kinds) (hcommit : Commit s s' t' events)
    (hkinds : events.map (·.eventType) = kinds) (hbooks : SameBooks s s') :
    Fenced s (siteId, taskId) n s' := by
  obtain ⟨hget, -, hattempt⟩ := hlive
  have hkey := hs.task_key _ _ hget
  have hmove : Move s (handoutOf t' kinds) s' :=
    .change t t' kinds events s' (by rw [hkey, hget]) hchange hcommit hkinds hbooks
  rw [handoutOf, if_neg hleased] at hmove
  refine .inr ⟨⟨t, hget, hattempt⟩, .single hmove, fun k hk => hcommit.sameView hbooks ?_⟩
  rw [hchange.key_eq, hkey]
  exact hk

section Operations
variable {s : Repository} (hs : Consistent s) (siteId taskId workerId : String)
  (expectedAttempt : ℤ) (now : Option Datetime)
include hs

theorem start_fenced :
    Fenced s (siteId, taskId) expectedAttempt
      ((start siteId taskId workerId expectedAttempt now).run s).2 := by
  simp only [start, Proc.run_lift_bind, Proc.run_get_bind]
  rcases requireAware now "now" with e | now
  · exact .inl rfl
  rcases hlease : requireLiveLease s siteId taskId workerId expectedAttempt now with e | t
  · simp only [hlease]; exact .inl rfl
  have hlive := requireLiveLease_ok hlease
  simp only [hlease, Proc.run_ite]
  split
  next => exact .inl rfl
  have hchange := Change.start now hlive.2.1
  obtain ⟨s', events, hrun, hcommit, hkinds, hbooks⟩ := run_change hs.coherent
    (by rw [hs.coherent.task_key _ _ hlive.1, hlive.1]) hchange (by simp)
    { t with status := .running, updatedAt := now } now (some workerId)
  simp only [hrun]
  exact .of_change hs.coherent hlive hchange (by simp) hcommit hkinds hbooks

theorem heartbeat_fenced (leaseDuration : Timedelta) :
    Fenced s (siteId, taskId) expectedAttempt
      ((heartbeat siteId taskId workerId expectedAttempt now leaseDuration).run s).2 := by
  simp only [heartbeat, Proc.run_lift_bind, Proc.run_get_bind]
  rcases requireAware now "now" with e | now
  · exact .inl rfl
  rcases requirePositive leaseDuration "lease_duration" with e | _
  · exact .inl rfl
  rcases hlease : requireLiveLease s siteId taskId workerId expectedAttempt now with e | t
  · simp only [hlease]; exact .inl rfl
  have hlive := requireLiveLease_ok hlease
  simp only [hlease]
  rcases leaseEnd now leaseDuration with e | expiry
  · exact .inl rfl
  have hchange := Change.renew now expiry hlive.2.1
  obtain ⟨s', hrun, hcommit, hbooks⟩ := run_renew hs.coherent
    (by rw [hs.coherent.task_key _ _ hlive.1, hlive.1]) hchange
  simp only [hrun]
  exact .of_change hs.coherent hlive hchange (by simp) hcommit rfl hbooks

theorem succeed_fenced (outputArtifactRefs : List String) :
    Fenced s (siteId, taskId) expectedAttempt
      ((succeed siteId taskId workerId expectedAttempt now outputArtifactRefs).run s).2 := by
  simp only [succeed, Proc.run_lift_bind, Proc.run_get_bind, Proc.run_ite]
  rcases requireAware now "now" with e | now
  · exact .inl rfl
  dsimp only
  split
  next => exact .inl rfl
  rcases hlease : requireLiveLease s siteId taskId workerId expectedAttempt now with e | t
  · exact .inl rfl
  have hlive := requireLiveLease_ok hlease
  dsimp only
  have hchange := Change.succeed outputArtifactRefs now hlive.2.1
  obtain ⟨s', events, hrun, hcommit, hkinds, hbooks⟩ := run_change hs.coherent
    (by rw [hs.coherent.task_key _ _ hlive.1, hlive.1]) hchange (by simp)
    (succeeded t outputArtifactRefs now) now (some workerId)
  simp only [hrun]
  exact .of_change hs.coherent hlive hchange (by simp) hcommit hkinds hbooks

theorem fail_fenced (retryAt : Option Datetime) (classification : FailureClassification) :
    Fenced s (siteId, taskId) expectedAttempt
      ((fail siteId taskId workerId expectedAttempt now retryAt classification).run s).2 := by
  simp only [fail, Proc.run_lift_bind, Proc.run_get_bind, Proc.run_ite]
  rcases requireAware now "now" with e | now
  · exact .inl rfl
  rcases requireAware retryAt "retry_at" with e | retryAt
  · exact .inl rfl
  dsimp only
  split
  next => exact .inl rfl
  rcases hlease : requireLiveLease s siteId taskId workerId expectedAttempt now with e | t
  · exact .inl rfl
  have hlive := requireLiveLease_ok hlease
  have hget : s.tasks.get? t.key = some t := by
    rw [hs.coherent.task_key _ _ hlive.1, hlive.1]
  dsimp only
  split
  next =>
    obtain ⟨s', events, hrun, hcommit, hkinds, hbooks⟩ := run_bury hs.coherent hget now
      classification "max_attempts_exhausted" (some workerId)
    simp only [hrun]
    exact .of_change hs.coherent hlive (.bury now classification hlive.2.1) (by simp) hcommit
      hkinds hbooks
  next hattempt =>
    have hchange := Change.recheck now retryAt classification hlive.2.1 (by omega)
    obtain ⟨s', events, hrun, hcommit, hkinds, hbooks⟩ := run_change hs.coherent hget hchange
      (by simp) (rescheduled t retryAt classification now) now (some workerId)
    simp only [hrun]
    exact .of_change hs.coherent hlive hchange (by simp) hcommit hkinds hbooks

end Operations

/-! ## Completion with a proposal -/

/-- Nothing but the maps of invocations has changed. -/
def OnlyInvocations (s s' : Repository) : Prop :=
  s' = { s with
    invocations := s'.invocations
    invocationIdempotency := s'.invocationIdempotency }

theorem OnlyInvocations.sameView {s s' : Repository} (h : OnlyInvocations s s')
    (k : String × String) : SameView s s' k := by
  rw [h]
  exact ⟨rfl, rfl, rfl, fun _ => rfl, fun _ => rfl⟩

/-- A record equal to `r` is stored under both of its keys. -/
def FiledAs (s : Repository) (r : ModelInvocationRecord) : Prop :=
  ∃ stored, s.invocations.get? (r.siteId, r.invocationId) = some stored ∧
    s.invocationIdempotency.get? (r.siteId, r.idempotencyKey) = some stored ∧
    stored.eq r = true

theorem FiledAs.mono {s s' : Repository} {r : ModelInvocationRecord} (h : FiledAs s r)
    (hs' : Filed s') (hext : Extends s s') : FiledAs s' r := by
  obtain ⟨stored, hid, -, heq⟩ := h
  have hid' := hext.invocations _ _ hid
  obtain ⟨hsite, -, hkey⟩ := ModelInvocationRecord.keys_of_eq heq
  refine ⟨stored, hid', ?_, heq⟩
  rw [← hsite, ← hkey]
  exact (hs'.by_id _ _ hid').2

theorem run_appendInvocation {s : Repository} (hs : Filed s) (t : AgentTaskMetadata)
    (p : ActionProposalRecord) (r : ModelInvocationRecord) :
    (∃ e, (appendInvocation t p r).run s = (.error e, s)) ∨
      ∃ s', (appendInvocation t p r).run s = (.ok (), s') ∧ Settles s s' ∧
        OnlyInvocations s s' ∧ FiledAs s' r := by
  simp only [appendInvocation, Proc.run_ite]
  split
  next => exact .inl ⟨_, rfl⟩
  rw [Proc.run_get_bind]
  rcases hkey : s.invocationIdempotency.get? (r.siteId, r.idempotencyKey) with _ | existing
  · dsimp only
    rw [Proc.run_ite]
    split
    next => exact .inl ⟨_, rfl⟩
    next hid =>
      have hid : s.invocations.get? (r.siteId, r.invocationId) = none := by simpa using hid
      exact .inr ⟨_, rfl, .single (.file r hid hkey), rfl, r, Dict.get?_set_self _ _ _,
        Dict.get?_set_self _ _ _, r.eq_self⟩
  · dsimp only
    rw [Proc.run_ite]
    split
    next => exact .inl ⟨_, rfl⟩
    next heq =>
      have heq : existing.eq r = true := by simpa using heq
      obtain ⟨hsite, hinv, -⟩ := ModelInvocationRecord.keys_of_eq heq
      have hstored := (hs.by_key _ _ hkey).2
      rw [hsite, hinv] at hstored
      exact .inr ⟨s, rfl, .refl, rfl, existing, hstored, hkey, heq⟩

theorem OnlyInvocations.trans {s₁ s₂ s₃ : Repository} (h : OnlyInvocations s₁ s₂)
    (h' : OnlyInvocations s₂ s₃) : OnlyInvocations s₁ s₃ := by
  unfold OnlyInvocations at *
  rw [h] at h'
  exact h'

theorem run_appendInvocations {s : Repository} (hs : Consistent s) (t : AgentTaskMetadata)
    (p : ActionProposalRecord) (rs : List ModelInvocationRecord) :
    (∃ e s', (appendInvocations t p rs).run s = (.error e, s') ∧ OnlyInvocations s s') ∨
      ∃ s', (appendInvocations t p rs).run s = (.ok (), s') ∧ Settles s s' ∧
        OnlyInvocations s s' ∧ ∀ r ∈ rs, FiledAs s' r := by
  induction rs generalizing s with
  | nil => exact .inr ⟨s, rfl, .refl, rfl, by simp⟩
  | cons r rs ih =>
      rcases run_appendInvocation hs.filed t p r with ⟨e, hrun⟩ | ⟨s₁, hrun, hset, honly, hr⟩
      · exact .inl ⟨e, s, Proc.run_bind_error hrun, rfl⟩
      · have hs₁ := Settles.consistent hset hs
        rcases ih hs₁ with ⟨e, s', hrun', honly'⟩ | ⟨s', hrun', hset', honly', hrs⟩
        · exact .inl ⟨e, s', (Proc.run_bind_ok hrun).trans hrun', honly.trans honly'⟩
        · refine .inr ⟨s', (Proc.run_bind_ok hrun).trans hrun', hset.trans hset',
            honly.trans honly', List.forall_mem_cons.mpr ⟨?_, hrs⟩⟩
          exact hr.mono (Settles.consistent hset' hs₁).filed (Settles.extends hset' hs₁)

/-- The proposal of a fresh attempt is refused or filed: an equal proposal under its key
would already stand for the attempt. -/
theorem run_appendProposal {s : Repository} (hs : Delivered s) {p : ActionProposalRecord}
    (hfresh : s.proposals.get? (p.siteId, p.taskId, p.taskAttempt) = none) :
    (∃ e, (appendProposal p).run s = (.error e, s)) ∨
      (appendProposal p).run s = (.ok (), { s with
        proposals := s.proposals.set (p.siteId, p.taskId, p.taskAttempt) p
        proposalIdempotency := s.proposalIdempotency.set (p.siteId, p.idempotencyKey) p }) := by
  simp only [appendProposal, Proc.run_get_bind]
  rcases hkey : s.proposalIdempotency.get? (p.siteId, p.idempotencyKey) with _ | existing
  · dsimp only
    rw [Proc.run_ite]
    split
    next => exact .inl ⟨_, rfl⟩
    next => exact .inr rfl
  · dsimp only
    rw [Proc.run_ite]
    split
    next => exact .inl ⟨_, rfl⟩
    next heq =>
      have heq : existing.eq p = true := by simpa using heq
      obtain ⟨hsite, htask, hattempt⟩ := ActionProposalRecord.attempt_of_eq heq
      have hstored := hs.by_key _ _ hkey
      rw [hsite, htask, hattempt, hfresh] at hstored
      cases hstored

theorem rollback_of_onlyInvocations {s s' : Repository} (h : OnlyInvocations s s') :
    rollback s s' = s := by
  rw [h]
  rfl

/-- A completed attempt: the task has delivered, its proposal and its pending
materialization exist, the invocations are filed, and no other task is touched. -/
structure Completion (py : Stdlib) (s s' : Repository) (t : AgentTaskMetadata)
    (p : ActionProposalRecord) (rs : List ModelInvocationRecord) (now : Datetime) : Prop where
  settles : Settles s s'
  task : s'.tasks.get? t.key = some (succeeded t [p.proposalId] now)
  proposal : s'.proposals.get? (t.siteId, t.taskId, t.attempt) = some p
  materialization : s'.materializations.get? (t.siteId, t.taskId, t.attempt)
    = some (MaterializationOutboxRecord.fromProposal py p now)
  filed : ∀ r ∈ rs, FiledAs s' r
  elsewhere : ∀ k, k ≠ t.key → SameView s s' k

/-- The body of the `try` statement either fails and is undone, or completes the attempt. -/
theorem run_writeCompletion {s : Repository} (hs : Consistent s) (py : Stdlib)
    {t : AgentTaskMetadata} (hget : s.tasks.get? t.key = some t)
    (hact : t.status.isActive = true) {p : ActionProposalRecord}
    (hp : p.siteId = t.siteId ∧ p.taskId = t.taskId ∧ p.taskAttempt = t.attempt)
    (hfresh : s.proposals.get? (t.siteId, t.taskId, t.attempt) = none)
    (rs : List ModelInvocationRecord) (workerId : String) (now : Datetime) :
    (∃ e s', (writeCompletion py t p (t.siteId, t.taskId, t.attempt) rs workerId now).run s
        = (.error e, s') ∧ rollback s s' = s) ∨
      ∃ s', (writeCompletion py t p (t.siteId, t.taskId, t.attempt) rs workerId now).run s
          = (.ok (succeeded t [p.proposalId] now), s') ∧ Completion py s s' t p rs now := by
  rcases run_appendInvocations hs t p rs with ⟨e, s₁, hrun, honly⟩ | ⟨s₁, hrun, hset, honly, hrs⟩
  · exact .inl ⟨e, s₁, Proc.run_bind_error hrun, rollback_of_onlyInvocations honly⟩
  have hs₁ := Settles.consistent hset hs
  have hfresh₁ : s₁.proposals.get? (p.siteId, p.taskId, p.taskAttempt) = none := by
    rw [honly, hp.1, hp.2.1, hp.2.2]; exact hfresh
  rcases run_appendProposal hs₁.delivered hfresh₁ with ⟨e, hrun'⟩ | hrun'
  · refine .inl ⟨e, s₁, ?_, rollback_of_onlyInvocations honly⟩
    rw [writeCompletion, Proc.run_bind_ok hrun, Proc.run_bind_error hrun']
  · let m := MaterializationOutboxRecord.fromProposal py p now
    let s₂ : Repository := { s₁ with
      proposals := s₁.proposals.set (p.siteId, p.taskId, p.taskAttempt) p
      proposalIdempotency := s₁.proposalIdempotency.set (p.siteId, p.idempotencyKey) p
      materializations := s₁.materializations.set (t.siteId, t.taskId, t.attempt) m }
    have hget₁ : s₁.tasks.get? t.key = some t := by rw [honly]; exact hget
    have hs₂ : Coherent s₂ := hs₁.coherent.of_same rfl rfl rfl rfl
    obtain ⟨s', events, hwrite, hcommit₂, hkinds, hbooks⟩ := run_change hs₂ hget₁
      (Change.succeed [p.proposalId] now hact) (by simp) (succeeded t [p.proposalId] now) now
      (some workerId)
    have hcommit : Commit s₁ s' (succeeded t [p.proposalId] now) events :=
      ⟨hcommit₂.tasks, hcommit₂.idempotency, hcommit₂.timeline, hcommit₂.deadLetters,
        hcommit₂.numbered, hcommit₂.task⟩
    have hproposals : s'.proposals = s₁.proposals.set (t.siteId, t.taskId, t.attempt) p := by
      rw [hbooks.1, ← hp.1, ← hp.2.1, ← hp.2.2]
    have hmove : Move s₁ none s' :=
      .deliver t p m now events s' hget₁ hact hcommit hkinds hp ⟨rfl, rfl, rfl, rfl⟩
        (by rw [← hp.1, ← hp.2.1, ← hp.2.2]; exact hfresh₁) hproposals hbooks.2.1
        hbooks.2.2.1 ⟨hbooks.2.2.2.1, hbooks.2.2.2.2⟩
    have hrun₂ : (writeCompletion py t p (t.siteId, t.taskId, t.attempt) rs workerId now).run s
        = (.ok (succeeded t [p.proposalId] now), s') := by
      rw [writeCompletion, Proc.run_bind_ok hrun, Proc.run_bind_ok hrun', Proc.run_modify_bind]
      exact hwrite
    have hmaterializations := hbooks.2.2.1
    refine .inr ⟨s', hrun₂, hset.tail hmove, ?_, ?_, ?_, ?_, ?_⟩
    · rw [hcommit.tasks]; exact if_pos rfl
    · rw [hproposals, Dict.get?_set_self]
    · rw [hmaterializations]; exact Dict.get?_set_self _ _ _
    · exact fun r hr => (hrs r hr).mono (hmove.consistent hs₁).filed (hmove.extends hs₁)
    · intro k hk
      have hview := hcommit₂.sameView hbooks hk
      have hne : ∀ n, (k.1, k.2, n) ≠ (t.siteId, t.taskId, t.attempt) := by
        intro n heq
        simp only [Prod.mk.injEq] at heq
        exact hk (Prod.ext heq.1 heq.2.1)
      refine (honly.sameView k).trans
        ⟨hview.task, hview.timeline, hview.deadLetter, fun n => ?_, fun n => ?_⟩
      · rw [hproposals, Dict.get?_set_of_ne _ _ (hne n)]
      · rw [hmaterializations]; exact Dict.get?_set_of_ne _ _ (hne n)

/-- A replay that is accepted returns the succeeded task. -/
theorem replayCompletion_ok {s : Repository} {t u : AgentTaskMetadata}
    {existing p : ActionProposalRecord} {n : ℤ} {rs : List ModelInvocationRecord}
    {m : Option MaterializationOutboxRecord}
    (h : replayCompletion s t existing p n rs m = .ok u) : u = t ∧ t.status = .succeeded := by
  simp only [replayCompletion, bind, Except.bind] at h
  split at h
  next => cases h
  rcases hreplayed : validateReplayedInvocations s rs with e | _ <;> rw [hreplayed] at h
  · cases h
  dsimp only at h
  split at h
  next => cases h
  next hfence =>
    simp only [not_or, not_not] at hfence
    exact ⟨(Except.ok.inj h).symm, hfence.1⟩

/-- The three ways a completion can end. -/
theorem completeWithProposal_cases {s : Repository} (hs : Consistent s) (py : Stdlib)
    (siteId taskId workerId : String) (expectedAttempt : ℤ) (now : Option Datetime)
    (result : AgentExecutionResult) :
    (∃ e, (completeWithProposal py siteId taskId workerId expectedAttempt now result).run s
        = (.error e, s)) ∨
      (∃ t, (completeWithProposal py siteId taskId workerId expectedAttempt now result).run s
          = (.ok t, s) ∧ s.tasks.get? (siteId, taskId) = some t ∧ t.status = .succeeded) ∨
      ∃ t p now' s', (completeWithProposal py siteId taskId workerId expectedAttempt now result).run s
          = (.ok (succeeded t [p.proposalId] now'), s') ∧
        s.tasks.get? (siteId, taskId) = some t ∧ t.attempt = expectedAttempt ∧
        t.status = .running ∧ ActionProposalRecord.fromExecution py t result = .ok p ∧
        Completion py s s' t p result.invocations now' := by
  simp only [completeWithProposal, Proc.run_lift_bind, Proc.run_get_bind]
  rcases requireAware now "now" with e | now
  · exact .inl ⟨e, rfl⟩
  rcases htask : s.tasks.get? (siteId, taskId) with _ | t
  · exact .inl ⟨_, rfl⟩
  have hkey := hs.coherent.task_key _ _ htask
  obtain ⟨rfl, rfl⟩ : t.siteId = siteId ∧ t.taskId = taskId := by
    simpa [AgentTaskMetadata.key] using hkey
  dsimp only
  rw [Proc.run_ite]
  split
  next => exact .inl ⟨_, rfl⟩
  next hattempt =>
    obtain rfl : t.attempt = expectedAttempt := by simpa using hattempt
    rw [Proc.run_lift_bind]
    rcases hproposal : ActionProposalRecord.fromExecution py t result with e | p
    · exact .inl ⟨e, rfl⟩
    have hspec := ActionProposalRecord.fromExecution_spec hproposal
    rcases hexisting : s.proposals.get? (t.siteId, t.taskId, t.attempt) with _ | existing
    · dsimp only
      rw [Proc.run_lift_bind]
      rcases hlease : requireLiveLease s t.siteId t.taskId workerId t.attempt now with e | current
      · exact .inl ⟨e, rfl⟩
      have hlive := requireLiveLease_ok hlease
      obtain rfl : t = current := by
        have := hlive.1
        rw [htask] at this
        exact Option.some.inj this
      dsimp only
      rw [Proc.run_ite]
      split
      next => exact .inl ⟨_, rfl⟩
      next hrunning =>
        rw [Proc.run_tryCatch]
        rcases run_writeCompletion hs py htask hlive.2.1 ⟨hspec.1, hspec.2.1, hspec.2.2.1⟩
          hexisting result.invocations workerId now with ⟨e, s', hrun, hback⟩ | ⟨s', hrun, hdone⟩
        · refine .inl ⟨e, ?_⟩
          rw [hrun]
          dsimp only
          rw [Proc.run_modify_bind, hback, Proc.run_throw]
        · exact .inr (.inr ⟨t, p, now, s', by rw [hrun], rfl, rfl, by simpa using hrunning,
            hproposal, hdone⟩)
    · dsimp only
      rw [Proc.run_lift]
      rcases hreplay : replayCompletion s t existing p t.attempt result.invocations
        (s.materializations.get? (t.siteId, t.taskId, t.attempt)) with e | u
      · exact .inl ⟨e, rfl⟩
      · obtain ⟨rfl, hsucceeded⟩ := replayCompletion_ok hreplay
        exact .inr (.inl ⟨_, rfl, rfl, hsucceeded⟩)

theorem completeWithProposal_fenced {s : Repository} (hs : Consistent s) (py : Stdlib)
    (siteId taskId workerId : String) (expectedAttempt : ℤ) (now : Option Datetime)
    (result : AgentExecutionResult) :
    Fenced s (siteId, taskId) expectedAttempt
      ((completeWithProposal py siteId taskId workerId expectedAttempt now result).run s).2 := by
  rcases completeWithProposal_cases hs py siteId taskId workerId expectedAttempt now result with
    ⟨e, hrun⟩ | ⟨t, hrun, -⟩ | ⟨t, p, now', s', hrun, hget, hattempt, -, -, hdone⟩
  · exact .inl (by rw [hrun])
  · exact .inl (by rw [hrun])
  · rw [hrun]
    refine .inr ⟨⟨t, hget, hattempt⟩, hdone.settles, fun k hk => hdone.elsewhere k ?_⟩
    rwa [hs.coherent.task_key _ _ hget]

/-! ## Every call -/

/-- A new task starts a timeline of its own. -/
theorem move_create {s : Repository} {t : AgentTaskMetadata} (hs : Coherent s)
    (htask : s.tasks.get? t.key = none)
    (hidem : s.idempotency.get? (t.siteId, t.idempotencyKey) = none) (hwf : WellFormed t)
    (hattempt : t.attempt = 0) (hqueued : t.status = .queued)
    (payloads : Dict (String × String) Json) (now : Datetime) :
    Move s none { s with
      tasks := s.tasks.set t.key t
      payloads
      idempotency := s.idempotency.set (t.siteId, t.idempotencyKey) t
      timeline := s.timeline.set t.key [event t 0 .created now .system none] } := by
  have hfresh : s.timeline.get? t.key = none := by
    by_contra hne
    have := hs.timeline_task t.key (Option.isSome_iff_ne_none.mpr hne)
    rw [htask] at this
    exact absurd this (by simp)
  refine .create t [event t 0 .created now .system none] _ ?_ rfl htask hidem hwf hattempt hqueued
    ⟨rfl, rfl, rfl, rfl, rfl⟩
  refine ⟨fun k => Dict.get?_set _ _ _ _, fun k => Dict.get?_set _ _ _ _, fun k => ?_, ?_, ?_, ?_⟩
  · rw [Dict.get?_set]
    split
    next h => rw [h, hfresh]; rfl
    next => rfl
  · exact ⟨⟨"", "", t.attempt, .internal, "", now, "", ""⟩, rfl, by simp [hqueued]⟩
  · rw [hfresh]; rfl
  · simp [event]

theorem queued_wellFormed (py : Stdlib) (submission : AgentTaskSubmission) (now : Datetime) :
    WellFormed (queued py submission now) :=
  ⟨le_rfl, by have := submission.maxAttempts_mem.1; simp only [queued]; omega, rfl, rfl,
    fun _ => by have := submission.maxAttempts_mem.1; simp only [queued]; omega⟩

/-- Enqueueing creates the task, unless its idempotency key is known or it is refused. -/
theorem enqueue_settles {s : Repository} (hs : Coherent s) (py : Stdlib)
    (submission : AgentTaskSubmission) (now : Option Datetime) :
    Settles s ((enqueue py submission now).run s).2 := by
  simp only [enqueue, Proc.run_lift_bind, Proc.run_get_bind]
  rcases requireAware now "now" with e | now
  · exact .refl
  dsimp only
  rcases hidem : s.idempotency.get? (submission.siteId, submission.idempotencyKey) with _ | existing
  · dsimp only
    rw [Proc.run_ite]
    split
    next => exact .refl
    rw [Proc.run_ite]
    split
    next => exact .refl
    next htask =>
      have htask : s.tasks.get? (submission.siteId, submission.taskId) = none := by
        simpa using htask
      exact .single (move_create (t := queued py submission now) hs htask hidem
        (queued_wellFormed py submission now) rfl rfl _ now)
  · dsimp only
    rw [Proc.run_ite]
    split <;> exact .refl

/-- The task and the attempt that a call names. -/
def Call.fence : Call → Option Handout
  | .start siteId taskId _ expectedAttempt _ => some ((siteId, taskId), expectedAttempt)
  | .heartbeat siteId taskId _ expectedAttempt _ _ => some ((siteId, taskId), expectedAttempt)
  | .succeed siteId taskId _ expectedAttempt _ _ => some ((siteId, taskId), expectedAttempt)
  | .fail siteId taskId _ expectedAttempt _ _ _ => some ((siteId, taskId), expectedAttempt)
  | .completeWithProposal siteId taskId _ expectedAttempt _ _ =>
      some ((siteId, taskId), expectedAttempt)
  | _ => none

/-- A call that names an attempt moves only its task, and only in that attempt. -/
theorem perform_fenced {s : Repository} (hs : Consistent s) (py : Stdlib) {c : Call}
    {k : String × String} {n : ℤ} (hc : c.fence = some (k, n)) :
    Fenced s k n ((perform py c).run s).2 := by
  cases c <;> simp only [Call.fence, Option.some.injEq, Prod.mk.injEq, reduceCtorEq] at hc <;>
    obtain ⟨rfl, rfl⟩ := hc <;> simp only [perform, Proc.run_map]
  · exact start_fenced hs _ _ _ _ _
  · exact heartbeat_fenced hs _ _ _ _ _ _
  · exact succeed_fenced hs _ _ _ _ _ _
  · exact fail_fenced hs _ _ _ _ _ _ _
  · exact completeWithProposal_fenced hs _ _ _ _ _ _ _

theorem handout_task (r : Except Raise AgentTaskMetadata) :
    handout (r.map Answer.task) = none := by cases r <;> rfl

/-- Every call settles, and hands an attempt out when its answer says so. -/
theorem perform_effect {s : Repository} (hs : Consistent s) (py : Stdlib) (c : Call) :
    Effect s ((perform py c).run s) := by
  have hsettles : ∀ {x : Op AgentTaskMetadata}, perform py c = .task <$> x →
      Settles s ((perform py c).run s).2 → Effect s ((perform py c).run s) := by
    intro x hx h
    refine ⟨_, h, .inl ⟨rfl, ?_⟩⟩
    rw [hx, Proc.run_map]
    exact handout_task _
  cases hc : c with
  | claim siteId workerId now leaseDuration => exact claim_effect hs py siteId workerId now _
  | claimForExecution siteId workerId now leaseDuration =>
      exact claimForExecution_effect hs py siteId workerId now _
  | enqueue submission now =>
      subst hc
      refine hsettles rfl ?_
      simp only [perform, Proc.run_map]
      exact enqueue_settles hs.coherent py submission now
  | _ => subst hc; exact hsettles rfl (perform_fenced hs py rfl).settles

theorem Effect.consistent {s : Repository} {r : Except Raise Answer × Repository}
    (h : Effect s r) (hs : Consistent s) : Consistent r.2 := by
  obtain ⟨s₁, hsettles, ⟨rfl, -⟩ | ⟨_, hmove, -⟩⟩ := h
  · exact Settles.consistent hsettles hs
  · exact hmove.consistent (Settles.consistent hsettles hs)

theorem Effect.extends {s : Repository} {r : Except Raise Answer × Repository}
    (h : Effect s r) (hs : Consistent s) : Extends s r.2 := by
  obtain ⟨s₁, hsettles, ⟨rfl, -⟩ | ⟨_, hmove, -⟩⟩ := h
  · exact Settles.extends hsettles hs
  · exact (Settles.extends hsettles hs).trans
      (hmove.extends (Settles.consistent hsettles hs))

/-- Every state of a run from a consistent state is consistent. -/
theorem reachable_consistent {py : Stdlib} {s s' : Repository}
    (h : (machine py).Reachable s s') (hs : Consistent s) : Consistent s' :=
  h.invariant (P := Consistent) (fun _ c hs => (perform_effect hs py c).consistent hs) hs

/-- A run takes nothing back. -/
theorem reachable_extends {py : Stdlib} {s s' : Repository}
    (h : (machine py).Reachable s s') (hs : Consistent s) : Extends s s' :=
  h.relation (P := Consistent) (R := Extends)
    (fun _ c hs => (perform_effect hs py c).consistent hs) Extends.refl
    (fun _ _ _ => Extends.trans) (fun _ c hs => (perform_effect hs py c).extends hs) hs

end EsanGbos.AgentRuntime.Repository
