import EsanGbos.Observer.Jobs

/-!
# What a call does to deliveries and jobs

Every call of the storage makes one of a few moves on the tables of deliveries and jobs.
What is true of a run is derived from the moves alone.

## Main definitions

* `Store.Move` — the moves.
* `Store.perform_move` — every call makes one.
-/
namespace EsanGbos.Observer
open Lib

/-- Nothing happens to a job any more. -/
def JobStatus.isTerminal : JobStatus → Bool
  | succeeded | failed | quarantined | deadLetter => true
  | queued | processing | retryWait => false

/-- What no statement changes about a delivery. -/
def InboundDelivery.SameOrigin (row row' : InboundDelivery) : Prop :=
  row'.exactBodySha256 = row.exactBodySha256 ∧ row'.objectRef = row.objectRef ∧
    row'.byteSize = row.byteSize ∧ row'.mediaType = row.mediaType ∧
    row'.receivedAt = row.receivedAt ∧ row'.correlationId = row.correlationId

namespace Store

/-- The time a call is made at, by its own account. -/
def Call.stamp : Call → Option Datetime
  | registerConnectorInstance _ _ now _ _ _ => now
  | mutateStatus _ _ _ _ _ _ now => some now
  | acceptInboundDelivery _ _ a => a.receivedAt
  | acceptAndEnqueueDelivery _ _ a _ _ _ => a.receivedAt
  | acceptAuthenticatedDelivery _ _ _ _ _ now _ _ => now
  | claimProcessingJob _ _ now _ => now
  | heartbeatProcessingJob _ a _ => a.now
  | completeProcessingJob _ a _ => a.now
  | retryProcessingJob _ a _ _ => a.now
  | quarantineProcessingJob _ a _ => a.now
  | replayDelivery _ _ _ _ _ now _ => now

/-- The delivery for which a call enqueues the first job. -/
def Call.enqueues : Call → Option (Instance × String)
  | acceptAndEnqueueDelivery scope key a _ _ _ => some (instanceOf scope key, a.deliveryId)
  | acceptAuthenticatedDelivery scope key a _ _ _ _ _ => some (instanceOf scope key, a.deliveryId)
  | _ => none

/-- A delivery in one of the states `before` goes on to the state `after`; in another state it
stays as it is. -/
def Redelivers (s s' : Store) (k : Instance × String) (before : List DeliveryStatus)
    (after : DeliveryStatus) : Prop :=
  (∃ row row', s.deliveries.get? k = some row ∧ row.processingStatus ∈ before ∧
      row'.processingStatus = after ∧ row.SameOrigin row' ∧
      s'.deliveries = s.deliveries.set k row') ∨
    s'.deliveries = s.deliveries ∧
      ∀ row, s.deliveries.get? k = some row → row.processingStatus ∉ before

/-- How a job may end, and what becomes of its delivery. -/
inductive Ends : JobStatus → DeliveryStatus → Prop where
  | succeed : Ends .succeeded .succeeded
  | quarantine : Ends .quarantined .quarantined
  | bury : Ends .deadLetter .failed

/-- A job before its first attempt. -/
structure IsNew (s : Store) (id : String × String) (job : ProcessingJob) : Prop where
  free : s.jobs.get? id = none
  generation : job.generation ∉ s.generations (deliveryOf id.1 job)
  status : job.status = .queued
  attempt : job.attemptCount = 0
  attempts : 1 ≤ job.maxAttempts
  lease : job.lease = none

/-- The moves of the call `c`. -/
inductive Move (c : Call) (s s' : Store) : Prop where
  | idle (hjobs : s'.jobs = s.jobs) (hdeliveries : s'.deliveries = s.deliveries)
  | receive (k : Instance × String) (row : InboundDelivery) (hc : ∃ scope key a,
      c = .acceptInboundDelivery scope key a) (hnew : s.deliveries.get? k = none)
      (hstatus : row.processingStatus = .received) (hjobs : s'.jobs = s.jobs)
      (hdeliveries : s'.deliveries = s.deliveries.set k row)
  | accept (id : String × String) (job : ProcessingJob) (row : InboundDelivery)
      (hnew : s.deliveries.get? (deliveryOf id.1 job) = none)
      (hstatus : row.processingStatus = .queued) (hjob : IsNew s id job)
      (hgeneration : job.generation = 0) (hjobs : s'.jobs = s.jobs.set id job)
      (hdeliveries : s'.deliveries = s.deliveries.set (deliveryOf id.1 job) row)
  | enqueue (id : String × String) (job : ProcessingJob) (row : InboundDelivery)
      (hc : c.enqueues = some (deliveryOf id.1 job))
      (hget : s.deliveries.get? (deliveryOf id.1 job) = some row) (hjob : IsNew s id job)
      (hgeneration : job.generation = 0) (hjobs : s'.jobs = s.jobs.set id job)
      (hdeliveries : s'.deliveries = s.deliveries)
  | lease (id : String × String) (job : ProcessingJob) (workerId : String) (now expiry : Datetime)
      (hget : s.jobs.get? id = some job) (hclaim : s.isClaimable id.1 now.instant (id, job) = true)
      (hjobs : s'.jobs = s.jobs.set id (claimed job workerId now expiry))
      (hdelivery : Redelivers s s' (deliveryOf id.1 job) [.queued, .processing] .processing)
  | extend (id : String × String) (job : ProcessingJob) (a : LeaseArguments) (now : Datetime)
      (expiry updatedAt : Timestamptz) (hc : c.stamp = some now) (hget : s.jobs.get? id = some job)
      (hheld : isHeld a now.instant job = true)
      (hjobs : s'.jobs = s.jobs.set id
        { job with lease := some ⟨a.workerId, expiry⟩, updatedAt := updatedAt })
      (hdeliveries : s'.deliveries = s.deliveries)
  | wait (id : String × String) (job : ProcessingJob) (a : LeaseArguments)
      (now nextRetryAt : Datetime) (errorCode : String) (hc : c.stamp = some now)
      (hget : s.jobs.get? id = some job) (hheld : isHeld a now.instant job = true)
      (hattempts : job.attemptCount < job.maxAttempts)
      (hjobs : s'.jobs = s.jobs.set id (retried job nextRetryAt errorCode now))
      (hdelivery : Redelivers s s' (deliveryOf id.1 job) [.processing] .processing)
  | finish (id : String × String) (job : ProcessingJob) (a : LeaseArguments) (now : Datetime)
      (status : JobStatus) (after : DeliveryStatus) (errorCode : Option String)
      (hc : c.stamp = some now) (hget : s.jobs.get? id = some job)
      (hheld : isHeld a now.instant job = true) (hends : Ends status after)
      (hjobs : s'.jobs = s.jobs.set id (ended job status errorCode now))
      (hdelivery : Redelivers s s' (deliveryOf id.1 job) [.processing] after)
  | replay (id : String × String) (job : ProcessingJob) (row row' : InboundDelivery)
      (hget : s.deliveries.get? (deliveryOf id.1 job) = some row)
      (hfailed : row.processingStatus = .failed) (hqueued : row'.processingStatus = .queued)
      (horigin : row.SameOrigin row') (hjob : IsNew s id job)
      (hgeneration : job.generation = s.nextGeneration (deliveryOf id.1 job))
      (hjobs : s'.jobs = s.jobs.set id job)
      (hdeliveries : s'.deliveries = s.deliveries.set (deliveryOf id.1 job) row')

/-! ## The parts of the operations -/

theorem mem_generations {s : Store} {k : Instance × String} {n : ℕ} :
    n ∈ s.generations k ↔
      ∃ id job, s.jobs.get? id = some job ∧ deliveryOf id.1 job = k ∧ job.generation = n := by
  simp only [generations, List.mem_map, List.mem_filter, decide_eq_true_eq]
  constructor
  · rintro ⟨⟨id, job⟩, ⟨hmem, hk⟩, hn⟩
    exact ⟨id, job, Dict.mem_items.mp hmem, hk, hn⟩
  · rintro ⟨id, job, hget, hk, hn⟩
    exact ⟨(id, job), ⟨Dict.mem_items.mpr hget, hk⟩, hn⟩

theorem generations_congr {s t : Store} (h : t.jobs = s.jobs) (k : Instance × String) :
    t.generations k = s.generations k := by simp only [generations, h]

theorem jobByIdempotencyKey_some {s : Store} {site idempotencyKey : String}
    {e : (String × String) × ProcessingJob}
    (h : s.jobByIdempotencyKey site idempotencyKey = some e) : s.jobs.get? e.1 = some e.2 :=
  Dict.mem_items.mp (List.mem_of_find?_eq_some h)

theorem run_updateDelivery {k : Instance × String} {p : InboundDelivery → Bool}
    {f : InboundDelivery → InboundDelivery} {s s' : Store} {b : Bool}
    (h : (updateDelivery k p f).run s = (.ok b, s')) :
    (b = true ∧ ∃ row, s.deliveries.get? k = some row ∧ p row = true ∧
        row.processingStatus.mayBecome (f row).processingStatus = true ∧
        s'.jobs = s.jobs ∧ s'.deliveries = s.deliveries.set k (f row)) ∨
      (b = false ∧ s' = s ∧ ∀ row, s.deliveries.get? k = some row → p row = false) := by
  unfold updateDelivery at h
  rw [Proc.run_get_bind] at h
  cases hrow : (s.deliveries.get? k).filter p with
  | none =>
      simp only [hrow, Proc.run_pure, Prod.mk.injEq, Except.ok.injEq] at h
      refine .inr ⟨h.1.symm, h.2.symm, fun row hget => ?_⟩
      by_contra hp
      rw [hget, Option.filter_some, if_pos (by simpa using hp)] at hrow
      cases hrow
  | some row =>
      obtain ⟨hget, hp⟩ := Option.filter_eq_some_iff.mp hrow
      by_cases hmay : row.processingStatus.mayBecome (f row).processingStatus = true
      · simp only [hrow, hmay, if_true, Proc.run_modify_bind, Proc.run_pure,
          Prod.mk.injEq, Except.ok.injEq] at h
        exact .inl ⟨h.1.symm, row, hget, hp, hmay, by rw [← h.2], by rw [← h.2]⟩
      · simp [hrow, hmay] at h

theorem run_insertDelivery {k : Instance} {a : DeliveryArguments} {receivedAt : Datetime}
    {queued : Bool} {s s' : Store} {row : InboundDelivery}
    (h : (insertDelivery k a receivedAt queued).run s = (.ok row, s')) :
    (s.deliveries.get? (k, a.deliveryId) = some row ∧ sameContent row a = true ∧ s' = s) ∨
      (s.deliveries.get? (k, a.deliveryId) = none ∧ row = deliveryRow a receivedAt queued ∧
        s'.jobs = s.jobs ∧ s'.deliveries = s.deliveries.set (k, a.deliveryId) row) := by
  unfold insertDelivery at h
  rw [Proc.run_get_bind] at h
  cases hget : s.deliveries.get? (k, a.deliveryId) with
  | some stored =>
      by_cases hsame : sameContent stored a = true
      · simp only [hget, hsame, if_true, Proc.run_pure, Prod.mk.injEq,
          Except.ok.injEq] at h
        obtain ⟨rfl, rfl⟩ := h
        exact .inl ⟨rfl, hsame, rfl⟩
      · simp [hget, hsame] at h
  | none =>
      cases hconnector : s.instances.get? k with
      | none => simp [hget, hconnector] at h
      | some connector =>
          simp only [hget, hconnector, Proc.run_get_bind, Option.isNone_some, Bool.false_eq_true,
            if_false, Proc.run_modify_bind, Proc.run_pure, Prod.mk.injEq, Except.ok.injEq] at h
          obtain ⟨rfl, rfl⟩ := h
          exact .inr ⟨rfl, rfl, rfl, rfl⟩

theorem run_enqueueProcessingJob {scope : TenantScope} {key : ConnectorKey}
    {deliveryId jobId idempotencyKey : String} {generation : ℕ} {now : Datetime} {maxAttempts : ℤ}
    {s s' : Store} {answer : String × ProcessingJob}
    (h : (enqueueProcessingJob scope key deliveryId jobId idempotencyKey generation now
      maxAttempts).run s = (.ok answer, s')) :
    (s' = s ∧ s.jobs.get? (scope.siteId, answer.1) = some answer.2 ∧
        deliveryOf scope.siteId answer.2 = (instanceOf scope key, deliveryId) ∧
        answer.2.generation = generation) ∨
      (answer = (jobId, jobRow key deliveryId idempotencyKey generation now maxAttempts) ∧
        s.jobs.get? (scope.siteId, jobId) = none ∧
        generation ∉ s.generations (instanceOf scope key, deliveryId) ∧
        s.deliveries.get? (instanceOf scope key, deliveryId) ≠ none ∧
        s'.jobs = s.jobs.set (scope.siteId, jobId) answer.2 ∧ s'.deliveries = s.deliveries) := by
  unfold enqueueProcessingJob at h
  rw [Proc.run_get_bind] at h
  cases hfound : s.jobByIdempotencyKey scope.siteId idempotencyKey with
  | some e =>
      obtain ⟨id, job⟩ := e
      have hsite : id.1 = scope.siteId := by
        have hp := List.find?_some hfound
        simp only [Bool.and_eq_true, decide_eq_true_eq] at hp
        exact hp.1
      have hget := jobByIdempotencyKey_some hfound
      by_cases hsame : deliveryOf id.1 job = (instanceOf scope key, deliveryId) ∧
          job.generation = generation
      · simp only [hfound, hsame, and_self, if_true, Proc.run_pure, Prod.mk.injEq,
          Except.ok.injEq] at h
        obtain ⟨rfl, rfl⟩ := h
        exact .inl ⟨rfl, by rw [← hsite]; exact hget, by rw [← hsite]; exact hsame.1, hsame.2⟩
      · simp [hfound, hsame] at h
  | none =>
      by_cases hrefused : (s.jobs.get? (scope.siteId, jobId)).isSome = true ∨
          generation ∈ s.generations (instanceOf scope key, deliveryId) ∨
          (s.deliveries.get? (instanceOf scope key, deliveryId)).isNone = true
      · simp only [hfound, hrefused, if_true, Proc.run_throw_bind, Prod.mk.injEq, reduceCtorEq,
          false_and] at h
      · rw [not_or, not_or] at hrefused
        obtain ⟨hfree, hgeneration, hdelivery⟩ := hrefused
        simp only [hfound, hfree, hgeneration, hdelivery, or_self, if_false, Proc.run_bind, Proc.run_set, Proc.run_pure, Prod.mk.injEq, Except.ok.injEq,
          Bool.false_eq_true] at h
        obtain ⟨rfl, rfl⟩ := h
        exact .inr ⟨rfl, by simpa using hfree, hgeneration, by simpa using hdelivery, rfl, rfl⟩

theorem run_updateHeldJob {scope : TenantScope} {a : LeaseArguments} {now : Datetime}
    {f : ProcessingJob → ProcessingJob} {message : String} {s s' : Store} {job' : ProcessingJob}
    (h : (updateHeldJob scope a now f message).run s = (.ok job', s')) :
    ∃ job, s.jobs.get? (scope.siteId, a.jobId) = some job ∧ isHeld a now.instant job = true ∧
      job' = f job ∧ s'.jobs = s.jobs.set (scope.siteId, a.jobId) (f job) ∧
      s'.deliveries = s.deliveries := by
  unfold updateHeldJob at h
  rw [Proc.run_get_bind] at h
  cases hjob : (s.jobs.get? (scope.siteId, a.jobId)).filter (isHeld a now.instant) with
  | none => simp [hjob] at h
  | some job =>
      obtain ⟨hget, hheld⟩ := Option.filter_eq_some_iff.mp hjob
      simp only [hjob, Proc.run_modify_bind, Proc.run_pure, Prod.mk.injEq, Except.ok.injEq] at h
      exact ⟨job, hget, hheld, h.1.symm, by rw [← h.2], by rw [← h.2]⟩

/-! ## The operations -/

section Operations
variable {c : Call} {s : Store}

theorem Move.refl : Move c s s := .idle rfl rfl

/-- Neither deliveries nor jobs are touched. -/
def Untouched (s s' : Store) : Prop := s'.jobs = s.jobs ∧ s'.deliveries = s.deliveries

theorem Untouched.move {s' : Store} (h : Untouched s s') : Move c s s' := .idle h.1 h.2

theorem untouched_insertInstance {k : Instance} {row row' : ConnectorInstance} {s' : Store}
    (h : (insertInstance k row).run s = (.ok row', s')) : Untouched s s' := by
  unfold insertInstance at h
  rw [Proc.run_get_bind] at h
  cases hget : s.instances.get? k with
  | some stored =>
      simp only [hget, Proc.run_pure, Prod.mk.injEq] at h
      exact h.2 ▸ ⟨rfl, rfl⟩
  | none =>
      simp only [hget, Proc.run_modify_bind, Proc.run_pure, Prod.mk.injEq] at h
      exact h.2 ▸ ⟨rfl, rfl⟩

theorem untouched_insertCheckpoint {k : Instance} {row : Checkpoint} {s' : Store} {u : Unit}
    (h : (insertCheckpoint k row).run s = (.ok u, s')) : Untouched s s' := by
  unfold insertCheckpoint at h
  rw [Proc.run_get_bind] at h
  cases hget : s.checkpoints.get? k with
  | some stored =>
      simp [hget] at h
      exact h ▸ ⟨rfl, rfl⟩
  | none =>
      by_cases hlength : row.checkpointId.toList.length ≤ 256
      · simp [hget, hlength] at h
        exact h ▸ ⟨rfl, rfl⟩
      · simp [hget, hlength] at h

theorem untouched_registerConnectorInstance (scope : TenantScope) (key : ConnectorKey)
    (now : Option Datetime) (replayWindowSeconds : ℤ) (teamRef : Option String)
    (agentTaskType : Option AgentTaskType) :
    Untouched s ((registerConnectorInstance scope key now replayWindowSeconds teamRef
      agentTaskType).run s).2 := by
  unfold registerConnectorInstance
  apply Proc.run_lift_snd ⟨rfl, rfl⟩
  intro now _
  apply Proc.run_atomically_snd ⟨rfl, rfl⟩
  intro answer s' h
  obtain ⟨row, s₁, hinstance, h⟩ := Proc.run_bind_eq_ok.mp h
  have hfirst := untouched_insertInstance hinstance
  split at h
  · simp at h
  · obtain ⟨_, s₂, hcheckpoint, h⟩ := Proc.run_bind_eq_ok.mp h
    have hsecond := untouched_insertCheckpoint hcheckpoint
    simp only [Proc.run_pure, Prod.mk.injEq] at h
    exact h.2 ▸ ⟨hsecond.1.trans hfirst.1, hsecond.2.trans hfirst.2⟩

theorem untouched_mutateStatus (scope : TenantScope) (key : ConnectorKey) (pause : Bool)
    (expectedRevision : ℕ) (idempotencyKey requestDigest : String) (now : Datetime) :
    Untouched s ((mutateStatus scope key pause expectedRevision idempotencyKey requestDigest
      now).run s).2 := by
  unfold mutateStatus
  apply Proc.run_atomically_snd ⟨rfl, rfl⟩
  intro answer s' h
  rw [Proc.run_get_bind] at h
  split at h
  next command _ =>
    by_cases hdigest : command.requestDigest = requestDigest
    · simp [hdigest] at h
      exact h.2 ▸ ⟨rfl, rfl⟩
    · simp [hdigest] at h
  next =>
    rw [Proc.run_get_bind] at h
    dsimp only at h
    split at h
    · simp at h
    next connector _ =>
      simp only [Proc.run_modify_bind, Proc.run_get_bind] at h
      split at h
      · simp at h
      next row _ =>
        by_cases hbounds : 8 ≤ idempotencyKey.toList.length ∧
            idempotencyKey.toList.length ≤ 256 ∧ isDigest requestDigest = true
        · simp [hbounds] at h
          exact h.2 ▸ ⟨rfl, rfl⟩
        · simp [hbounds] at h

theorem move_acceptInboundDelivery (scope : TenantScope) (key : ConnectorKey)
    (a : DeliveryArguments) :
    Move (.acceptInboundDelivery scope key a) s ((acceptInboundDelivery scope key a).run s).2 := by
  unfold acceptInboundDelivery
  apply Proc.run_lift_snd .refl
  intro receivedAt _
  apply Proc.run_atomically_snd .refl
  intro row s' h
  rcases run_insertDelivery h with ⟨-, -, rfl⟩ | ⟨hnew, rfl, hjobs, hdeliveries⟩
  · exact .refl
  · exact .receive _ _ ⟨scope, key, a, rfl⟩ hnew rfl hjobs hdeliveries

/-- Every job's delivery is there. -/
def Referential (s : Store) : Prop :=
  ∀ id job, s.jobs.get? id = some job → s.deliveries.get? (deliveryOf id.1 job) ≠ none

/-- The statements of an ingress, on top of whatever has been written to other tables. -/
theorem move_ingress (hs : Referential s) {scope : TenantScope} {key : ConnectorKey}
    {a : DeliveryArguments} {jobId idempotencyKey : String} {maxAttempts : ℤ}
    {receivedAt now : Datetime} {s₀ s₁ s₂ : Store} {row : InboundDelivery}
    {answer : String × ProcessingJob} (hmax : 1 ≤ maxAttempts)
    (hc : c.enqueues = some (instanceOf scope key, a.deliveryId)) (hbase : Untouched s s₀)
    (hinsert : (insertDelivery (instanceOf scope key) a receivedAt true).run s₀ = (.ok row, s₁))
    (henqueue : (enqueueProcessingJob scope key a.deliveryId jobId idempotencyKey 0 now
      maxAttempts).run s₁ = (.ok answer, s₂)) : Move c s s₂ := by
  obtain ⟨hjobs, hdeliveries⟩ := hbase
  rcases run_insertDelivery hinsert with ⟨hget, -, rfl⟩ | ⟨hnew, hrow, hjobs₁, hdeliveries₁⟩
  · rcases run_enqueueProcessingJob henqueue with
      ⟨rfl, -, -, -⟩ | ⟨rfl, hfree, hgen, -, hjobs₂, hdeliveries₂⟩
    · exact .idle hjobs hdeliveries
    · rw [hjobs] at hfree hjobs₂
      rw [generations_congr hjobs] at hgen
      rw [hdeliveries] at hget hdeliveries₂
      exact .enqueue (scope.siteId, jobId) (jobRow key a.deliveryId idempotencyKey 0 now maxAttempts)
        row hc hget ⟨hfree, hgen, rfl, rfl, hmax, rfl⟩ rfl hjobs₂ hdeliveries₂
  · rw [hjobs] at hjobs₁
    rw [hdeliveries] at hnew hdeliveries₁
    rcases run_enqueueProcessingJob henqueue with
      ⟨-, hget, hof, -⟩ | ⟨rfl, hfree, hgen, -, hjobs₂, hdeliveries₂⟩
    · -- A stored job names a delivery that is there.
      rw [hjobs₁] at hget
      have hdelivery := hs (scope.siteId, answer.1) answer.2 hget
      rw [hof] at hdelivery
      exact absurd hnew hdelivery
    · rw [hjobs₁] at hfree hjobs₂
      rw [generations_congr hjobs₁] at hgen
      rw [hdeliveries₁] at hdeliveries₂
      exact .accept (scope.siteId, jobId) (jobRow key a.deliveryId idempotencyKey 0 now maxAttempts)
        row hnew (by rw [hrow]; rfl) ⟨hfree, hgen, rfl, rfl, hmax, rfl⟩ rfl hjobs₂ hdeliveries₂

theorem move_acceptAndEnqueueDelivery (hs : Referential s) (scope : TenantScope)
    (key : ConnectorKey) (a : DeliveryArguments) (jobId idempotencyKey : String)
    (maxAttempts : ℤ) :
    Move (.acceptAndEnqueueDelivery scope key a jobId idempotencyKey maxAttempts) s
      ((acceptAndEnqueueDelivery scope key a jobId idempotencyKey maxAttempts).run s).2 := by
  unfold acceptAndEnqueueDelivery
  apply Proc.run_lift_snd .refl
  intro receivedAt hchecked
  have hmax : 1 ≤ maxAttempts := by
    unfold validateEnqueue at hchecked
    obtain ⟨_, -, hchecked⟩ := Proc.bind_eq_ok.mp hchecked
    obtain ⟨_, -, hchecked⟩ := Proc.bind_eq_ok.mp hchecked
    obtain ⟨_, -, hchecked⟩ := Proc.bind_eq_ok.mp hchecked
    obtain ⟨_, hattempts, -⟩ := Proc.bind_eq_ok.mp hchecked
    exact (requireAttempts_ok.mp hattempts).1
  apply Proc.run_atomically_snd .refl
  intro answer s' h
  obtain ⟨row, s₁, hinsert, h⟩ := Proc.run_bind_eq_ok.mp h
  obtain ⟨job, s₂, henqueue, h⟩ := Proc.run_bind_eq_ok.mp h
  simp only [Proc.run_pure, Prod.mk.injEq] at h
  exact h.2 ▸ move_ingress hs hmax rfl ⟨rfl, rfl⟩ hinsert henqueue

theorem jobOfNonce_ok {scope : TenantScope} {key : ConnectorKey} {stored : Nonce}
    {deliveryId idempotencyKey : String} {now : Datetime} {u : Unit}
    (h : jobOfNonce s scope key stored deliveryId idempotencyKey now = .ok u) :
    ∃ id job, s.jobs.get? id = some job ∧
      deliveryOf id.1 job = (instanceOf scope key, deliveryId) := by
  unfold jobOfNonce at h
  split at h
  · cases h
  split at h
  · cases h
  next id job hfound =>
    split at h
    next hof => exact ⟨id, job, jobByIdempotencyKey_some hfound, hof⟩
    next => cases h

theorem validateIngress_attempts {a : DeliveryArguments} {nonce jobId : String}
    {nonceExpiresAt now : Option Datetime} {maxAttempts : ℤ} {r : Datetime × Datetime × Datetime}
    (h : validateIngress a nonce nonceExpiresAt now jobId maxAttempts = .ok r) :
    1 ≤ maxAttempts := by
  unfold validateIngress at h
  obtain ⟨_, -, h⟩ := Proc.bind_eq_ok.mp h
  obtain ⟨_, -, h⟩ := Proc.bind_eq_ok.mp h
  obtain ⟨_, -, h⟩ := Proc.bind_eq_ok.mp h
  obtain ⟨_, -, h⟩ := Proc.bind_eq_ok.mp h
  split at h
  · cases h
  obtain ⟨_, -, h⟩ := Proc.bind_eq_ok.mp h
  obtain ⟨_, hattempts, -⟩ := Proc.bind_eq_ok.mp h
  exact (requireAttempts_ok.mp hattempts).1

theorem move_acceptAuthenticatedDelivery (py : Stdlib) (hs : Referential s) (scope : TenantScope)
    (key : ConnectorKey) (a : DeliveryArguments) (nonce : String)
    (nonceExpiresAt now : Option Datetime) (jobId : String) (maxAttempts : ℤ) :
    Move (.acceptAuthenticatedDelivery scope key a nonce nonceExpiresAt now jobId maxAttempts) s
      ((acceptAuthenticatedDelivery py scope key a nonce nonceExpiresAt now jobId
        maxAttempts).run s).2 := by
  unfold acceptAuthenticatedDelivery
  apply Proc.run_lift_snd .refl
  rintro ⟨receivedAt, nonceExpiry, now'⟩ hchecked
  have hmax := validateIngress_attempts hchecked
  apply Proc.run_atomically_snd .refl
  intro answer s' h
  rw [Proc.run_get_bind] at h
  obtain ⟨_, s₁, hwindow, h⟩ := Proc.run_bind_eq_ok.mp h
  obtain rfl : s = s₁ := (Prod.mk.inj hwindow).2
  split at h
  next stored _ =>
    obtain ⟨_, s₁, hnonce, h⟩ := Proc.run_bind_eq_ok.mp h
    obtain rfl : s = s₁ := (Prod.mk.inj hnonce).2
    obtain ⟨row, s₂, hinsert, h⟩ := Proc.run_bind_eq_ok.mp h
    simp only [Proc.run_pure, Prod.mk.injEq] at h
    obtain ⟨-, rfl⟩ := h
    rcases run_insertDelivery hinsert with ⟨-, -, rfl⟩ | ⟨hnew, -, -, -⟩
    · exact .refl
    · -- The job of the nonce names a delivery that is there.
      obtain ⟨id, job, hget, hof⟩ := jobOfNonce_ok (Prod.mk.inj hnonce).1
      have hdelivery := hs id job hget
      rw [hof] at hdelivery
      exact absurd hnew hdelivery
  next =>
    rw [Proc.run_modify_bind] at h
    obtain ⟨row, s₁, hinsert, h⟩ := Proc.run_bind_eq_ok.mp h
    obtain ⟨job, s₂, henqueue, h⟩ := Proc.run_bind_eq_ok.mp h
    simp only [Proc.run_pure, Prod.mk.injEq] at h
    refine h.2 ▸ move_ingress hs hmax rfl ?_ hinsert henqueue
    exact ⟨rfl, rfl⟩

/-- The statements that a worker's call makes about the delivery of its job. -/
theorem redelivers_updateDelivery {k : Instance × String} {p : InboundDelivery → Bool}
    {f : InboundDelivery → InboundDelivery} {before : List DeliveryStatus} {after : DeliveryStatus}
    (hp : ∀ row, p row = true → row.processingStatus.mayBecome (f row).processingStatus = true →
      row.processingStatus ∈ before)
    (hbefore : ∀ row, row.processingStatus ∈ before → p row = true)
    (hf : ∀ row, (p row = true → (f row).processingStatus = after) ∧ row.SameOrigin (f row))
    {s₁ s' : Store} {b : Bool} (hdeliveries : s₁.deliveries = s.deliveries)
    (h : (updateDelivery k p f).run s₁ = (.ok b, s')) :
    Redelivers s s' k before after ∧ s'.jobs = s₁.jobs := by
  rcases run_updateDelivery h with ⟨-, row, hget, hrow, hmay, hjobs, hset⟩ | ⟨-, rfl, hnone⟩
  · refine ⟨.inl ⟨row, f row, ?_, hp row hrow hmay, (hf row).1 hrow, (hf row).2, ?_⟩, hjobs⟩
    · rwa [← hdeliveries]
    · rw [hset, hdeliveries]
  · refine ⟨.inr ⟨hdeliveries, fun row hget hmem => ?_⟩, rfl⟩
    rw [← hdeliveries] at hget
    exact Bool.false_ne_true ((hnone row hget).symm.trans (hbefore row hmem))

theorem candidate_some {collation : Collation} {site : String} {now : Timestamptz}
    {e : (String × String) × ProcessingJob} (h : s.candidate collation site now = some e) :
    s.jobs.get? e.1 = some e.2 ∧ s.isClaimable site now e = true := by
  have hmem := List.mem_of_head? h
  rw [List.mem_insertionSort, List.mem_filter] at hmem
  exact ⟨Dict.mem_items.mp hmem.1, hmem.2⟩

theorem move_claimProcessingJob (collation : Collation) (scope : TenantScope) (workerId : String)
    (now : Option Datetime) (leaseSeconds : ℤ) :
    Move (.claimProcessingJob scope workerId now leaseSeconds) s
      ((claimProcessingJob collation scope workerId now leaseSeconds).run s).2 := by
  unfold claimProcessingJob
  apply Proc.run_lift_snd .refl
  rintro ⟨now', expiry⟩ _
  apply Proc.run_atomically_snd .refl
  intro answer s' h
  rw [Proc.run_get_bind] at h
  split at h
  next =>
    simp only [Proc.run_pure, Prod.mk.injEq] at h
    exact h.2 ▸ .refl
  next id job hcandidate =>
    obtain ⟨hget, hclaim⟩ := candidate_some hcandidate
    have hsite : id.1 = scope.siteId := by
      simp only [isClaimable, Bool.and_eq_true, decide_eq_true_eq] at hclaim
      exact hclaim.1.1.1
    rw [Proc.run_modify_bind] at h
    obtain ⟨b, s₁, hstart, h⟩ := Proc.run_bind_eq_ok.mp h
    simp only [Proc.run_pure, Prod.mk.injEq] at h
    obtain ⟨-, rfl⟩ := h
    have hdelivery : Redelivers s s₁ (deliveryOf id.1 job) [.queued, .processing] .processing ∧
        s₁.jobs = s.jobs.set id (claimed job workerId now' expiry) := by
      refine redelivers_updateDelivery ?_ ?_ ?_ rfl hstart
      · intro row hp hmay
        cases hstatus : row.processingStatus <;> simp_all [DeliveryStatus.mayBecome]
      · intro row hmem
        simp only [List.mem_cons, List.not_mem_nil, or_false] at hmem
        rcases hmem with hstatus | hstatus <;> simp [hstatus]
      · exact fun row => ⟨fun _ => rfl, rfl, rfl, rfl, rfl, rfl, rfl⟩
    exact .lease id job workerId now' expiry hget (hsite ▸ hclaim) hdelivery.2 hdelivery.1

/-- The end of a worker's call: the delivery goes on if it is being processed. -/
theorem redelivers_of_processing {k : Instance × String}
    {f : InboundDelivery → InboundDelivery} {after : DeliveryStatus}
    (hf : ∀ row, row.processingStatus = .processing →
      (f row).processingStatus = after) (horigin : ∀ row : InboundDelivery, row.SameOrigin (f row))
    {s₁ s' : Store} {b : Bool} (hdeliveries : s₁.deliveries = s.deliveries)
    (h : (updateDelivery k (fun row => row.processingStatus = .processing) f).run s₁ =
      (.ok b, s')) : Redelivers s s' k [.processing] after ∧ s'.jobs = s₁.jobs := by
  refine redelivers_updateDelivery ?_ ?_ ?_ hdeliveries h
  · intro row hp _
    simpa using hp
  · intro row hmem
    simpa using hmem
  · exact fun row => ⟨fun hp => hf row (by simpa using hp), horigin row⟩

theorem finishDelivery_redelivers {k : Instance × String} {status : DeliveryStatus}
    {errorCode : Option String} {now : Datetime} {s₁ s' : Store} {b : Bool}
    (hdeliveries : s₁.deliveries = s.deliveries)
    (h : (finishDelivery k status errorCode now).run s₁ = (.ok b, s')) :
    Redelivers s s' k [.processing] status ∧ s'.jobs = s₁.jobs := by
  refine redelivers_of_processing ?_ ?_ hdeliveries h
  · exact fun _ _ => rfl
  · exact fun _ => ⟨rfl, rfl, rfl, rfl, rfl, rfl⟩

theorem validateJobLeaseInput_now {a : LeaseArguments} {now : Datetime}
    (h : validateJobLeaseInput a = .ok now) : a.now = some now := by
  unfold validateJobLeaseInput at h
  obtain ⟨_, -, h⟩ := Proc.bind_eq_ok.mp h
  obtain ⟨_, -, h⟩ := Proc.bind_eq_ok.mp h
  dsimp only at h
  split at h
  · cases h
  split at h
  · cases h
  exact requireAware_ok.mp h

theorem move_heartbeatProcessingJob (scope : TenantScope) (a : LeaseArguments)
    (leaseSeconds : ℤ) :
    Move (.heartbeatProcessingJob scope a leaseSeconds) s
      ((heartbeatProcessingJob scope a leaseSeconds).run s).2 := by
  unfold heartbeatProcessingJob
  apply Proc.run_lift_snd .refl
  rintro ⟨now, expiry⟩ hchecked
  have hnow : a.now = some now := by
    unfold validateHeartbeat at hchecked
    obtain ⟨_, hlease, hchecked⟩ := Proc.bind_eq_ok.mp hchecked
    obtain ⟨_, -, hchecked⟩ := Proc.bind_eq_ok.mp hchecked
    obtain ⟨_, -, hchecked⟩ := Proc.bind_eq_ok.mp hchecked
    rw [← (Prod.mk.inj (Except.ok.inj hchecked)).1]
    exact validateJobLeaseInput_now hlease
  apply Proc.run_atomically_snd .refl
  intro answer s' h
  obtain ⟨job, hget, hheld, -, hjobs, hdeliveries⟩ := run_updateHeldJob h
  exact .extend (scope.siteId, a.jobId) job a now expiry.instant now.instant hnow hget hheld hjobs
    hdeliveries

theorem move_completeProcessingJob (scope : TenantScope) (a : LeaseArguments)
    (providerEventIds : List String) :
    Move (.completeProcessingJob scope a providerEventIds) s
      ((completeProcessingJob scope a providerEventIds).run s).2 := by
  unfold completeProcessingJob
  apply Proc.run_lift_snd .refl
  intro now hchecked
  have hnow : a.now = some now := by
    unfold validateCompletion at hchecked
    obtain ⟨_, hlease, hchecked⟩ := Proc.bind_eq_ok.mp hchecked
    obtain ⟨_, -, hchecked⟩ := Proc.bind_eq_ok.mp hchecked
    rw [← Except.ok.inj hchecked]
    exact validateJobLeaseInput_now hlease
  apply Proc.run_atomically_snd .refl
  intro answer s' h
  obtain ⟨job', s₁, hupdate, h⟩ := Proc.run_bind_eq_ok.mp h
  rw [Proc.run_modify_bind] at h
  obtain ⟨b, s₂, hfinish, h⟩ := Proc.run_bind_eq_ok.mp h
  simp only [Proc.run_pure, Prod.mk.injEq] at h
  obtain ⟨-, rfl⟩ := h
  obtain ⟨job, hget, hheld, rfl, hjobs, hdeliveries⟩ := run_updateHeldJob hupdate
  have hlinked : (linkEvents (scope.siteId, job.key) job.deliveryId now providerEventIds
      s₁).deliveries = s.deliveries := hdeliveries
  obtain ⟨hdelivery, hjobs'⟩ := finishDelivery_redelivers hlinked hfinish
  exact .finish (scope.siteId, a.jobId) job a now .succeeded .succeeded none hnow hget hheld .succeed
    (hjobs'.trans hjobs) hdelivery

/-- A file that records the end of a job touches neither table. -/
theorem untouched_recordDeadLetter (py : Stdlib) (scope : TenantScope) (jobId : String)
    (job : ProcessingJob) (errorCode : String) (now : Datetime) :
    Untouched s (recordDeadLetter py scope jobId job errorCode now s) := by
  unfold recordDeadLetter
  dsimp only
  split <;> exact ⟨rfl, rfl⟩

theorem untouched_recordQuarantine (py : Stdlib) (scope : TenantScope) (a : LeaseArguments)
    (job : ProcessingJob) (reasonCode : String) (now : Datetime) :
    Untouched s (recordQuarantine py scope a job reasonCode now s) := by
  unfold recordQuarantine
  dsimp only
  split <;> exact ⟨rfl, rfl⟩

theorem move_retryProcessingJob (py : Stdlib) (scope : TenantScope) (a : LeaseArguments)
    (nextRetryAt : Option Datetime) (errorCode : String) :
    Move (.retryProcessingJob scope a nextRetryAt errorCode) s
      ((retryProcessingJob py scope a nextRetryAt errorCode).run s).2 := by
  unfold retryProcessingJob
  apply Proc.run_lift_snd .refl
  rintro ⟨now, retryAt⟩ hchecked
  have hnow : a.now = some now := by
    unfold validateRetry at hchecked
    obtain ⟨_, hlease, hchecked⟩ := Proc.bind_eq_ok.mp hchecked
    obtain ⟨_, -, hchecked⟩ := Proc.bind_eq_ok.mp hchecked
    dsimp only at hchecked
    split at hchecked
    · cases hchecked
    obtain ⟨_, -, hchecked⟩ := Proc.bind_eq_ok.mp hchecked
    rw [← (Prod.mk.inj (Except.ok.inj hchecked)).1]
    exact validateJobLeaseInput_now hlease
  apply Proc.run_atomically_snd .refl
  intro answer s' h
  obtain ⟨job', s₁, hupdate, h⟩ := Proc.run_bind_eq_ok.mp h
  obtain ⟨job, hget, hheld, rfl, hjobs, hdeliveries⟩ := run_updateHeldJob hupdate
  by_cases hlast : job.maxAttempts ≤ job.attemptCount
  · have hretried : retried job retryAt errorCode now = ended job .deadLetter (some errorCode) now :=
      if_pos hlast
    have hburied : (ended job .deadLetter (some errorCode) now).status = .deadLetter := rfl
    rw [hretried, if_pos hburied, Proc.run_modify_bind] at h
    obtain ⟨b, s₂, hfinish, h⟩ := Proc.run_bind_eq_ok.mp h
    simp only [Proc.run_pure, Prod.mk.injEq] at h
    obtain ⟨-, rfl⟩ := h
    obtain ⟨hjobs₁, hdeliveries₁⟩ := untouched_recordDeadLetter (s := s₁) py scope a.jobId
      (ended job .deadLetter (some errorCode) now) errorCode now
    obtain ⟨hdelivery, hjobs'⟩ :=
      finishDelivery_redelivers (hdeliveries₁.trans hdeliveries) hfinish
    exact .finish (scope.siteId, a.jobId) job a now .deadLetter .failed (some errorCode) hnow hget hheld
      .bury (by rw [hjobs', hjobs₁, hjobs, hretried]) hdelivery
  · have hretried : (retried job retryAt errorCode now).status = .retryWait := by
      rw [retried, if_neg hlast]
    rw [if_neg (by rw [hretried]; decide)] at h
    obtain ⟨b, s₂, hrecord, h⟩ := Proc.run_bind_eq_ok.mp h
    simp only [Proc.run_pure, Prod.mk.injEq] at h
    obtain ⟨-, rfl⟩ := h
    have hdelivery : Redelivers s s₂ (deliveryOf scope.siteId (retried job retryAt errorCode now))
        [.processing] .processing ∧ s₂.jobs = s₁.jobs := by
      refine redelivers_of_processing ?_ ?_ hdeliveries hrecord
      · exact fun _ hstatus => hstatus
      · exact fun _ => ⟨rfl, rfl, rfl, rfl, rfl, rfl⟩
    have hof : deliveryOf scope.siteId (retried job retryAt errorCode now) =
        deliveryOf scope.siteId job := by
      rw [retried, if_neg hlast]
      rfl
    exact .wait (scope.siteId, a.jobId) job a now retryAt errorCode hnow hget hheld (not_le.mp hlast)
      (hdelivery.2.trans hjobs) (hof ▸ hdelivery.1)

theorem move_quarantineProcessingJob (py : Stdlib) (scope : TenantScope) (a : LeaseArguments)
    (reasonCode : String) :
    Move (.quarantineProcessingJob scope a reasonCode) s
      ((quarantineProcessingJob py scope a reasonCode).run s).2 := by
  unfold quarantineProcessingJob
  apply Proc.run_lift_snd .refl
  intro now hchecked
  have hnow : a.now = some now := by
    unfold validateQuarantine at hchecked
    obtain ⟨_, hlease, hchecked⟩ := Proc.bind_eq_ok.mp hchecked
    obtain ⟨_, -, hchecked⟩ := Proc.bind_eq_ok.mp hchecked
    rw [← Except.ok.inj hchecked]
    exact validateJobLeaseInput_now hlease
  apply Proc.run_atomically_snd .refl
  intro answer s' h
  obtain ⟨job', s₁, hupdate, h⟩ := Proc.run_bind_eq_ok.mp h
  obtain ⟨job, hget, hheld, rfl, hjobs, hdeliveries⟩ := run_updateHeldJob hupdate
  rw [Proc.run_modify_bind] at h
  obtain ⟨b, s₂, hfinish, h⟩ := Proc.run_bind_eq_ok.mp h
  simp only [Proc.run_pure, Prod.mk.injEq] at h
  obtain ⟨-, rfl⟩ := h
  obtain ⟨hjobs₁, hdeliveries₁⟩ := untouched_recordQuarantine (s := s₁) py scope a
    (ended job .quarantined (some reasonCode) now) reasonCode now
  obtain ⟨hdelivery, hjobs'⟩ := finishDelivery_redelivers (hdeliveries₁.trans hdeliveries) hfinish
  exact .finish (scope.siteId, a.jobId) job a now .quarantined .quarantined (some reasonCode) hnow
    hget hheld .quarantine (by rw [hjobs', hjobs₁, hjobs]) hdelivery

theorem nextGeneration_congr {t : Store} (h : t.jobs = s.jobs) (k : Instance × String) :
    t.nextGeneration k = s.nextGeneration k := by
  rw [nextGeneration, generations_congr h, nextGeneration]

theorem lt_nextGeneration {k : Instance × String} {n : ℕ} (h : n ∈ s.generations k) :
    n < s.nextGeneration k := by
  unfold nextGeneration
  generalize s.generations k = generations at h
  induction generations with
  | nil => simp at h
  | cons m ms ih =>
      rw [List.foldr_cons]
      rcases List.mem_cons.mp h with rfl | h
      · exact lt_of_lt_of_le (Nat.lt_succ_self _) (le_max_left _ _)
      · exact lt_of_lt_of_le (ih h) (le_max_right _ _)

theorem move_replayDelivery (scope : TenantScope) (key : ConnectorKey)
    (deliveryId jobId idempotencyKey : String) (now : Option Datetime) (maxAttempts : ℤ) :
    Move (.replayDelivery scope key deliveryId jobId idempotencyKey now maxAttempts) s
      ((replayDelivery scope key deliveryId jobId idempotencyKey now maxAttempts).run s).2 := by
  unfold replayDelivery
  apply Proc.run_lift_snd .refl
  rintro ⟨now', oldest⟩ hchecked
  have hmax : 1 ≤ maxAttempts := by
    unfold validateReplay at hchecked
    obtain ⟨_, -, hchecked⟩ := Proc.bind_eq_ok.mp hchecked
    obtain ⟨_, -, hchecked⟩ := Proc.bind_eq_ok.mp hchecked
    obtain ⟨_, -, hchecked⟩ := Proc.bind_eq_ok.mp hchecked
    obtain ⟨_, -, hchecked⟩ := Proc.bind_eq_ok.mp hchecked
    obtain ⟨_, hattempts, -⟩ := Proc.bind_eq_ok.mp hchecked
    exact (requireAttempts_ok.mp hattempts).1
  apply Proc.run_atomically_snd .refl
  intro answer s' h
  rw [Proc.run_get_bind] at h
  split at h
  next id job hfound =>
    by_cases hsame : deliveryOf id.1 job = (instanceOf scope key, deliveryId)
    · simp [hsame] at h
      exact h.2 ▸ .refl
    · simp [hsame] at h
  next =>
    obtain ⟨b, s₁, hupdate, h⟩ := Proc.run_bind_eq_ok.mp h
    rcases run_updateDelivery hupdate with ⟨rfl, row, hget, hrow, hmay, hjobs₁, hset⟩ | ⟨rfl, -, -⟩
    · simp only [if_true, Proc.run_get_bind] at h
      rcases run_enqueueProcessingJob h with
        ⟨-, hstored, hof, hgeneration⟩ | ⟨rfl, hfree, hgen, -, hjobs₂, hdeliveries₂⟩
      · -- No stored job has the next generation.
        have hlt : answer.2.generation < s₁.nextGeneration (instanceOf scope key, deliveryId) := by
          apply lt_nextGeneration
          rw [mem_generations]
          exact ⟨(scope.siteId, answer.1), answer.2, hstored, hof, rfl⟩
        omega
      · rw [hjobs₁] at hfree hjobs₂
        rw [generations_congr hjobs₁, nextGeneration_congr hjobs₁] at hgen
        rw [nextGeneration_congr hjobs₁] at hjobs₂
        simp only [Bool.and_eq_true, decide_eq_true_eq] at hrow
        have hdeliveries := hdeliveries₂.trans hset
        refine .replay (scope.siteId, jobId) (jobRow key deliveryId idempotencyKey
            (s.nextGeneration (instanceOf scope key, deliveryId)) now' maxAttempts) row
          { row with
            processingStatus := .queued, lastErrorCode := none, updatedAt := now'.instant }
          hget hrow.1.1 ?_ ?_ ⟨hfree, hgen, rfl, rfl, hmax, rfl⟩ rfl hjobs₂ hdeliveries
        · rfl
        · exact ⟨rfl, rfl, rfl, rfl, rfl, rfl⟩
    · simp at h

end Operations

/-- Every call makes a move. -/
theorem perform_move (py : Stdlib) (collation : Collation) {s : Store} (hs : Referential s)
    (c : Call) : Move c s ((machine py collation).step s c).2 := by
  simp only [machine]
  cases c <;> simp only [perform, Proc.run_map]
  case registerConnectorInstance => exact (untouched_registerConnectorInstance ..).move
  case mutateStatus => exact (untouched_mutateStatus ..).move
  case acceptInboundDelivery => exact move_acceptInboundDelivery ..
  case acceptAndEnqueueDelivery => exact move_acceptAndEnqueueDelivery hs ..
  case acceptAuthenticatedDelivery => exact move_acceptAuthenticatedDelivery py hs ..
  case claimProcessingJob => exact move_claimProcessingJob ..
  case heartbeatProcessingJob => exact move_heartbeatProcessingJob ..
  case completeProcessingJob => exact move_completeProcessingJob ..
  case retryProcessingJob => exact move_retryProcessingJob ..
  case quarantineProcessingJob => exact move_quarantineProcessingJob ..
  case replayDelivery => exact move_replayDelivery ..

end Store
end EsanGbos.Observer
