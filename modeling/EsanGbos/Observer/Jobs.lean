import Mathlib.Data.List.Sort
import EsanGbos.Observer.Storage

/-!
# Deliveries and their processing jobs

The operations of `PostgresLocalPilotStorage` on inbound deliveries and processing jobs,
with the constraints of the tables and the trigger on the status of a delivery. Where
PostgreSQL sorts by a text, it sorts as the collation of the database has it.

## Main definitions

* `DeliveryStatus.mayBecome` — what the trigger lets through.
* `Store.acceptAndEnqueueDelivery`, `Store.acceptAuthenticatedDelivery` — ingress.
* `Store.claimProcessingJob`, ..., `Store.replayDelivery` — the life of a job.
* `Store.machine` — the storage as a machine that answers calls.
-/
namespace EsanGbos.Observer
open Lib

/-- `observer.enforce_inbound_delivery_state_machine`, which lets an unchanged status pass. -/
def DeliveryStatus.mayBecome : DeliveryStatus → DeliveryStatus → Bool
  | received, received | received, authenticated | received, queued | received, quarantined
  | received, failed => true
  | authenticated, authenticated | authenticated, queued | authenticated, quarantined
  | authenticated, failed => true
  | queued, queued | queued, processing | queued, quarantined | queued, failed => true
  | processing, processing | processing, succeeded | processing, quarantined
  | processing, failed => true
  | failed, failed | failed, queued => true
  | succeeded, succeeded | quarantined, quarantined => true
  | _, _ => false

/-- The arguments that describe a delivery. -/
structure DeliveryArguments where
  deliveryId : String
  exactBodySha256 : String
  objectRef : String
  byteSize : ℤ
  mediaType : String
  receivedAt : Option Datetime
  correlationId : String

/-- The arguments by which a worker names the lease it holds. -/
structure LeaseArguments where
  jobId : String
  workerId : String
  expectedAttempt : ℤ
  expectedLeaseGeneration : ℤ
  now : Option Datetime

namespace Store
open Proc (atomically)

/-! ## Checks -/

/-- `_validate_delivery_input`. -/
def validateDeliveryInput (a : DeliveryArguments) : Except Raise Datetime := do
  requireIdentifier a.deliveryId "delivery_id" 512
  unless isDigest a.exactBodySha256 do
    throw (.valueError "exact_body_sha256 must be lowercase hexadecimal sha256")
  requireIdentifier a.objectRef "object_ref" 512
  if a.byteSize < 0 then
    throw (.valueError "byte_size must be a non-negative integer")
  requireIdentifier a.mediaType "media_type" 255
  let receivedAt ← requireAware a.receivedAt "received_at"
  requireIdentifier a.correlationId "correlation_id" 256
  return receivedAt

/-- `_validate_job_lease_input`. -/
def validateJobLeaseInput (a : LeaseArguments) : Except Raise Datetime := do
  requireIdentifier a.jobId "job_id" 256
  requireIdentifier a.workerId "worker_id" 256
  if a.expectedAttempt < 1 then
    throw (.valueError "expected_attempt must be a positive integer")
  if a.expectedLeaseGeneration < 1 then
    throw (.valueError "expected_lease_generation must be a positive integer")
  requireAware a.now "now"

/-- `_validate_provider_event_ids` of a tuple that may be empty. -/
def validateProviderEventIds (ids : List String) : Except Raise Unit := do
  unless ids.Nodup do throw (.valueError "provider_event_ids must be unique")
  ids.forM fun id => requireIdentifier id "provider_event_id" 512

/-! ## Deliveries -/

/-- The content that a delivery may not be accepted again without. -/
def sameContent (row : InboundDelivery) (a : DeliveryArguments) : Bool :=
  row.exactBodySha256 = a.exactBodySha256 && row.objectRef = a.objectRef &&
    row.byteSize = a.byteSize && row.mediaType = a.mediaType

/-- The row of a new delivery. -/
def deliveryRow (a : DeliveryArguments) (receivedAt : Datetime) (queued : Bool) : InboundDelivery :=
  { exactBodySha256 := a.exactBodySha256, objectRef := a.objectRef, byteSize := a.byteSize
    mediaType := a.mediaType, receivedAt := receivedAt.instant
    processingStatus := if queued then .queued else .received, attemptCount := 0
    correlationId := a.correlationId, lastAttemptAt := none, lastErrorCode := none
    createdAt := receivedAt.instant, updatedAt := receivedAt.instant }

/-- `_accept_inbound_delivery`. -/
def insertDelivery (k : Instance) (a : DeliveryArguments) (receivedAt : Datetime)
    (queued : Bool) : Op InboundDelivery := do
  match (← get).deliveries.get? (k, a.deliveryId) with
  | some row =>
      unless sameContent row a do
        throw (.deliveryConflict
          "delivery identifier was reused with a different body or content metadata")
      return row
  | none =>
      if ((← get).instances.get? k).isNone then throw .integrityError
      modify fun s => { s with
        deliveries := s.deliveries.set (k, a.deliveryId) (deliveryRow a receivedAt queued) }
      return deliveryRow a receivedAt queued

/-- `UPDATE observer.inbound_deliveries SET f WHERE` key and `p`, under the trigger. -/
def updateDelivery (k : Instance × String) (p : InboundDelivery → Bool)
    (f : InboundDelivery → InboundDelivery) : Op Bool := do
  match ((← get).deliveries.get? k).filter p with
  | none => return false
  | some row =>
      unless row.processingStatus.mayBecome (f row).processingStatus do throw .integrityError
      modify fun s => { s with deliveries := s.deliveries.set k (f row) }
      return true

/-- `_mark_delivery_terminal`, and the statement of `complete_processing_job`. -/
def finishDelivery (k : Instance × String) (status : DeliveryStatus) (errorCode : Option String)
    (now : Datetime) : Op Bool :=
  updateDelivery k (fun row => row.processingStatus = .processing)
    fun row => { row with
      processingStatus := status, lastErrorCode := errorCode, updatedAt := now.instant }

/-- `_record_delivery_error`. -/
def recordDeliveryError (k : Instance × String) (errorCode : String) (now : Datetime) : Op Bool :=
  updateDelivery k (fun row => row.processingStatus = .processing)
    fun row => { row with lastErrorCode := some errorCode, updatedAt := now.instant }

/-! ## Jobs -/

/-- The key of a job's delivery. -/
def deliveryOf (site : String) (job : ProcessingJob) : Instance × String :=
  ((site, job.key), job.deliveryId)

/-- A site's job with an idempotency key, with its key. -/
def jobByIdempotencyKey (s : Store) (site idempotencyKey : String) :
    Option ((String × String) × ProcessingJob) :=
  s.jobs.items.find? fun e => e.1.1 = site && e.2.idempotencyKey = idempotencyKey

/-- The generations of a delivery's jobs. -/
def generations (s : Store) (delivery : Instance × String) : List ℕ :=
  (s.jobs.items.filter fun e => deliveryOf e.1.1 e.2 = delivery).map fun e => e.2.generation

/-- The row of a new job. -/
def jobRow (key : ConnectorKey) (deliveryId idempotencyKey : String) (generation : ℕ)
    (now : Datetime) (maxAttempts : ℤ) : ProcessingJob :=
  { key, deliveryId, status := .queued, attemptCount := 0, maxAttempts, idempotencyKey, generation
    lease := none, leaseGeneration := 0, nextRetryAt := none, lastErrorCode := none
    createdAt := now.instant, updatedAt := now.instant }

/-- `_enqueue_processing_job`. The index on idempotency keys decides first; then the primary
key, the index on generations and the delivery's key may refuse the row. -/
def enqueueProcessingJob (scope : TenantScope) (key : ConnectorKey)
    (deliveryId jobId idempotencyKey : String) (generation : ℕ) (now : Datetime)
    (maxAttempts : ℤ) : Op (String × ProcessingJob) := do
  let s ← get
  let delivery : Instance × String := (instanceOf scope key, deliveryId)
  match s.jobByIdempotencyKey scope.siteId idempotencyKey with
  | some (id, job) =>
      unless deliveryOf id.1 job = delivery ∧ job.generation = generation do
        throw (.jobConflict "processing job idempotency key was reused")
      return (id.2, job)
  | none =>
      if (s.jobs.get? (scope.siteId, jobId)).isSome ∨ generation ∈ s.generations delivery ∨
          (s.deliveries.get? delivery).isNone then
        throw .integrityError
      let job := jobRow key deliveryId idempotencyKey generation now maxAttempts
      set { s with jobs := s.jobs.set (scope.siteId, jobId) job }
      return (jobId, job)

/-! ## Ingress -/

/-- `accept_inbound_delivery`. -/
def acceptInboundDelivery (scope : TenantScope) (key : ConnectorKey) (a : DeliveryArguments) :
    Op InboundDelivery := do
  let receivedAt ← validateDeliveryInput a
  atomically <| insertDelivery (instanceOf scope key) a receivedAt false

/-- The checks of `accept_and_enqueue_delivery`. -/
def validateEnqueue (a : DeliveryArguments) (jobId idempotencyKey : String) (maxAttempts : ℤ) :
    Except Raise Datetime := do
  let receivedAt ← validateDeliveryInput a
  requireIdentifier jobId "job_id" 256
  requireIdentifier idempotencyKey "idempotency_key" 256
  requireAttempts maxAttempts
  return receivedAt

/-- `accept_and_enqueue_delivery`. -/
def acceptAndEnqueueDelivery (scope : TenantScope) (key : ConnectorKey) (a : DeliveryArguments)
    (jobId idempotencyKey : String) (maxAttempts : ℤ) :
    Op (InboundDelivery × String × ProcessingJob) := do
  let receivedAt ← validateEnqueue a jobId idempotencyKey maxAttempts
  atomically do
    let delivery ← insertDelivery (instanceOf scope key) a receivedAt true
    let job ← enqueueProcessingJob scope key a.deliveryId jobId idempotencyKey 0 receivedAt
      maxAttempts
    return (delivery, job)

/-- `_authenticated_identity_ref`. -/
def authenticatedIdentityRef (py : Stdlib) (key : ConnectorKey) : String :=
  s!"connector:{key.connector.text}:{py.sha256 key.instanceId.toList}"

/-- `_authenticated_job_idempotency_key`. -/
def authenticatedJobIdempotencyKey (py : Stdlib) (scope : TenantScope) (key : ConnectorKey)
    (nonce : String) : String :=
  let material := [scope.siteId, key.connector.text, key.instanceId, nonce]
  "authenticated:" ++ py.sha256 ("\x1f".intercalate material).toList

/-- The checks of `accept_authenticated_delivery`. -/
def validateIngress (a : DeliveryArguments) (nonce : String) (nonceExpiresAt now : Option Datetime)
    (jobId : String) (maxAttempts : ℤ) : Except Raise (Datetime × Datetime × Datetime) := do
  let receivedAt ← validateDeliveryInput a
  requireIdentifier nonce "nonce" 512
  let nonceExpiresAt ← requireAware nonceExpiresAt "nonce_expires_at"
  let now ← requireAware now "now"
  if nonceExpiresAt.instant ≤ now.instant then
    throw (.ingressExpired "authenticated nonce is expired")
  requireIdentifier jobId "job_id" 256
  requireAttempts maxAttempts
  return (receivedAt, nonceExpiresAt, now)

inductive IngressDisposition where
  | accepted | duplicate
deriving DecidableEq, Repr

/-- The delivery is older than the replay window of its connector. -/
def requireWindow (checkpoint : Option Checkpoint) (receivedAt now : Datetime) :
    Except Raise Unit :=
  match checkpoint with
  | none => .error (.deliveryConflict "connector checkpoint not found in site scope")
  | some row => do
      let oldest ← plus now (seconds (-row.replayWindowSeconds))
      if receivedAt.instant < oldest.instant then
        throw (.ingressExpired "delivery is outside the configured replay window")

/-- The job that a consumed nonce belongs to. -/
def jobOfNonce (s : Store) (scope : TenantScope) (key : ConnectorKey) (stored : Nonce)
    (deliveryId idempotencyKey : String) (now : Datetime) : Except Raise Unit :=
  if stored.expiresAt ≤ now.instant then
    .error (.ingressExpired "persisted nonce is expired")
  else
    match s.jobByIdempotencyKey scope.siteId idempotencyKey with
    | none => .error (.nonceReplay "authenticated nonce has no matching delivery job")
    | some (id, job) =>
        if deliveryOf id.1 job = (instanceOf scope key, deliveryId) then .ok ()
        else .error (.nonceReplay "authenticated nonce was reused for a different delivery")

/-- `accept_authenticated_delivery`. -/
def acceptAuthenticatedDelivery (py : Stdlib) (scope : TenantScope) (key : ConnectorKey)
    (a : DeliveryArguments) (nonce : String) (nonceExpiresAt now : Option Datetime)
    (jobId : String) (maxAttempts : ℤ) : Op IngressDisposition := do
  let (receivedAt, nonceExpiresAt, now) ←
    validateIngress a nonce nonceExpiresAt now jobId maxAttempts
  let nonceKey := (scope.siteId, authenticatedIdentityRef py key, py.sha256 nonce.toList)
  let idempotencyKey := authenticatedJobIdempotencyKey py scope key nonce
  atomically do
    let s ← get
    requireWindow (s.checkpoints.get? (instanceOf scope key)) receivedAt now
    match s.nonces.get? nonceKey with
    | some stored =>
        jobOfNonce s scope key stored a.deliveryId idempotencyKey now
        let _ ← insertDelivery (instanceOf scope key) a receivedAt true
        return .duplicate
    | none =>
        modify fun s => { s with
          nonces := s.nonces.set nonceKey ⟨now.instant, nonceExpiresAt.instant⟩ }
        let _ ← insertDelivery (instanceOf scope key) a receivedAt true
        let _ ← enqueueProcessingJob scope key a.deliveryId jobId idempotencyKey 0 now maxAttempts
        return .accepted

/-! ## Claims -/

/-- `EXISTS` an instance of the job's connector that is not paused. -/
def isActive (s : Store) (k : Instance) : Bool :=
  (s.instances.get? k).any fun connector => connector.status ≠ .paused

/-- The time has come to take the job, up or again. -/
def isDue (now : Timestamptz) (job : ProcessingJob) : Bool :=
  match job.status with
  | .queued | .retryWait => job.nextRetryAt.all (· ≤ now)
  | .processing => job.lease.any (·.expiresAt ≤ now)
  | _ => false

/-- The condition of the candidates of `claim_processing_job`. -/
def isClaimable (s : Store) (site : String) (now : Timestamptz)
    (e : (String × String) × ProcessingJob) : Bool :=
  e.1.1 = site && s.isActive (site, e.2.key) && e.2.attemptCount < e.2.maxAttempts &&
    isDue now e.2

/-- `ORDER BY COALESCE(next_retry_at, created_at), created_at, job_id`. -/
def claimBefore (collation : Collation) (e e' : (String × String) × ProcessingJob) : Prop :=
  let due := e.2.nextRetryAt.getD e.2.createdAt
  let due' := e'.2.nextRetryAt.getD e'.2.createdAt
  due < due' ∨ due = due' ∧ (e.2.createdAt < e'.2.createdAt ∨
    e.2.createdAt = e'.2.createdAt ∧ collation.le e.1.2 e'.1.2 = true)

instance (collation : Collation) : DecidableRel (claimBefore collation) := fun e e' => by
  unfold claimBefore
  infer_instance

/-- The candidate that is taken. -/
def candidate (collation : Collation) (s : Store) (site : String) (now : Timestamptz) :
    Option ((String × String) × ProcessingJob) :=
  ((s.jobs.items.filter (s.isClaimable site now)).insertionSort (claimBefore collation)).head?

/-- A job that is leased for its next attempt. -/
def claimed (job : ProcessingJob) (workerId : String) (now expiry : Datetime) : ProcessingJob :=
  { job with
    status := .processing
    attemptCount := job.attemptCount + 1
    lease := some ⟨workerId, expiry.instant⟩
    leaseGeneration := job.leaseGeneration + 1
    lastErrorCode := none
    updatedAt := now.instant }

/-- The part of `claim_processing_job` that updates the delivery. -/
def startDelivery (k : Instance × String) (attemptCount : ℤ) (now : Datetime) : Op Bool :=
  updateDelivery k
    (fun row => row.processingStatus ∈
      [.received, .authenticated, .queued, DeliveryStatus.processing])
    fun row => { row with
      processingStatus := .processing, attemptCount, lastAttemptAt := some now.instant
      lastErrorCode := none, updatedAt := now.instant }

/-- The checks of `claim_processing_job`; with the time at which the lease will end. -/
def validateClaim (workerId : String) (now : Option Datetime) (leaseSeconds : ℤ) :
    Except Raise (Datetime × Datetime) := do
  requireIdentifier workerId "worker_id" 256
  let now ← requireAware now "now"
  requireLeaseSeconds leaseSeconds
  let expiry ← plus now (seconds leaseSeconds)
  return (now, expiry)

/-- A checked claim is made at a time of its own, for a lease that ends later. -/
theorem validateClaim_ok {workerId : String} {now : Option Datetime} {leaseSeconds : ℤ}
    {now' expiry : Datetime} (h : validateClaim workerId now leaseSeconds = .ok (now', expiry)) :
    now = some now' ∧ isIdentifier 256 workerId = true ∧
      ∃ duration : ℤ, 0 < duration ∧ plus now' duration = .ok expiry := by
  unfold validateClaim at h
  obtain ⟨_, hworker, h⟩ := Proc.bind_eq_ok.mp h
  obtain ⟨d, haware, h⟩ := Proc.bind_eq_ok.mp h
  obtain ⟨_, hlease, h⟩ := Proc.bind_eq_ok.mp h
  obtain ⟨e, hplus, h⟩ := Proc.bind_eq_ok.mp h
  obtain ⟨rfl, rfl⟩ := Prod.mk.inj (Except.ok.inj h)
  have hseconds := (requireLeaseSeconds_ok.mp hlease).1
  exact ⟨requireAware_ok.mp haware, requireIdentifier_ok.mp hworker, seconds leaseSeconds,
    by simp only [seconds]; omega, hplus⟩

/-- `claim_processing_job`. -/
def claimProcessingJob (collation : Collation) (scope : TenantScope) (workerId : String)
    (now : Option Datetime) (leaseSeconds : ℤ) : Op (Option (String × ProcessingJob)) := do
  let (now, expiry) ← validateClaim workerId now leaseSeconds
  atomically do
    match (← get).candidate collation scope.siteId now.instant with
    | none => return none
    | some (id, job) =>
        let job := claimed job workerId now expiry
        modify fun s => { s with jobs := s.jobs.set id job }
        let _ ← startDelivery (deliveryOf id.1 job) job.attemptCount now
        return some (id.2, job)

/-! ## Leases -/

/-- The condition of every statement of a worker on its job. -/
def isHeld (a : LeaseArguments) (now : Timestamptz) (job : ProcessingJob) : Bool :=
  job.status = .processing && job.attemptCount = a.expectedAttempt &&
    job.leaseGeneration = a.expectedLeaseGeneration &&
    job.lease.any fun lease => lease.owner = a.workerId && now < lease.expiresAt

/-- `UPDATE observer.processing_jobs SET f WHERE` held `RETURNING` the row. -/
def updateHeldJob (scope : TenantScope) (a : LeaseArguments) (now : Datetime)
    (f : ProcessingJob → ProcessingJob) (message : String) : Op ProcessingJob := do
  match ((← get).jobs.get? (scope.siteId, a.jobId)).filter (isHeld a now.instant) with
  | none => throw (.jobConflict message)
  | some job =>
      modify fun s => { s with jobs := s.jobs.set (scope.siteId, a.jobId) (f job) }
      return f job

/-- The checks of `heartbeat_processing_job`; with the time at which the lease will end. -/
def validateHeartbeat (a : LeaseArguments) (leaseSeconds : ℤ) :
    Except Raise (Datetime × Datetime) := do
  let now ← validateJobLeaseInput a
  requireLeaseSeconds leaseSeconds
  let expiry ← plus now (seconds leaseSeconds)
  return (now, expiry)

/-- `heartbeat_processing_job`. -/
def heartbeatProcessingJob (scope : TenantScope) (a : LeaseArguments) (leaseSeconds : ℤ) :
    Op ProcessingJob := do
  let (now, expiry) ← validateHeartbeat a leaseSeconds
  atomically <| updateHeldJob scope a now
    (fun job => { job with
      lease := some ⟨a.workerId, expiry.instant⟩
      updatedAt := now.instant })
    "job heartbeat lease transition rejected"

/-- A job that has ended. -/
def ended (job : ProcessingJob) (status : JobStatus) (errorCode : Option String)
    (now : Datetime) : ProcessingJob :=
  { job with
    status, lease := none, nextRetryAt := none, lastErrorCode := errorCode
    updatedAt := now.instant }

/-- The links of a delivery to the events of its provider; a link that is there stays. -/
def linkEvents (k : Instance) (deliveryId : String) (now : Datetime) (ids : List String) (s : Store) :
    Store :=
  { s with
    deliveryEvents := ids.foldl
      (fun links id => if (links.get? (k, id)).isSome then links
        else links.set (k, id) ⟨deliveryId, now.instant⟩) s.deliveryEvents }

/-- The checks of `complete_processing_job`. -/
def validateCompletion (a : LeaseArguments) (providerEventIds : List String) :
    Except Raise Datetime := do
  let now ← validateJobLeaseInput a
  validateProviderEventIds providerEventIds
  return now

/-- `complete_processing_job`. Its statements share the condition on the job, so the last one
comes first here: where it finds no row, the others have changed nothing. -/
def completeProcessingJob (scope : TenantScope) (a : LeaseArguments)
    (providerEventIds : List String) : Op ProcessingJob := do
  let now ← validateCompletion a providerEventIds
  atomically do
    let job ← updateHeldJob scope a now (fun job => ended job .succeeded none now)
      "job completion lease transition rejected"
    modify (linkEvents (scope.siteId, job.key) job.deliveryId now providerEventIds)
    let _ ← finishDelivery (deliveryOf scope.siteId job) .succeeded none now
    return job

/-- `_record_dead_letter`. -/
def recordDeadLetter (py : Stdlib) (scope : TenantScope) (jobId : String) (job : ProcessingJob)
    (errorCode : String) (now : Datetime) (s : Store) : Store :=
  let id := py.sha256 s!"{scope.siteId}\x1f{jobId}\x1f{job.leaseGeneration}".toList
  if (s.deadLetters.get? (scope.siteId, id)).isSome then s
  else { s with
    deadLetters := s.deadLetters.set (scope.siteId, id)
      ⟨jobId, errorCode, job.attemptCount, now.instant⟩ }

/-- A job after a failed attempt: it waits, or has used its attempts up. -/
def retried (job : ProcessingJob) (nextRetryAt : Datetime) (errorCode : String) (now : Datetime) :
    ProcessingJob :=
  if job.maxAttempts ≤ job.attemptCount then ended job .deadLetter (some errorCode) now
  else { job with
    status := .retryWait, lease := none, nextRetryAt := some nextRetryAt.instant
    lastErrorCode := some errorCode, updatedAt := now.instant }

/-- The checks of `retry_processing_job`. -/
def validateRetry (a : LeaseArguments) (nextRetryAt : Option Datetime) (errorCode : String) :
    Except Raise (Datetime × Datetime) := do
  let now ← validateJobLeaseInput a
  let nextRetryAt ← requireAware nextRetryAt "next_retry_at"
  if nextRetryAt.instant ≤ now.instant then
    throw (.valueError "next_retry_at must be in the future")
  requireIdentifier errorCode "error_code" 80
  return (now, nextRetryAt)

/-- `retry_processing_job`. -/
def retryProcessingJob (py : Stdlib) (scope : TenantScope) (a : LeaseArguments)
    (nextRetryAt : Option Datetime) (errorCode : String) : Op ProcessingJob := do
  let (now, nextRetryAt) ← validateRetry a nextRetryAt errorCode
  atomically do
    let job ← updateHeldJob scope a now (fun job => retried job nextRetryAt errorCode now)
      "job retry lease transition rejected"
    if job.status = .deadLetter then
      modify (recordDeadLetter py scope a.jobId job errorCode now)
      let _ ← finishDelivery (deliveryOf scope.siteId job) .failed (some errorCode) now
      return job
    else
      let _ ← recordDeliveryError (deliveryOf scope.siteId job) errorCode now
      return job

/-- The insertion into `local_pilot_quarantine`. -/
def recordQuarantine (py : Stdlib) (scope : TenantScope) (a : LeaseArguments)
    (job : ProcessingJob) (reasonCode : String) (now : Datetime) (s : Store) : Store :=
  let id := py.sha256
    s!"{scope.siteId}\x1f{a.jobId}\x1f{a.expectedLeaseGeneration}".toList
  if (s.quarantines.get? (scope.siteId, id)).isSome then s
  else { s with
    quarantines := s.quarantines.set (scope.siteId, id)
      ⟨a.jobId, job.deliveryId, reasonCode, now.instant⟩ }

/-- The checks of `quarantine_processing_job`. -/
def validateQuarantine (a : LeaseArguments) (reasonCode : String) : Except Raise Datetime := do
  let now ← validateJobLeaseInput a
  requireIdentifier reasonCode "reason_code" 80
  return now

/-- `quarantine_processing_job`. -/
def quarantineProcessingJob (py : Stdlib) (scope : TenantScope) (a : LeaseArguments)
    (reasonCode : String) : Op ProcessingJob := do
  let now ← validateQuarantine a reasonCode
  atomically do
    let job ← updateHeldJob scope a now (fun job => ended job .quarantined (some reasonCode) now)
      "job quarantine lease transition rejected"
    modify (recordQuarantine py scope a job reasonCode now)
    let _ ← finishDelivery (deliveryOf scope.siteId job) .quarantined (some reasonCode) now
    return job

/-! ## Replay -/

/-- The checks of `replay_delivery`; with the oldest time of receipt that is eligible. -/
def validateReplay (deliveryId jobId idempotencyKey : String) (now : Option Datetime)
    (maxAttempts : ℤ) : Except Raise (Datetime × Datetime) := do
  requireIdentifier deliveryId "delivery_id" 512
  requireIdentifier jobId "job_id" 256
  requireIdentifier idempotencyKey "idempotency_key" 256
  let now ← requireAware now "now"
  requireAttempts maxAttempts
  let oldest ← plus now (days (-30))
  return (now, oldest)

/-- `COALESCE(MAX(generation), -1) + 1`. -/
def nextGeneration (s : Store) (delivery : Instance × String) : ℕ :=
  (s.generations delivery).foldr (fun generation next => max (generation + 1) next) 0

/-- `replay_delivery`. -/
def replayDelivery (scope : TenantScope) (key : ConnectorKey)
    (deliveryId jobId idempotencyKey : String) (now : Option Datetime) (maxAttempts : ℤ) :
    Op (String × ProcessingJob) := do
  let (now, oldest) ← validateReplay deliveryId jobId idempotencyKey now maxAttempts
  let delivery := (instanceOf scope key, deliveryId)
  atomically do
    match (← get).jobByIdempotencyKey scope.siteId idempotencyKey with
    | some (id, job) =>
        unless deliveryOf id.1 job = delivery do
          throw (.jobConflict "replay idempotency key conflicts with another delivery")
        return (id.2, job)
    | none =>
        let requeued ← updateDelivery delivery
          (fun row => row.processingStatus = .failed && oldest.instant ≤ row.receivedAt &&
            row.receivedAt ≤ now.instant)
          fun row => { row with
            processingStatus := .queued, lastErrorCode := none, updatedAt := now.instant }
        unless requeued do
          throw (.deliveryConflict "replay requires an eligible failed delivery in connector scope")
        enqueueProcessingJob scope key deliveryId jobId idempotencyKey
          ((← get).nextGeneration delivery) now maxAttempts

/-! ## The storage as a machine -/

/-- A call of the storage. -/
inductive Call where
  | registerConnectorInstance (scope : TenantScope) (key : ConnectorKey) (now : Option Datetime)
      (replayWindowSeconds : ℤ) (teamRef : Option String) (agentTaskType : Option AgentTaskType)
  | mutateStatus (scope : TenantScope) (key : ConnectorKey) (pause : Bool) (expectedRevision : ℕ)
      (idempotencyKey requestDigest : String) (now : Datetime)
  | acceptInboundDelivery (scope : TenantScope) (key : ConnectorKey) (a : DeliveryArguments)
  | acceptAndEnqueueDelivery (scope : TenantScope) (key : ConnectorKey) (a : DeliveryArguments)
      (jobId idempotencyKey : String) (maxAttempts : ℤ)
  | acceptAuthenticatedDelivery (scope : TenantScope) (key : ConnectorKey) (a : DeliveryArguments)
      (nonce : String) (nonceExpiresAt now : Option Datetime) (jobId : String) (maxAttempts : ℤ)
  | claimProcessingJob (scope : TenantScope) (workerId : String) (now : Option Datetime)
      (leaseSeconds : ℤ)
  | heartbeatProcessingJob (scope : TenantScope) (a : LeaseArguments) (leaseSeconds : ℤ)
  | completeProcessingJob (scope : TenantScope) (a : LeaseArguments)
      (providerEventIds : List String)
  | retryProcessingJob (scope : TenantScope) (a : LeaseArguments) (nextRetryAt : Option Datetime)
      (errorCode : String)
  | quarantineProcessingJob (scope : TenantScope) (a : LeaseArguments) (reasonCode : String)
  | replayDelivery (scope : TenantScope) (key : ConnectorKey)
      (deliveryId jobId idempotencyKey : String) (now : Option Datetime) (maxAttempts : ℤ)

inductive Answer where
  | connector (row : ConnectorInstance)
  | control (revision : ℕ) (replayed : Bool)
  | delivery (row : InboundDelivery)
  | enqueued (row : InboundDelivery) (jobId : String) (job : ProcessingJob)
  | ingress (disposition : IngressDisposition)
  | claim (job : Option (String × ProcessingJob))
  | job (job : ProcessingJob)
  | replay (jobId : String) (job : ProcessingJob)

def perform (py : Stdlib) (collation : Collation) : Call → Op Answer
  | .registerConnectorInstance scope key now replayWindowSeconds teamRef agentTaskType =>
      .connector <$> Store.registerConnectorInstance scope key now replayWindowSeconds teamRef
        agentTaskType
  | .mutateStatus scope key pause expectedRevision idempotencyKey requestDigest now =>
      (fun answer => .control answer.1 answer.2) <$>
        Store.mutateStatus scope key pause expectedRevision idempotencyKey requestDigest now
  | .acceptInboundDelivery scope key a => .delivery <$> Store.acceptInboundDelivery scope key a
  | .acceptAndEnqueueDelivery scope key a jobId idempotencyKey maxAttempts =>
      (fun answer => .enqueued answer.1 answer.2.1 answer.2.2) <$>
        Store.acceptAndEnqueueDelivery scope key a jobId idempotencyKey maxAttempts
  | .acceptAuthenticatedDelivery scope key a nonce nonceExpiresAt now jobId maxAttempts =>
      .ingress <$>
        Store.acceptAuthenticatedDelivery py scope key a nonce nonceExpiresAt now jobId maxAttempts
  | .claimProcessingJob scope workerId now leaseSeconds =>
      .claim <$> Store.claimProcessingJob collation scope workerId now leaseSeconds
  | .heartbeatProcessingJob scope a leaseSeconds =>
      .job <$> Store.heartbeatProcessingJob scope a leaseSeconds
  | .completeProcessingJob scope a providerEventIds =>
      .job <$> Store.completeProcessingJob scope a providerEventIds
  | .retryProcessingJob scope a nextRetryAt errorCode =>
      .job <$> Store.retryProcessingJob py scope a nextRetryAt errorCode
  | .quarantineProcessingJob scope a reasonCode =>
      .job <$> Store.quarantineProcessingJob py scope a reasonCode
  | .replayDelivery scope key deliveryId jobId idempotencyKey now maxAttempts =>
      (fun answer => .replay answer.1 answer.2) <$>
        Store.replayDelivery scope key deliveryId jobId idempotencyKey now maxAttempts

def machine (py : Stdlib) (collation : Collation) :
    Machine Store Call (Except Raise Answer) where
  step s c := (perform py collation c).run s

end Store
end EsanGbos.Observer
