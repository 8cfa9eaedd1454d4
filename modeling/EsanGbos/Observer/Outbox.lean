import EsanGbos.Observer.Jobs

/-!
# The outbox of publications

Two repositories drive one table: `PostgresLocalPilotStorage` for the publisher of context
events and `PostgresProjectionOutboxRepository` for the model projection. The second one fences
a claim by its attempt and generation, the first one by its owner only. Row security lets
neither see a row whose event was recorded for another purpose than `observation_processing`.

## Main definitions

* `OutboxRow`, `Outbox` — the table, with the purposes of the events and the dead letters.
* `Outbox.claimContextOutbox`, `Outbox.markContextOutbox` — the publisher's operations.
* `Outbox.claim`, `Outbox.heartbeat`, `Outbox.markPublished`, `Outbox.markFailed` — the
  operations of the projection.
* `Outbox.machine` — the outbox as a machine that answers calls.
-/
namespace EsanGbos.Observer
open Lib

inductive OutboxStatus where
  | queued | leased | retryWait | published | deadLetter
deriving DecidableEq, Repr

/-- A row of `context_publication_outbox`. -/
structure OutboxRow where
  observationEventId : String
  idempotencyKey : String
  payloadDigest : String
  status : OutboxStatus
  attemptCount : ℤ
  maxAttempts : ℤ
  nextRetryAt : Timestamptz
  lease : Option Lease
  leaseGeneration : ℤ
  lastErrorCode : Option String
  createdAt : Timestamptz
  updatedAt : Timestamptz
deriving DecidableEq, Repr

/-- A row of `local_pilot_dead_letter` about a row of the outbox. -/
structure OutboxDeadLetter where
  outboxId : String
  reasonCode : String
  attemptCount : ℤ
  createdAt : Timestamptz
deriving DecidableEq, Repr

/-- The table, the dead letters, and of `observation_events` the purpose. -/
structure Outbox where
  events : Dict (String × String) ProcessingPurpose := Dict.empty
  rows : Dict (String × String) OutboxRow := Dict.empty
  deadLetters : Dict (String × String) OutboxDeadLetter := Dict.empty

abbrev OutboxOp := Proc Raise Outbox

/-- The values that `ProjectionOutboxClaim` takes. -/
def isClaimText (maximum : ℕ) (value : String) : Bool :=
  isIdentifier maximum value && !value.toList.any fun c => c == '\x00' || c == '\r' || c == '\n'

structure ProjectionOutboxClaim where
  siteId : String
  outboxId : String
  observationId : String
  idempotencyKey : String
  attempt : ℤ
  maxAttempts : ℤ
  leaseOwner : String
  leaseExpiresAt : Timestamptz
  fenceToken : String
  texts_ok : isClaimText 140 siteId && isClaimText 256 outboxId && isClaimText 256 observationId &&
    isClaimText 256 idempotencyKey && isClaimText 256 leaseOwner && isClaimText 256 fenceToken
  attempt_mem : 1 ≤ attempt ∧ attempt ≤ maxAttempts ∧ maxAttempts ≤ 10

namespace Outbox
open Proc (atomically)

/-! ## Rows -/

/-- The policy `context_publication_outbox_site_isolation` for a row of the site. -/
def isVisible (s : Outbox) (site : String) (row : OutboxRow) : Bool :=
  s.events.get? (site, row.observationEventId) = some .observationProcessing

/-- The time has come to take the row, up or again. -/
def isDue (now : Timestamptz) (row : OutboxRow) : Bool :=
  match row.status with
  | .queued | .retryWait => row.nextRetryAt ≤ now
  | .leased => row.lease.any (·.expiresAt ≤ now)
  | _ => false

/-- The condition of the candidates of either claim. -/
def isClaimable (s : Outbox) (site : String) (now : Timestamptz)
    (e : (String × String) × OutboxRow) : Bool :=
  e.1.1 = site && s.isVisible site e.2 && e.2.attemptCount < e.2.maxAttempts && isDue now e.2

/-- `ORDER BY next_retry_at, created_at, outbox_id`. -/
def claimBefore (collation : Collation) (e e' : (String × String) × OutboxRow) : Prop :=
  e.2.nextRetryAt < e'.2.nextRetryAt ∨ e.2.nextRetryAt = e'.2.nextRetryAt ∧
    (e.2.createdAt < e'.2.createdAt ∨
      e.2.createdAt = e'.2.createdAt ∧ collation.le e.1.2 e'.1.2 = true)

instance (collation : Collation) : DecidableRel (claimBefore collation) := fun e e' => by
  unfold claimBefore
  infer_instance

/-- The candidate that is taken. -/
def candidate (collation : Collation) (s : Outbox) (site : String) (now : Timestamptz) :
    Option ((String × String) × OutboxRow) :=
  ((s.rows.items.filter (s.isClaimable site now)).insertionSort (claimBefore collation)).head?

/-- A row that is leased for its next attempt, by the publisher. -/
def leased (row : OutboxRow) (workerId : String) (now expiry : Datetime) : OutboxRow :=
  { row with
    status := .leased
    attemptCount := row.attemptCount + 1
    lease := some ⟨workerId, expiry.instant⟩
    updatedAt := now.instant }

/-- By the projection, under a new generation. -/
def fenced (row : OutboxRow) (workerId : String) (now expiry : Datetime) : OutboxRow :=
  { leased row workerId now expiry with
    leaseGeneration := row.leaseGeneration + 1, lastErrorCode := none }

def published (row : OutboxRow) (now : Datetime) : OutboxRow :=
  { row with
    status := .published, lease := none, lastErrorCode := none, updatedAt := now.instant }

/-- A row after a failed attempt: it waits, or has used its attempts up. -/
def failed (row : OutboxRow) (nextRetryAt : Datetime) (errorCode : String) (now : Datetime) :
    OutboxRow :=
  { row with
    status := if row.maxAttempts ≤ row.attemptCount then .deadLetter else .retryWait
    nextRetryAt := nextRetryAt.instant, lease := none, lastErrorCode := some errorCode
    updatedAt := now.instant }

/-- The identifier of the dead letter of a row. -/
def deadLetterIdOf (py : Stdlib) (site outboxId : String) : String :=
  py.sha256 s!"{site}\x1f{outboxId}".toList

/-- `INSERT INTO observer.local_pilot_dead_letter ... ON CONFLICT DO NOTHING`. -/
def recordDeadLetter (py : Stdlib) (site outboxId : String) (row : OutboxRow) (errorCode : String)
    (now : Datetime) (s : Outbox) : Outbox :=
  let id := deadLetterIdOf py site outboxId
  if (s.deadLetters.get? (site, id)).isSome then s
  else { s with
    deadLetters := s.deadLetters.set (site, id)
      ⟨outboxId, errorCode, row.attemptCount, now.instant⟩ }

/-- `UPDATE observer.context_publication_outbox SET f WHERE` key and `p`, `RETURNING` the row. -/
def updateRow (site outboxId : String) (p : OutboxRow → Bool) (f : OutboxRow → OutboxRow)
    (miss : Raise) : OutboxOp OutboxRow := do
  let s ← get
  match (s.rows.get? (site, outboxId)).filter fun row => s.isVisible site row && p row with
  | none => throw miss
  | some row =>
      set { s with rows := s.rows.set (site, outboxId) (f row) }
      return f row

/-- A failed attempt, with the dead letter that may follow. -/
def updateFailed (py : Stdlib) (site outboxId : String) (p : OutboxRow → Bool)
    (nextRetryAt : Datetime) (errorCode : String) (now : Datetime) (miss : Raise) :
    OutboxOp OutboxRow := do
  let row ← updateRow site outboxId p (fun row => failed row nextRetryAt errorCode now) miss
  if row.status = .deadLetter then
    modify (recordDeadLetter py site outboxId row errorCode now)
  return row

/-! ## The publisher -/

/-- The checks of `enqueue_context_outbox`. -/
def validateEnqueue (outboxId observationEventId idempotencyKey payloadDigest : String)
    (now : Option Datetime) (maxAttempts : ℤ) : Except Raise Datetime := do
  requireIdentifier outboxId "outbox_id" 256
  requireIdentifier observationEventId "observation_event_id" 256
  requireIdentifier idempotencyKey "idempotency_key" 256
  unless isDigest payloadDigest do
    throw (.valueError "payload_digest must be lowercase hexadecimal sha256")
  let now ← requireAware now "now"
  requireAttempts maxAttempts
  return now

/-- The row of a new publication. -/
def newRow (observationEventId idempotencyKey payloadDigest : String) (now : Datetime)
    (maxAttempts : ℤ) : OutboxRow :=
  { observationEventId, idempotencyKey, payloadDigest, status := .queued, attemptCount := 0
    maxAttempts, nextRetryAt := now.instant, lease := none, leaseGeneration := 0
    lastErrorCode := none, createdAt := now.instant, updatedAt := now.instant }

/-- A site's row with an idempotency key, with its key. -/
def rowByIdempotencyKey (s : Outbox) (site idempotencyKey : String) :
    Option ((String × String) × OutboxRow) :=
  s.rows.items.find? fun e => e.1.1 = site && e.2.idempotencyKey = idempotencyKey

/-- `enqueue_context_outbox`. Row security refuses the event first; then the index on
idempotency keys decides, and then the primary key may refuse the row. -/
def enqueueContextOutbox (scope : TenantScope)
    (outboxId observationEventId idempotencyKey payloadDigest : String) (now : Option Datetime)
    (maxAttempts : ℤ) : OutboxOp (String × OutboxRow) := do
  let now ← validateEnqueue outboxId observationEventId idempotencyKey payloadDigest now maxAttempts
  atomically do
    let s ← get
    let row := newRow observationEventId idempotencyKey payloadDigest now maxAttempts
    unless s.isVisible scope.siteId row do throw .integrityError
    match s.rowByIdempotencyKey scope.siteId idempotencyKey with
    | some (id, stored) =>
        unless stored.payloadDigest = payloadDigest ∧
            stored.observationEventId = observationEventId do
          throw (.outboxConflict "outbox idempotency key was reused for a different payload")
        return (id.2, stored)
    | none =>
        if (s.rows.get? (scope.siteId, outboxId)).isSome then throw .integrityError
        set { s with rows := s.rows.set (scope.siteId, outboxId) row }
        return (outboxId, row)

/-- `claim_context_outbox`, whose checks are those of `claim_processing_job`. -/
def claimContextOutbox (collation : Collation) (scope : TenantScope) (workerId : String)
    (now : Option Datetime) (leaseSeconds : ℤ) : OutboxOp (Option (String × OutboxRow)) := do
  let (now, expiry) ← Store.validateClaim workerId now leaseSeconds
  atomically do
    match (← get).candidate collation scope.siteId now.instant with
    | none => return none
    | some (id, row) =>
        modify fun s => { s with rows := s.rows.set id (leased row workerId now expiry) }
        return some (id.2, leased row workerId now expiry)

/-- The row is leased to the worker, beyond `now`. -/
def isOwned (workerId : String) (now : Timestamptz) (row : OutboxRow) : Bool :=
  row.status = .leased &&
    row.lease.any fun lease => lease.owner = workerId && now < lease.expiresAt

/-- The checks of `mark_context_outbox`; with the failure, unless the row was published. -/
def validateMark (outboxId workerId : String) (now : Option Datetime) (isPublished : Bool)
    (errorCode : Option String) (nextRetryAt : Option (Option Datetime)) :
    Except Raise (Datetime × Option (Datetime × String)) := do
  requireIdentifier outboxId "outbox_id" 256
  requireIdentifier workerId "worker_id" 256
  let now ← requireAware now "now"
  if isPublished then
    if errorCode.isSome || nextRetryAt.isSome then
      throw (.valueError "published outbox rows cannot include retry metadata")
    return (now, none)
  else
    let errorCode := errorCode.getD ""
    requireIdentifier errorCode "error_code" 80
    match nextRetryAt with
    | none => throw (.valueError "next_retry_at is required for a failed publication")
    | some nextRetryAt =>
        let nextRetryAt ← requireAware nextRetryAt "next_retry_at"
        if nextRetryAt.instant ≤ now.instant then
          throw (.valueError "next_retry_at must be in the future")
        return (now, some (nextRetryAt, errorCode))

/-- `mark_context_outbox`. -/
def markContextOutbox (py : Stdlib) (scope : TenantScope) (outboxId workerId : String)
    (now : Option Datetime) (isPublished : Bool) (errorCode : Option String)
    (nextRetryAt : Option (Option Datetime)) : OutboxOp OutboxRow := do
  let (now, failure) ← validateMark outboxId workerId now isPublished errorCode nextRetryAt
  let miss := Raise.outboxConflict "outbox lease transition rejected"
  atomically <| match failure with
    | none => updateRow scope.siteId outboxId (isOwned workerId now.instant)
        (fun row => published row now) miss
    | some (nextRetryAt, errorCode) => updateFailed py scope.siteId outboxId
        (isOwned workerId now.instant) nextRetryAt errorCode now miss

/-! ## The projection -/

/-- `_SAFE_TEXT.fullmatch`. -/
def isSafeText (s : String) : Bool :=
  1 ≤ s.toList.length && s.toList.length ≤ 256 &&
    !s.toList.any fun c => c == '\x00' || c == '\r' || c == '\n'

/-- `_SAFE_CODE.fullmatch`. -/
def isSafeCode (s : String) : Bool :=
  match s.toList with
  | [] => false
  | c :: cs => c.isLower && cs.length ≤ 79 && cs.all fun c => isSlugChar c || c == '_'

/-- `_identifier`. -/
def requireSafeText (value name : String) : Except Raise Unit :=
  if isSafeText value then .ok () else .error (.valueError s!"invalid {name}")

/-- `_duration`. -/
def requireDuration (duration : Timedelta) : Except Raise Unit :=
  if 0 < duration ∧ duration ≤ seconds 3600 then .ok ()
  else .error (.valueError "projection lease duration is invalid")

/-- `_validate_scope`. -/
def requireObservationScope (scope : TenantScope) : Except Raise Unit :=
  if scope.processingPurpose = .observationProcessing then .ok ()
  else .error (.valueError "projection outbox requires observation processing scope")

def leaseConflict : Raise :=
  .projectionLeaseConflict "projection outbox lease transition rejected"

/-- `_fence_token`. -/
def fenceToken (py : Stdlib) (site outboxId workerId : String) (attempt generation : ℤ) :
    List Char :=
  let fields := [site, outboxId, workerId, String.ofList (Json.intText attempt),
    String.ofList (Json.intText generation)]
  let material := "\x1f".intercalate ("projection-fence-v1" :: fields)
  "v1:".toList ++ Json.intText generation ++ ':' :: (py.sha256 material.toList).toList

/-- The checks of `claim`; with the time at which the lease will end. -/
def validateFencedClaim (scope : TenantScope) (workerId : String) (now : Option Datetime)
    (leaseDuration : Timedelta) : Except Raise (Datetime × Datetime) := do
  requireObservationScope scope
  requireSafeText workerId "worker_id"
  let now ← requireAware now "now"
  requireDuration leaseDuration
  let expiry ← plus now leaseDuration
  return (now, expiry)

/-- `_claim_from_row`. -/
def claimFromRow (py : Stdlib) (site outboxId workerId : String) (expiry : Datetime)
    (row : OutboxRow) : Except Raise ProjectionOutboxClaim :=
  if row.leaseGeneration < 1 then
    .error (.runtimeError "projection outbox returned an invalid leased row")
  else
    let token := String.ofList
      (fenceToken py site outboxId workerId row.attemptCount row.leaseGeneration)
    if h : (isClaimText 140 site && isClaimText 256 outboxId &&
          isClaimText 256 row.observationEventId && isClaimText 256 row.idempotencyKey &&
          isClaimText 256 workerId && isClaimText 256 token) = true ∧
        1 ≤ row.attemptCount ∧ row.attemptCount ≤ row.maxAttempts ∧ row.maxAttempts ≤ 10 then
      .ok ⟨site, outboxId, row.observationEventId, row.idempotencyKey, row.attemptCount,
        row.maxAttempts, workerId, expiry.instant, token, h.1, h.2⟩
    else .error (.valueError "invalid projection outbox claim")

/-- `claim`. The row is read after the transaction, so a row that the claim cannot hold stays
leased. -/
def claim (py : Stdlib) (collation : Collation) (scope : TenantScope) (workerId : String)
    (now : Option Datetime) (leaseDuration : Timedelta) :
    OutboxOp (Option ProjectionOutboxClaim) := do
  let (now, expiry) ← validateFencedClaim scope workerId now leaseDuration
  let taken ← atomically do
    match (← get).candidate collation scope.siteId now.instant with
    | none => return none
    | some (id, row) =>
        modify fun s => { s with rows := s.rows.set id (fenced row workerId now expiry) }
        return some (id.2, fenced row workerId now expiry)
  match taken with
  | none => return none
  | some (outboxId, row) =>
      let claim ← claimFromRow py scope.siteId outboxId workerId expiry row
      return some claim

/-- The arguments by which the projection names its claim. -/
structure FenceArguments where
  outboxId : String
  workerId : String
  expectedAttempt : ℤ
  fenceToken : List Char
  now : Option Datetime

/-- The end of `_validate_transition`: the generation that the token names. Any spelling of it that
`int` reads besides the usual one is refused by the comparison, with the same exception. -/
def generationOf (py : Stdlib) (scope : TenantScope) (a : FenceArguments) : Except Raise ℤ :=
  match a.fenceToken.splitOn ':' with
  | [mark, generationText, digest] =>
      match Json.readInt generationText with
      | none => .error leaseConflict
      | some generation =>
          if mark ≠ "v1".toList ∨ generation < 1 ∨ digest.length ≠ 64 then .error leaseConflict
          -- `hmac.compare_digest` takes ASCII texts only.
          else if a.fenceToken.any fun c => 128 ≤ c.toNat then .error .typeError
          else if fenceToken py scope.siteId a.outboxId a.workerId a.expectedAttempt generation ≠
              a.fenceToken then
            .error leaseConflict
          else .ok generation
  | _ => .error leaseConflict

/-- The check of `expected_attempt`. -/
def requireExpectedAttempt (expectedAttempt : ℤ) : Except Raise Unit :=
  if 1 ≤ expectedAttempt ∧ expectedAttempt ≤ 100 then .ok ()
  else .error (.valueError "invalid expected attempt")

/-- `_validate_transition`. -/
def validateTransition (py : Stdlib) (scope : TenantScope) (a : FenceArguments) :
    Except Raise (Datetime × ℤ) := do
  requireObservationScope scope
  requireSafeText a.outboxId "outbox_id"
  requireSafeText a.workerId "worker_id"
  let now ← requireAware a.now "now"
  requireExpectedAttempt a.expectedAttempt
  let generation ← generationOf py scope a
  return (now, generation)

/-- The condition of every statement of the projection on its row. -/
def isFenced (a : FenceArguments) (generation : ℤ) (now : Timestamptz) (row : OutboxRow) : Bool :=
  isOwned a.workerId now row && row.attemptCount = a.expectedAttempt &&
    row.leaseGeneration = generation

/-- `heartbeat`. -/
def heartbeat (py : Stdlib) (scope : TenantScope) (a : FenceArguments)
    (leaseDuration : Timedelta) : OutboxOp Unit := do
  let (now, generation) ← validateTransition py scope a
  requireDuration leaseDuration
  let expiry ← plus now leaseDuration
  let _ ← atomically <| updateRow scope.siteId a.outboxId (isFenced a generation now.instant)
    (fun row => { row with
      lease := row.lease.map fun lease => { lease with expiresAt := expiry.instant }
      updatedAt := now.instant })
    leaseConflict

/-- `mark_published`. -/
def markPublished (py : Stdlib) (scope : TenantScope) (a : FenceArguments) : OutboxOp Unit := do
  let (now, generation) ← validateTransition py scope a
  let _ ← atomically <| updateRow scope.siteId a.outboxId (isFenced a generation now.instant)
    (fun row => published row now) leaseConflict

/-- The checks of `mark_failed`. -/
def validateFailure (py : Stdlib) (scope : TenantScope) (a : FenceArguments)
    (retryAt : Option Datetime) (errorCode : String) : Except Raise (Datetime × ℤ × Datetime) := do
  let (now, generation) ← validateTransition py scope a
  let retryAt ← requireAware retryAt "retry_at"
  if retryAt.instant ≤ now.instant ∨ isSafeCode errorCode = false then
    throw (.valueError "invalid projection failure metadata")
  return (now, generation, retryAt)

/-- `mark_failed`; whether the row has become a dead letter. -/
def markFailed (py : Stdlib) (scope : TenantScope) (a : FenceArguments)
    (retryAt : Option Datetime) (errorCode : String) : OutboxOp Bool := do
  let (now, generation, retryAt) ← validateFailure py scope a retryAt errorCode
  let row ← atomically <| updateFailed py scope.siteId a.outboxId
    (isFenced a generation now.instant) retryAt errorCode now leaseConflict
  return row.status = .deadLetter

/-! ## The outbox as a machine -/

/-- A call of either repository, or an event that is recorded. -/
inductive Call where
  | recordEvent (site eventId : String) (purpose : ProcessingPurpose)
  | enqueueContextOutbox (scope : TenantScope)
      (outboxId observationEventId idempotencyKey payloadDigest : String) (now : Option Datetime)
      (maxAttempts : ℤ)
  | claimContextOutbox (scope : TenantScope) (workerId : String) (now : Option Datetime)
      (leaseSeconds : ℤ)
  | markContextOutbox (scope : TenantScope) (outboxId workerId : String) (now : Option Datetime)
      (isPublished : Bool) (errorCode : Option String) (nextRetryAt : Option (Option Datetime))
  | claim (scope : TenantScope) (workerId : String) (now : Option Datetime)
      (leaseDuration : Timedelta)
  | heartbeat (scope : TenantScope) (a : FenceArguments) (leaseDuration : Timedelta)
  | markPublished (scope : TenantScope) (a : FenceArguments)
  | markFailed (scope : TenantScope) (a : FenceArguments) (retryAt : Option Datetime)
      (errorCode : String)

inductive Answer where
  | unit
  | row (outboxId : String) (row : OutboxRow)
  | taken (row : Option (String × OutboxRow))
  | claimed (claim : Option ProjectionOutboxClaim)
  | buried (isDeadLetter : Bool)

/-- An event is recorded once and stays. -/
def recordEvent (site eventId : String) (purpose : ProcessingPurpose) : OutboxOp Unit :=
  modify fun s =>
    if (s.events.get? (site, eventId)).isSome then s
    else { s with events := s.events.set (site, eventId) purpose }

def perform (py : Stdlib) (collation : Collation) : Call → OutboxOp Answer
  | .recordEvent site eventId purpose => (fun _ => .unit) <$> Outbox.recordEvent site eventId purpose
  | .enqueueContextOutbox scope outboxId observationEventId idempotencyKey payloadDigest now
      maxAttempts =>
      (fun answer => .row answer.1 answer.2) <$> Outbox.enqueueContextOutbox scope outboxId
        observationEventId idempotencyKey payloadDigest now maxAttempts
  | .claimContextOutbox scope workerId now leaseSeconds =>
      .taken <$> Outbox.claimContextOutbox collation scope workerId now leaseSeconds
  | .markContextOutbox scope outboxId workerId now isPublished errorCode nextRetryAt =>
      .row outboxId <$> Outbox.markContextOutbox py scope outboxId workerId now isPublished errorCode
        nextRetryAt
  | .claim scope workerId now leaseDuration =>
      .claimed <$> Outbox.claim py collation scope workerId now leaseDuration
  | .heartbeat scope a leaseDuration =>
      (fun _ => .unit) <$> Outbox.heartbeat py scope a leaseDuration
  | .markPublished scope a => (fun _ => .unit) <$> Outbox.markPublished py scope a
  | .markFailed scope a retryAt errorCode =>
      .buried <$> Outbox.markFailed py scope a retryAt errorCode

def machine (py : Stdlib) (collation : Collation) :
    Machine Outbox Call (Except Raise Answer) where
  step s c := (perform py collation c).run s

end Outbox
end EsanGbos.Observer
