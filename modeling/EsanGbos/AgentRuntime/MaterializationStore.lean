import EsanGbos.Lib.Columns
import EsanGbos.Lib.Machine
import EsanGbos.AgentRuntime.Materializer
import EsanGbos.AgentRuntime.Repository

/-!
# The outbox of materializations

`PostgresAgentTaskRepository` keeps the proposals that are to become drafts in a table from which
workers lease them. Triggers and a constraint of the table say which rows may be written over which.
Transactions run one after the other, except that a claim passes over rows that others have locked.
The session's time zone is UTC.

## Main definitions

* `OutboxRow`, `Store` — the table, and what a claim reads of other tables.
* `OutboxRow.admits` — the triggers and the constraint.
* `claimMaterialization`, `heartbeatMaterialization`, `acknowledgeMaterialization`,
  `failMaterialization` — the operations.
* `machine` — the outbox as a machine that answers calls.
-/
namespace EsanGbos.AgentRuntime.Materialization
open Lib
open Repository (requireAware requirePositive)

/-! ## Rows -/

/-- A row of `proposal_materialization_outbox`, next to its site and identifier. -/
structure OutboxRow where
  proposalId : String
  taskId : String
  taskAttempt : ℤ
  status : MaterializationStatus
  origin : String
  reviewStatus : String
  createdAt : Timestamptz
  attempt : ℤ
  maxAttempts : ℤ
  leaseOwner : Option String
  leaseExpiresAt : Option Timestamptz
  nextAttemptAt : Timestamptz
  lastErrorCode : Option String
  receiptDoctype : Option String
  receiptName : Option String
  receiptRevision : Option ℤ
  receiptRequestId : Option String
  receiptDigest : Option String
  updatedAt : Timestamptz
deriving DecidableEq

/-- A row of `action_proposals`, as far as a claim reads it, with the purpose of its task. -/
structure ProposalRow where
  taskId : String
  processingPurpose : String
  actionType : String
  origin : String
  reviewStatus : String
  subjectType : String
  subjectRef : String
  subjectRevision : ℤ
  evidenceRefs : Json
  invocationIds : Json
  document : Json
deriving DecidableEq

/-- The models of a row of `model_invocations`. -/
structure ModelIdentity where
  requestedModel : String
  observedModel : Option String
deriving DecidableEq

structure Store where
  proposals : Dict (String × String) ProposalRow := Dict.empty
  invocations : Dict (String × String) ModelIdentity := Dict.empty
  outbox : Dict (String × String) OutboxRow := Dict.empty

abbrev Entry := (String × String) × OutboxRow

abbrev Op := Proc MaterializationError Store

namespace OutboxRow

/-! A comparison with `NULL` is neither true nor false, and refuses nothing. -/

/-- The lease columns fit the status. -/
def hasLease (row : OutboxRow) : Bool :=
  if row.status = .running then
    1 ≤ row.attempt && row.leaseOwner.isSome && row.leaseExpiresAt.isSome
  else row.leaseOwner.isNone && row.leaseExpiresAt.isNone

/-- The receipt columns fit the status. -/
def hasReceipt (row : OutboxRow) : Bool :=
  if row.status = .succeeded then
    row.receiptDoctype.isSome && row.receiptName.isSome &&
      row.receiptRevision.all (0 ≤ ·) && row.receiptRequestId.isSome &&
      row.receiptDigest.all isDigest
  else row.receiptDoctype.isNone && row.receiptName.isNone && row.receiptRevision.isNone &&
    row.receiptRequestId.isNone && row.receiptDigest.isNone

/-- The constraints of a row: `proposal_materialization_outbox_state_check` and those of the
columns that no operation writes. -/
def isValid (row : OutboxRow) : Bool :=
  1 ≤ row.taskAttempt && row.origin = "AI" && row.reviewStatus = "AI Draft" &&
    0 ≤ row.attempt && 1 ≤ row.maxAttempts && row.attempt ≤ row.maxAttempts &&
    row.hasLease && row.hasReceipt && row.lastErrorCode.all isCode

/-- `prevent_materialization_identity_change`; the key is never assigned. -/
def keepsIdentity (old new : OutboxRow) : Bool :=
  new.proposalId = old.proposalId && new.taskId = old.taskId &&
    new.taskAttempt = old.taskAttempt && new.origin = old.origin &&
    new.reviewStatus = old.reviewStatus && new.createdAt = old.createdAt &&
    new.maxAttempts = old.maxAttempts

/-- A later end of the lease. -/
def extendsLease (old new : OutboxRow) : Bool :=
  match old.leaseExpiresAt, new.leaseExpiresAt with
  | some old, some new => old < new
  | _, _ => true

/-- The last transition of the trigger: a lease that is renewed. -/
def isRenewal (old new : OutboxRow) : Bool :=
  old.status = .running && new.status = .running && new.attempt = old.attempt &&
    new.leaseOwner = old.leaseOwner && extendsLease old new &&
    new.nextAttemptAt = old.nextAttemptAt && new.lastErrorCode = old.lastErrorCode &&
    new.receiptDoctype = old.receiptDoctype && new.receiptName = old.receiptName &&
    new.receiptRevision = old.receiptRevision && new.receiptRequestId = old.receiptRequestId &&
    new.receiptDigest = old.receiptDigest && old.updatedAt ≤ new.updatedAt

/-- `enforce_materialization_state_transition`. -/
def isTransition (old new : OutboxRow) : Bool :=
  ((old.status = .pending || old.status = .retry) && new.status = .running &&
      new.attempt = old.attempt + 1) ||
    (old.status = .running && new.status = .running && new.attempt = old.attempt + 1) ||
    (old.status = .running &&
      (new.status = .succeeded || new.status = .retry || new.status = .deadLetter) &&
      new.attempt = old.attempt) ||
    isRenewal old new

/-- The row may be written over the old one. -/
def admits (old new : OutboxRow) : Bool :=
  keepsIdentity old new && isTransition old new && new.isValid

end OutboxRow

/-! ## Statements -/

/-- A check of the repository. -/
def checked (x : Except Raise α) : Except MaterializationError α := x.mapError .raise

/-- The parameters of a statement. -/
def parameters (texts : List String) : Except MaterializationError Unit :=
  if texts.all isText then .ok () else .error .dataError

/-- `_set_site`. -/
def setSite (siteId : String) : Except MaterializationError Unit := parameters [siteId]

/-- The row that is written over another one. -/
def rewrite (f : OutboxRow → OutboxRow) (row : OutboxRow) : Except MaterializationError OutboxRow :=
  if row.admits (f row) then .ok (f row) else .error .integrityError

/-- `UPDATE ... RETURNING`, which one refused row refuses. -/
def update (p : Entry → Bool) (f : OutboxRow → OutboxRow) : Op (List Entry) := do
  let s ← get
  let outbox ← s.outbox.updateChecked p (rewrite f)
  set { s with outbox }
  return (s.outbox.items.filter p).map fun e => (e.1, f e.2)

/-- The update of one row, if it meets the condition. -/
def updateOne (key : String × String) (q : OutboxRow → Bool) (f : OutboxRow → OutboxRow) :
    Op (Option OutboxRow) := do
  let updated ← update (fun e => e.1 = key && q e.2) f
  return updated.head?.map Prod.snd

/-! The assignments of the updates. -/

def setDeadLettered (now : Timestamptz) (row : OutboxRow) : OutboxRow :=
  { row with
    status := .deadLetter
    leaseOwner := none
    leaseExpiresAt := none
    lastErrorCode := some "lease_expired_max_attempts"
    updatedAt := now }

def setClaimed (workerId : String) (now expiry : Timestamptz) (row : OutboxRow) : OutboxRow :=
  { row with
    status := .running
    attempt := row.attempt + 1
    leaseOwner := some workerId
    leaseExpiresAt := some expiry
    lastErrorCode := none
    updatedAt := now }

def setRenewed (now expiry : Timestamptz) (row : OutboxRow) : OutboxRow :=
  { row with leaseExpiresAt := some expiry, updatedAt := now }

def setSucceeded (receipt : FrappeDraftReceipt) (now : Timestamptz) (row : OutboxRow) : OutboxRow :=
  { row with
    status := .succeeded
    leaseOwner := none
    leaseExpiresAt := none
    lastErrorCode := none
    receiptDoctype := some receipt.doctype
    receiptName := some receipt.name
    receiptRevision := some receipt.revision
    receiptRequestId := some receipt.requestId
    receiptDigest := some receipt.requestDigest
    updatedAt := now }

def setFailed (retryAt : Timestamptz) (errorCode : String) (now : Timestamptz) (row : OutboxRow) :
    OutboxRow :=
  { row with
    status := if row.maxAttempts ≤ row.attempt then .deadLetter else .retry
    leaseOwner := none
    leaseExpiresAt := none
    nextAttemptAt := retryAt
    lastErrorCode := some errorCode
    updatedAt := now }

/-! ## Enqueueing -/

/-- The row that `complete_with_proposal` inserts for a proposal. -/
def pendingRow (proposalId taskId : String) (taskAttempt : ℤ) (now : Timestamptz) : OutboxRow :=
  { proposalId, taskId, taskAttempt, status := .pending, origin := "AI", reviewStatus := "AI Draft"
    createdAt := now, attempt := 0, maxAttempts := 5, leaseOwner := none, leaseExpiresAt := none
    nextAttemptAt := now, lastErrorCode := none, receiptDoctype := none, receiptName := none
    receiptRevision := none, receiptRequestId := none, receiptDigest := none, updatedAt := now }

/-- `materialization_id` of `from_proposal`. -/
def materializationIdOf (py : Stdlib) (siteId proposalId : String) : String :=
  "materialization-" ++
    String.ofList ((py.sha256 s!"{siteId}:{proposalId}".toList).toList.take 32)

/-- What a task's completion stores of a proposal and its invocations. -/
structure Bundle where
  siteId : String
  proposalId : String
  taskAttempt : ℤ
  attempt_pos : 1 ≤ taskAttempt
  proposal : ProposalRow
  invocations : List (String × ModelIdentity)

/-- The row has the proposal or the attempt of the bundle. -/
def isTaken (bundle : Bundle) (e : Entry) : Bool :=
  e.1.1 = bundle.siteId && (e.2.proposalId = bundle.proposalId ||
    e.2.taskId = bundle.proposal.taskId && e.2.taskAttempt = bundle.taskAttempt)

/-- `_append_invocation`, for a record that may be there already. -/
def appendInvocation (siteId : String) (e : String × ModelIdentity) : Op Unit := do
  let s ← get
  match s.invocations.get? (siteId, e.1) with
  | none => set { s with invocations := s.invocations.set (siteId, e.1) e.2 }
  | some existing =>
      if existing ≠ e.2 then
        throw (.raise (.idempotencyConflict
          "model invocation idempotency key was reused with different metadata"))

/-- The part of `complete_with_proposal` that other operations read: the invocations, the proposal
and a pending row. -/
def enqueue (py : Stdlib) (bundle : Bundle) (now : Timestamptz) : Op Unit := Proc.atomically do
  bundle.invocations.forM (appendInvocation bundle.siteId)
  let s ← get
  let key := (bundle.siteId, materializationIdOf py bundle.siteId bundle.proposalId)
  if (s.proposals.get? (bundle.siteId, bundle.proposalId)).isSome || (s.outbox.get? key).isSome ||
      s.outbox.items.any (isTaken bundle) then
    throw .uniqueViolation
  set { s with
    proposals := s.proposals.set (bundle.siteId, bundle.proposalId) bundle.proposal
    outbox := s.outbox.set key
      (pendingRow bundle.proposalId bundle.proposal.taskId bundle.taskAttempt now) }

/-! ## Claiming -/

structure MaterializationClaim where
  materializationId : String
  proposalId : String
  siteId : String
  attempt : ℤ
  maxAttempts : ℤ
  leaseOwner : String
  leaseExpiresAt : Timestamptz
  envelope : MaterializationEnvelope
deriving DecidableEq

/-- `__post_init__`; the lease ends at an aware time. -/
def MaterializationClaim.postInit (claim : MaterializationClaim) : Except Raise Unit := do
  [("materialization_id", claim.materializationId), ("proposal_id", claim.proposalId),
    ("site_id", claim.siteId)].forM fun (name, value) =>
      if value.isEmpty || 256 < value.length then
        throw (.validationError s!"{name} is invalid")
      else return ()
  if claim.attempt < 0 ∨ claim.maxAttempts < claim.attempt ∨ claim.maxAttempts < 1 then
    throw (.validationError "materialization attempt is invalid")
  if 0 < claim.attempt ∧ claim.leaseOwner = "" then
    throw (.validationError "claimed materialization requires a lease owner")

/-- The model that all invocations agree on. -/
def modelIdentity (s : Store) (siteId : String) (invocationIds : List String) :
    Except MaterializationError (Option (String × String)) := do
  if invocationIds = [] then return none
  let rows := s.invocations.items.filter fun e => e.1.1 = siteId && e.1.2 ∈ invocationIds
  if rows.length ≠ invocationIds.length then
    throw (.validation "materialization model invocation metadata is incomplete")
  match (rows.map fun e =>
      (e.2.requestedModel, e.2.observedModel.getD e.2.requestedModel)).dedup with
  | [identity] => return some identity
  | _ => throw (.validation "materialization model invocation identity is ambiguous")

/-- The envelope of a proposal. -/
def envelopeOf (s : Store) (siteId proposalId : String) :
    Except MaterializationError MaterializationEnvelope := do
  let some row := s.proposals.get? (siteId, proposalId)
    | throw (.validation "materialization proposal bundle is unavailable")
  let invalid := MaterializationError.validation "materialization proposal metadata is invalid"
  let some evidenceRefs := row.evidenceRefs.strs? | throw invalid
  let some invocationIds := row.invocationIds.strs? | throw invalid
  let model ← modelIdentity s siteId invocationIds
  unless row.document.isObj do
    throw (.validation "materialization proposal document is invalid")
  let policyVersion ← match row.document.get? "policy_version" with
    | none | some .null => pure none
    | some (.str version) => pure (some version)
    | some _ => throw (.validation "materialization proposal policy version is invalid")
  return {
    proposalId
    taskId := row.taskId
    processingPurpose := row.processingPurpose
    origin := row.origin
    reviewStatus := row.reviewStatus
    actionType := row.actionType
    subjectType := row.subjectType
    subjectRef := row.subjectRef
    subjectRevision := row.subjectRevision
    evidenceRefs
    modelName := model.map Prod.fst
    modelVersion := model.map Prod.snd
    policyVersion
    proposal := row.document }

/-- The claim of a row that was leased. -/
def claimOf (s : Store) (key : String × String) (row : OutboxRow) (workerId : String)
    (expiry : Timestamptz) : Except MaterializationError MaterializationClaim := do
  let envelope ← envelopeOf s key.1 row.proposalId
  let claim : MaterializationClaim := ⟨key.2, row.proposalId, key.1, row.attempt, row.maxAttempts,
    workerId, expiry, envelope⟩
  checked claim.postInit
  return claim

/-- The condition of the first statement of `claim_materialization`. -/
def isExhausted (siteId : String) (now : Timestamptz) (e : Entry) : Bool :=
  e.1.1 = siteId && e.2.status = .running && e.2.leaseExpiresAt.any (· ≤ now) &&
    e.2.maxAttempts ≤ e.2.attempt

/-- The condition of its candidates. -/
def isDue (siteId : String) (now : Timestamptz) (e : Entry) : Bool :=
  e.1.1 = siteId && e.2.attempt < e.2.maxAttempts &&
    (((e.2.status = .pending || e.2.status = .retry) && e.2.nextAttemptAt ≤ now) ||
      (e.2.status = .running && e.2.leaseExpiresAt.any (· ≤ now)))

/-- `ORDER BY next_attempt_at, created_at, materialization_id`. -/
def precedes (collation : Collation) (e e' : Entry) : Prop :=
  e.2.nextAttemptAt < e'.2.nextAttemptAt ∨ e.2.nextAttemptAt = e'.2.nextAttemptAt ∧
    (e.2.createdAt < e'.2.createdAt ∨
      e.2.createdAt = e'.2.createdAt ∧ collation.le e.1.2 e'.1.2)

instance (collation : Collation) : DecidableRel (precedes collation) := fun e e' => by
  unfold precedes
  infer_instance

/-- `candidate`, among the rows that nobody has locked. -/
def candidate (collation : Collation) (locked : String × String → Bool) (siteId : String)
    (now : Timestamptz) (outbox : Dict (String × String) OutboxRow) : Option Entry :=
  ((outbox.items.filter fun e => isDue siteId now e && !locked e.1).insertionSort
    (precedes collation)).head?

/-- The checks of `claim_materialization`. -/
def validateClaim (siteId workerId : String) (now : Option Datetime) (leaseDuration : Timedelta) :
    Except Raise Datetime := do
  let now ← requireAware now "now"
  if siteId = "" ∨ workerId = "" then
    throw (.validationError "site_id and worker_id are required")
  requirePositive leaseDuration "lease_duration"
  return now

/-- `claim_materialization`. -/
def claimMaterialization (collation : Collation) (locked : String × String → Bool)
    (siteId workerId : String) (now : Option Datetime) (leaseDuration : Timedelta) :
    Op (Option MaterializationClaim) := do
  let now ← checked (validateClaim siteId workerId now leaseDuration)
  Proc.atomically do
    setSite siteId
    let _ ← update (isExhausted siteId now.instant) (setDeadLettered now.instant)
    let expiry ← checked (Repository.leaseEnd now leaseDuration)
    parameters [siteId, workerId]
    match candidate collation locked siteId now.instant (← get).outbox with
    | none => return none
    | some e =>
        let _ ← updateOne e.1 (fun _ => true) (setClaimed workerId now.instant expiry.instant)
        let claimed := setClaimed workerId now.instant expiry.instant e.2
        return some (← claimOf (← get) e.1 claimed workerId expiry.instant)

/-! ## Under a lease -/

/-- The worker holds the row for the attempt, beyond `now`. -/
def isHeld (workerId : String) (attempt : ℤ) (now : Timestamptz) (row : OutboxRow) : Bool :=
  row.status = .running && row.leaseOwner = some workerId && row.attempt = attempt &&
    row.leaseExpiresAt.any (now < ·)

/-- The lease ends before the time. -/
def endsBefore (expiry : Timestamptz) (row : OutboxRow) : Bool :=
  row.leaseExpiresAt.any (· < expiry)

def leaseLost : MaterializationError :=
  .raise (.leaseConflict "worker lost the materialization lease")

/-- The first instant beyond a `timestamptz`, at the end of the year 294276. -/
def timestampEnd : Timestamptz := 107482102 * microsPerDay

/-- `now + lease_duration` in the database. -/
def renewedEnd (now : Timestamptz) (leaseDuration : Timedelta) :
    Except MaterializationError Timestamptz :=
  if now + leaseDuration < timestampEnd then .ok (now + leaseDuration) else .error .dataError

/-- The checks of `heartbeat_materialization`. -/
def validateHeartbeat (now : Option Datetime) (leaseDuration : Timedelta) :
    Except Raise Datetime := do
  let now ← requireAware now "now"
  requirePositive leaseDuration "lease_duration"
  return now

/-- `heartbeat_materialization`: the lease is renewed, or it lasts as long already. -/
def heartbeatMaterialization (key : String × String) (workerId : String) (expectedAttempt : ℤ)
    (now : Option Datetime) (leaseDuration : Timedelta) : Op Unit := do
  let now ← checked (validateHeartbeat now leaseDuration)
  Proc.atomically do
    setSite key.1
    parameters [key.2, workerId]
    let expiry ← renewedEnd now.instant leaseDuration
    -- both parts of the statement see the row as it was before it
    let held := ((← get).outbox.get? key).filter (isHeld workerId expectedAttempt now.instant)
    let renewed ← updateOne key
      (fun row => isHeld workerId expectedAttempt now.instant row && endsBefore expiry row)
      (setRenewed now.instant expiry)
    if renewed.isNone && held.isNone then throw leaseLost

/-- `FrappeDraftReceipt.__post_init__`. -/
def newReceipt (doctype name : String) (revision : ℤ) (requestId requestDigest : String) :
    Except Raise FrappeDraftReceipt :=
  let isReceiptText (s : String) := s ≠ "" ∧ s.length ≤ 256
  if hdoctype : isReceiptText doctype then
    if hname : isReceiptText name then
      if hrequest : isReceiptText requestId then
        if hrevision : 0 ≤ revision then
          if hdigest : isDigest requestDigest = true then
            .ok ⟨doctype, name, revision, requestId, requestDigest,
              by simpa using ⟨hdoctype, hname, hrequest⟩, hrevision, hdigest⟩
          else .error (.validationError "receipt request_digest must be SHA-256")
        else .error (.validationError "receipt revision must be a non-negative integer")
      else .error (.validationError "receipt request_id is invalid")
    else .error (.validationError "receipt name is invalid")
  else .error (.validationError "receipt doctype is invalid")

/-- The receipt of a row that has succeeded; `str(None)` is a text. -/
def storedReceipt (row : OutboxRow) : Except MaterializationError FrappeDraftReceipt :=
  match row.receiptRevision with
  | none => .error .typeError
  | some revision =>
      checked (newReceipt (row.receiptDoctype.getD "None") (row.receiptName.getD "None") revision
        (row.receiptRequestId.getD "None") (row.receiptDigest.getD "None"))

/-- The answer to a further acknowledgement. -/
def replayReceipt (row : OutboxRow) (receipt : FrappeDraftReceipt) :
    Except MaterializationError FrappeDraftReceipt := do
  let existing ← storedReceipt row
  if existing ≠ receipt then
    throw (.raise (.idempotencyConflict "materialization receipt replay has a body conflict"))
  return existing

/-- The statement that completes a row. -/
def completeRow (key : String × String) (workerId : String) (expectedAttempt : ℤ)
    (now : Timestamptz) (receipt : FrappeDraftReceipt) : Op FrappeDraftReceipt := do
  parameters [workerId, receipt.doctype, receipt.name, receipt.requestId]
  if !isInteger receipt.revision then throw .dataError
  let updated ← updateOne key (isHeld workerId expectedAttempt now) (setSucceeded receipt now)
  if updated.isNone then throw leaseLost
  return receipt

/-- `acknowledge_materialization`. -/
def acknowledgeMaterialization (key : String × String) (workerId : String) (expectedAttempt : ℤ)
    (now : Option Datetime) (receipt : FrappeDraftReceipt) : Op FrappeDraftReceipt := do
  let now ← checked (requireAware now "now")
  if receipt.requestId ≠ key.2 then
    throw (.raise (.idempotencyConflict "receipt request does not match materialization"))
  Proc.atomically do
    setSite key.1
    parameters [key.2]
    match (← get).outbox.get? key with
    | none => throw (.validation "materialization does not exist in this site")
    | some row =>
        if row.status = .succeeded then replayReceipt row receipt
        else completeRow key workerId expectedAttempt now.instant receipt

/-- The checks of `fail_materialization`. -/
def validateFailure (now retryAt : Option Datetime) (errorCode : String) :
    Except Raise (Datetime × Datetime) := do
  let now ← requireAware now "now"
  let retryAt ← requireAware retryAt "retry_at"
  if retryAt.instant ≤ now.instant then
    throw (.validationError "retry_at must be in the future")
  if !isCode errorCode then
    throw (.validationError "materialization error_code is invalid")
  return (now, retryAt)

/-- `fail_materialization`. -/
def failMaterialization (key : String × String) (workerId : String) (expectedAttempt : ℤ)
    (now retryAt : Option Datetime) (errorCode : String) : Op MaterializationStatus := do
  let (now, retryAt) ← checked (validateFailure now retryAt errorCode)
  Proc.atomically do
    setSite key.1
    parameters [key.2, workerId]
    let updated ← updateOne key (isHeld workerId expectedAttempt now.instant)
      (setFailed retryAt.instant errorCode now.instant)
    match updated.map OutboxRow.status with
    | none => throw leaseLost
    | some .retry => return .retry
    | some .deadLetter => return .deadLetter
    | some _ => throw (.validation "invalid materialization failure state")

/-! ## The outbox as a machine -/

inductive Call where
  | enqueue (bundle : Bundle) (now : Timestamptz)
  | claim (locked : String × String → Bool) (siteId workerId : String) (now : Option Datetime)
      (leaseDuration : Timedelta)
  | heartbeat (key : String × String) (workerId : String) (expectedAttempt : ℤ)
      (now : Option Datetime) (leaseDuration : Timedelta)
  | acknowledge (key : String × String) (workerId : String) (expectedAttempt : ℤ)
      (now : Option Datetime) (receipt : FrappeDraftReceipt)
  | fail (key : String × String) (workerId : String) (expectedAttempt : ℤ)
      (now retryAt : Option Datetime) (errorCode : String)

inductive Answer where
  | enqueued
  | claimed (claim : Option MaterializationClaim)
  | renewed
  | acknowledged (receipt : FrappeDraftReceipt)
  | failed (status : MaterializationStatus)
deriving DecidableEq

def perform (py : Stdlib) (collation : Collation) : Call → Op Answer
  | .enqueue bundle now => (fun _ => .enqueued) <$> enqueue py bundle now
  | .claim locked siteId workerId now leaseDuration =>
      .claimed <$> claimMaterialization collation locked siteId workerId now leaseDuration
  | .heartbeat key workerId expectedAttempt now leaseDuration =>
      (fun _ => .renewed) <$>
        heartbeatMaterialization key workerId expectedAttempt now leaseDuration
  | .acknowledge key workerId expectedAttempt now receipt =>
      .acknowledged <$> acknowledgeMaterialization key workerId expectedAttempt now receipt
  | .fail key workerId expectedAttempt now retryAt errorCode =>
      .failed <$> failMaterialization key workerId expectedAttempt now retryAt errorCode

def machine (py : Stdlib) (collation : Collation) :
    Machine Store Call (Except MaterializationError Answer) where
  step s c := (perform py collation c).run s

end EsanGbos.AgentRuntime.Materialization
