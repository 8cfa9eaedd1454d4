import EsanGbos.Observer.Jobs

/-!
# Control of connectors

The operator pauses and resumes a connector and replays its failed deliveries. A command names the
revision it is meant for and an idempotency key, and its outcome is kept under the key. The routing
of a connector is updated with a revision too, but without a key. Every call is one transaction.

## Main definitions

* `Tables` — the tables of the storage, with the commands and their outcomes.
* `mutateStatus`, `replayFailed`, `updateConnectorRouting` — the transactions.
* `control` — a call of the service.
* `machine` — the calls of operators, in any order, and what workers do meanwhile.
-/
namespace EsanGbos.Observer.Control
open Lib

/-! ## Outcomes -/

inductive Status where
  | enabled | paused | error | disabled
deriving DecidableEq, Repr

inductive Freshness where
  | fresh | stale | unknown
deriving DecidableEq, Repr

/-- The `ConnectorStatus` that operators see. -/
structure ConnectorStatus where
  instanceId : String
  channel : String
  status : Status
  checkpointVersion : ℤ
  backlog : ℕ
  lastSuccessAt : Option Timestamptz
  safeErrorCode : Option String
  freshness : Freshness
  revision : ℕ
deriving DecidableEq, Repr

/-- `ConnectorStatus.__post_init__`. -/
def ConnectorStatus.check (status : ConnectorStatus) : Except Raise Unit := do
  Proc.rejectIf (status.instanceId = "" ∨ 256 < status.instanceId.toList.length)
    (.valueError "invalid connector instance_id")
  Proc.rejectIf (status.channel = "" ∨ 80 < status.channel.toList.length)
    (.valueError "invalid connector channel")
  Proc.rejectIf (status.checkpointVersion < 0)
    (.valueError "connector counters must be non-negative")
  Proc.rejectIf (∃ code ∈ status.safeErrorCode, 80 < code.toList.length)
    (.valueError "invalid safe_error_code")

structure ConnectorControlResult where
  status : ConnectorStatus
  replayedCount : ℕ
  replayed : Bool
deriving DecidableEq, Repr

/-- `_REPLAY_LIMIT`. -/
def replayLimit : ℕ := 100

/-- The checks of both constructors. -/
def ConnectorControlResult.check (result : ConnectorControlResult) : Except Raise Unit := do
  result.status.check
  Proc.rejectIf (replayLimit < result.replayedCount) (.valueError "invalid replayed_count")

/-! ## Tables -/

/-- A row of `connector_control_commands`, with the outcome. The document `response_status` is kept
as the status that it encodes. -/
structure Command extends ControlCommand where
  replayedCount : ℕ
  responseStatus : ConnectorStatus

/-- The tables of the storage, and the commands with their outcomes by site and idempotency key. -/
structure Tables where
  store : Store := {}
  commands : Dict (String × String) Command := Dict.empty

abbrev Op := Proc Raise Tables

/-- An operation of the storage, in the same transaction. -/
def onStore {α : Type} (x : Observer.Op α) : Op α :=
  ⟨fun s => ((x.run s.store).1, { s with store := (x.run s.store).2 })⟩

/-- What the transactions work with: the digests, the order of texts and the identifiers. -/
structure Tools where
  py : Stdlib
  collation : Collation
  stableUlid : String → List String → String

/-! ## The status of a connector -/

/-- The `CASE` of `_STATUS_COLUMNS` about the two rows. -/
def statusOf (connector : ConnectorInstance) (checkpoint : Checkpoint) : Status :=
  if connector.status = .paused ∨ checkpoint.status = .paused then .paused
  else if connector.status ∈ [.degraded, .failed] ∨ checkpoint.status ∈ [.degraded, .failed] then
    .error
  else .enabled

/-- The jobs of a connector that have not ended. -/
def backlogOf (s : Store) (k : Instance) : ℕ :=
  s.jobs.items.countP fun e =>
    (e.1.1, e.2.key) = k && e.2.status ∈ [.queued, .processing, JobStatus.retryWait]

/-- The `CASE` about the last success, at the time of the database. -/
def freshnessOf (checkpoint : Checkpoint) (currentTimestamp : Timestamptz) : Freshness :=
  match checkpoint.lastSuccessAt with
  | none => .unknown
  | some at_ => if currentTimestamp - seconds 300 ≤ at_ then .fresh else .stale

/-- `_status_from_row`, from the rows of a connector. -/
def statusFromRow (s : Store) (k : Instance) (connector : ConnectorInstance)
    (checkpoint : Checkpoint) (currentTimestamp : Timestamptz) : ConnectorStatus where
  instanceId := k.2.instanceId
  channel := k.2.connector.text
  status := statusOf connector checkpoint
  checkpointVersion := checkpoint.checkpointVersion
  backlog := backlogOf s k
  lastSuccessAt := checkpoint.lastSuccessAt
  safeErrorCode := checkpoint.lastErrorCode
  freshness := freshnessOf checkpoint currentTimestamp
  revision := connector.controlRevision

/-- `_load_status`. -/
def loadStatus (k : Instance) (currentTimestamp : Timestamptz) : Op ConnectorStatus := do
  let s := (← get).store
  match s.instances.get? k, s.checkpoints.get? k with
  | some connector, some checkpoint =>
      let status := statusFromRow s k connector checkpoint currentTimestamp
      status.check
      return status
  | _, _ => throw (.connectorNotFound "connector instance does not exist")

/-! ## Transactions -/

/-- `_lock_and_load_command`. -/
def lockAndLoadCommand (scope : TenantScope) (idempotencyKey requestDigest : String) :
    Op (Option ConnectorControlResult) := do
  match (← get).commands.get? (scope.siteId, idempotencyKey) with
  | none => return none
  | some command =>
      if command.requestDigest ≠ requestDigest then
        throw (.idempotencyConflict "idempotency key was used for another command")
      let result : ConnectorControlResult := ⟨command.responseStatus, command.replayedCount, true⟩
      result.check
      return some result

/-- `UPDATE observer.connector_instances SET f, control_revision = control_revision + 1 WHERE` the
revision is the expected one; `miss` says what is raised where it is not. -/
def updateInstance (k : Instance) (expectedRevision : ℤ) (now : Datetime)
    (f : ConnectorInstance → ConnectorInstance) (miss : Option ConnectorInstance → Raise) :
    Op ConnectorInstance := do
  let s := (← get).store
  match (s.instances.get? k).filter fun row => row.controlRevision = expectedRevision with
  | none => throw (miss (s.instances.get? k))
  | some row =>
      let row := { f row with
        controlRevision := row.controlRevision + 1, updatedAt := now.instant }
      set { (← get) with store := { s with instances := s.instances.set k row } }
      return row

/-- `_insert_command`, with the constraints of the table on its texts. -/
def insertCommand (scope : TenantScope) (key : ConnectorKey) (operation : ControlOperation)
    (expectedRevision : ℤ) (idempotencyKey requestDigest : String)
    (result : ConnectorControlResult) (now : Datetime) : Op Unit := do
  unless 8 ≤ idempotencyKey.toList.length ∧ idempotencyKey.toList.length ≤ 256 ∧
      isDigest requestDigest do
    throw .integrityError
  modify fun s => { s with
    commands := s.commands.set (scope.siteId, idempotencyKey)
      { requestDigest, key, operation, expectedRevision := expectedRevision.toNat
        resultRevision := result.status.revision, replayedCount := result.replayedCount
        responseStatus := result.status, createdAt := now.instant } }

/-- The `UPDATE` of the checkpoint in `mutate_status`. -/
def setCheckpointStatus (k : Instance) (pause : Bool) (now : Datetime) (s : Store) : Store :=
  match s.checkpoints.get? k with
  | none => s
  | some checkpoint => { s with
      checkpoints := s.checkpoints.set k { checkpoint with
        status := if pause then .paused else .healthy
        lastErrorCode := if pause then checkpoint.lastErrorCode else none
        updatedAt := now.instant } }

/-- What both commands do once their effect is there: they load the status and keep the outcome. -/
def conclude (scope : TenantScope) (key : ConnectorKey) (operation : ControlOperation)
    (expectedRevision : ℤ) (idempotencyKey requestDigest : String) (replayedCount : ℕ)
    (now : Datetime) (currentTimestamp : Timestamptz) : Op ConnectorControlResult := do
  let status ← loadStatus (instanceOf scope key) currentTimestamp
  let result : ConnectorControlResult := ⟨status, replayedCount, false⟩
  result.check
  insertCommand scope key operation expectedRevision idempotencyKey requestDigest result now
  return result

/-- `mutate_status`: pause when `pause` holds and resume otherwise. -/
def mutateStatus (scope : TenantScope) (key : ConnectorKey) (pause : Bool) (expectedRevision : ℤ)
    (idempotencyKey requestDigest : String) (now : Datetime) (currentTimestamp : Timestamptz) :
    Op ConnectorControlResult := Proc.atomically do
  let k := instanceOf scope key
  match ← lockAndLoadCommand scope idempotencyKey requestDigest with
  | some existing => return existing
  | none =>
      let _ ← updateInstance k expectedRevision now
        (fun row => { row with status := if pause then .paused else .healthy }) Store.controlMiss
      modify fun s => { s with store := setCheckpointStatus k pause now s.store }
      conclude scope key (if pause then .pause else .resume) expectedRevision idempotencyKey
        requestDigest 0 now currentTimestamp

/-- The `WHERE` of the deliveries that are replayed. -/
def isEligible (s : Store) (k : Instance) (cutoff now : Timestamptz)
    (e : (Instance × String) × InboundDelivery) : Bool :=
  e.1.1 = k && e.2.processingStatus = .failed && cutoff ≤ e.2.receivedAt &&
    (s.checkpoints.get? k).any (fun row =>
      now - seconds row.replayWindowSeconds ≤ e.2.receivedAt) && e.2.receivedAt ≤ now

/-- `ORDER BY received_at, delivery_id`. -/
def receivedBefore (collation : Collation) (e e' : (Instance × String) × InboundDelivery) : Prop :=
  e.2.receivedAt < e'.2.receivedAt ∨
    e.2.receivedAt = e'.2.receivedAt ∧ collation.le e.1.2 e'.1.2 = true

instance (collation : Collation) : DecidableRel (receivedBefore collation) := fun e e' => by
  unfold receivedBefore
  infer_instance

/-- The deliveries that are replayed, without those `SKIP LOCKED` leaves out. -/
def deliveryIds (collation : Collation) (s : Store) (k : Instance) (cutoff now : Timestamptz)
    (limit : ℕ) (locked : String → Bool) : List String :=
  let eligible := s.deliveries.items.filter fun e => isEligible s k cutoff now e && !locked e.1.2
  ((eligible.insertionSort (receivedBefore collation)).take limit).map fun e => e.1.2

/-- The identifier of the job that replays a delivery. -/
def replayJobId (tools : Tools) (scope : TenantScope) (key : ConnectorKey)
    (idempotencyKey deliveryId : String) : String :=
  tools.stableUlid "connector-control-replay-job"
    [scope.siteId, key.connector.text, key.instanceId, idempotencyKey, deliveryId]

/-- `replay_failed`; `locked` says which deliveries other transactions have locked. -/
def replayFailed (tools : Tools) (scope : TenantScope) (key : ConnectorKey) (expectedRevision : ℤ)
    (idempotencyKey requestDigest : String) (cutoff : Datetime) (limit : ℕ) (now : Datetime)
    (currentTimestamp : Timestamptz) (locked : String → Bool) :
    Op ConnectorControlResult := Proc.atomically do
  let k := instanceOf scope key
  match ← lockAndLoadCommand scope idempotencyKey requestDigest with
  | some existing => return existing
  | none =>
      let _ ← updateInstance k expectedRevision now id Store.controlMiss
      let ids := deliveryIds tools.collation (← get).store k cutoff.instant now.instant limit locked
      onStore <| ids.forM fun deliveryId => do
        let jobId := replayJobId tools scope key idempotencyKey deliveryId
        let _ ← Store.replayDelivery scope key deliveryId jobId ("replay:" ++ jobId) (some now) 3
      conclude scope key .replay expectedRevision idempotencyKey requestDigest ids.length now
        currentTimestamp

/-- The checks of `update_connector_routing`. -/
def validateRoutingUpdate (expectedControlRevision : ℤ) (teamRef : Option String)
    (agentTaskType : Option AgentTaskType) (now : Option Datetime) : Except Raise Datetime := do
  let now ← requireAware now "now"
  Store.validateConnectorRouting teamRef agentTaskType
  Proc.rejectIf (expectedControlRevision < 0) (.valueError "invalid routing control revision")
  return now

/-- `update_connector_routing`. -/
def updateConnectorRouting (scope : TenantScope) (key : ConnectorKey)
    (expectedControlRevision : ℤ) (teamRef : Option String) (agentTaskType : Option AgentTaskType)
    (now : Option Datetime) : Op ConnectorInstance := do
  let now ← validateRoutingUpdate expectedControlRevision teamRef agentTaskType now
  Proc.atomically <| updateInstance (instanceOf scope key) expectedControlRevision now
    (fun row => { row with teamRef, agentTaskType })
    fun _ => .connectorRoutingConflict "routing compare-and-swap rejected"

/-! ## The service -/

/-- What an operator asks for. -/
inductive Action where
  | pause | resume | replay (limit : ℤ)
deriving DecidableEq, Repr

/-- A request to `LocalPilotControlService`. -/
structure Request where
  scope : TenantScope
  key : ConnectorKey
  action : Action
  expectedRevision : ℤ
  idempotencyKey : String
deriving DecidableEq, Repr

/-- A reading of the service's clock, which is past the first thirty days of the calendar, so that
`now - _REPLAY_RETENTION` is a time. -/
structure Reading where
  now : Datetime
  cutoff : Datetime
  cutoff_ok : plus now (days (-30)) = .ok cutoff

/-- The values of `PROCESSING_PURPOSES`. -/
def purposeText : ProcessingPurpose → String
  | .businessOperations => "business_operations"
  | .observationProcessing => "observation_processing"
  | .entityResolution => "entity_resolution"
  | .customerService => "customer_service"
  | .salesFollowUp => "sales_follow_up"
  | .procurementCoordination => "procurement_coordination"
  | .productSampleManagement => "product_sample_management"
  | .riskReview => "risk_review"
  | .metricReporting => "metric_reporting"
  | .auditCompliance => "audit_compliance"

/-- `_validate_command`, and the check of the limit. -/
def Request.validate (request : Request) : Except Raise Unit := do
  Proc.rejectIf (request.expectedRevision < 0)
    (.valueError "expected_revision must be non-negative")
  Proc.rejectIf (request.idempotencyKey ≠ strip request.idempotencyKey ∨
      request.idempotencyKey.toList.length < 8 ∨ 256 < request.idempotencyKey.toList.length)
    (.valueError "invalid idempotency_key")
  match request.action with
  | .replay limit =>
      Proc.rejectIf (¬ (1 ≤ limit ∧ limit ≤ replayLimit))
        (.valueError "replay limit must be between 1 and 100")
  | _ => return ()

/-- The document of `_command_digest`, with its keys in order. -/
def Request.document (request : Request) : Json :=
  let common (operation : String) : List (String × Json) :=
    [("operation", .str operation),
      ("processing_purpose", .str (purposeText request.scope.processingPurpose)),
      ("site_id", .str request.scope.siteId)]
  let first : List (String × Json) := [("connector", .str request.key.connector.text),
    ("expected_revision", .int request.expectedRevision),
    ("instance_id", .str request.key.instanceId)]
  match request.action with
  | .pause => .obj (first ++ common "pause" ++ [("target_status", .str "paused")])
  | .resume => .obj (first ++ common "resume" ++ [("target_status", .str "enabled")])
  | .replay limit => .obj (first ++ ("limit", .int limit) :: common "replay")

/-- `_command_digest`. -/
def Request.digest (py : Stdlib) (request : Request) : String :=
  py.sha256 request.document.dumpsAscii

/-- `pause`, `resume` and `replay`. -/
def control (tools : Tools) (request : Request) (reading : Reading)
    (currentTimestamp : Timestamptz) (locked : String → Bool) : Op ConnectorControlResult := do
  request.validate
  let digest := request.digest tools.py
  match request.action with
  | .pause =>
      mutateStatus request.scope request.key true request.expectedRevision request.idempotencyKey
        digest reading.now currentTimestamp
  | .resume =>
      mutateStatus request.scope request.key false request.expectedRevision request.idempotencyKey
        digest reading.now currentTimestamp
  | .replay limit =>
      replayFailed tools request.scope request.key request.expectedRevision request.idempotencyKey
        digest reading.cutoff limit.toNat reading.now currentTimestamp locked

/-! ## Runs -/

/-- A call of an operator, or a transaction of somebody else, which leaves the tables of the storage
as it says. -/
inductive Call where
  | control (request : Request) (reading : Reading) (currentTimestamp : Timestamptz)
      (locked : String → Bool)
  | updateRouting (scope : TenantScope) (key : ConnectorKey) (expectedControlRevision : ℤ)
      (teamRef : Option String) (agentTaskType : Option AgentTaskType) (now : Option Datetime)
  | worker (store : Store)

inductive Answer where
  | result (result : ConnectorControlResult)
  | connector (row : ConnectorInstance)
  | done

def perform (tools : Tools) : Call → Op Answer
  | .control request reading currentTimestamp locked =>
      .result <$> control tools request reading currentTimestamp locked
  | .updateRouting scope key expectedControlRevision teamRef agentTaskType now =>
      .connector <$>
        updateConnectorRouting scope key expectedControlRevision teamRef agentTaskType now
  | .worker store => do
      modify fun s => { s with store }
      return .done

def machine (tools : Tools) : Machine Tables Call (Except Raise Answer) where
  step s c := (perform tools c).run s

end EsanGbos.Observer.Control
