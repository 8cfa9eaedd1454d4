import EsanGbos.Observer.Models

/-!
# Connectors and checkpoints in the observer's database

The tables behind `PostgresLocalPilotStorage`, and its operations on connector instances
and their checkpoints. A table is a dictionary by its primary key. An operation checks its
arguments and then runs one transaction, so it is a step of its own.

## Main definitions

* `Store` — the tables.
* `Store.registerConnectorInstance` — both rows of a connector.
* `Store.updateCheckpointHealth`, `Store.acquireConnectorLease`,
  `Store.compareAndSwapCheckpoint` — the operations on a checkpoint.
* `Store.mutateStatus` — the operator's pause and resume.
-/
namespace EsanGbos.Observer
open Lib

/-! ## Rows -/

/-- The key of a connector's rows: site, connector and instance. -/
abbrev Instance := String × ConnectorKey

def instanceOf (scope : TenantScope) (key : ConnectorKey) : Instance := (scope.siteId, key)

inductive AgentTaskType where
  | sales | purchase | productSample | ceo
deriving DecidableEq, Repr

structure ConnectorInstance where
  status : ConnectorStatus
  registeredAt : Timestamptz
  updatedAt : Timestamptz
  controlRevision : ℕ
  teamRef : Option String
  agentTaskType : Option AgentTaskType
deriving DecidableEq, Repr

/-- The columns `lease_owner` and `lease_expires_at`, which are null together. -/
structure Lease where
  owner : String
  expiresAt : Timestamptz
deriving DecidableEq, Repr

structure Checkpoint where
  checkpointId : String
  cursorValue : Option String
  checkpointVersion : ℤ
  replayWindowSeconds : ℤ
  lease : Option Lease
  lastSuccessAt : Option Timestamptz
  lastErrorCode : Option String
  status : ConnectorStatus
  updatedAt : Timestamptz
deriving DecidableEq, Repr

inductive ControlOperation where
  | pause | resume | replay
deriving DecidableEq, Repr

/-- A row of `connector_control_commands`. -/
structure ControlCommand where
  requestDigest : String
  key : ConnectorKey
  operation : ControlOperation
  expectedRevision : ℕ
  resultRevision : ℕ
  createdAt : Timestamptz
deriving DecidableEq, Repr

inductive DeliveryStatus where
  | received | authenticated | queued | processing | succeeded | failed | quarantined
deriving DecidableEq, Repr

/-- A row of `inbound_deliveries`. Every delivery that is accepted has an object. -/
structure InboundDelivery where
  exactBodySha256 : String
  objectRef : String
  byteSize : ℤ
  mediaType : String
  receivedAt : Timestamptz
  processingStatus : DeliveryStatus
  attemptCount : ℤ
  correlationId : String
  lastAttemptAt : Option Timestamptz
  lastErrorCode : Option String
  createdAt : Timestamptz
  updatedAt : Timestamptz
deriving DecidableEq, Repr

inductive JobStatus where
  | queued | processing | retryWait | succeeded | failed | quarantined | deadLetter
deriving DecidableEq, Repr

/-- A row of `processing_jobs`, all of which are in the stage `normalize`. Every job that is
enqueued names its delivery and an idempotency key. -/
structure ProcessingJob where
  key : ConnectorKey
  deliveryId : String
  status : JobStatus
  attemptCount : ℤ
  maxAttempts : ℤ
  idempotencyKey : String
  generation : ℕ
  lease : Option Lease
  leaseGeneration : ℤ
  nextRetryAt : Option Timestamptz
  lastErrorCode : Option String
  createdAt : Timestamptz
  updatedAt : Timestamptz
deriving DecidableEq, Repr

structure Nonce where
  consumedAt : Timestamptz
  expiresAt : Timestamptz
deriving DecidableEq, Repr

/-- A row of `local_pilot_dead_letter` about a job. -/
structure DeadLetter where
  jobId : String
  reasonCode : String
  attemptCount : ℤ
  createdAt : Timestamptz
deriving DecidableEq, Repr

structure Quarantine where
  jobId : String
  deliveryId : String
  reasonCode : String
  createdAt : Timestamptz
deriving DecidableEq, Repr

structure EventLink where
  deliveryId : String
  linkedAt : Timestamptz
deriving DecidableEq, Repr

structure Store where
  instances : Dict Instance ConnectorInstance := Dict.empty
  checkpoints : Dict Instance Checkpoint := Dict.empty
  commands : Dict (String × String) ControlCommand := Dict.empty
  deliveries : Dict (Instance × String) InboundDelivery := Dict.empty
  deliveryEvents : Dict (Instance × String) EventLink := Dict.empty
  nonces : Dict (String × String × String) Nonce := Dict.empty
  jobs : Dict (String × String) ProcessingJob := Dict.empty
  deadLetters : Dict (String × String) DeadLetter := Dict.empty
  quarantines : Dict (String × String) Quarantine := Dict.empty

/-- An operation of the storage. -/
abbrev Op := Proc Raise Store

namespace Store
open Proc (atomically)

/-! ## Registration -/

/-- `_validate_connector_routing`. -/
def validateConnectorRouting (teamRef : Option String) (agentTaskType : Option AgentTaskType) :
    Except Raise Unit := do
  if let some team := teamRef then
    if team.toList.isEmpty || 256 < team.toList.length ||
        team.toList.any fun c => c == '\x00' || c == '\r' || c == '\n' then
      throw (.valueError "invalid connector routing team_ref")
  if agentTaskType.isSome && teamRef.isNone then
    throw (.valueError "invalid connector routing: agent task requires team_ref")

/-- The text `connector:instance_id`, which the key determines and which determines the key. -/
def checkpointIdOf (key : ConnectorKey) : String := s!"{key.connector.text}:{key.instanceId}"

/-- `INSERT ... ON CONFLICT DO NOTHING` of an instance; the row that is there afterwards. -/
def insertInstance (k : Instance) (row : ConnectorInstance) : Op ConnectorInstance := do
  match (← get).instances.get? k with
  | some existing => return existing
  | none =>
      modify fun s => { s with instances := s.instances.set k row }
      return row

/-- `INSERT ... ON CONFLICT DO NOTHING` of a checkpoint, whose identifier is bounded. -/
def insertCheckpoint (k : Instance) (row : Checkpoint) : Op Unit := do
  if ((← get).checkpoints.get? k).isNone then
    unless row.checkpointId.toList.length ≤ 256 do throw .integrityError
    modify fun s => { s with checkpoints := s.checkpoints.set k row }

/-- The checks of `register_connector_instance`. -/
def validateRegistration (now : Option Datetime) (replayWindowSeconds : ℤ)
    (teamRef : Option String) (agentTaskType : Option AgentTaskType) : Except Raise Datetime := do
  let now ← requireAware now "now"
  validateConnectorRouting teamRef agentTaskType
  unless 0 ≤ replayWindowSeconds ∧ replayWindowSeconds ≤ 31536000 do
    throw (.valueError "replay_window_seconds is outside the valid range")
  return now

/-- `register_connector_instance`. -/
def registerConnectorInstance (scope : TenantScope) (key : ConnectorKey) (now : Option Datetime)
    (replayWindowSeconds : ℤ) (teamRef : Option String) (agentTaskType : Option AgentTaskType) :
    Op ConnectorInstance := do
  let now ← validateRegistration now replayWindowSeconds teamRef agentTaskType
  atomically do
    let metadata ← insertInstance (instanceOf scope key)
      { status := .healthy, registeredAt := now.instant, updatedAt := now.instant
        controlRevision := 0, teamRef, agentTaskType }
    if metadata.teamRef ≠ teamRef ∨ metadata.agentTaskType ≠ agentTaskType then
      throw (.connectorRoutingConflict "connector routing metadata conflict")
    insertCheckpoint (instanceOf scope key)
      { checkpointId := checkpointIdOf key, cursorValue := none, checkpointVersion := 0
        replayWindowSeconds, lease := none, lastSuccessAt := none, lastErrorCode := none
        status := .healthy, updatedAt := now.instant }
    return metadata

/-! ## Checkpoints -/

/-- `UPDATE observer.connector_checkpoints SET f WHERE` key and `p`, `RETURNING` the row. -/
def updateCheckpoint (k : Instance) (p : Checkpoint → Bool) (f : Checkpoint → Checkpoint)
    (miss : Raise) : Op Checkpoint := do
  match ((← get).checkpoints.get? k).filter p with
  | none => throw miss
  | some row =>
      modify fun s => { s with checkpoints := s.checkpoints.set k (f row) }
      return f row

theorem run_updateCheckpoint (k : Instance) (p : Checkpoint → Bool) (f : Checkpoint → Checkpoint)
    (miss : Raise) (s : Store) :
    (updateCheckpoint k p f miss).run s =
      match (s.checkpoints.get? k).filter p with
      | some row => (.ok (f row), { s with checkpoints := s.checkpoints.set k (f row) })
      | none => (.error miss, s) := by
  unfold updateCheckpoint
  rw [Proc.run_get_bind]
  cases (s.checkpoints.get? k).filter p <;> rfl

/-- The checks of `update_checkpoint_health`. -/
def validateHealth (status : ConnectorStatus) (now : Option Datetime)
    (lastSuccessAt : Option (Option Datetime)) (errorCode : Option String) :
    Except Raise (Datetime × Option Timestamptz) := do
  let now ← requireAware now "now"
  let lastSuccessAt ← requireAwareIfAny lastSuccessAt "last_success_at"
  if let some code := errorCode then
    requireIdentifier code "error_code" 80
  if status = .healthy ∧ errorCode.isSome then
    throw (.valueError "healthy checkpoint cannot include an error code")
  return (now, lastSuccessAt)

/-- `update_checkpoint_health`. -/
def updateCheckpointHealth (scope : TenantScope) (key : ConnectorKey) (status : ConnectorStatus)
    (now : Option Datetime) (lastSuccessAt : Option (Option Datetime))
    (errorCode : Option String) : Op Checkpoint := do
  let (now, lastSuccessAt) ← validateHealth status now lastSuccessAt errorCode
  atomically <| updateCheckpoint (instanceOf scope key) (fun _ => true)
    (fun row => { row with
      status, lastSuccessAt := lastSuccessAt <|> row.lastSuccessAt, lastErrorCode := errorCode
      updatedAt := now.instant })
    (.checkpointConflict "checkpoint health transition rejected")

/-- `lease_owner IS NULL OR lease_expires_at <= now OR lease_owner = owner`. -/
def mayAcquire (owner : String) (now : Timestamptz) (row : Checkpoint) : Bool :=
  row.lease.all fun lease => lease.expiresAt ≤ now || lease.owner == owner

/-- `lease_owner = owner AND lease_expires_at > now`. -/
def mayRenew (owner : String) (now : Timestamptz) (row : Checkpoint) : Bool :=
  row.lease.any fun lease => lease.owner == owner && now < lease.expiresAt

/-- `_change_lease`, given the predicate of the operation. -/
def changeLease (scope : TenantScope) (key : ConnectorKey) (owner : String)
    (now : Option Datetime) (leaseSeconds : ℤ) (operation : String)
    (predicate : String → Timestamptz → Checkpoint → Bool) : Op Checkpoint := do
  requireIdentifier owner "owner" 256
  let now ← requireAware now "now"
  requireLeaseSeconds leaseSeconds
  let expiry ← plus now (seconds leaseSeconds)
  atomically <| updateCheckpoint (instanceOf scope key) (predicate owner now.instant)
    (fun row => { row with
      lease := some ⟨owner, expiry.instant⟩
      updatedAt := now.instant })
    (.leaseConflict s!"connector lease {operation} rejected")

/-- `acquire_connector_lease`. -/
def acquireConnectorLease (scope : TenantScope) (key : ConnectorKey) (owner : String)
    (now : Option Datetime) (leaseSeconds : ℤ) : Op Checkpoint :=
  changeLease scope key owner now leaseSeconds "acquire" mayAcquire

/-- `renew_connector_lease`. -/
def renewConnectorLease (scope : TenantScope) (key : ConnectorKey) (owner : String)
    (now : Option Datetime) (leaseSeconds : ℤ) : Op Checkpoint :=
  changeLease scope key owner now leaseSeconds "renew" mayRenew

/-- `release_connector_lease`. -/
def releaseConnectorLease (scope : TenantScope) (key : ConnectorKey) (owner : String)
    (now : Option Datetime) : Op Checkpoint := do
  requireIdentifier owner "owner" 256
  let now ← requireAware now "now"
  atomically <| updateCheckpoint (instanceOf scope key)
    (fun row => row.lease.any fun lease => lease.owner == owner)
    (fun row => { row with lease := none, updatedAt := now.instant })
    (.leaseConflict "connector lease release rejected")

/-- The checks of `compare_and_swap_checkpoint`. -/
def validateSwap (expectedVersion : ℤ) (cursor : Option String) (nextVersion : ℤ)
    (now : Option Datetime) : Except Raise Datetime := do
  if expectedVersion < 0 then
    throw (.valueError "expected_version must be non-negative")
  if nextVersion ≠ expectedVersion + 1 then
    throw (.valueError "next_version must increment expected_version by one")
  if cursor.any fun text => 4096 < text.toList.length then
    throw (.valueError "cursor must be an opaque string up to 4096 characters")
  requireAware now "now"

/-- `compare_and_swap_checkpoint`. -/
def compareAndSwapCheckpoint (scope : TenantScope) (key : ConnectorKey) (expectedVersion : ℤ)
    (cursor : Option String) (nextVersion : ℤ) (now : Option Datetime) : Op Checkpoint := do
  let now ← validateSwap expectedVersion cursor nextVersion now
  atomically <| updateCheckpoint (instanceOf scope key)
    (fun row => row.checkpointVersion == expectedVersion)
    (fun row => { row with
      cursorValue := cursor
      checkpointVersion := nextVersion
      updatedAt := now.instant })
    (.checkpointConflict "stale checkpoint version")

/-- `PostgresPollingState.load_checkpoint`: a paused instance hides the checkpoint's status. -/
def loadCheckpoint (scope : TenantScope) (key : ConnectorKey) :
    Op (Option String × ℤ × ConnectorStatus) := do
  let s ← get
  match s.checkpoints.get? (instanceOf scope key), s.instances.get? (instanceOf scope key) with
  | some row, some connector =>
      return (row.cursorValue, row.checkpointVersion,
        if connector.status = .paused then .paused else row.status)
  | _, _ => throw (.lookupError "connector checkpoint does not exist")

/-! ## What an operation does to a checkpoint -/

/-- A checkpoint is rewritten as `R` allows, or nothing changes. -/
def Rewrites (k : Instance) (R : Checkpoint → Checkpoint → Prop) (s s' : Store) : Prop :=
  s' = s ∨ ∃ row row', s.checkpoints.get? k = some row ∧ R row row' ∧
    s' = { s with checkpoints := s.checkpoints.set k row' }

theorem rewrites_updateCheckpoint {k : Instance} {p : Checkpoint → Bool}
    {f : Checkpoint → Checkpoint} {miss : Raise} {R : Checkpoint → Checkpoint → Prop} (s : Store)
    (h : ∀ row, p row = true → R row (f row)) :
    Rewrites k R s ((atomically (updateCheckpoint k p f miss)).run s).2 := by
  rw [Proc.run_atomically, run_updateCheckpoint]
  cases hrow : (s.checkpoints.get? k).filter p with
  | none => exact .inl rfl
  | some row =>
      obtain ⟨hget, hp⟩ := Option.filter_eq_some_iff.mp hrow
      exact .inr ⟨row, f row, hget, h row hp, rfl⟩

section Rewriting
variable (scope : TenantScope) (key : ConnectorKey) (now : Option Datetime) (s : Store)

/-- Status, cursor and version are not a lease's business. -/
theorem rewrites_changeLease (owner : String) (leaseSeconds : ℤ) (operation : String)
    (predicate : String → Timestamptz → Checkpoint → Bool) :
    Rewrites (instanceOf scope key)
      (fun row row' => row' = { row with lease := row'.lease, updatedAt := row'.updatedAt }) s
      ((changeLease scope key owner now leaseSeconds operation predicate).run s).2 := by
  unfold changeLease
  apply Proc.run_lift_snd (.inl rfl)
  intro _ _
  apply Proc.run_lift_snd (.inl rfl)
  intro now _
  apply Proc.run_lift_snd (.inl rfl)
  intro _ _
  apply Proc.run_lift_snd (.inl rfl)
  intro expiry _
  exact rewrites_updateCheckpoint s fun row _ => rfl

theorem rewrites_releaseConnectorLease (owner : String) :
    Rewrites (instanceOf scope key)
      (fun row row' => row' = { row with lease := none, updatedAt := row'.updatedAt }) s
      ((releaseConnectorLease scope key owner now).run s).2 := by
  unfold releaseConnectorLease
  apply Proc.run_lift_snd (.inl rfl)
  intro _ _
  apply Proc.run_lift_snd (.inl rfl)
  intro now _
  exact rewrites_updateCheckpoint s fun row _ => rfl

theorem rewrites_updateCheckpointHealth (status : ConnectorStatus)
    (lastSuccessAt : Option (Option Datetime)) (errorCode : Option String) :
    Rewrites (instanceOf scope key)
      (fun row row' => row' = { row with
        status, lastSuccessAt := row'.lastSuccessAt, lastErrorCode := errorCode
        updatedAt := row'.updatedAt }) s
      ((updateCheckpointHealth scope key status now lastSuccessAt errorCode).run s).2 := by
  unfold updateCheckpointHealth
  apply Proc.run_lift_snd (.inl rfl)
  intro checked _
  exact rewrites_updateCheckpoint s fun row _ => rfl

theorem rewrites_compareAndSwapCheckpoint (expectedVersion : ℤ) (cursor : Option String)
    (nextVersion : ℤ) :
    Rewrites (instanceOf scope key)
      (fun row row' => row.checkpointVersion = expectedVersion ∧ row' = { row with
        cursorValue := cursor, checkpointVersion := nextVersion, updatedAt := row'.updatedAt }) s
      ((compareAndSwapCheckpoint scope key expectedVersion cursor nextVersion now).run s).2 := by
  unfold compareAndSwapCheckpoint
  apply Proc.run_lift_snd (.inl rfl)
  intro now _
  exact rewrites_updateCheckpoint s fun row hrow => ⟨by simpa using hrow, rfl⟩

/-- Health that passes the checks is written, whatever it was before. -/
theorem run_updateCheckpointHealth {status : ConnectorStatus} {now : Datetime}
    {lastSuccessAt : Option (Option Datetime)} {errorCode : Option String} {row : Checkpoint}
    {checked : Datetime × Option Timestamptz}
    (hchecked : validateHealth status (some now) lastSuccessAt errorCode = .ok checked)
    (hrow : s.checkpoints.get? (instanceOf scope key) = some row) :
    ∃ row', row'.status = status ∧
      ((updateCheckpointHealth scope key status (some now) lastSuccessAt errorCode).run s).2 =
        { s with checkpoints := s.checkpoints.set (instanceOf scope key) row' } := by
  unfold updateCheckpointHealth
  rw [hchecked, Proc.run_lift_bind]
  dsimp only
  rw [Proc.run_atomically, run_updateCheckpoint, hrow]
  exact ⟨_, rfl, rfl⟩

end Rewriting

/-! ## The operator -/

/-- `_raise_control_miss`. -/
def controlMiss (row : Option ConnectorInstance) : Raise :=
  if row.isNone then .connectorNotFound "connector instance does not exist"
  else .revisionConflict "connector revision is stale"

/-- `PostgresControlRepository.mutate_status`: pause when `pause` holds and resume otherwise.
The answer is the revision, and whether a stored command was answered again. -/
def mutateStatus (scope : TenantScope) (key : ConnectorKey) (pause : Bool)
    (expectedRevision : ℕ) (idempotencyKey requestDigest : String) (now : Datetime) :
    Op (ℕ × Bool) := atomically do
  let k := instanceOf scope key
  let status := if pause then ConnectorStatus.paused else .healthy
  match (← get).commands.get? (scope.siteId, idempotencyKey) with
  | some command =>
      if command.requestDigest ≠ requestDigest then
        throw (.idempotencyConflict "idempotency key was used for another command")
      return (command.resultRevision, true)
  | none =>
      let row := (← get).instances.get? k
      match row.filter fun row => row.controlRevision = expectedRevision with
      | none => throw (controlMiss row)
      | some row =>
          modify fun s => { s with
            instances := s.instances.set k { row with
              status, controlRevision := row.controlRevision + 1, updatedAt := now.instant } }
          match (← get).checkpoints.get? k with
          | none => throw (.connectorNotFound "connector instance does not exist")
          | some checkpoint =>
              modify fun s => { s with
                checkpoints := s.checkpoints.set k { checkpoint with
                  status
                  lastErrorCode := if pause then checkpoint.lastErrorCode else none
                  updatedAt := now.instant } }
              -- The bounds that the table of commands puts on its texts.
              unless 8 ≤ idempotencyKey.toList.length ∧ idempotencyKey.toList.length ≤ 256 ∧
                  isDigest requestDigest do
                throw .integrityError
              modify fun s => { s with
                commands := s.commands.set (scope.siteId, idempotencyKey)
                  { requestDigest, key, operation := if pause then .pause else .resume
                    expectedRevision, resultRevision := row.controlRevision + 1
                    createdAt := now.instant } }
              return (row.controlRevision + 1, false)

/-- A command that goes through sets the checkpoint's status; one that does not, nothing. -/
theorem mutateStatus_checkpoint (scope : TenantScope) (key : ConnectorKey) (pause : Bool)
    (expectedRevision : ℕ) (idempotencyKey requestDigest : String) (now : Datetime) (s : Store) :
    ((mutateStatus scope key pause expectedRevision idempotencyKey requestDigest now).run s).2 = s ∨
      ∃ row row', s.checkpoints.get? (instanceOf scope key) = some row ∧
        row' = { row with
          status := if pause then .paused else .healthy
          lastErrorCode := row'.lastErrorCode, updatedAt := row'.updatedAt } ∧
        ((mutateStatus scope key pause expectedRevision idempotencyKey requestDigest now).run
          s).2.checkpoints.get? (instanceOf scope key) = some row' := by
  unfold mutateStatus
  rw [Proc.run_atomically, Proc.run_get_bind]
  cases s.commands.get? (scope.siteId, idempotencyKey) with
  | some command =>
      left
      by_cases hdigest : command.requestDigest = requestDigest <;> simp [hdigest]
  | none =>
      simp only [Proc.run_get_bind]
      cases (s.instances.get? (instanceOf scope key)).filter fun row =>
          row.controlRevision = expectedRevision with
      | none => exact .inl rfl
      | some connector =>
          cases hrow : s.checkpoints.get? (instanceOf scope key) with
          | none => left; simp [hrow]
          | some row =>
              by_cases hbounds : 8 ≤ idempotencyKey.toList.length ∧
                  idempotencyKey.toList.length ≤ 256 ∧ isDigest requestDigest = true
              · right
                simp [hrow, hbounds]
              · left
                simp [hrow, hbounds]

end Store
end EsanGbos.Observer
