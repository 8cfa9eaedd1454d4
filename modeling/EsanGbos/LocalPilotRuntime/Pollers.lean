import EsanGbos.Observer.Scheduler

/-!
# The pull channels

`pollers.main` registers its connector, makes sure of an initial checkpoint and then polls until
it is stopped. The mailbox and the archive have a scheduler each: the mailbox's commits every
cursor that differs from the stored one, the archive's only those that come with deliveries.

## Main definitions

* `LocalPullRunner.runOnce` — one poll of a channel.
* `PullChannel.startUp` — the work of `main` before the first poll.

## Main results

* `runOnceWith_runLeased` — the class of the schedulers runs as modelled before.
-/
namespace EsanGbos.LocalPilotRuntime
open Lib Observer

/-! ## Schedulers -/

/-- `_run_leased`, given the poll of the channel and what its class does with a batch. -/
def runLeasedWith (poll : Option String → ℤ → PollingRun PollBatch)
    (runBatch : Option String → ℤ → Datetime → PollBatch → PollingRun PollRunResult)
    (cursor : Option String) (version limit : ℤ) (now : Datetime) : PollingRun PollRunResult := do
  match ← (poll cursor limit).attempt with
  | .error _ => DurablePollingScheduler.recordFailure now "poll_failed" false
  | .ok batch => runBatch cursor version now batch

/-- The body of the `try` in `run_once`, which calls the `_run_leased` of the class. -/
def underLeaseWith
    (runLeased : Option String → ℤ → ℤ → Datetime → PollingRun PollRunResult)
    (limit : ℤ) (now : Datetime) : PollingRun PollRunResult := do
  let (cursor, version, status) ← PollingState.loadCheckpoint
  if status = .paused then return DurablePollingScheduler.pausedResult
  else runLeased cursor version limit now

/-- `DurablePollingScheduler.run_once`, which its subclasses inherit. -/
def runOnceWith {key : ConnectorKey}
    (runLeased : Option String → ℤ → ℤ → Datetime → PollingRun PollRunResult)
    (scheduler : DurablePollingScheduler key) (limit : ℤ) : PollingRun PollRunResult := do
  if ¬(1 ≤ limit ∧ limit ≤ 1000) then
    .done (.error (.valueError "limit must be between 1 and 1000"))
  else
    let (_, _, status) ← PollingState.loadCheckpoint
    if status = .paused then return DurablePollingScheduler.pausedResult
    else
      match ← PollingState.clock with
      | none => .done (.error (.valueError "clock must be timezone-aware"))
      | some now =>
          match ← (PollingState.acquire scheduler.workerId now scheduler.leaseSeconds).attempt with
          | .error _ => DurablePollingScheduler.recordFailure now "lease_unavailable" false
          | .ok _ =>
              let result ← (underLeaseWith runLeased limit now).attempt
              PollingState.release scheduler.workerId now
              .done result

/-- The class itself runs its own `_run_leased`. -/
theorem runOnceWith_runLeased {key : ConnectorKey} (scheduler : DurablePollingScheduler key) :
    runOnceWith (runLeasedWith PollingState.poll DurablePollingScheduler.runBatch) scheduler =
      scheduler.runOnce := rfl

/-- `_FilteredBatchPollingScheduler._run_leased` after the poll. -/
def filteredRunBatch (cursor : Option String) (version : ℤ) (now : Datetime) (batch : PollBatch) :
    PollingRun PollRunResult := do
  if batch.expectedCursor ≠ cursor then
    DurablePollingScheduler.recordFailure now "checkpoint_candidate_mismatch" true
  else if batch.disposition ≠ .ok then
    DurablePollingScheduler.recordFailure now (batch.errorCode.getD "poll_failed")
      (batch.disposition = .pause ∨ batch.disposition = .rejected)
  else
    match ← (DurablePollingScheduler.acceptAll batch.deliveries).attempt with
    | .error _ => DurablePollingScheduler.recordFailure now "durable_accept_failed" false
    | .ok _ =>
        if batch.candidateCursor = cursor then
          DurablePollingScheduler.recordSuccess now batch.deliveries.length false
        else
          match ← (PollingState.advanceCheckpoint version batch.candidateCursor now).attempt with
          | .error _ => DurablePollingScheduler.recordFailure now "checkpoint_conflict" false
          | .ok _ => DurablePollingScheduler.recordSuccess now batch.deliveries.length true

/-- An error code that `PollBatch` accepts. -/
def isErrorCode (code : String) : Bool := code ≠ "" && code.toList.length ≤ 80

theorem isErrorCode_clock : isErrorCode "invalid_clock" = true := by decide
theorem isErrorCode_activation : isErrorCode "activation_not_reached" = true := by decide
theorem isErrorCode_checkpoint : isErrorCode "activation_checkpoint_required" = true := by decide

/-- A batch that pauses the connector. -/
def pauseBatch (cursor : Option String) (code : String) (h : isErrorCode code = true) :
    PollBatch where
  disposition := .pause
  expectedCursor := cursor
  candidateCursor := cursor
  deliveries := []
  errorCode := some code
  error_none hok := PollDisposition.noConfusion hok
  candidate_some hok := PollDisposition.noConfusion hok
  error_some _ := h

/-- The poll of the archive, which waits for its activation and needs a cursor. -/
def wecomPoll (activationTime : Datetime) (cursor : Option String) (limit : ℤ) :
    PollingRun PollBatch := do
  match ← PollingState.clock with
  | none => return pauseBatch cursor "invalid_clock" isErrorCode_clock
  | some polledAt =>
      if polledAt.instant < activationTime.instant then
        return pauseBatch cursor "activation_not_reached" isErrorCode_activation
      else if cursor = none then
        return pauseBatch none "activation_checkpoint_required" isErrorCode_checkpoint
      else PollingState.poll cursor limit

/-- The runner of a channel; the scheduler of a mailbox is the filtered one. -/
structure LocalPullRunner (key : ConnectorKey) where
  scheduler : DurablePollingScheduler key
  activationTime : Datetime
  limit : ℤ
  limit_mem : 1 ≤ limit ∧ limit ≤ 1000

/-- `run_once`. -/
def LocalPullRunner.runOnce {key : ConnectorKey} (runner : LocalPullRunner key) :
    PollingRun PollRunResult :=
  if key.connector = .email then
    runOnceWith (runLeasedWith PollingState.poll filteredRunBatch) runner.scheduler runner.limit
  else
    runOnceWith (runLeasedWith (wecomPoll runner.activationTime) DurablePollingScheduler.runBatch)
      runner.scheduler runner.limit

/-! ## Starting -/

/-- The exceptions of a start. -/
inductive StartError where
  | channelConfig (message : String)
  | valueError (message : String)
  | storage (e : Raise)
deriving DecidableEq, Repr

/-- What a start takes from the configuration of its channel. -/
structure PullChannel (key : ConnectorKey) where
  scope : TenantScope
  teamRef : Option String
  agentTaskType : Option AgentTaskType
  initialCheckpoint : Option String
  runner : LocalPullRunner key

namespace PullChannel
variable (isImapCheckpoint : String → Bool) {key : ConnectorKey} (channel : PullChannel key)

/-- The check of the credential; `isImapCheckpoint` says that `ImapCheckpoint.parse` accepts. -/
def requireInitialCheckpoint : Except StartError Unit :=
  if key.connector = .email then
    if channel.initialCheckpoint.any fun text => !isImapCheckpoint text then
      .error (.valueError "invalid IMAP checkpoint")
    else .ok ()
  else
    match channel.initialCheckpoint with
    | some text =>
        if !text.toList.isEmpty && text.toList.all Char.isDigit then .ok ()
        else .error (.channelConfig "WeCom initial checkpoint is required")
    | none => .error (.channelConfig "WeCom initial checkpoint is required")

/-- An operation of the storage. -/
def storage {α : Type} (op : Op α) : Proc StartError Store α :=
  ⟨fun s => ((op.run s).1.mapError StartError.storage, (op.run s).2)⟩

/-- `_ensure_initial_checkpoint`. -/
def ensureInitialCheckpoint (now : Option Datetime) : Proc StartError Store Unit := do
  let (cursor, version, _) ← storage (Store.loadCheckpoint channel.scope key)
  match channel.initialCheckpoint with
  | none => pure ()
  | some initial =>
      if cursor = none then do
        let _ ← storage (Store.compareAndSwapCheckpoint channel.scope key version (some initial)
          (version + 1) now)
        pure ()
      else if cursor ≠ some initial then
        throw (.channelConfig "persisted checkpoint conflicts with configured initial value")
      else pure ()

/-- The work of `main` up to the first poll; the clock is read twice. -/
def startUp (registeredAt ensuredAt : Option Datetime) : Proc StartError Store Unit := do
  channel.requireInitialCheckpoint isImapCheckpoint
  let _ ← storage (Store.registerConnectorInstance channel.scope key registeredAt 0 channel.teamRef
    channel.agentTaskType)
  channel.ensureInitialCheckpoint ensuredAt

end PullChannel
end EsanGbos.LocalPilotRuntime
