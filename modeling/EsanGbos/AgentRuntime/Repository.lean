import Mathlib.Data.List.MinMax
import Mathlib.Data.List.Sort
import Mathlib.Data.Prod.Lex
import Mathlib.Data.String.Basic
import EsanGbos.Lib.Proc
import EsanGbos.Lib.Table
import EsanGbos.AgentRuntime.Proposals

/-!
# The in-memory agent task repository

The maps of `InMemoryAgentTaskRepository` and its operations. The lock makes each
operation atomic, so an interleaving of workers is a list of calls. A datetime
argument that is `none` is naive.

## Main definitions

* `Repository` — the ten maps.
* `Repository.enqueue`, ..., `Repository.completeWithProposal` — the operations.
* `Repository.machine` — the repository as a machine that answers calls.
-/
namespace EsanGbos.AgentRuntime
open Lib

structure Repository where
  tasks : Dict (String × String) AgentTaskMetadata := Dict.empty
  payloads : Dict (String × String) Json := Dict.empty
  timeline : Dict (String × String) (List TimelineEventMetadata) := Dict.empty
  idempotency : Dict (String × String) AgentTaskMetadata := Dict.empty
  deadLetters : Dict (String × String) DeadLetterMetadata := Dict.empty
  proposals : Dict (String × String × ℤ) ActionProposalRecord := Dict.empty
  proposalIdempotency : Dict (String × String) ActionProposalRecord := Dict.empty
  materializations : Dict (String × String × ℤ) MaterializationOutboxRecord := Dict.empty
  invocations : Dict (String × String) ModelInvocationRecord := Dict.empty
  invocationIdempotency : Dict (String × String) ModelInvocationRecord := Dict.empty

/-- The key of a task in the maps by task. -/
def AgentTaskMetadata.key (t : AgentTaskMetadata) : String × String := (t.siteId, t.taskId)

namespace Repository

/-- An operation of the repository. -/
abbrev Op := Proc Raise Repository

/-! ## Checks -/

/-- `_require_aware`. -/
def requireAware (value : Option Datetime) (name : String) : Except Raise Datetime :=
  match value with
  | some d => .ok d
  | none => .error (.validationError s!"{name} must be timezone-aware")

def requirePositive (duration : Timedelta) (name : String) : Except Raise Unit :=
  if duration ≤ 0 then .error (.validationError s!"{name} must be positive") else .ok ()

def requireWorker (workerId : String) : Except Raise Unit :=
  if workerId = "" then .error (.validationError "worker_id is required") else .ok ()

/-- `now + lease_duration`. -/
def leaseEnd (now : Datetime) (leaseDuration : Timedelta) : Except Raise Datetime :=
  match now.add leaseDuration with
  | some d => .ok d
  | none => .error .overflowError

/-- The lease has run out at `now`. -/
def leaseExpired (t : AgentTaskMetadata) (now : Datetime) : Bool :=
  t.leaseExpiresAt.any fun expiry => expiry.instant ≤ now.instant

/-- `_require_live_lease`. -/
def requireLiveLease (s : Repository) (siteId taskId workerId : String) (expectedAttempt : ℤ)
    (now : Datetime) : Except Raise AgentTaskMetadata :=
  match s.tasks.get? (siteId, taskId) with
  | none => .error (.taskNotFound "task does not exist in this site")
  | some task =>
      if !task.status.isActive || task.leaseOwner != some workerId ||
          task.leaseExpiresAt.isNone || leaseExpired task now ||
          task.attempt != expectedAttempt then
        .error (.leaseConflict "worker does not own a live lease for the expected attempt")
      else .ok task

/-! ## Writes -/

/-- `_store_task`. -/
def storeTask (task : AgentTaskMetadata) : Op Unit :=
  modify fun s => { s with
    tasks := s.tasks.set task.key task
    idempotency := s.idempotency.set (task.siteId, task.idempotencyKey) task }

/-- The event that follows `length` earlier ones. -/
def event (task : AgentTaskMetadata) (length : ℕ) (eventType : EventType) (occurredAt : Datetime)
    (actorType : ActorType) (actorRef : Option String) : TimelineEventMetadata :=
  { taskId := task.taskId
    siteId := task.siteId
    sequence := length
    eventType
    occurredAt
    actorType
    actorRef
    causationId := task.causationId
    correlationId := task.correlationId }

/-- `_append_event`. -/
def appendEvent (task : AgentTaskMetadata) (eventType : EventType) (occurredAt : Datetime)
    (actorType : ActorType) (actorRef : Option String) : Op Unit := do
  let s ← get
  match s.timeline.get? task.key with
  | none => throw .keyError
  | some events =>
      set { s with
        timeline := s.timeline.set task.key
          (events ++ [event task events.length eventType occurredAt actorType actorRef]) }

/-- A task in the dead letter. -/
def buried (t : AgentTaskMetadata) (classification : FailureClassification) (now : Datetime) :
    AgentTaskMetadata :=
  { t with
    status := .deadLetter
    failureClassification := some classification
    leaseOwner := none
    leaseExpiresAt := none
    updatedAt := now }

/-- `_move_to_dead_letter`. -/
def moveToDeadLetter (task : AgentTaskMetadata) (now : Datetime)
    (classification : FailureClassification) (reasonCode : String) (actorRef : Option String) :
    Op AgentTaskMetadata := do
  let terminal := buried task classification now
  storeTask terminal
  modify fun s => { s with
    deadLetters := s.deadLetters.set task.key
      { taskId := task.taskId
        siteId := task.siteId
        attempts := task.attempt
        failureClassification := classification
        reasonCode
        deadLetteredAt := now
        causationId := task.causationId
        correlationId := task.correlationId } }
  appendEvent terminal .deadLettered now (if actorRef.isSome then .worker else .system) actorRef
  return terminal

/-! ## Claims -/

/-- An expired lease on the last attempt. -/
def isExhausted (siteId : String) (now : Datetime) (t : AgentTaskMetadata) : Bool :=
  t.siteId = siteId && t.status.isActive && leaseExpired t now && t.maxAttempts ≤ t.attempt

def buryAll (now : Datetime) : List AgentTaskMetadata → Op Unit
  | [] => return ()
  | task :: tasks => do
      let _ ← moveToDeadLetter task now .internal "lease_expired_max_attempts" none
      buryAll now tasks

/-- `_reap_expired`. -/
def reapExpired (siteId : String) (now : Datetime) : Op Unit := do
  let exhausted := (← get).tasks.values.filter (isExhausted siteId now)
  buryAll now (exhausted.insertionSort fun a b => a.taskId ≤ b.taskId)

def isCandidate (siteId : String) (now : Datetime) (t : AgentTaskMetadata) : Bool :=
  t.siteId = siteId && ((t.status.isWaiting && t.dueAt.instant ≤ now.instant) ||
    (t.status.isActive && leaseExpired t now))

/-- `_claim_candidates`. -/
def claimCandidates (s : Repository) (siteId : String) (now : Datetime) :
    List AgentTaskMetadata :=
  s.tasks.values.filter (isCandidate siteId now)

/-- Tuples compared from the left. -/
def ClaimKey : Type := ℤ ×ₗ ℤ ×ₗ ℤ ×ₗ String

instance : LinearOrder ClaimKey :=
  @Prod.Lex.instLinearOrder ℤ _ Int.instLinearOrder
    (@Prod.Lex.instLinearOrder ℤ _ Int.instLinearOrder
      (@Prod.Lex.instLinearOrder ℤ String Int.instLinearOrder String.instLinearOrder))

/-- The order in which candidates are taken. -/
def claimKey (t : AgentTaskMetadata) : ClaimKey :=
  toLex (-t.priority, toLex (t.dueAt.instant, toLex (t.createdAt.instant, t.taskId)))

/-- The candidate's next attempt, held by a worker. -/
def leased (t : AgentTaskMetadata) (status : TaskStatus) (workerId : String) (now expiry : Datetime) :
    AgentTaskMetadata :=
  { t with
    status
    attempt := t.attempt + 1
    leaseOwner := some workerId
    leaseExpiresAt := some expiry
    updatedAt := now }

/-- `claim`, which spells out the bodies of `_reap_expired` and `_claim_candidates`. -/
def claim (siteId workerId : String) (now : Option Datetime) (leaseDuration : Timedelta) :
    Op (Option AgentTaskMetadata) := do
  let now ← requireAware now "now"
  requireWorker workerId
  requirePositive leaseDuration "lease_duration"
  reapExpired siteId now
  match (claimCandidates (← get) siteId now).argmin claimKey with
  | none => return none
  | some current =>
      let expiry ← leaseEnd now leaseDuration
      let claimed := leased current .leased workerId now expiry
      storeTask claimed
      appendEvent claimed .leased now .worker (some workerId)
      return some claimed

/-- The stored payload of a task, parsed. -/
def payloadOf (py : Stdlib) (s : Repository) (t : AgentTaskMetadata) :
    Except Raise LocalPilotTaskPayload :=
  match s.payloads.get? t.key with
  | none => .error .keyError
  | some value =>
      if value.isObj then LocalPilotTaskPayload.fromMapping py value
      else .error (.validationError "task payload is unavailable")

/-- `claim_for_execution`. -/
def claimForExecution (py : Stdlib) (siteId workerId : String) (now : Option Datetime)
    (leaseDuration : Timedelta) : Op (Option AgentTaskClaim) := do
  let now ← requireAware now "now"
  requireWorker workerId
  requirePositive leaseDuration "lease_duration"
  reapExpired siteId now
  match (claimCandidates (← get) siteId now).argmin claimKey with
  | none => return none
  | some current =>
      let payload ← payloadOf py (← get) current
      let expiry ← leaseEnd now leaseDuration
      let running := leased current .running workerId now expiry
      storeTask running
      appendEvent running .leased now .worker (some workerId)
      appendEvent running .running now .worker (some workerId)
      return some ⟨running, payload⟩

/-! ## The other operations on tasks -/

/-- The record of a task before its first attempt. -/
def queued (py : Stdlib) (submission : AgentTaskSubmission) (now : Datetime) :
    AgentTaskMetadata :=
  { taskId := submission.taskId
    siteId := submission.siteId
    processingPurpose := submission.processingPurpose
    idempotencyKey := submission.idempotencyKey
    payloadDigest := submission.payloadDigest py
    agentType := submission.agentType
    subjectType := submission.subjectType
    subjectRef := submission.subjectRef
    status := .queued
    dueAt := submission.dueAt
    priority := submission.priority
    attempt := 0
    maxAttempts := submission.maxAttempts
    causationId := submission.causationId
    correlationId := submission.correlationId
    parentTaskId := submission.parentTaskId
    outputArtifactRefs := []
    failureClassification := none
    leaseOwner := none
    leaseExpiresAt := none
    createdAt := now
    updatedAt := now }

/-- `enqueue`. -/
def enqueue (py : Stdlib) (submission : AgentTaskSubmission) (now : Option Datetime) :
    Op AgentTaskMetadata := do
  let now ← requireAware now "now"
  let key := (submission.siteId, submission.taskId)
  let idempotencyKey := (submission.siteId, submission.idempotencyKey)
  let s ← get
  match s.idempotency.get? idempotencyKey with
  | some existing =>
      if existing.payloadDigest ≠ submission.payloadDigest py then
        throw (.idempotencyConflict "idempotency key was already used with a different submission")
      else return existing
  | none =>
      if submission.parentTaskId.any fun parent => (s.tasks.get? (submission.siteId, parent)).isNone then
        throw (.validationError "parent task does not exist in this site")
      else if (s.tasks.get? key).isSome then
        throw (.validationError "task_id already exists with another request")
      else do
        let task := queued py submission now
        set { s with
          tasks := s.tasks.set key task
          payloads := s.payloads.set key (.obj submission.payload)
          idempotency := s.idempotency.set idempotencyKey task
          timeline := s.timeline.set key [event task 0 .created now .system none] }
        return task

/-- `start`. -/
def start (siteId taskId workerId : String) (expectedAttempt : ℤ) (now : Option Datetime) :
    Op AgentTaskMetadata := do
  let now ← requireAware now "now"
  let current ← requireLiveLease (← get) siteId taskId workerId expectedAttempt now
  if current.status ≠ .leased then
    throw (.leaseConflict "task must be leased before it can start")
  else do
    let running := { current with status := .running, updatedAt := now }
    storeTask running
    appendEvent running .running now .worker (some workerId)
    return running

/-- `heartbeat`. -/
def heartbeat (siteId taskId workerId : String) (expectedAttempt : ℤ) (now : Option Datetime)
    (leaseDuration : Timedelta) : Op AgentTaskMetadata := do
  let now ← requireAware now "now"
  requirePositive leaseDuration "lease_duration"
  let current ← requireLiveLease (← get) siteId taskId workerId expectedAttempt now
  let expiry ← leaseEnd now leaseDuration
  let updated := { current with leaseExpiresAt := some expiry, updatedAt := now }
  storeTask updated
  return updated

/-- A task that has delivered. -/
def succeeded (t : AgentTaskMetadata) (outputArtifactRefs : List String) (now : Datetime) :
    AgentTaskMetadata :=
  { t with
    status := .succeeded
    outputArtifactRefs
    leaseOwner := none
    leaseExpiresAt := none
    updatedAt := now }

/-- `succeed`. -/
def succeed (siteId taskId workerId : String) (expectedAttempt : ℤ) (now : Option Datetime)
    (outputArtifactRefs : List String) : Op AgentTaskMetadata := do
  let now ← requireAware now "now"
  if ¬outputArtifactRefs.Nodup then
    throw (.validationError "output_artifact_refs must be unique")
  else do
    let current ← requireLiveLease (← get) siteId taskId workerId expectedAttempt now
    let completed := succeeded current outputArtifactRefs now
    storeTask completed
    appendEvent completed .succeeded now .worker (some workerId)
    return completed

/-- A task that waits for its next attempt. -/
def rescheduled (t : AgentTaskMetadata) (retryAt : Datetime)
    (classification : FailureClassification) (now : Datetime) : AgentTaskMetadata :=
  { t with
    status := .recheck
    dueAt := retryAt
    failureClassification := some classification
    leaseOwner := none
    leaseExpiresAt := none
    updatedAt := now }

/-- `fail`. -/
def fail (siteId taskId workerId : String) (expectedAttempt : ℤ) (now retryAt : Option Datetime)
    (classification : FailureClassification) : Op AgentTaskMetadata := do
  let now ← requireAware now "now"
  let retryAt ← requireAware retryAt "retry_at"
  if retryAt.instant ≤ now.instant then
    throw (.validationError "retry_at must be later than now")
  else do
    let current ← requireLiveLease (← get) siteId taskId workerId expectedAttempt now
    if current.maxAttempts ≤ current.attempt then
      moveToDeadLetter current now classification "max_attempts_exhausted" (some workerId)
    else do
      let retry := rescheduled current retryAt classification now
      storeTask retry
      appendEvent retry .recheckScheduled now .worker (some workerId)
      return retry

/-! ## Completion with a proposal -/

/-- `_append_invocation`. -/
def appendInvocation (task : AgentTaskMetadata) (proposal : ActionProposalRecord)
    (record : ModelInvocationRecord) : Op Unit := do
  if record.siteId ≠ task.siteId ∨ record.requestId ≠ task.taskId ∨
      record.references.evidenceRefs ≠ proposal.evidenceRefs ∨ record.externalSendCount ≠ 0 ∨
      record.toolCallCount ≠ 0 then
    throw (.validationError "model invocation is not bound to the task proposal")
  else do
    let s ← get
    let idempotencyKey := (record.siteId, record.idempotencyKey)
    match s.invocationIdempotency.get? idempotencyKey with
    | some existing =>
        if !existing.eq record then
          throw (.idempotencyConflict
            "model invocation idempotency key was reused with different metadata")
        else return ()
    | none =>
        let primaryKey := (record.siteId, record.invocationId)
        if (s.invocations.get? primaryKey).isSome then
          throw (.idempotencyConflict "model invocation id was reused with different metadata")
        else
          set { s with
            invocations := s.invocations.set primaryKey record
            invocationIdempotency := s.invocationIdempotency.set idempotencyKey record }

def appendInvocations (task : AgentTaskMetadata) (proposal : ActionProposalRecord) :
    List ModelInvocationRecord → Op Unit
  | [] => return ()
  | record :: records => do
      appendInvocation task proposal record
      appendInvocations task proposal records

/-- `_append_proposal`. -/
def appendProposal (proposal : ActionProposalRecord) : Op Unit := do
  let s ← get
  let idempotencyKey := (proposal.siteId, proposal.idempotencyKey)
  match s.proposalIdempotency.get? idempotencyKey with
  | some existing =>
      if !existing.eq proposal then
        throw (.idempotencyConflict "proposal idempotency key was reused with different metadata")
      else return ()
  | none =>
      if s.proposals.values.any fun item =>
          item.siteId = proposal.siteId && item.proposalId = proposal.proposalId then
        throw (.idempotencyConflict "proposal id was reused with different metadata")
      else
        set { s with
          proposals := s.proposals.set (proposal.siteId, proposal.taskId, proposal.taskAttempt)
            proposal
          proposalIdempotency := s.proposalIdempotency.set idempotencyKey proposal }

/-- `_validate_replayed_invocations`. -/
def validateReplayedInvocations (s : Repository) :
    List ModelInvocationRecord → Except Raise Unit
  | [] => .ok ()
  | record :: records =>
      if (s.invocations.get? (record.siteId, record.invocationId)).any fun existing =>
          existing.eq record then
        validateReplayedInvocations s records
      else .error (.idempotencyConflict
        "completed task attempt was replayed with different invocations")

/-- The answer to a completion whose proposal exists already. -/
def replayCompletion (s : Repository) (task : AgentTaskMetadata)
    (existing proposal : ActionProposalRecord) (expectedAttempt : ℤ)
    (invocations : List ModelInvocationRecord)
    (materialization : Option MaterializationOutboxRecord) : Except Raise AgentTaskMetadata := do
  if existing.bundleDigest ≠ proposal.bundleDigest then
    throw (.idempotencyConflict
      "completed task attempt was replayed with a different proposal bundle")
  validateReplayedInvocations s invocations
  if task.status ≠ .succeeded ∨ task.attempt ≠ expectedAttempt ∨
      task.outputArtifactRefs ≠ [proposal.proposalId] ∨
      ¬materialization.any (fun m => m.origin = "AI" && m.reviewStatus = "AI Draft") then
    throw (.idempotencyConflict "proposal exists without its completed task fence")
  return task

/-- The body of the `try` statement. -/
def writeCompletion (py : Stdlib) (current : AgentTaskMetadata) (proposal : ActionProposalRecord)
    (key : String × String × ℤ) (invocations : List ModelInvocationRecord) (workerId : String)
    (now : Datetime) : Op AgentTaskMetadata := do
  appendInvocations current proposal invocations
  appendProposal proposal
  modify fun s => { s with
    materializations := s.materializations.set key
      (MaterializationOutboxRecord.fromProposal py proposal now) }
  let completed := succeeded current [proposal.proposalId] now
  storeTask completed
  appendEvent completed .succeeded now .worker (some workerId)
  return completed

/-- The `except` clause puts back the eight maps the body may have written. -/
def rollback (before s : Repository) : Repository :=
  { s with
    tasks := before.tasks
    idempotency := before.idempotency
    timeline := before.timeline
    proposals := before.proposals
    proposalIdempotency := before.proposalIdempotency
    materializations := before.materializations
    invocations := before.invocations
    invocationIdempotency := before.invocationIdempotency }

/-- `complete_with_proposal`. -/
def completeWithProposal (py : Stdlib) (siteId taskId workerId : String) (expectedAttempt : ℤ)
    (now : Option Datetime) (result : AgentExecutionResult) : Op AgentTaskMetadata := do
  let now ← requireAware now "now"
  let s ← get
  match s.tasks.get? (siteId, taskId) with
  | none => throw (.taskNotFound "task does not exist in this site")
  | some task =>
      if task.attempt ≠ expectedAttempt then
        throw (.leaseConflict "worker does not own a live lease for the expected attempt")
      else do
        let proposal ← ActionProposalRecord.fromExecution py task result
        let key := (siteId, taskId, expectedAttempt)
        match s.proposals.get? key with
        | some existing =>
            replayCompletion s task existing proposal expectedAttempt result.invocations
              (s.materializations.get? key)
        | none => do
            let current ← requireLiveLease s siteId taskId workerId expectedAttempt now
            if current.status ≠ .running then
              throw (.leaseConflict "proposal completion requires a running task")
            else
              tryCatch (writeCompletion py current proposal key result.invocations workerId now)
                fun e => do
                  modify (rollback s)
                  throw e

/-! ## Calls -/

/-- The calls of the public operations. The reads (`get`, `timeline`, `dead_letter`,
`get_proposal`, `get_materialization`, `invocations`) look a key up and write nothing. -/
inductive Call where
  | enqueue (submission : AgentTaskSubmission) (now : Option Datetime)
  | claim (siteId workerId : String) (now : Option Datetime) (leaseDuration : Timedelta)
  | claimForExecution (siteId workerId : String) (now : Option Datetime)
      (leaseDuration : Timedelta)
  | start (siteId taskId workerId : String) (expectedAttempt : ℤ) (now : Option Datetime)
  | heartbeat (siteId taskId workerId : String) (expectedAttempt : ℤ) (now : Option Datetime)
      (leaseDuration : Timedelta)
  | succeed (siteId taskId workerId : String) (expectedAttempt : ℤ) (now : Option Datetime)
      (outputArtifactRefs : List String)
  | fail (siteId taskId workerId : String) (expectedAttempt : ℤ) (now retryAt : Option Datetime)
      (classification : FailureClassification)
  | completeWithProposal (siteId taskId workerId : String) (expectedAttempt : ℤ)
      (now : Option Datetime) (result : AgentExecutionResult)

/-- What an operation returns: a task, a claimed task, a claim with its payload, or no task. -/
inductive Answer where
  | task (metadata : AgentTaskMetadata)
  | claimed (metadata : AgentTaskMetadata)
  | execution (claim : AgentTaskClaim)
  | nothing

def perform (py : Stdlib) : Call → Op Answer
  | .enqueue submission now => .task <$> enqueue py submission now
  | .claim siteId workerId now leaseDuration =>
      (fun t => t.elim .nothing .claimed) <$> claim siteId workerId now leaseDuration
  | .claimForExecution siteId workerId now leaseDuration =>
      (fun c => c.elim .nothing .execution) <$>
        claimForExecution py siteId workerId now leaseDuration
  | .start siteId taskId workerId expectedAttempt now =>
      .task <$> start siteId taskId workerId expectedAttempt now
  | .heartbeat siteId taskId workerId expectedAttempt now leaseDuration =>
      .task <$> heartbeat siteId taskId workerId expectedAttempt now leaseDuration
  | .succeed siteId taskId workerId expectedAttempt now outputArtifactRefs =>
      .task <$> succeed siteId taskId workerId expectedAttempt now outputArtifactRefs
  | .fail siteId taskId workerId expectedAttempt now retryAt classification =>
      .task <$> fail siteId taskId workerId expectedAttempt now retryAt classification
  | .completeWithProposal siteId taskId workerId expectedAttempt now result =>
      .task <$> completeWithProposal py siteId taskId workerId expectedAttempt now result

/-- The repository as a machine. -/
def machine (py : Stdlib) : Machine Repository Call (Except Raise Answer) where
  step s c := (perform py c).run s

end Repository
end EsanGbos.AgentRuntime
