import EsanGbos.Stdlib

/-!
# Agent tasks: payloads, submissions and metadata

The data model of the agent runtime. A submission and a payload are built only
through the checks of their classes, so their fields carry what the checks
establish.

## Main definitions

* `Raise` — the exceptions of the agent runtime, with their messages.
* `LocalPilotTaskPayload.fromMapping` — the closed, refs-only payload of a task.
* `AgentTaskSubmission` and `AgentTaskMetadata` — a request for a task and its record.
-/
namespace EsanGbos.AgentRuntime
open Lib

/-- An exception, by its class. The four classes of the package derive from
`ValidationError`, which derives from `ValueError`. -/
inductive Raise where
  | validationError (message : String)
  | idempotencyConflict (message : String)
  | leaseConflict (message : String)
  | taskNotFound (message : String)
  | valueError (message : String)
  | keyError
  | overflowError
deriving DecidableEq, Repr

/-- `canonical_payload_digest`: every `Json` value can be serialized. -/
def canonicalPayloadDigest (py : Stdlib) (payload : Json) : String := py.sha256 payload.dumps

/-! ## Reference texts -/

/-- A character that `[A-Z]` matches under `re.IGNORECASE`: the 52 letters and the four
characters whose case variants are among them. -/
def isLetterIgnoreCase (c : Char) : Bool :=
  c.isAlpha || c == 'İ' || c == 'ı' || c == 'ſ' || c == 'K'

/-- `_DIRECT_PII_PATTERN`: a mail address and three shapes of telephone numbers. -/
def directPiiPattern (py : Stdlib) : Regex Char :=
  let digit := Regex.cls py.isDigit
  let phoneChar := Regex.cls fun c => py.isDigit c || " ()-".toList.contains c
  .alt (.seqs [
      .plus (.cls fun c => isLetterIgnoreCase c || c.isDigit || "._%+-".toList.contains c),
      .cls (· == '@'),
      .plus (.cls fun c => isLetterIgnoreCase c || c.isDigit || ".-".toList.contains c),
      .cls (· == '.'), .rep (.cls isLetterIgnoreCase) 2 none])
    (.alt (.seqs [.cls (· == '+'), digit, .rep phoneChar 7 none, digit])
      (.alt (.seqs [.boundary py.isWord, .rep digit 3 (some 3),
          .cls (fun c => py.isSpace c || "()".toList.contains c), digit, .rep phoneChar 5 none,
          digit, .boundary py.isWord])
        (.seqs [.boundary py.isWord, .cls (· == '1'),
          .cls (fun c => "3456789".toList.contains c), .rep digit 9 (some 9),
          .boundary py.isWord])))

def hasDirectPii (py : Stdlib) (s : String) : Bool := (directPiiPattern py).isMatchIn s.toList

/-- `_REFERENCE_PATTERN.fullmatch`. -/
def isReference (s : String) : Bool :=
  match s.toList with
  | [] => false
  | c :: cs => c.isAlphanum && cs.length ≤ 255 &&
      cs.all fun c => c.isAlphanum || "._:/-".toList.contains c

/-- `_require_ref`. -/
def requireRef (py : Stdlib) (value name : String) : Except Raise Unit := do
  unless isReference value do
    throw (.validationError s!"{name} must be an opaque reference")
  if hasDirectPii py value then
    throw (.validationError s!"{name} cannot contain direct PII")

/-- `_require_unique_refs`. -/
def requireUniqueRefs (py : Stdlib) (values : List String) (name : String) (required : Bool) :
    Except Raise Unit := do
  if (required && values.isEmpty) || !decide values.Nodup then
    let kind := if required then "non-empty and unique" else "unique"
    throw (.validationError s!"{name} must be {kind}")
  values.forM fun value => requireRef py value name

/-- The keys `_contains_direct_pii` refuses. -/
def piiKeys : List String :=
  ["raw_context", "message_body", "message_text", "email", "phone", "telephone", "prompt",
    "response", "tokenized_context"]

mutual
/-- `_contains_direct_pii`. -/
def containsDirectPii (py : Stdlib) : Json → Bool
  | .obj ms => membersContainDirectPii py ms
  | .arr xs => elementsContainDirectPii py xs
  | .str s => hasDirectPii py s
  | _ => false

def membersContainDirectPii (py : Stdlib) : List (String × Json) → Bool
  | [] => false
  | (key, nested) :: ms =>
      String.ofList (slug (py.casefold key.toList)) ∈ piiKeys || containsDirectPii py nested ||
        membersContainDirectPii py ms

def elementsContainDirectPii (py : Stdlib) : List Json → Bool
  | [] => false
  | x :: xs => containsDirectPii py x || elementsContainDirectPii py xs
end

/-! ## Payloads -/

structure LocalPilotFactVersionRef where
  factId : String
  factVersion : ℤ
deriving DecidableEq, Repr

/-- The constructor with its checks; the version arrives as any JSON integer, and a
boolean is one until the check refuses it. -/
def LocalPilotFactVersionRef.new? (py : Stdlib) (factId : String) (factVersion : Json) :
    Except Raise LocalPilotFactVersionRef := do
  requireRef py factId "fact_id"
  match factVersion with
  | .int i =>
      if i < 1 then throw (.validationError "fact_version must be a positive integer")
      return ⟨factId, i⟩
  | _ => throw (.validationError "fact_version must be a positive integer")

/-- Closed refs-only task input. -/
structure LocalPilotTaskPayload where
  evidenceRefs : List String
  factVersionRefs : List LocalPilotFactVersionRef
  subjectRevision : ℤ
  requestedBy : String
  decisionRef : String
  expectedActionType : String
  candidateRefs : List String
deriving DecidableEq, Repr

namespace LocalPilotTaskPayload

def schemaVersion : String := "local-pilot-agent-task-v1"

/-- `__post_init__`. -/
def check (py : Stdlib) (p : LocalPilotTaskPayload) (schema subjectRevision : Json) :
    Except Raise Unit := do
  -- `str(value)` is this text only for the string itself
  unless schema = .str schemaVersion do
    throw (.validationError "unsupported local-pilot task payload schema")
  match subjectRevision with
  | .int i =>
      if i < 0 then throw (.validationError "subject revision must be a non-negative integer")
  | _ => throw (.validationError "subject revision must be a non-negative integer")
  requireUniqueRefs py p.evidenceRefs "evidence_refs" true
  if p.factVersionRefs.isEmpty || !decide p.factVersionRefs.Nodup then
    throw (.validationError "fact_version_refs must be non-empty and unique")
  requireRef py p.requestedBy "requested_by"
  requireRef py p.decisionRef "decision_ref"
  requireRef py p.expectedActionType "expected_action_type"
  requireUniqueRefs py p.candidateRefs "candidate_refs" false

/-- The loop over `fact_version_refs`. -/
def parseFactRefs (py : Stdlib) : List Json → Except Raise (List LocalPilotFactVersionRef)
  | [] => return []
  | item :: items => do
      unless item.hasKeys ["fact_id", "fact_version"] do
        throw (.validationError "fact version metadata is invalid")
      match item.get? "fact_id", item.get? "fact_version" with
      | some (.str factId), some factVersion =>
          unless factVersion.isInt do
            throw (.validationError "fact version metadata is invalid")
          let parsed ← LocalPilotFactVersionRef.new? py factId factVersion
          return parsed :: (← parseFactRefs py items)
      | _, _ => throw (.validationError "fact version metadata is invalid")

/-- `from_mapping`. -/
def fromMapping (py : Stdlib) (value : Json) : Except Raise LocalPilotTaskPayload := do
  unless value.hasKeys ["schema_version", "evidence_refs", "fact_version_refs", "subject",
      "request"] do
    throw (.validationError "local-pilot task payload must use the closed refs-only schema")
  if containsDirectPii py value then
    throw (.validationError "local-pilot task payload cannot contain direct PII")
  let subject := (value.get? "subject").getD .null
  let request := (value.get? "request").getD .null
  unless subject.hasKeys ["revision"] do
    throw (.validationError "subject metadata must contain only revision")
  unless request.hasKeys ["requested_by", "decision_ref", "expected_action_type",
      "candidate_refs"] do
    throw (.validationError "request metadata must use the closed refs-only schema")
  let some evidenceRefs := (value.get? "evidence_refs").bind Json.strs?
    | throw (.validationError "evidence_refs must be a list of references")
  let some factRefs := (value.get? "fact_version_refs").bind Json.arr?
    | throw (.validationError "fact_version_refs must be a list")
  let factVersionRefs ← parseFactRefs py factRefs
  let some candidateRefs := (request.get? "candidate_refs").bind Json.strs?
    | throw (.validationError "candidate_refs must be a list of references")
  let revision := (subject.get? "revision").getD .null
  match request.get? "requested_by", request.get? "decision_ref",
      request.get? "expected_action_type" with
  | some (.str requestedBy), some (.str decisionRef), some (.str expectedActionType) =>
      unless revision.isInt do
        throw (.validationError "local-pilot request metadata is invalid")
      let payload : LocalPilotTaskPayload :=
        { evidenceRefs, factVersionRefs, subjectRevision := revision.toInt, requestedBy
          decisionRef, expectedActionType, candidateRefs }
      payload.check py ((value.get? "schema_version").getD .null) revision
      return payload
  | _, _, _ => throw (.validationError "local-pilot request metadata is invalid")

end LocalPilotTaskPayload

/-! ## Tasks -/

inductive TaskStatus where
  | queued | leased | running | recheck | succeeded | failed | deadLetter | cancelled
deriving DecidableEq, Repr

/-- A worker holds the task. -/
def TaskStatus.isActive : TaskStatus → Bool
  | leased | running => true
  | _ => false

/-- The task waits until it is due. -/
def TaskStatus.isWaiting : TaskStatus → Bool
  | queued | recheck => true
  | _ => false

inductive FailureClassification where
  | budgetExhausted | policyDenied | toolFailure | invalidOutput | dependency | internal
deriving DecidableEq, Repr

/-- A submission that passed the checks of its constructor. -/
structure AgentTaskSubmission where
  taskId : String
  siteId : String
  processingPurpose : String
  idempotencyKey : String
  agentType : String
  subjectType : String
  subjectRef : String
  dueAt : Datetime
  priority : ℤ
  maxAttempts : ℤ
  causationId : String
  correlationId : String
  payload : List (String × Json)
  parentTaskId : Option String
  required : ∀ value ∈ [taskId, siteId, processingPurpose, idempotencyKey, agentType,
    subjectType, subjectRef, causationId, correlationId], value ≠ ""
  priority_mem : 0 ≤ priority ∧ priority ≤ 100
  maxAttempts_mem : 1 ≤ maxAttempts ∧ maxAttempts ≤ 100
  parent_ne : parentTaskId ≠ some taskId
  due_utc : (timestamp dueAt).isSome = true

/-- `payload_digest`: the members of the idempotency document in key order. -/
def AgentTaskSubmission.payloadDigest (py : Stdlib) (s : AgentTaskSubmission) : String :=
  canonicalPayloadDigest py (.obj [
    ("agent_type", .str s.agentType),
    ("causation_id", .str s.causationId),
    ("correlation_id", .str s.correlationId),
    ("digest_version", .str "gate4-agent-task-v1"),
    ("due_at", .str (String.ofList ((timestamp s.dueAt).get s.due_utc))),
    ("idempotency_key", .str s.idempotencyKey),
    ("max_attempts", .int s.maxAttempts),
    ("parent_task_id", .ofOption .str s.parentTaskId),
    ("payload", .obj s.payload),
    ("priority", .int s.priority),
    ("processing_purpose", .str s.processingPurpose),
    ("site_id", .str s.siteId),
    ("subject_ref", .str s.subjectRef),
    ("subject_type", .str s.subjectType)])

/-- The constructor with its checks; `dueAt` is `none` when it is naive. -/
def AgentTaskSubmission.new? (taskId siteId processingPurpose idempotencyKey agentType subjectType
    subjectRef : String) (dueAt : Option Datetime) (priority maxAttempts : ℤ)
    (causationId correlationId : String) (payload : List (String × Json))
    (parentTaskId : Option String) : Except Raise AgentTaskSubmission :=
  let values := [taskId, siteId, processingPurpose, idempotencyKey, agentType, subjectType,
    subjectRef, causationId, correlationId]
  let names := ["task_id", "site_id", "processing_purpose", "idempotency_key", "agent_type",
    "subject_type", "subject_ref", "causation_id", "correlation_id"]
  if required : ∀ value ∈ values, value ≠ "" then
    match dueAt with
    | none => .error (.validationError "due_at must be timezone-aware")
    | some dueAt =>
      if priority_mem : 0 ≤ priority ∧ priority ≤ 100 then
        if maxAttempts_mem : 1 ≤ maxAttempts ∧ maxAttempts ≤ 100 then
          if parent_ne : parentTaskId = some taskId then
            .error (.validationError "parent_task_id cannot reference the task itself")
          else if due_utc : (timestamp dueAt).isSome then
            .ok { taskId, siteId, processingPurpose, idempotencyKey, agentType, subjectType
                  subjectRef, dueAt, priority, maxAttempts, causationId, correlationId, payload
                  parentTaskId, required, priority_mem, maxAttempts_mem, parent_ne, due_utc }
          else .error .overflowError
        else .error (.validationError "max_attempts must be between 1 and 100")
      else .error (.validationError "priority must be between 0 and 100")
  else
    let name := names.getD (values.idxOf "") ""
    .error (.validationError s!"{name} is required")

structure AgentTaskMetadata where
  taskId : String
  siteId : String
  processingPurpose : String
  idempotencyKey : String
  payloadDigest : String
  agentType : String
  subjectType : String
  subjectRef : String
  status : TaskStatus
  dueAt : Datetime
  priority : ℤ
  attempt : ℤ
  maxAttempts : ℤ
  causationId : String
  correlationId : String
  parentTaskId : Option String
  outputArtifactRefs : List String
  failureClassification : Option FailureClassification
  leaseOwner : Option String
  leaseExpiresAt : Option Datetime
  createdAt : Datetime
  updatedAt : Datetime
deriving DecidableEq

structure AgentTaskClaim where
  metadata : AgentTaskMetadata
  payload : LocalPilotTaskPayload
deriving DecidableEq

/-- The values of `event_type`. -/
inductive EventType where
  | created | leased | running | recheckScheduled | succeeded | deadLettered
deriving DecidableEq, Repr

inductive ActorType where
  | system | worker
deriving DecidableEq, Repr

structure TimelineEventMetadata where
  taskId : String
  siteId : String
  sequence : ℕ
  eventType : EventType
  occurredAt : Datetime
  actorType : ActorType
  actorRef : Option String
  causationId : String
  correlationId : String
deriving DecidableEq

structure DeadLetterMetadata where
  taskId : String
  siteId : String
  attempts : ℤ
  failureClassification : FailureClassification
  reasonCode : String
  deadLetteredAt : Datetime
  causationId : String
  correlationId : String
deriving DecidableEq

end EsanGbos.AgentRuntime
