import EsanGbos.AgentRuntime.Invocations
import EsanGbos.Spelling

/-!
# Action proposals and their materialization records

A completed task leaves a proposal and a pending materialization. The proposal is
built from the agent's result: its shape is checked, its text is screened, and its
bundle digest covers the document and the fingerprints of all invocations.

## Main definitions

* `ActionProposalRecord.fromExecution` — the proposal of a result, or the first refusal.
* `invocationFingerprint_inj`, `bundleDocument_inj` — what the bundle digest pins down.
-/
namespace EsanGbos.AgentRuntime
open Lib

/-- `_ALLOWED_ACTION_TYPES`. -/
def allowedActionTypes : List String :=
  ["internal.ai_draft.propose", "internal.work_item.propose", "internal.review_case.propose",
    "internal.work_item.transition.propose"]

/-- `_FORBIDDEN_KEYS`. -/
def forbiddenKeys : List String :=
  ["raw_context", "message_body", "message_text", "email", "phone", "telephone", "person_name",
    "customer_name", "contact_name", "supplier_name", "organization_name", "prompt",
    "prompt_text", "response", "response_text", "tokenized_context", "draft_mutation",
    "approved_command", "external_send", "outbound", "quotation", "formal_price", "price",
    "formal_discount", "discount", "delivery_commitment", "delivery_promise", "order", "won",
    "lost", "selected_supplier", "supplier_final_selection", "official_kpi", "metric_value"]

/-- `_FORBIDDEN_TEXT`. -/
def forbiddenText : List String :=
  ["external.message.send", "outbound email", "formal quotation", "formal price",
    "formal discount", "delivery commitment", "delivery promise", "create order", "deal won",
    "deal lost", "final supplier", "select final supplier", "draftmutation", "approvedcommand",
    "official kpi", "正式报价", "正式价格", "正式折扣", "承诺交期", "创建订单", "赢单", "输单",
    "最终供应商", "正式kpi"]

/-! ## Screening -/

def normalizedKey (py : Stdlib) (key : String) : String :=
  String.ofList (slug (py.casefold (splitCapitals key.toList)))

/-- `re.sub(r"[\s_-]+", "", s)`. -/
def compact (py : Stdlib) (s : List Char) : List Char :=
  s.filter fun c => !(py.isSpace c || c == '_' || c == '-')

def hasForbiddenText (py : Stdlib) (value : String) : Bool :=
  let folded := py.casefold value.toList
  forbiddenText.any fun marker =>
    let marker := py.casefold marker.toList
    containsText marker folded || containsText (compact py marker) (compact py folded)

mutual
/-- `_reject_unsafe_content`. The members of an object are visited in key order; the
order only decides which of several offences is reported. -/
def rejectUnsafeContent (py : Stdlib) : Json → Except Raise Unit
  | .obj ms => rejectUnsafeMembers py ms
  | .arr xs => rejectUnsafeElements py xs
  | .str s => do
      if hasForbiddenText py s then
        throw (.validationError "proposal contains forbidden authoritative language")
      if hasDirectPii py s then
        throw (.validationError "proposal cannot store direct identity content")
  | _ => return ()

def rejectUnsafeMembers (py : Stdlib) : List (String × Json) → Except Raise Unit
  | [] => return ()
  | (key, nested) :: ms => do
      if normalizedKey py key ∈ forbiddenKeys then
        throw (.validationError "proposal contains forbidden authoritative content")
      rejectUnsafeContent py nested
      rejectUnsafeMembers py ms

def rejectUnsafeElements (py : Stdlib) : List Json → Except Raise Unit
  | [] => return ()
  | x :: xs => do
      rejectUnsafeContent py x
      rejectUnsafeElements py xs
end

/-! ## The bundle digest -/

/-- What an agent returns; the proposal and the invocations are the parts that are stored. -/
structure AgentExecutionResult where
  actionProposal : Json
  invocations : List ModelInvocationRecord

def textJson (s : List Char) : Json := .str (String.ofList s)

def costFingerprint : CostMetadata → Json
  | .unknown => .obj [("amount", .null), ("currency", .null), ("status", .str "unknown")]
  | .known amount currency _ => .obj [("amount", textJson amount.text),
      ("currency", .str currency), ("status", .str "known")]

/-- `_invocation_fingerprint`, the members in key order. -/
def invocationFingerprint (r : ModelInvocationRecord) : Json :=
  .obj [("attempt", .int r.attempt),
    ("budget_status", .str r.budgetStatus.value),
    ("completed_at", .ofOption (fun d => textJson d.isoformat) r.completedAt),
    ("cost", costFingerprint r.cost),
    ("error_code", .ofOption .str r.errorCode),
    ("external_send_count", .int r.externalSendCount),
    ("finish_code", .ofOption .str r.finishCode),
    ("idempotency_key", .str r.idempotencyKey),
    ("invocation_id", .str r.invocationId),
    ("latency_ms", .ofOption .int r.latencyMs),
    ("network_call_count", .int r.networkCallCount),
    ("observed_model", .ofOption .str r.observedModel),
    ("output_digest", .ofOption .str r.outputDigest),
    ("output_schema_version", .str r.outputSchemaVersion),
    ("policy_version", .str r.policyVersion),
    ("price_catalog_version", .ofOption .str r.priceCatalogVersion),
    ("prompt_version", .str r.promptVersion),
    ("provider", .str r.provider),
    ("references", r.references.toWire),
    ("request_id", .str r.requestId),
    ("requested_model", .str r.requestedModel),
    ("response_id", .ofOption .str r.responseId),
    ("retry_count", .int r.retryCount),
    ("site_id", .str r.siteId),
    ("started_at", textJson r.startedAt.isoformat),
    ("status", .str r.status.value),
    ("token_usage", r.tokenUsage.toWire),
    ("tokenizer_version", .str r.tokenizerVersion),
    ("tool_call_count", .int r.toolCallCount)]

def bundleDocument (task : AgentTaskMetadata) (result : AgentExecutionResult) : Json :=
  .obj [("invocations", .arr (result.invocations.map invocationFingerprint)),
    ("proposal", result.actionProposal),
    ("task_attempt", .int task.attempt),
    ("task_id", .str task.taskId)]

structure ActionProposalRecord where
  proposalId : String
  siteId : String
  idempotencyKey : String
  taskId : String
  taskAttempt : ℤ
  actionType : String
  status : String
  origin : String
  reviewStatus : String
  subjectType : String
  subjectRef : String
  subjectRevision : ℤ
  evidenceRefs : List String
  factVersionRefs : List (String × ℤ)
  invocationIds : List String
  payloadDigest : String
  bundleDigest : String
  document : Json
  /-- `none` for a naive datetime, which the constructor refuses. -/
  createdAt : Option Datetime
deriving DecidableEq

namespace ActionProposalRecord

/-- Dataclass equality. The bundle digest is among the compared fields, so it makes no
difference that Python would also call the documents 1 and 1.0 equal. -/
def eq (a b : ActionProposalRecord) : Bool :=
  { a with createdAt := b.createdAt } = b
    && a.createdAt.map Datetime.instant = b.createdAt.map Datetime.instant

/-- Equal proposals belong to one attempt. -/
theorem attempt_of_eq {a b : ActionProposalRecord} (h : a.eq b = true) :
    a.siteId = b.siteId ∧ a.taskId = b.taskId ∧ a.taskAttempt = b.taskAttempt := by
  simp only [eq, Bool.and_eq_true, decide_eq_true_eq] at h
  have hfields := h.1
  exact ⟨by rw [← hfields], by rw [← hfields], by rw [← hfields]⟩

/-- `__post_init__`. -/
def postInit (py : Stdlib) (p : ActionProposalRecord) : Except Raise Unit := do
  unless p.actionType ∈ allowedActionTypes do
    throw (.validationError "proposal action type is not materializable")
  unless p.status = "proposed" ∧ p.origin = "AI" ∧ p.reviewStatus = "AI Draft" do
    throw (.validationError "proposal must remain an AI Draft proposal")
  if p.taskAttempt < 1 ∨ p.subjectRevision < 0 then
    throw (.validationError "proposal task and subject revisions are invalid")
  if p.evidenceRefs = [] ∨ ¬p.evidenceRefs.Nodup then
    throw (.validationError "proposal evidence refs must be non-empty and unique")
  unless p.invocationIds.Nodup do
    throw (.validationError "proposal invocation ids must be unique")
  unless isDigest p.payloadDigest do
    throw (.validationError "proposal payload digest is invalid")
  unless isDigest p.bundleDigest do
    throw (.validationError "proposal bundle digest is invalid")
  if p.createdAt.isNone then
    throw (.validationError "proposal created_at must be timezone-aware")
  rejectUnsafeContent py p.document

/-- The loop over `fact_version_refs`. -/
def parseFactRefs : List Json → Except Raise (List (String × ℤ))
  | [] => return []
  | value :: values => do
      match value.hasKeys ["fact_id", "fact_version"], value.get? "fact_id",
          value.get? "fact_version" with
      | true, some (.str factId), some factVersion =>
          unless factVersion.isInt do
            throw (.validationError "action proposal fact refs are invalid")
          return (factId, factVersion.toInt) :: (← parseFactRefs values)
      | _, _, _ => throw (.validationError "action proposal fact refs are invalid")

/-- `from_execution`. -/
def fromExecution (py : Stdlib) (task : AgentTaskMetadata) (result : AgentExecutionResult) :
    Except Raise ActionProposalRecord := do
  let document := result.actionProposal
  unless document.isObj do
    throw (.validationError "action proposal must be a JSON object")
  unless document.get? "site_id" = some (.str task.siteId) ∧
      document.get? "target_ref" = some (.str task.subjectRef) ∧
      document.get? "status" = some (.str "proposed") do
    throw (.validationError "action proposal is not bound to the claimed task")
  let shape := Raise.validationError "action proposal shape is invalid"
  let some actionType := (document.get? "action_type").bind Json.str? | throw shape
  let some proposalId := (document.get? "action_proposal_id").bind Json.str? | throw shape
  let some payload := (document.get? "payload").filter Json.isObj | throw shape
  let some evidenceRefs := (document.get? "evidence_refs").bind Json.strs? | throw shape
  let some factRefs := (document.get? "fact_version_refs").bind Json.arr? | throw shape
  let some payloadDigest := (document.get? "payload_digest").bind Json.str? | throw shape
  let some createdAtValue := (document.get? "created_at").bind Json.str? | throw shape
  let some targetRevision := (document.get? "target_revision").filter Json.isInt | throw shape
  unless canonicalPayloadDigest py payload = payloadDigest do
    throw (.validationError "action proposal payload digest does not match payload")
  let factVersionRefs ← parseFactRefs factRefs
  let some createdAt :=
      py.fromisoformat (replace createdAtValue.toList ['Z'] "+00:00".toList)
    | throw (.valueError "Invalid isoformat string")
  let proposal : ActionProposalRecord :=
    { proposalId
      siteId := task.siteId
      idempotencyKey := s!"proposal:{task.taskId}:{task.attempt}"
      taskId := task.taskId
      taskAttempt := task.attempt
      actionType
      status := "proposed"
      origin := "AI"
      reviewStatus := "AI Draft"
      subjectType := task.subjectType
      subjectRef := task.subjectRef
      subjectRevision := targetRevision.toInt
      evidenceRefs
      factVersionRefs
      invocationIds := result.invocations.map (·.invocationId)
      payloadDigest
      bundleDigest := canonicalPayloadDigest py (bundleDocument task result)
      document
      createdAt }
  proposal.postInit py
  return proposal

/-- What every proposal of a task carries over from it. -/
theorem fromExecution_spec {py : Stdlib} {task : AgentTaskMetadata} {result : AgentExecutionResult}
    {p : ActionProposalRecord} (h : fromExecution py task result = .ok p) :
    p.siteId = task.siteId ∧ p.taskId = task.taskId ∧ p.taskAttempt = task.attempt ∧
      p.idempotencyKey = s!"proposal:{task.taskId}:{task.attempt}" ∧
      p.bundleDigest = canonicalPayloadDigest py (bundleDocument task result) := by
  simp only [fromExecution, bind, Except.bind, pure, Except.pure, throw, throwThe,
    MonadExceptOf.throw] at h
  -- every refusal contradicts the success; one path is left
  repeat' split at h
  all_goals cases h
  all_goals first | contradiction | exact ⟨rfl, rfl, rfl, rfl, rfl⟩

end ActionProposalRecord

/-! ## Materialization records -/

inductive MaterializationStatus where
  | pending | running | succeeded | retry | deadLetter
deriving DecidableEq, Repr

structure MaterializationOutboxRecord where
  materializationId : String
  proposalId : String
  siteId : String
  taskId : String
  taskAttempt : ℤ
  status : MaterializationStatus
  origin : String
  reviewStatus : String
  createdAt : Datetime
  attempt : ℤ := 0
  maxAttempts : ℤ := 5
  leaseOwner : Option String := none
  leaseExpiresAt : Option Datetime := none
  nextAttemptAt : Option Datetime := none
  lastErrorCode : Option String := none
  updatedAt : Option Datetime := none
deriving DecidableEq

/-- `from_proposal`; a pending record without attempts, lease or receipt passes the
checks of its constructor. -/
def MaterializationOutboxRecord.fromProposal (py : Stdlib) (proposal : ActionProposalRecord)
    (createdAt : Datetime) : MaterializationOutboxRecord :=
  let digest := (py.sha256 s!"{proposal.siteId}:{proposal.proposalId}".toList).toList.take 32
  { materializationId := "materialization-" ++ String.ofList digest
    proposalId := proposal.proposalId
    siteId := proposal.siteId
    taskId := proposal.taskId
    taskAttempt := proposal.taskAttempt
    status := .pending
    origin := "AI"
    reviewStatus := "AI Draft"
    createdAt
    nextAttemptAt := some createdAt
    updatedAt := some createdAt }

end EsanGbos.AgentRuntime
