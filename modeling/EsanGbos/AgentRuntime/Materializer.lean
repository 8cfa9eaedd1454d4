import EsanGbos.AgentRuntime.Proposals

/-!
# Drafts of proposals

An envelope holds a stored proposal and what a draft of it takes from the task and the model
invocations. The materializer makes an intent of it: a document of one of three kinds that is
created as an AI draft, or one of two that is submitted for review.

## Main definitions

* `MaterializationEnvelope`, `MaterializationContext`, `MaterializationIntent` — what goes in and
  what comes out.
* `TrustedMaterializer.materialize` — the intent of an envelope, or the first refusal.
* `FrappeDraftReceipt` — the answer to an intent.
-/
namespace EsanGbos.AgentRuntime.Materialization
open Lib

/-- What the delivery of a draft can raise. -/
inductive MaterializationError where
  | raise (e : Raise)
  | typeError
  | frappeClientError (message : String) (status : Option ℤ) (errorCode : Option String)
  /-- A trigger or a constraint of the database refuses a row. -/
  | integrityError
  | uniqueViolation
  | dataError
  /-- An exception of an injected dependency. -/
  | other
deriving DecidableEq

namespace MaterializationError

def validation (message : String) : MaterializationError := .raise (.validationError message)

def client (message : String) : MaterializationError := .frappeClientError message none none

end MaterializationError

/-! ## Envelopes and contexts -/

structure MaterializationEnvelope where
  proposalId : String
  taskId : String
  processingPurpose : String
  origin : String
  reviewStatus : String
  actionType : String
  subjectType : String
  subjectRef : String
  subjectRevision : ℤ
  evidenceRefs : List String
  modelName : Option String
  modelVersion : Option String
  policyVersion : Option String
  proposal : Json
deriving DecidableEq

/-- `_require_text`. -/
def requireText (value : Option Json) (fieldName : String) (maximum : ℕ) :
    Except Raise String :=
  match value with
  | some (.str s) =>
      let normalized := strip s
      if normalized.isEmpty || maximum < normalized.length then
        .error (.validationError s!"{fieldName} must contain 1 to {maximum} characters")
      else .ok normalized
  | _ => .error (.validationError s!"{fieldName} must be a nonempty string")

/-- `_frappe_payload_digest`. -/
def frappePayloadDigest (py : Stdlib) (value : Json) : String := py.sha256 value.dumpsAscii

/-- The fields of a context. -/
structure ContextFields where
  team : String
  assignedReviewer : Option String
  subjectSnapshot : Option Json
  subjectPayloadDigest : Option String
deriving DecidableEq

/-- `__post_init__`. -/
def ContextFields.postInit (py : Stdlib) (c : ContextFields) : Except Raise Unit := do
  let _ ← requireText (some (.str c.team)) "materialization team" 140
  if let some reviewer := c.assignedReviewer then
    let _ ← requireText (some (.str reviewer)) "materialization assigned reviewer" 256
  match c.subjectSnapshot with
  | none =>
      if c.subjectPayloadDigest.isSome then
        throw (.validationError "subject payload digest requires a controlled subject snapshot")
  | some snapshot =>
      unless snapshot.isObj do
        throw (.validationError "controlled subject snapshot must be an object")
      unless c.subjectPayloadDigest.any isDigest do
        throw (.validationError "controlled subject snapshot requires a SHA-256 digest")
      unless some (frappePayloadDigest py snapshot) = c.subjectPayloadDigest do
        throw (.validationError "controlled subject snapshot digest does not match")

/-- The team and the reviewer of a draft, and the subject of a review. -/
structure MaterializationContext (py : Stdlib) extends ContextFields where
  checked : toContextFields.postInit py = .ok ()

/-! ## Intents -/

inductive MaterializationOperation where
  | create | submit
deriving DecidableEq

def MaterializationOperation.value : MaterializationOperation → String
  | create => "create"
  | submit => "submit"

inductive MaterializationDoctype where
  | workItem | reviewCase | informalObservation
deriving DecidableEq

def MaterializationDoctype.value : MaterializationDoctype → String
  | workItem => "GBOS Work Item"
  | reviewCase => "GBOS Review Case"
  | informalObservation => "GBOS Informal Observation"

/-- `values` is an object. -/
structure MaterializationIntent where
  operation : MaterializationOperation
  doctype : MaterializationDoctype
  values : List (String × Json)
deriving DecidableEq

/-- The document whose digest `_intent_digest` takes, and which is sent. -/
def MaterializationIntent.document (intent : MaterializationIntent) : Json :=
  .obj [("doctype", .str intent.doctype.value), ("operation", .str intent.operation.value),
    ("values", .obj intent.values)]

/-- `_intent_digest`. -/
def intentDigest (py : Stdlib) (intent : MaterializationIntent) : String :=
  canonicalPayloadDigest py intent.document

namespace TrustedMaterializer
variable (py : Stdlib)

/-- `_trusted_evidence_refs`. -/
def trustedEvidenceRefs (values : List String) : Except Raise (List String) := do
  if values = [] ∨ ¬values.Nodup then
    throw (.validationError "materialization evidence refs must be nonempty and unique")
  values.mapM fun value => requireText (some (.str value)) "materialization evidence ref" 500

/-- The intent of a transition, whose values carry the reference as it came. -/
def transitionIntent (payload : Json) : Except MaterializationError MaterializationIntent := do
  let refused := MaterializationError.validation
    "only AI Draft to Pending submission is allowed"
  unless payload.hasKeys ["target_doctype", "target_ref", "from_review_status",
      "to_review_status"] do
    throw refused
  let doctype ← match payload.get? "target_doctype" with
    | some (.str "GBOS Work Item") => pure MaterializationDoctype.workItem
    | some (.str "GBOS Review Case") => pure MaterializationDoctype.reviewCase
    -- an array or an object is not hashable
    | some (.arr _) | some (.obj _) => throw .typeError
    | _ => throw refused
  unless payload.get? "from_review_status" = some (.str "AI Draft") ∧
      payload.get? "to_review_status" = some (.str "Pending") do
    throw refused
  return ⟨.submit, doctype, [("name", (payload.get? "target_ref").getD .null),
    ("origin", .str "AI"), ("review_status", .str "Pending")]⟩

def workItemIntent (envelope : MaterializationEnvelope) (team proposalId title : String) :
    Except Raise MaterializationIntent := do
  let subjectType ← requireText (some (.str envelope.subjectType)) "materialization subject_type" 140
  let subjectRef ← requireText (some (.str envelope.subjectRef)) "materialization subject_ref" 256
  return ⟨.create, .workItem, [("business_status", .str "Open"), ("origin", .str "AI"),
    ("origin_reference", .str proposalId), ("reference_doctype", .str subjectType),
    ("reference_name", .str subjectRef), ("review_status", .str "AI Draft"), ("team", .str team),
    ("title", .str title)]⟩

def evidenceDocument (reference : String) : Json :=
  .obj [("evidence_ref", .str reference), ("locator_ref", .str reference)]

def observationIntent (envelope : MaterializationEnvelope) (payload : Json)
    (team proposalId title : String) : Except Raise MaterializationIntent := do
  unless payload.get? "is_official_metric" = some (.bool false) do
    throw (.validationError "CEO observations cannot become formal metrics")
  let summary ← requireText (payload.get? "summary") "proposal summary" 2000
  let modelName ← requireText (envelope.modelName.map .str) "materialization model_name" 160
  let modelVersion ← requireText (envelope.modelVersion.map .str) "materialization model_version" 160
  unless modelName = "deepseek-v4-flash" do
    throw (.validationError "informal observations require the approved model")
  let evidenceRefs ← trustedEvidenceRefs envelope.evidenceRefs
  return ⟨.create, .informalObservation, [
    ("evidence_refs", .arr (evidenceRefs.map evidenceDocument)), ("is_official_metric", .bool false),
    ("model_name", .str modelName), ("model_version", .str modelVersion), ("origin", .str "AI"),
    ("origin_reference", .str proposalId), ("review_status", .str "AI Draft"),
    ("subject", .str title), ("summary_zh", .str summary), ("team", .str team)]⟩

/-- Python's `value == i` for a value of a document; `floatEq` compares a float. -/
def equalsInt (floatEq : List Char → ℤ → Bool) (value : Option Json) (i : ℤ) : Bool :=
  match value with
  | some (.int n) => n = i
  | some (.bool b) => b.toNat = i
  | some (.real lexeme) => floatEq lexeme.1 i
  | _ => false

/-- The document whose digest pins a review case. -/
def casePayload (title team reviewer subjectType subjectRef subjectDigest policyVersion : String)
    (revision : ℤ) (snapshot : Json) (evidenceRefs : List String) : Json :=
  .obj [("assigned_reviewer", .str reviewer), ("evidence_refs", .ofStrs evidenceRefs),
    ("policy_version", .str policyVersion), ("subject_doctype", .str subjectType),
    ("subject_name", .str subjectRef), ("subject_payload_sha256", .str subjectDigest),
    ("subject_revision", .int revision), ("subject_snapshot", snapshot), ("team", .str team),
    ("title", .str title)]

/-- `_canonical_json_text`, as a value. -/
def canonicalJsonText (value : Json) : Json := .str (String.ofList value.dumpsAscii)

def reviewCaseIntent (floatEq : List Char → ℤ → Bool) (envelope : MaterializationEnvelope)
    (context : ContextFields) (team proposalId title : String) :
    Except Raise MaterializationIntent := do
  let reviewer ← requireText (context.assignedReviewer.map .str)
    "materialization assigned reviewer" 256
  let subjectType ← requireText (some (.str envelope.subjectType)) "materialization subject_type" 140
  let subjectRef ← requireText (some (.str envelope.subjectRef)) "materialization subject_ref" 256
  if envelope.subjectRevision < 1 then
    throw (.validationError "materialization subject_revision must be positive")
  let some snapshot := context.subjectSnapshot
    | throw (.validationError "review case requires a controlled subject snapshot")
  unless snapshot.get? "doctype" = some (.str subjectType) ∧
      snapshot.get? "name" = some (.str subjectRef) ∧
      equalsInt floatEq (snapshot.get? "revision") envelope.subjectRevision do
    throw (.validationError "controlled subject snapshot is not bound to the proposal")
  let some subjectDigest := context.subjectPayloadDigest
    | throw (.validationError "controlled subject snapshot digest does not match")
  unless frappePayloadDigest py snapshot = subjectDigest do
    throw (.validationError "controlled subject snapshot digest does not match")
  let evidenceRefs ← trustedEvidenceRefs envelope.evidenceRefs
  let policyVersion ← requireText (envelope.policyVersion.map .str)
    "materialization policy_version" 140
  let payload := casePayload title team reviewer subjectType subjectRef subjectDigest policyVersion
    envelope.subjectRevision snapshot evidenceRefs
  return ⟨.create, .reviewCase, [("assigned_reviewer", .str reviewer),
    ("business_status", .str "Pending"),
    ("case_payload_sha256", .str (frappePayloadDigest py payload)),
    ("evidence_refs", canonicalJsonText (.ofStrs evidenceRefs)), ("origin", .str "AI"),
    ("origin_reference", .str proposalId), ("policy_version", .str policyVersion),
    ("review_status", .str "AI Draft"), ("subject_doctype", .str subjectType),
    ("subject_name", .str subjectRef), ("subject_payload_sha256", .str subjectDigest),
    ("subject_revision", .int envelope.subjectRevision),
    ("subject_snapshot", canonicalJsonText snapshot), ("team", .str team), ("title", .str title)]⟩

/-- The intent of any other action. -/
def creationIntent (floatEq : List Char → ℤ → Bool) (envelope : MaterializationEnvelope)
    (context : ContextFields) (payload : Json) : Except Raise MaterializationIntent := do
  let team ← requireText (some (.str context.team)) "materialization team" 140
  let proposalId ← requireText (some (.str envelope.proposalId)) "materialization proposal_id" 256
  let title ← requireText (payload.get? "title") "proposal title" 140
  if envelope.actionType = "internal.work_item.propose" then
    workItemIntent envelope team proposalId title
  else if envelope.actionType = "internal.ai_draft.propose" then
    observationIntent envelope payload team proposalId title
  else reviewCaseIntent py floatEq envelope context team proposalId title

/-- `materialize`. -/
def materialize (floatEq : List Char → ℤ → Bool) (envelope : MaterializationEnvelope)
    (context : Option (MaterializationContext py)) :
    Except MaterializationError MaterializationIntent := do
  unless envelope.origin = "AI" ∧ envelope.reviewStatus = "AI Draft" do
    throw (.validation "materializer only accepts AI Draft proposals")
  unless envelope.actionType ∈ allowedActionTypes do
    throw (.validation "materializer rejects non-internal proposal actions")
  (rejectUnsafeContent py envelope.proposal).mapError .raise
  let some payload := (envelope.proposal.get? "payload").filter Json.isObj
    | throw (.validation "materialization proposal payload is required")
  if envelope.actionType = "internal.work_item.transition.propose" then transitionIntent payload
  else match context with
    | none => throw (.validation "controlled materialization team is required")
    | some context =>
        (creationIntent py floatEq envelope context.toContextFields payload).mapError .raise

end TrustedMaterializer

/-! ## Receipts -/

/-- The values of a receipt, as they come back. -/
structure FrappeDraftReceipt where
  doctype : String
  name : String
  revision : ℤ
  requestId : String
  requestDigest : String
  texts_ok : ∀ s ∈ [doctype, name, requestId], s ≠ "" ∧ s.length ≤ 256
  revision_nonneg : 0 ≤ revision
  digest_ok : isDigest requestDigest = true
deriving DecidableEq

/-- `_validate_receipt`. -/
def validateReceipt (receipt : FrappeDraftReceipt) (materializationId : String)
    (intent : MaterializationIntent) (requestDigest : String) : Except Raise Unit :=
  if receipt.requestId ≠ materializationId ∨ receipt.requestDigest ≠ requestDigest ∨
      receipt.doctype ≠ intent.doctype.value then
    .error (.idempotencyConflict "Frappe receipt does not match materialization request")
  else .ok ()

end EsanGbos.AgentRuntime.Materialization
