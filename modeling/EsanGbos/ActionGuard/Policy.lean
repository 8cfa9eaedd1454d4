import EsanGbos.Spelling

/-!
# The policy of the action guard

Before a tool is used the guard looks at the request, and afterwards also at the result: an
allowed result has no key that reads like an execution, and belongs to the request.

## Main definitions

* `ActionGuard.evaluate` — the decision of the guard.

## Main results

* `ActionGuard.allow_screened_iff` — when an allowed result has no spelling of a forbidden key.
-/
namespace EsanGbos.ActionGuard
open Lib

inductive EvaluationPhase where
  | preTool | postResult
deriving DecidableEq, Repr

def EvaluationPhase.value : EvaluationPhase → String
  | preTool => "pre_tool"
  | postResult => "post_result"

inductive GuardOutcome where
  | allow | requireHuman | deny
deriving DecidableEq, Repr

structure ActionRequest where
  requestId : String
  siteId : String
  processingPurpose : String
  actionType : String
  targetRef : String
  targetRevision : ℤ
  evidenceRefs : List String
  grantedScopes : List String
  correlationId : String
  payload : List (String × Json)
  targetRevision_nonneg : 0 ≤ targetRevision
  evidenceRefs_nodup : evidenceRefs.Nodup
  grantedScopes_nodup : grantedScopes.Nodup

structure GuardDecision where
  guardDecisionId : String
  requestId : String
  siteId : String
  processingPurpose : String
  actionType : String
  targetRevision : ℤ
  evaluationPhase : EvaluationPhase
  outcome : GuardOutcome
  policyVersion : String
  reasonCodes : List String
  evidenceRefs : List String
  evaluatedAt : Datetime
  correlationId : String

/-- `POLICY_VERSION`. -/
def policyVersion : String := "action-guard-v1"

/-- `READ_ACTION_SCOPES`. -/
def readActionScopes : List (String × String) :=
  [("context.evidence.get", "gbos-read"), ("context.fact.get", "gbos-read"),
    ("context.fact.list", "gbos-read"), ("context.decision.get", "gbos-read")]

/-- `INTERNAL_PROPOSALS`. -/
def internalProposals : List String :=
  ["internal.ai_draft.propose", "internal.fact.propose", "internal.work_item.propose",
    "internal.review_case.propose"]

/-- `HUMAN_REQUIRED_ACTIONS`. -/
def humanRequiredActions : List String :=
  ["internal.fact.confirm", "internal.work_item.transition", "internal.supplier.select",
    "formal.quotation.publish", "external.message.send", "deal.won", "deal.lost", "order.create",
    "payment.create"]

/-- `FORBIDDEN_EXACT_ACTIONS`. -/
def forbiddenExactActions : List String :=
  ["internal.record.delete", "internal.record.archive", "direct_database.write",
    "frappe.client.insert", "frappe.client.set_value", "frappe.client.delete"]

/-- `FORBIDDEN_RESULT_KEYS`. -/
def forbiddenResultKeys : List String :=
  ["tool_calls", "draft_mutation", "approved_command", "execution", "frappe_write",
    "kingdee_mutation", "external_send", "formal_price", "formal_discount", "payment",
    "delivery_commitment", "order", "deal_won", "deal_lost", "selected_supplier", "official_kpi"]

/-- `_contains_forbidden_result_key`. -/
def containsForbiddenResultKey (py : Stdlib) (value : Json) : Bool :=
  value.containsKey fun key =>
    String.ofList (slug (py.casefold (splitCapitals key.toList))) ∈ forbiddenResultKeys

/-- `_classify_request`. -/
def classifyRequest (request : ActionRequest) : GuardOutcome × List String :=
  if request.evidenceRefs = [] then (.deny, ["evidence_required"])
  else if "kingdee.".toList.isPrefixOf request.actionType.toList then
    (.deny, ["forbidden_capability"])
  else if request.actionType ∈ forbiddenExactActions then (.deny, ["forbidden_capability"])
  else
    match readActionScopes.lookup request.actionType with
    | some requiredScope =>
        if requiredScope ∉ request.grantedScopes then (.deny, ["required_scope_missing"])
        else (.allow, ["scoped_read"])
    | none =>
        if request.actionType ∈ internalProposals then
          if "gbos-propose" ∉ request.grantedScopes then (.deny, ["required_scope_missing"])
          else (.allow, ["scoped_internal_proposal"])
        else if request.actionType ∈ humanRequiredActions then
          if "gbos-propose" ∉ request.grantedScopes then (.deny, ["required_scope_missing"])
          else (.requireHuman, ["human_authorization_required"])
        else (.deny, ["unknown_action"])

section Evaluation
-- The values of the numbers with a fraction or an exponent.
variable (py : Stdlib) (float : {s : List Char // isReal s} → Option ℚ)

/-- `_validate_result`. -/
def validateResult (request : ActionRequest) (resultPayload : Option (List (String × Json))) :
    GuardOutcome × List String :=
  match resultPayload with
  | none => (.deny, ["result_required"])
  | some members =>
      let result := Json.obj members
      if containsForbiddenResultKey py result then (.deny, ["execution_shape_forbidden"])
      else if (result.get? "site_id").bind Json.str? ≠ some request.siteId then
        (.deny, ["site_mismatch"])
      else if (result.get? "processing_purpose").bind Json.str? ≠
          some request.processingPurpose then
        (.deny, ["purpose_mismatch"])
      else if (result.get? "target_revision").any
          (·.equals float (.int request.targetRevision)) = false then
        (.deny, ["target_revision_mismatch"])
      else if (result.get? "evidence_refs").bind Json.strs? ≠ some request.evidenceRefs then
        (.deny, ["evidence_mismatch"])
      else (.allow, ["post_result_verified"])

/-- `_decision_id`. -/
def decisionId (request : ActionRequest) (phase : EvaluationPhase)
    (resultPayload : Option (List (String × Json))) : String :=
  let value : Json := .obj [("action_type", .str request.actionType),
    ("evidence_refs", .ofStrs request.evidenceRefs), ("payload", .obj request.payload),
    ("phase", .str phase.value), ("policy_version", .str policyVersion),
    ("processing_purpose", .str request.processingPurpose),
    ("request_id", .str request.requestId), ("result", .ofOption .obj resultPayload),
    ("scopes", .ofStrs request.grantedScopes), ("site_id", .str request.siteId),
    ("target_ref", .str request.targetRef), ("target_revision", .int request.targetRevision)]
  "guard-" ++ String.ofList ((py.sha256 value.dumps).toList.take 32)

/-- `evaluate`. -/
def evaluate (request : ActionRequest) (now : Datetime) (phase : EvaluationPhase)
    (resultPayload : Option (List (String × Json))) : GuardDecision :=
  let classified := classifyRequest request
  let decided :=
    if phase = .postResult ∧ classified.1 = .allow then
      validateResult py float request resultPayload
    else classified
  { guardDecisionId := decisionId py request phase resultPayload
    requestId := request.requestId
    siteId := request.siteId
    processingPurpose := request.processingPurpose
    actionType := request.actionType
    targetRevision := request.targetRevision
    evaluationPhase := phase
    outcome := decided.1
    policyVersion
    reasonCodes := decided.2
    evidenceRefs := request.evidenceRefs
    evaluatedAt := now
    correlationId := request.correlationId }

/-- The request may be served, and the result is one of it. -/
structure Answers (request : ActionRequest) (result : Json) : Prop where
  allowed : (classifyRequest request).1 = .allow
  siteId : (result.get? "site_id").bind Json.str? = some request.siteId
  purpose : (result.get? "processing_purpose").bind Json.str? = some request.processingPurpose
  revision : (result.get? "target_revision").any
    (·.equals float (.int request.targetRevision)) = true
  evidence : (result.get? "evidence_refs").bind Json.strs? = some request.evidenceRefs

end Evaluation

/-! ## Screening -/

section Screening
variable {py : Stdlib} {float : {s : List Char // isReal s} → Option ℚ} {request : ActionRequest}

/-- A result is allowed exactly if it answers the request and the screen finds nothing. -/
theorem evaluate_allow_iff (now : Datetime) (members : List (String × Json)) :
    (evaluate py float request now .postResult (some members)).outcome = .allow ↔
      Answers float request (.obj members) ∧
        containsForbiddenResultKey py (.obj members) = false := by
  have hvalidate : (validateResult py float request (some members)).1 = .allow ↔
      containsForbiddenResultKey py (.obj members) = false ∧
      ((Json.obj members).get? "site_id").bind Json.str? = some request.siteId ∧
      ((Json.obj members).get? "processing_purpose").bind Json.str? =
        some request.processingPurpose ∧
      ((Json.obj members).get? "target_revision").any
        (·.equals float (.int request.targetRevision)) = true ∧
      ((Json.obj members).get? "evidence_refs").bind Json.strs? = some request.evidenceRefs := by
    dsimp only [validateResult]
    split_ifs <;> simp_all
  by_cases hallowed : (classifyRequest request).1 = .allow
  · have houtcome : (evaluate py float request now .postResult (some members)).outcome =
        (validateResult py float request (some members)).1 := by
      simp only [evaluate, hallowed, and_self, if_true]
    rw [houtcome, hvalidate]
    constructor
    · rintro ⟨hscreen, hsite, hpurpose, hrevision, hevidence⟩
      exact ⟨⟨hallowed, hsite, hpurpose, hrevision, hevidence⟩, hscreen⟩
    · rintro ⟨hanswers, hscreen⟩
      exact ⟨hscreen, hanswers.siteId, hanswers.purpose, hanswers.revision, hanswers.evidence⟩
  · have houtcome : (evaluate py float request now .postResult (some members)).outcome =
        (classifyRequest request).1 := by
      simp only [evaluate, hallowed, and_false, if_false]
    rw [houtcome]
    constructor
    · exact fun h => absurd h hallowed
    · exact fun h => absurd h.1.allowed hallowed

theorem areWordy_forbiddenResultKeys : areWordy forbiddenResultKeys = true := by
  decide +kernel

/-- The screen finds nothing exactly if every spelling has two capitals in a row. -/
theorem containsForbiddenResultKey_eq_false_iff (hfold : py.FoldsAscii) {result : Json} :
    containsForbiddenResultKey py result = false ↔
      ∀ key ∈ result.keys, py.Spells forbiddenResultKeys key → ¬Separated key := by
  rw [containsForbiddenResultKey, Json.containsKey_eq_false_iff]
  refine forall₂_congr fun key _ => ?_
  rw [decide_eq_false_iff_not,
    Stdlib.mem_splitCapitals_iff hfold areWordy_forbiddenResultKeys, not_and]

/-- **An allowed result has no spelling of a forbidden key, exactly under a condition**: if a
result of the request has spellings of forbidden keys, then one of them is without two capitals in
a row. -/
theorem allow_screened_iff (hfold : py.FoldsAscii) (now : Datetime)
    (members : List (String × Json)) :
    ((evaluate py float request now .postResult (some members)).outcome = .allow →
      ∀ key ∈ (Json.obj members).keys, ¬py.Spells forbiddenResultKeys key) ↔
    (Answers float request (.obj members) →
      (∃ key ∈ (Json.obj members).keys, py.Spells forbiddenResultKeys key) →
      ∃ key ∈ (Json.obj members).keys, py.Spells forbiddenResultKeys key ∧ Separated key) := by
  rw [evaluate_allow_iff, containsForbiddenResultKey_eq_false_iff hfold]
  constructor
  · rintro h hanswers ⟨key, hkey, hspells⟩
    by_contra hnone
    refine h ⟨hanswers, fun key hkey hspells hseparated => ?_⟩ key hkey hspells
    exact hnone ⟨key, hkey, hspells, hseparated⟩
  · rintro h ⟨hanswers, hscreen⟩ key hkey hspells
    obtain ⟨key', hkey', hspells', hseparated⟩ := h hanswers ⟨key, hkey, hspells⟩
    exact hscreen key' hkey' hspells' hseparated

end Screening

/-! ## A result in capitals -/

theorem sampleRefs_nodup : ["e1"].Nodup := by decide

theorem sampleScopes_nodup : ["gbos-propose"].Nodup := by decide

/-- A proposal about a work item. -/
def sampleRequest : ActionRequest where
  requestId := "r1"
  siteId := "acme"
  processingPurpose := "sales"
  actionType := "internal.work_item.propose"
  targetRef := "w1"
  targetRevision := 1
  evidenceRefs := ["e1"]
  grantedScopes := ["gbos-propose"]
  correlationId := "c1"
  payload := []
  targetRevision_nonneg := Int.one_nonneg
  evidenceRefs_nodup := sampleRefs_nodup
  grantedScopes_nodup := sampleScopes_nodup

/-- A result of the request with a payment under the key `key`. -/
def samplePayment (key : String) : List (String × Json) :=
  [(key, .str "100.00"), ("evidence_refs", .ofStrs ["e1"]), ("processing_purpose", .str "sales"),
    ("site_id", .str "acme"), ("target_revision", .int 1)]

theorem foldsAscii_ascii : (Stdlib.ascii []).FoldsAscii := fun _ _ => rfl

/-- A key in capitals passes. -/
theorem payment_allowed : ¬∀ (py : Stdlib) (float : {s : List Char // isReal s} → Option ℚ)
    (request : ActionRequest) (now : Datetime) (members : List (String × Json)), py.FoldsAscii →
    (evaluate py float request now .postResult (some members)).outcome = .allow →
    ∀ key ∈ (Json.obj members).keys, ¬py.Spells forbiddenResultKeys key := by
  intro h
  refine h (.ascii []) (fun _ => none) sampleRequest newYear (samplePayment "PAYMENT")
    foldsAscii_ascii (by decide +kernel) "PAYMENT" (by decide +kernel) ?_
  change _ ∈ forbiddenResultKeys
  decide +kernel

/-- A result without a payment passes rightly. -/
theorem allow_screened_greeting :
    (evaluate (.ascii []) (fun _ => none) sampleRequest newYear .postResult
        (some (samplePayment "greeting"))).outcome = .allow ∧
      ∀ key ∈ (Json.obj (samplePayment "greeting")).keys,
        ¬(Stdlib.ascii []).Spells forbiddenResultKeys key := by
  have hallow : (evaluate (.ascii []) (fun _ => none) sampleRequest newYear .postResult
      (some (samplePayment "greeting"))).outcome = .allow := by decide +kernel
  refine ⟨hallow, (allow_screened_iff foldsAscii_ascii newYear (samplePayment "greeting")).mpr
    (fun _ => ?_) hallow⟩
  rintro ⟨key, hkey, hspells⟩
  have hnone : ∀ key ∈ (Json.obj (samplePayment "greeting")).keys,
      ¬(Stdlib.ascii []).Spells forbiddenResultKeys key := by
    unfold Stdlib.Spells
    decide +kernel
  exact absurd hspells (hnone key hkey)

end EsanGbos.ActionGuard
