import EsanGbos.Lib.Rounding
import EsanGbos.AgentRuntime.Models

/-!
# Model invocation records

The audit record of one model call. The parts that are known or unknown as a whole
are sum types, and a record carries the check of its constructor, so that only
admitted records exist.

## Main definitions

* `ModelInvocationRecord` — the record; `ModelInvocationRecord.eq` is Python's equality.
-/
namespace EsanGbos.AgentRuntime
open Lib

inductive InvocationStatus where
  | succeeded | failed | timedOut | cancelled
deriving DecidableEq, Repr

def InvocationStatus.value : InvocationStatus → String
  | succeeded => "succeeded"
  | failed => "failed"
  | timedOut => "timed_out"
  | cancelled => "cancelled"

inductive BudgetAuditStatus where
  | normal | warning | hardStop | networkDisabled | unknown
deriving DecidableEq, Repr

def BudgetAuditStatus.value : BudgetAuditStatus → String
  | normal => "normal"
  | warning => "warning"
  | hardStop => "hard_stop"
  | networkDisabled => "network_disabled"
  | unknown => "unknown"

theorem InvocationStatus.value_injective : Function.Injective value := by
  intro a b h; cases a <;> cases b <;> first | rfl | exact absurd h (by decide)

theorem BudgetAuditStatus.value_injective : Function.Injective value := by
  intro a b h; cases a <;> cases b <;> first | rfl | exact absurd h (by decide)

/-- `_ERROR_CODES`. -/
def errorCodes : List String :=
  ["network_disabled", "budget_hard_stop", "input_token_limit", "transport_exhausted",
    "retry_exhausted", "provider_http_error", "response_invalid_json", "model_mismatch",
    "response_protocol_error", "output_invalid_json", "output_schema_invalid",
    "request_binding_failed", "unsafe_output", "pricing_error", "internal_error"]

/-- Token counts, all known or all unknown; the total is the sum of the two counts. -/
inductive TokenUsageMetadata where
  | unknown
  | known (inputTokens outputTokens : ℕ)
deriving DecidableEq, Repr

/-- `to_wire`, the members in key order. -/
def TokenUsageMetadata.toWire : TokenUsageMetadata → Json
  | unknown => .obj [("status", .str "unknown")]
  | known input output => .obj [("input_tokens", .int input), ("output_tokens", .int output),
      ("status", .str "known"), ("total_tokens", .int (input + output))]

/-- `[A-Z]{3}`. -/
def isCurrency (s : String) : Bool := s.toList.length = 3 && s.toList.all Char.isUpper

/-- A cost: unknown, or a finite non-negative amount in a currency. -/
inductive CostMetadata where
  | unknown
  | known (amount : Decimal) (currency : String)
      (valid : (amount.negative = false ∨ amount.coefficient = 0) ∧ isCurrency currency = true)
deriving DecidableEq

namespace CostMetadata

def isKnown : CostMetadata → Bool
  | unknown => false
  | known .. => true

/-- Dataclass equality, which compares amounts by value. -/
def eq : CostMetadata → CostMetadata → Bool
  | unknown, unknown => true
  | known a c _, known a' c' _ => a.eq a' && c = c'
  | _, _ => false

@[simp] theorem eq_self (c : CostMetadata) : c.eq c = true := by cases c <;> simp [eq]

theorem eq_symm {a b : CostMetadata} (h : a.eq b = true) : b.eq a = true := by
  cases a <;> cases b <;> simp_all [eq, Decimal.eq_iff_value]

theorem eq_trans {a b c : CostMetadata} (h : a.eq b = true) (h' : b.eq c = true) :
    a.eq c = true := by
  cases a <;> cases b <;> cases c <;> simp_all [eq, Decimal.eq_iff_value]

end CostMetadata

/-- Reference lists with unique, non-empty entries of bounded length. -/
@[ext] structure InvocationReferences where
  observationEventRefs : List String
  evidenceRefs : List String
  tokenizationReceiptRefs : List String
  valid : ∀ values ∈ [observationEventRefs, evidenceRefs, tokenizationReceiptRefs],
    values.Nodup ∧ ∀ value ∈ values, value ≠ "" ∧ value.length ≤ 256
deriving DecidableEq

/-- `to_wire`, the members in key order. -/
def InvocationReferences.toWire (r : InvocationReferences) : Json :=
  .obj [("evidence_refs", .ofStrs r.evidenceRefs),
    ("observation_event_refs", .ofStrs r.observationEventRefs),
    ("tokenization_receipt_refs", .ofStrs r.tokenizationReceiptRefs)]

/-! ## Records -/

@[ext] structure InvocationFields where
  invocationId : String
  siteId : String
  provider : String
  requestedModel : String
  observedModel : Option String
  promptVersion : String
  outputSchemaVersion : String
  policyVersion : String
  tokenizerVersion : String
  requestId : String
  responseId : Option String
  startedAt : Datetime
  completedAt : Option Datetime
  latencyMs : Option ℤ
  status : InvocationStatus
  tokenUsage : TokenUsageMetadata
  cost : CostMetadata
  networkCallCount : ℤ
  toolCallCount : ℤ
  externalSendCount : ℤ
  references : InvocationReferences
  idempotencyKey : String
  attempt : ℤ
  retryCount : ℤ
  finishCode : Option String
  errorCode : Option String
  budgetStatus : BudgetAuditStatus
  priceCatalogVersion : Option String
  outputDigest : Option String
deriving DecidableEq

/-- `_require_text`. -/
def requireText (value name : String) (maximum : ℕ) : Except Raise Unit := do
  if value = "" ∨ maximum < value.length then
    throw (.valueError s!"{name} must be non-empty and at most {maximum} characters")

theorem requireText_eq_ok {value name : String} {maximum : ℕ} :
    requireText value name maximum = .ok () ↔ value ≠ "" ∧ value.length ≤ maximum := by
  unfold requireText
  by_cases h : value = "" ∨ maximum < value.length
  · rw [if_pos h]
    refine ⟨fun hthrow => ?_, fun hvalid => ?_⟩
    · cases hthrow
    · rcases h with hempty | hlong
      · exact absurd hempty hvalid.1
      · exact absurd hvalid.2 (by omega)
  · rw [if_neg h]
    rw [not_or, not_lt] at h
    exact ⟨fun _ => h, fun _ => rfl⟩

/-- `_SITE_PATTERN.fullmatch`. -/
def isSite (s : String) : Bool :=
  match s.toList with
  | [] => false
  | c :: cs => c.isAlphanum && cs.all fun c => c.isAlphanum || c == '.' || c == '-'

/-- `_CODE_PATTERN.fullmatch`. -/
def isCode (s : String) : Bool :=
  match s.toList with
  | [] => false
  | c :: cs => c.isLower && cs.length ≤ 79 &&
      cs.all fun c => c.isLower || c.isDigit || c == '_'

/-- `__post_init__`. -/
def InvocationFields.postInit (r : InvocationFields) : Except Raise Unit := do
  requireText r.invocationId "invocation_id" 256
  requireText r.siteId "site_id" 140
  unless isSite r.siteId do throw (.valueError "site_id has an invalid format")
  for (name, value, maximum) in [("provider", r.provider, 80),
      ("requested_model", r.requestedModel, 160), ("prompt_version", r.promptVersion, 80),
      ("output_schema_version", r.outputSchemaVersion, 80),
      ("policy_version", r.policyVersion, 80), ("tokenizer_version", r.tokenizerVersion, 80),
      ("request_id", r.requestId, 256), ("idempotency_key", r.idempotencyKey, 256)] do
    requireText value name maximum
  for (name, value, maximum) in [("observed_model", r.observedModel, 160),
      ("response_id", r.responseId, 256),
      ("price_catalog_version", r.priceCatalogVersion, 80)] do
    if let some text := value then requireText text name maximum
  match r.completedAt with
  | none => if r.latencyMs.isSome then throw (.valueError "latency_ms requires completed_at")
  | some completedAt =>
      if completedAt.instant < r.startedAt.instant then
        throw (.valueError "completed_at cannot precede started_at")
      if r.latencyMs.isNone then throw (.valueError "completed records require latency_ms")
  if r.latencyMs.any (· < 0) then
    throw (.valueError "latency_ms must be a non-negative integer")
  for (name, count) in [("network_call_count", r.networkCallCount),
      ("tool_call_count", r.toolCallCount), ("external_send_count", r.externalSendCount)] do
    if count < 0 then throw (.valueError s!"{name} must be a non-negative integer")
  if r.attempt < 1 then throw (.valueError "attempt must be a positive integer")
  if r.retryCount < 0 then throw (.valueError "retry_count must be a non-negative integer")
  if r.networkCallCount = 0 ∧ r.retryCount ≠ 0 then
    throw (.valueError "zero-network invocations cannot have retries")
  if 0 < r.networkCallCount ∧ r.networkCallCount ≤ r.retryCount then
    throw (.valueError "retry_count must be less than network_call_count")
  if r.finishCode.any fun code => !isCode code then
    throw (.valueError "finish_code must be a sanitized code")
  if r.errorCode.any fun code => code ∉ errorCodes then
    throw (.valueError "error_code must be a known sanitized code")
  if r.status = .succeeded then
    if r.errorCode.isSome then
      throw (.valueError "succeeded records cannot have an error_code")
    if r.outputDigest.isNone then
      throw (.valueError "succeeded records require output_digest")
  else if r.errorCode.isNone then
    throw (.valueError "non-succeeded records require an error_code")
  if r.outputDigest.any fun digest => !isDigest digest then
    throw (.valueError "output_digest must be a SHA-256 hex digest")
  if r.cost.isKnown && r.priceCatalogVersion.isNone then
    throw (.valueError "known cost requires price_catalog_version")

/-- A record that passed its constructor; `schema_version` is the constant "1.0". -/
structure ModelInvocationRecord extends InvocationFields where
  checked : toInvocationFields.postInit = .ok ()
deriving DecidableEq

namespace ModelInvocationRecord

/-- Dataclass equality: datetimes are compared by instant and amounts by value. -/
def eq (a b : ModelInvocationRecord) : Bool :=
  { a.toInvocationFields with
      startedAt := b.startedAt, completedAt := b.completedAt, cost := b.cost }
      = b.toInvocationFields
    && a.startedAt.instant = b.startedAt.instant
    && a.completedAt.map Datetime.instant = b.completedAt.map Datetime.instant
    && a.cost.eq b.cost

@[simp] theorem eq_self (a : ModelInvocationRecord) : a.eq a = true := by simp [eq]

theorem eq_iff {a b : ModelInvocationRecord} : a.eq b = true ↔
    { a.toInvocationFields with
        startedAt := b.startedAt, completedAt := b.completedAt, cost := b.cost } =
      b.toInvocationFields ∧ a.startedAt.instant = b.startedAt.instant ∧
    a.completedAt.map Datetime.instant = b.completedAt.map Datetime.instant ∧
    a.cost.eq b.cost = true := by
  simp only [eq, Bool.and_eq_true, decide_eq_true_eq, and_assoc]

theorem eq_symm {a b : ModelInvocationRecord} (h : a.eq b = true) : b.eq a = true := by
  obtain ⟨hfields, hstart, hcompleted, hcost⟩ := eq_iff.mp h
  refine eq_iff.mpr ⟨?_, hstart.symm, hcompleted.symm, CostMetadata.eq_symm hcost⟩
  rw [← hfields]

theorem eq_trans {a b c : ModelInvocationRecord} (h : a.eq b = true) (h' : b.eq c = true) :
    a.eq c = true := by
  obtain ⟨hfields, hstart, hcompleted, hcost⟩ := eq_iff.mp h
  obtain ⟨hfields', hstart', hcompleted', hcost'⟩ := eq_iff.mp h'
  refine eq_iff.mpr ⟨?_, hstart.trans hstart', hcompleted.trans hcompleted',
    CostMetadata.eq_trans hcost hcost'⟩
  rw [← hfields', ← hfields]

/-- Equal records are equal to the same records. -/
theorem eq_congr {a b : ModelInvocationRecord} (h : a.eq b = true) (c : ModelInvocationRecord) :
    a.eq c = b.eq c := by
  rw [Bool.eq_iff_iff]
  exact ⟨eq_trans (eq_symm h), eq_trans h⟩

/-- Equal records have the same keys. -/
theorem keys_of_eq {a b : ModelInvocationRecord} (h : a.eq b = true) :
    a.siteId = b.siteId ∧ a.invocationId = b.invocationId ∧
      a.idempotencyKey = b.idempotencyKey := by
  simp only [eq, Bool.and_eq_true, decide_eq_true_eq] at h
  have hfields := h.1.1.1
  exact ⟨by rw [← hfields], by rw [← hfields], by rw [← hfields]⟩

end ModelInvocationRecord
end EsanGbos.AgentRuntime
