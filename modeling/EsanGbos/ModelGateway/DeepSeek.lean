import EsanGbos.AgentRuntime.Invocations
import EsanGbos.Lib.Nearest
import EsanGbos.Lib.Runs
import EsanGbos.ModelGateway.Tokenization

/-!
# The DeepSeek adapter

A tokenized request becomes one logical call to the provider, or two where the first answer is to be
reviewed. A call reserves its worst cost, makes up to three attempts, settles or consumes the
reservation and hands a record of itself to the audit recorder. The transport, the clocks, the price
calculator, the ledger and the recorder are the environment: each may answer anything or raise. The
readers of JSON and the schema validator are parameters.

## Main definitions

* `Op` — what the adapter asks of its environment.
* `parseResponse` — the checks of a provider response.
* `call`, `invokeLogicalCall`, `invoke` — the adapter.
-/
namespace EsanGbos.ModelGateway.DeepSeek
open Lib AgentRuntime

/-! ## Values -/

/-- A `Decimal`. -/
inductive Number where
  | finite (d : Decimal)
  | infinite (negative : Bool)
  | nan
deriving DecidableEq

inductive UsageSnapshot where
  | unknown
  | known (inputTokens outputTokens : ℕ)
deriving DecidableEq

/-- `CostSnapshot`; its status is known or unknown. -/
structure CostSnapshot where
  isKnown : Bool := false
  amountUsd : Option Number := none
  catalogVersion : Option String := none
deriving DecidableEq

structure BudgetReservation where
  reservationId : String
  amountUsd : Decimal
  priceCatalogVersion : String
  tokenCounterVersion : String
  budgetMonth : Option ℕ := none
deriving DecidableEq

/-- `GatewayFailure`. -/
structure Failure where
  message : String
  errorCode : String
  networkCalls : ℕ := 0
  responseId : Option String := none
  observedModel : Option String := none
  finishCode : Option String := none
  cost : CostSnapshot := {}
  auditRecords : List ModelInvocationRecord := []
deriving DecidableEq

/-- What is raised: a failure of the gateway, an error of the transport, which is ambiguous unless
no connection was made, an `ArithmeticError` or `ValueError`, or anything else. -/
inductive Exn where
  | gateway (failure : Failure)
  | transport (ambiguous : Bool)
  | arithmetic
  | other
deriving DecidableEq

structure Response where
  statusCode : ℕ
  content : List UInt8
deriving DecidableEq

inductive AgentKind where
  | sales | purchase | product | ceo | communication
deriving DecidableEq, Repr

def AgentKind.text : AgentKind → String
  | sales => "sales"
  | purchase => "purchase"
  | product => "product"
  | ceo => "ceo"
  | communication => "communication"

/-- `OUTPUT_SCHEMA_VERSIONS`. -/
def AgentKind.outputSchemaVersion : AgentKind → String
  | sales => "sales-proposal-v1.0"
  | purchase => "purchase-proposal-v1.0"
  | product => "product-proposal-v1.0"
  | ceo => "ceo-proposal-v1.0"
  | communication => "communication-intelligence-v1.0"

/-- The fields of a request. -/
structure RequestFields where
  requestId : String
  siteId : String
  purpose : String
  agentKind : AgentKind
  subjectRef : String
  evidenceRefs : List String
  promptVersion : String
  tokenizedContext : String
  tokenizationReceiptId : String
  tokenizerVersion : String
  mappingDigest : String
  complexMultiEntity : Bool

/-- `TokenizedModelRequest`, with the checks of its constructor. -/
structure TokenizedModelRequest (py : Stdlib) extends RequestFields where
  required : ∀ value ∈ [requestId, siteId, purpose, subjectRef, promptVersion, tokenizedContext,
    tokenizationReceiptId, tokenizerVersion], value ≠ ""
  evidenceRefs_nodup : evidenceRefs ≠ [] ∧ evidenceRefs.Nodup
  mappingDigest_ok : isDigest mappingDigest = true
  clean : containsObviousPii py tokenizedContext.toList = false

/-! ## Constants -/

def provider : String := "deepseek"
def model : String := "deepseek-v4-flash"
def maxInputTokens : ℕ := 32768
def maxOutputTokens : ℕ := 4096
def maxNetworkAttempts : ℕ := 3
def softMonthlyLimitUsd : ℚ := 50
def policyVersion : String := "model-gateway-policy-v1"
def providerVersion : String := "deepseek-chat-adapter-v1"
def toolVersion : String := "no-tools-v1"

/-! ## The environment -/

/-- What the adapter asks for. -/
inductive Op where
  | clock
  | monotonic
  | monthlyCostUsd
  | count (text : List Char)
  | calculate (inputTokens outputTokens : ℕ)
  | reserve (reservationId : String) (amountUsd : Decimal)
      (priceCatalogVersion tokenCounterVersion : String)
  | ensureCanAttempt (reservation : BudgetReservation)
  | post (payload : Json)
  | retryDelay (attempt : ℕ)
  | settle (reservation : BudgetReservation) (usage : UsageSnapshot) (cost : CostSnapshot)
  | consume (reservation : BudgetReservation)
  | release (reservation : BudgetReservation)
  | record (record : ModelInvocationRecord)

/-- What it gets; a time that is not aware and a reading that is not finite are no value. -/
def Op.Answer : Op → Type
  | clock => Option Datetime
  | monotonic => Option ℚ
  | monthlyCostUsd | calculate _ _ => Number
  | count _ => ℕ
  | reserve .. => BudgetReservation
  | post _ => Response
  | consume _ => CostSnapshot
  | ensureCanAttempt _ | retryDelay _ | settle .. | release _ | record _ => Unit

/-- A program of the adapter; each of its calls serves one logical call. -/
abbrev Gateway := Prog (ℕ × Op) (fun c => c.2.Answer) Exn

/-- A call on behalf of the logical call `attempt`; `0` stands for the request as a whole. -/
def ask (attempt : ℕ) (op : Op) : Gateway op.Answer := Prog.invoke (attempt, op)

/-- A computation that asks for nothing. -/
def ofExcept {α : Type} (x : Except Exn α) : Gateway α := .done x

def fail {α : Type} (message errorCode : String) (networkCalls : ℕ := 0) : Except Exn α :=
  .error (.gateway { message, errorCode, networkCalls })

/-- What reading bytes or a text as JSON raises. -/
inductive ParseError where
  | decodeError
  | other

/-- What is configured, and the parts that are not modelled: the readers of JSON, the validator of
schemas and the limit of the recursion. -/
structure Adapter where
  networkEnabled : Bool
  tokenCounterVersion : String
  catalogVersion : String
  schemaOf : AgentKind → Json
  responseJson : List UInt8 → Except ParseError Json
  loads : String → Except ParseError Json
  isValid : Json → Json → Except Unit Bool
  recursionExceeded : Json → Bool
  /-- An answer can be written as UTF-8 again. It may hold a lone surrogate, which is no `Char`. -/
  canEncode : Json → Bool
  float : {s : List Char // isReal s} → Option ℚ
  context : DecimalContext

/-! ## The request to the provider -/

mutual
/-- A value whose members are in key order. -/
def sortKeys : Json → Json
  | .obj ms => .obj ((sortMembers ms).insertionSort fun m m' => m.1 ≤ m'.1)
  | .arr xs => .arr (sortElements xs)
  | j => j

def sortMembers : List (String × Json) → List (String × Json)
  | [] => []
  | (name, j) :: ms => (name, sortKeys j) :: sortMembers ms

def sortElements : List Json → List Json
  | [] => []
  | x :: xs => sortKeys x :: sortElements xs
end

/-- `json.dumps(value, ensure_ascii=False, separators=(",", ":"), sort_keys=True)`. -/
def sortedText (j : Json) : String := String.ofList (sortKeys j).dumps

section Requests
variable {py : Stdlib} (request : TokenizedModelRequest py)

/-- The content of the user, with its keys in order. -/
def userContent (priorOutput : Option Json) : Json :=
  .obj ([("agent_kind", .str request.agentKind.text),
      ("evidence_refs", Json.ofStrs request.evidenceRefs)] ++
    priorOutput.toList.map (fun output => ("prior_output", output)) ++
    [("prompt_version", .str request.promptVersion), ("purpose", .str request.purpose),
      ("request_id", .str request.requestId)] ++
    priorOutput.toList.map (fun _ => ("review_instruction", .str
      "Review the prior valid JSON once with high reasoning and return a corrected final JSON.")) ++
    [("subject_ref", .str request.subjectRef),
      ("tokenization", .obj [("mapping_digest", .str request.mappingDigest),
        ("receipt_id", .str request.tokenizationReceiptId),
        ("tokenizer_version", .str request.tokenizerVersion)]),
      ("tokenized_context", .str request.tokenizedContext)])

/-- The messages of a request. -/
def messages (schema : Json) (priorOutput : Option Json) : Json :=
  .arr [.obj [("role", .str "system"), ("content", .str (
        "Return one json object only. It must match this exact JSON schema; arbitrary keys are " ++
        s!"forbidden. JSON structure example and schema: {sortedText schema}. " ++
        "Perform only summary and extraction for the internal proposal fields. " ++
        "Do not call tools, send externally, or create commitments."))],
    .obj [("role", .str "user"), ("content", .str (sortedText (userContent request priorOutput)))]]

/-- `_request_payload`. -/
def requestPayload (schema : Json) (thinking : Bool) (priorOutput : Option Json) : Json :=
  .obj ([("model", .str model), ("messages", messages request schema priorOutput),
      ("response_format", .obj [("type", .str "json_object")]),
      ("thinking", .obj [("type", .str (if thinking then "enabled" else "disabled"))]),
      ("max_tokens", .int maxOutputTokens), ("stream", .bool false)] ++
    if thinking then [("reasoning_effort", .str "high")] else [])

/-- `_invocation_identity_digest`, of a document with its keys in order. -/
def invocationIdentityDigest (attempt : ℕ) : String :=
  py.sha256 (Json.dumpsAscii (.obj [("agent_kind", .str request.agentKind.text),
    ("attempt", .int attempt), ("complex_multi_entity", .bool request.complexMultiEntity),
    ("evidence_refs", Json.ofStrs request.evidenceRefs),
    ("mapping_digest", .str request.mappingDigest),
    ("output_schema_version", .str request.agentKind.outputSchemaVersion),
    ("policy_version", .str policyVersion), ("prompt_version", .str request.promptVersion),
    ("provider", .str provider), ("provider_version", .str providerVersion),
    ("purpose", .str request.purpose), ("request_id", .str request.requestId),
    ("requested_model", .str model), ("site_id", .str request.siteId),
    ("subject_ref", .str request.subjectRef),
    ("tokenization_receipt_id", .str request.tokenizationReceiptId),
    ("tokenizer_version", .str request.tokenizerVersion), ("tool_version", .str toolVersion)]))

/-- `_stable_invocation_id`. -/
def stableInvocationId (attempt : ℕ) : String :=
  "invocation-" ++ invocationIdentityDigest request attempt

/-- `_stable_idempotency_key`. -/
def stableIdempotencyKey (attempt : ℕ) : String :=
  "model-call-" ++ invocationIdentityDigest request attempt

/-! ## The response of the provider -/

/-- `_sanitize_code`. -/
def sanitizeCode (value : Option String) : Option String := value.filter isCode

/-- `_parse_usage`. -/
def parseUsage (value : Option Json) : UsageSnapshot :=
  match value.bind (·.get? "prompt_tokens"), value.bind (·.get? "completion_tokens"),
    value.bind (·.get? "total_tokens") with
  | some (.int prompt), some (.int completion), some (.int total) =>
      if prompt < 0 ∨ completion < 0 ∨ total < 0 ∨ total ≠ prompt + completion then .unknown
      else .known prompt.toNat completion.toNat
  | _, _, _ => .unknown

def forbiddenKeys : List String :=
  ["tool_calls", "external_send", "formal_price", "formal_discount", "payment",
    "delivery_commitment", "order", "won", "lost", "selected_supplier", "supplier_final_selection",
    "official_kpi", "draft_mutation", "approved_command", "execution", "execute"]

def forbiddenText : List String :=
  ["tool_calls", "external.message.send", "external send", "outbound email",
    "formal.quotation.publish", "formal price", "official price", "formal discount",
    "payment.create", "request payment", "order.create", "create order", "create the final order",
    "deal.won", "deal.lost", "deal won", "deal lost", "mark this deal won", "mark this deal lost",
    "promise the delivery", "delivery commitment", "final supplier selection", "selected supplier",
    "official kpi", "draftmutation", "approvedcommand", "execute the write", "外发", "正式报价",
    "正式价格", "正式折扣", "执行付款", "发起付款", "执行折扣", "批准折扣", "承诺交期", "创建订单",
    "赢单", "输单", "最终供应商", "供应商最终选择", "正式kpi"]

/-- `re.sub(r"[\s_-]+", "", s)`. -/
def compact (py : Stdlib) (s : List Char) : List Char :=
  s.filter fun c => !(py.isSpace c || c == '_' || c == '-')

/-- The text has no forbidden language in it. -/
def isSafeText (py : Stdlib) (s : String) : Bool :=
  let folded := py.casefold s.toList
  !forbiddenText.any fun marker =>
    containsText (py.casefold marker.toList) folded ||
      containsText (compact py (py.casefold marker.toList)) (compact py folded)

mutual
/-- `_validate_recursive_safety`, as the message of what it raises. -/
def safetyMessage (py : Stdlib) : Json → Option String
  | .obj ms => membersMessage py ms
  | .arr xs => elementsMessage py xs
  | .str s =>
      if isSafeText py s then none
      else some "model content contained forbidden action language"
  | _ => none

def membersMessage (py : Stdlib) : List (String × Json) → Option String
  | [] => none
  | (key, j) :: ms =>
      if String.ofList (slug (py.casefold key.toList)) ∈ forbiddenKeys then
        some "model content contained a forbidden result field"
      else (safetyMessage py j).or (membersMessage py ms)

def elementsMessage (py : Stdlib) : List Json → Option String
  | [] => none
  | x :: xs => (safetyMessage py x).or (elementsMessage py xs)
end

/-- The action that a proposal of the agent must have. -/
def AgentKind.expectedAction : AgentKind → String
  | sales | product => "internal.work_item.propose"
  | purchase => "internal.review_case.propose"
  | ceo | communication => "internal.ai_draft.propose"

/-- `_validate_request_binding`, as the condition under which it raises nothing. -/
def isBound (output : Json) : Bool :=
  if request.agentKind = .communication then
    output.get? "site_id" = some (.str request.siteId) &&
      output.get? "observation_id" = some (.str request.subjectRef) &&
      output.get? "evidence_refs" = some (Json.ofStrs request.evidenceRefs)
  else
    output.get? "agent_kind" = some (.str request.agentKind.text) &&
      output.get? "action_type" = some (.str request.agentKind.expectedAction) &&
      output.get? "subject_ref" = some (.str request.subjectRef) &&
      output.get? "evidence_refs" = some (Json.ofStrs request.evidenceRefs)

/-- What an accepted response holds; its model is the one requested, its finish code `stop`. -/
structure Parsed where
  output : Json
  usage : UsageSnapshot
  responseId : Option String

/-- A response that is refused. -/
def reject {α : Type} (message errorCode : String)
    (responseId observedModel finishCode : Option String) : Except Exn α :=
  .error (.gateway { message, errorCode, responseId, observedModel, finishCode })

/-- The content of a message as output. -/
def parseContent (adapter : Adapter) (responseId : Option String) (content : String) :
    Except Exn Json := do
  let refuse message errorCode : Except Exn Json :=
    reject message errorCode responseId (some model) (some "stop")
  if strip content = "" then
    refuse "model response content was empty" "response_protocol_error"
  else
    match adapter.loads content with
    | .error .decodeError => refuse "model content was not valid JSON" "output_invalid_json"
    | .error .other => .error .other
    | .ok output =>
        if output.isObj = false then
          refuse "model content must be a JSON object" "output_invalid_json"
        else match adapter.isValid (adapter.schemaOf request.agentKind) output with
          | .error _ => .error .other
          | .ok false =>
              refuse "model content failed the per-agent schema" "output_schema_invalid"
          | .ok true =>
              if isBound request output = false then
                refuse (if request.agentKind = .communication then
                  "model content did not bind to the communication request"
                  else "model content did not bind to the request") "request_binding_failed"
              else if adapter.recursionExceeded output then .error .other
              else match safetyMessage py output with
                | some message => refuse message "unsafe_output"
                | none => .ok output

/-- The one choice of a response. -/
def parseChoice (adapter : Adapter) (responseId : Option String) (choice : Json) :
    Except Exn Json :=
  let finishReason := choice.get? "finish_reason"
  let refuse message : Except Exn Json :=
    reject message "response_protocol_error" responseId (some model) (some "stop")
  if finishReason ≠ some (.str "stop") then
    reject "model response was rejected or truncated" "response_protocol_error" responseId
      (some model) (sanitizeCode (finishReason.bind Json.str?))
  else match choice.get? "message" with
    | some (.obj ms) =>
        let message := Json.obj ms
        if (message.get? "tool_calls").isSome ∨ (message.get? "refusal").any (· ≠ .null) then
          refuse "model response attempted tools or refusal"
        else match message.get? "content" with
          | some (.str content) => parseContent request adapter responseId content
          | _ => refuse "model response content was empty"
    | _ => refuse "model response message was invalid"

/-- `_parse_response`. -/
def parseResponse (adapter : Adapter) (response : Response) : Except Exn Parsed :=
  match adapter.responseJson response.content with
  | .error .decodeError =>
      reject "model HTTP response was not valid JSON" "response_invalid_json" none none none
  | .error .other => .error .other
  | .ok body =>
      let responseId := ((body.get? "id").bind Json.str?).filter fun s => s ≠ "" ∧ s.length ≤ 256
      let observedModel := ((body.get? "model").bind Json.str?).filter fun s =>
        0 < s.length ∧ s.length ≤ 160
      if body.isObj = false then
        reject "model HTTP response was not an object" "response_protocol_error" none none none
      else if body.get? "model" ≠ some (.str model) then
        reject "observed model mismatch" "model_mismatch" responseId observedModel none
      else match body.get? "choices" with
        | some (.arr [.obj choice]) => do
            let output ← parseChoice request adapter responseId (.obj choice)
            return ⟨output, parseUsage (body.get? "usage"), responseId⟩
        | _ => reject "model response choices were invalid" "response_protocol_error" responseId
            (some model) none

end Requests

/-! ## Prices -/

/-- What is computed, or the exception of a computation that has no value. -/
def orArithmetic {α : Type} : Option α → Except Exn α
  | some a => .ok a
  | none => .error .arithmetic

/-- `amount * n`. -/
def multiply (ctx : DecimalContext) (amount : Decimal) (n : ℕ) : Option Decimal :=
  Decimal.round ctx { amount with coefficient := amount.coefficient * n }

/-- `_known_price`, of the answer of the price calculator. A comparison with a NaN raises. -/
def priceOf (adapter : Adapter) : Except Exn Number → Except Exn Decimal
  | .error .arithmetic => fail "price calculator failed" "pricing_error"
  | .error e => .error e
  | .ok .nan => .error .arithmetic
  | .ok (.infinite _) => fail "price calculator returned an invalid cost" "pricing_error"
  | .ok (.finite amount) =>
      if amount.negative ∧ amount.coefficient ≠ 0 then
        fail "price calculator returned an invalid cost" "pricing_error"
      else if adapter.catalogVersion = "" then
        fail "price catalog version is unavailable" "pricing_error"
      else .ok amount

/-- A known cost. -/
def Adapter.costOf (adapter : Adapter) (amount : Decimal) : CostSnapshot :=
  ⟨true, some (.finite amount), some adapter.catalogVersion⟩

/-- The cost of the answer, and the worst cost of each ambiguous attempt. -/
def withSurcharge (ctx : DecimalContext) (price worst : Decimal) (ambiguousAttempts : ℕ) :
    Option Decimal :=
  if ambiguousAttempts = 0 then some price
  else (multiply ctx worst ambiguousAttempts).bind (Decimal.add ctx price)

/-! ## One call -/

/-- What has been counted so far. -/
structure Progress where
  networkCalls : ℕ := 0
  ambiguousAttempts : ℕ := 0

/-- What becomes of an attempt. -/
inductive Verdict where
  | accepted (response : Response)
  | retried (ambiguous : Bool) (message errorCode : String)
  | refused (e : Exn)

/-- The reading of an answer of the transport. -/
def verdict (networkCalls : ℕ) : Except Exn Response → Verdict
  | .error (.transport ambiguous) =>
      .retried ambiguous "model transport failed after retries" "transport_exhausted"
  | .error e => .refused e
  | .ok response =>
      if response.statusCode = 429 ∨ 500 ≤ response.statusCode then
        .retried (500 ≤ response.statusCode) "retryable model response exhausted retries"
          "retry_exhausted"
      else if 200 ≤ response.statusCode ∧ response.statusCode < 300 then .accepted response
      else .refused (.gateway { message := "non-retryable model response",
                                errorCode := "provider_http_error", networkCalls })

/-- The loop over the attempts that remain: a response, or what is raised, and the counts. -/
def tryAttempts (attempt : ℕ) (reservation : BudgetReservation) (payload : Json) :
    ℕ → Progress → Gateway (Except Exn Response × Progress)
  | 0, progress =>
      pure (fail "model response unavailable" "internal_error" progress.networkCalls, progress)
  | remaining + 1, progress => do
      match ← (ask attempt (.ensureCanAttempt reservation)).attempt with
      | .error e => pure (.error e, progress)
      | .ok _ =>
          let progress := { progress with networkCalls := progress.networkCalls + 1 }
          match verdict progress.networkCalls (← (ask attempt (.post payload)).attempt) with
          | .accepted response => pure (.ok response, progress)
          | .refused e => pure (.error e, progress)
          | .retried ambiguous message errorCode =>
              let progress := { progress with
                ambiguousAttempts := progress.ambiguousAttempts + ambiguous.toNat }
              if remaining = 0 then
                pure (fail message errorCode progress.networkCalls, progress)
              else
                let delay : Gateway Unit :=
                  ask attempt (.retryDelay (maxNetworkAttempts - 1 - remaining))
                match ← delay.attempt with
                | .error e => pure (.error e, progress)
                | .ok _ => tryAttempts attempt reservation payload remaining progress

/-- `_CallResult`; its cost is known, its model and its finish code are those of `Parsed`. -/
structure CallResult where
  output : Json
  usage : UsageSnapshot
  responseId : Option String
  networkCalls : ℕ
  amountUsd : Decimal

section Calls
variable {py : Stdlib} (adapter : Adapter) (request : TokenizedModelRequest py) (attempt : ℕ)

/-- The response is read, priced and settled. -/
def settleResponse (reservation : BudgetReservation) (worst : Decimal) (progress : Progress)
    (response : Response) : Gateway CallResult := do
  let parsed ← ofExcept (parseResponse request adapter response)
  match parsed.usage with
  | .unknown =>
      ofExcept (.error (.gateway {
        message := "model cost is unknown", errorCode := "pricing_error",
        networkCalls := progress.networkCalls, responseId := parsed.responseId,
        observedModel := some model, finishCode := some "stop" }))
  | .known inputTokens outputTokens => do
      let answer ← (ask attempt (.calculate inputTokens outputTokens)).attempt
      let price ← ofExcept (priceOf adapter answer)
      let amount ← ofExcept (orArithmetic
        (withSurcharge adapter.context price worst progress.ambiguousAttempts))
      ask attempt (.settle reservation parsed.usage (adapter.costOf amount))
      return ⟨parsed.output, parsed.usage, parsed.responseId, progress.networkCalls, amount⟩

/-- The attempts with their reservation; a failure consumes it or gives it back. -/
def spend (reservation : BudgetReservation) (worst : Decimal) (payload : Json) :
    Gateway CallResult := do
  let (response, progress) ← tryAttempts attempt reservation payload maxNetworkAttempts {}
  let settled : Gateway CallResult :=
    ofExcept response >>= settleResponse adapter request attempt reservation worst progress
  match ← settled.attempt with
  | .ok result => return result
  | .error (.gateway failure) =>
      if 0 < progress.networkCalls then
        let cost ← ask attempt (.consume reservation)
        Prog.raise (.gateway { failure with networkCalls := progress.networkCalls, cost })
      else
        ask attempt (.release reservation)
        Prog.raise (.gateway { failure with networkCalls := progress.networkCalls })
  | .error e => Prog.raise e

/-- `_call`. -/
def call (thinking : Bool) (priorOutput : Option Json) : Gateway CallResult := do
  if adapter.networkEnabled = false then
    ofExcept (fail "model network is disabled" "network_disabled")
  else
    let schema := adapter.schemaOf request.agentKind
    let countedInput : ℕ ← ask attempt (.count (messages request schema priorOutput).dumps)
    if maxInputTokens < countedInput then
      ofExcept (fail "model input token limit exceeded" "input_token_limit")
    else
      let answer ← (ask attempt (.calculate maxInputTokens maxOutputTokens)).attempt
      let worst ← ofExcept (priceOf adapter answer)
      let amount ← ofExcept (orArithmetic (multiply adapter.context worst maxNetworkAttempts))
      let reservation ← ask attempt (.reserve (stableInvocationId request attempt) amount
        adapter.catalogVersion adapter.tokenCounterVersion)
      spend adapter request attempt reservation worst
        (requestPayload request schema thinking priorOutput)

/-! ## The record of a call -/

/-- `_audit_usage`. -/
def auditUsage : UsageSnapshot → TokenUsageMetadata
  | .unknown => .unknown
  | .known inputTokens outputTokens => .known inputTokens outputTokens

/-- `_audit_cost`. -/
def auditCost (cost : CostSnapshot) : Except Exn CostMetadata :=
  if cost.isKnown = false then .ok .unknown
  else match cost.amountUsd with
    | some (.finite amount) =>
        if h : (amount.negative = false ∨ amount.coefficient = 0) ∧ isCurrency "USD" = true then
          .ok (.known amount "USD" h)
        else .error .arithmetic
    | some _ => .error .arithmetic
    | none => .error .other

/-- `_output_digest`. -/
def outputDigest (py : Stdlib) (output : Json) : Except Exn String :=
  if adapter.canEncode output then .ok (py.sha256 (sortKeys output).dumps)
  else .error .arithmetic

/-- What a call came to. -/
structure Report where
  status : InvocationStatus
  usage : UsageSnapshot
  cost : CostSnapshot
  networkCalls : ℕ
  observedModel : Option String
  responseId : Option String
  finishCode : Option String
  errorCode : Option String
  output : Option Json

def CallResult.report (adapter : Adapter) (result : CallResult) : Report :=
  ⟨.succeeded, result.usage, adapter.costOf result.amountUsd, result.networkCalls, some model,
    result.responseId, some "stop", none, some result.output⟩

def Failure.report (failure : Failure) : Report :=
  ⟨.failed, .unknown, failure.cost, failure.networkCalls, failure.observedModel,
    failure.responseId, failure.finishCode, some failure.errorCode, none⟩

/-- The numbers that have no order with others are the NaNs. -/
def Number.reaches : Number → ℚ → Option Bool
  | .finite d, limit => some (limit ≤ d.value)
  | .infinite negative, _ => some !negative
  | .nan, _ => none

/-- The state of the budget; no value where the comparison raises. -/
def budgetStatus (errorCode : Option String) (monthly : Number) : Option BudgetAuditStatus :=
  if errorCode = some "network_disabled" then some .networkDisabled
  else if errorCode = some "budget_hard_stop" then some .hardStop
  else (monthly.reaches softMonthlyLimitUsd).map fun reached =>
    if reached then .warning else .normal

/-- The references of a record, if the constructor admits them. -/
def referencesOf : Option InvocationReferences :=
  if h : ∀ values ∈ [[], request.evidenceRefs, [request.tokenizationReceiptId]],
      values.Nodup ∧ ∀ value ∈ values, value ≠ "" ∧ value.length ≤ 256 then
    some ⟨[], request.evidenceRefs, [request.tokenizationReceiptId], h⟩
  else none

/-- The record of a call. -/
def recordOf (startedAt completedAt : Datetime) (latencyMs : ℤ) (report : Report)
    (monthly : Number) : Except Exn ModelInvocationRecord := do
  let budgetStatus ← orArithmetic (budgetStatus report.errorCode monthly)
  let cost ← auditCost report.cost
  let references ← orArithmetic (referencesOf request)
  let outputDigest ← report.output.mapM (outputDigest adapter py)
  let fields : InvocationFields := {
    invocationId := stableInvocationId request attempt
    siteId := request.siteId
    provider
    requestedModel := model
    observedModel := report.observedModel
    promptVersion := request.promptVersion
    outputSchemaVersion := request.agentKind.outputSchemaVersion
    policyVersion
    tokenizerVersion := request.tokenizerVersion
    requestId := request.requestId
    responseId := report.responseId
    startedAt
    completedAt := some completedAt
    latencyMs := some latencyMs
    status := report.status
    tokenUsage := auditUsage report.usage
    cost
    networkCallCount := report.networkCalls
    toolCallCount := 0
    externalSendCount := 0
    references
    idempotencyKey := stableIdempotencyKey request attempt
    attempt
    retryCount := max ((report.networkCalls : ℤ) - 1) 0
    finishCode := sanitizeCode report.finishCode
    errorCode := report.errorCode
    budgetStatus
    priceCatalogVersion := report.cost.catalogVersion
    outputDigest }
  if h : fields.postInit = .ok () then .ok ⟨fields, h⟩ else .error .arithmetic

/-- The milliseconds between two readings; no value where they are no `int`. -/
def latencyMs (started ended : Option ℚ) : Option ℤ := do
  let elapsed := binary64.round ((← ended) - (← started))
  let milliseconds := binary64.round (elapsed * 1000)
  if 2 ^ 1024 ≤ |elapsed| ∨ 2 ^ 1024 ≤ |milliseconds| then none
  else some (max 0 ⌊milliseconds⌋)

/-- `_validated_clock_now`. -/
def validatedClockNow : Gateway Datetime := do
  match ← ask attempt .clock with
  | some value => return value
  | none => ofExcept (fail "audit clock must return a timezone-aware datetime" "internal_error")

/-- The end of a call: its record is built and handed to the recorder. -/
def emitAudit (startedAt : Datetime) (startedTick : Option ℚ) (report : Report) :
    Gateway ModelInvocationRecord := do
  let completedAt ← validatedClockNow attempt
  let latency ← ofExcept (orArithmetic (latencyMs startedTick (← ask attempt .monotonic)))
  let monthly ← ask attempt .monthlyCostUsd
  let record ← ofExcept
    (recordOf adapter request attempt startedAt completedAt latency report monthly)
  ask attempt (.record record)
  return record

/-- `_invoke_logical_call`. -/
def invokeLogicalCall (thinking : Bool) (priorOutput : Option Json) :
    Gateway (CallResult × ModelInvocationRecord) := do
  let startedAt ← validatedClockNow attempt
  let startedTick ← ask attempt .monotonic
  match ← (call adapter request attempt thinking priorOutput).attempt with
  | .error (.gateway failure) =>
      let record ← emitAudit adapter request attempt startedAt startedTick failure.report
      Prog.raise (.gateway { failure with auditRecords := [record] })
  | .error e => Prog.raise e
  | .ok result =>
      let record ← emitAudit adapter request attempt startedAt startedTick (result.report adapter)
      return (result, record)

/-! ## A request -/

/-- `_combine_usage`. -/
def combineUsage : List UsageSnapshot → UsageSnapshot
  | [] => .known 0 0
  | .unknown :: _ => .unknown
  | .known inputTokens outputTokens :: values =>
      match combineUsage values with
      | .unknown => .unknown
      | .known inputs outputs => .known (inputTokens + inputs) (outputTokens + outputs)

/-- `_combine_cost`, of the known costs of calls under the one catalog of the adapter. -/
def combineCost (amounts : List Decimal) : Option CostSnapshot :=
  (Decimal.sum adapter.context ⟨false, 0, 0⟩ amounts).map adapter.costOf

/-- `GatewayResult`; the other fields are constants or repeat one of these. -/
structure GatewayResult where
  output : Json
  usage : UsageSnapshot
  cost : CostSnapshot
  warning : Bool
  networkCalls : ℕ
  invocations : List ModelInvocationRecord

/-- The answer is to be reviewed: the request is complex, or the confidence low or no number. -/
def needsReview (output : Json) : Bool :=
  request.complexMultiEntity ||
    match output.get? "confidence" with
    | some (.int n) => n ≤ 0
    | some (.real x) =>
        match adapter.float x with
        | some confidence => confidence < 3 / 4
        | none => x.1.head? = some '-'
    | _ => true

/-- The second call, which reviews the answer of the first. -/
def reviewCall (first : CallResult × ModelInvocationRecord) :
    Gateway (CallResult × ModelInvocationRecord) := do
  match ← (invokeLogicalCall adapter request 2 true (some first.1.output)).attempt with
  | .ok final => return final
  | .error (.gateway failure) =>
      Prog.raise (.gateway { failure with auditRecords := first.2 :: failure.auditRecords })
  | .error e => Prog.raise e

/-- The budget warns before or after the request. -/
def warns (monthlyBefore monthlyAfter : Number) : Option Bool := do
  if ← monthlyBefore.reaches softMonthlyLimitUsd then return true
  else monthlyAfter.reaches softMonthlyLimitUsd

/-- The result of the calls of a request, of which the last one gives the output. -/
def combine (monthlyBefore : Number) (final : CallResult)
    (calls : List (CallResult × ModelInvocationRecord)) : Gateway GatewayResult := do
  let cost ← ofExcept (orArithmetic (combineCost adapter (calls.map (·.1.amountUsd))))
  let monthlyAfter ← ask 0 .monthlyCostUsd
  let warning ← ofExcept (orArithmetic (warns monthlyBefore monthlyAfter))
  return { output := final.output, usage := combineUsage (calls.map (·.1.usage)), cost, warning,
           networkCalls := (calls.map (·.1.networkCalls)).sum, invocations := calls.map (·.2) }

/-- `invoke`. -/
def invoke : Gateway GatewayResult := do
  let monthlyBefore ← ask 0 .monthlyCostUsd
  let first ← invokeLogicalCall adapter request 1 false none
  if needsReview adapter request first.1.output then
    let final ← reviewCall adapter request first
    combine adapter monthlyBefore final.1 [first, final]
  else combine adapter monthlyBefore first.1 [first]

end Calls

end EsanGbos.ModelGateway.DeepSeek
