import EsanGbos.Lib.Columns
import EsanGbos.Lib.Machine
import EsanGbos.Lib.Proc
import EsanGbos.Lib.Table
import EsanGbos.AgentRuntime.Invocations

/-!
# The two repositories of invocation records

`InMemoryModelInvocationRepository` looks a record up by its idempotency key and by its identifier.
`PostgresModelInvocationRepository` inserts it into a table that is unique in both, and asks about
one of them. Transactions run one after the other, and the session's time zone is UTC.

## Main definitions

* `InvocationRow` — the columns of a record, with `recordParams` and `recordFromRow`.
* `Memory.append`, `Postgres.append` — the operations.
* `AppendsAlike` — the condition under which they do the same.

## Main results

* `append_agrees_iff` — a run is answered alike exactly if all its records meet the condition.
-/
namespace EsanGbos.AgentRuntime.InvocationStore
open Lib

/-- The exceptions of the repositories: their own, and those of the database. -/
inductive AppendError where
  | raise (e : Raise)
  | integrityError
  | dataError
deriving DecidableEq

abbrev Operation (σ α : Type) := Proc AppendError σ α

def keyConflict : AppendError := .raise (.idempotencyConflict
  "model invocation idempotency key was reused with different metadata")

def idConflict : AppendError := .raise (.idempotencyConflict
  "model invocation id was reused with different metadata")

/-! ## In memory -/

structure Memory where
  records : Dict (String × String) ModelInvocationRecord := Dict.empty
  idempotency : Dict (String × String) ModelInvocationRecord := Dict.empty

/-- `_append`. -/
def Memory.append (record : ModelInvocationRecord) : Operation Memory ModelInvocationRecord := do
  let s ← get
  match s.idempotency.get? (record.siteId, record.idempotencyKey) with
  | some existing =>
      if existing.eq record then return existing else throw keyConflict
  | none =>
      if (s.records.get? (record.siteId, record.invocationId)).isSome then throw idConflict
      set (Memory.mk (s.records.set (record.siteId, record.invocationId) record)
        (s.idempotency.set (record.siteId, record.idempotencyKey) record))
      return record

def Memory.machine :
    Machine Memory ModelInvocationRecord (Except AppendError ModelInvocationRecord) where
  step s record := (Memory.append record).run s

/-! ## The table -/

inductive UsageStatus where
  | known | unknown
deriving DecidableEq

/-- A row of `model_invocations`, next to its site and identifier. -/
structure InvocationRow where
  idempotencyKey : String
  provider : String
  requestedModel : String
  observedModel : Option String
  promptVersion : String
  outputSchemaVersion : String
  policyVersion : String
  tokenizerVersion : String
  requestId : String
  responseId : Option String
  startedAt : ℤ
  completedAt : Option ℤ
  latencyMs : Option ℤ
  status : InvocationStatus
  tokenUsageStatus : UsageStatus
  inputTokens : Option ℤ
  outputTokens : Option ℤ
  totalTokens : Option ℤ
  costStatus : UsageStatus
  costAmount : Option Decimal
  costCurrency : Option String
  networkCallCount : ℤ
  toolCallCount : ℤ
  externalSendCount : ℤ
  observationEventRefs : List String
  evidenceRefs : List String
  tokenizationReceiptRefs : List String
  attempt : ℤ
  retryCount : ℤ
  finishCode : Option String
  errorCode : Option String
  budgetStatus : BudgetAuditStatus
  priceCatalogVersion : Option String
  outputDigest : Option String

abbrev Tables := Dict (String × String) InvocationRow

/-- The token counts of a record, as parameters. -/
def tokenParams : TokenUsageMetadata → UsageStatus × Option ℤ × Option ℤ × Option ℤ
  | .unknown => (.unknown, none, none, none)
  | .known input output => (.known, some input, some output, some (input + output))

/-- The constructor of `TokenUsageMetadata`. -/
def tokenUsageOf : UsageStatus → Option ℤ → Option ℤ → Option ℤ →
    Except AppendError TokenUsageMetadata
  | .unknown, none, none, none => .ok .unknown
  | .unknown, _, _, _ =>
      .error (.raise (.valueError "unknown token usage cannot contain token counts"))
  | .known, some (.ofNat input), some (.ofNat output), some (.ofNat total) =>
      if total = input + output then .ok (.known input output)
      else .error (.raise
        (.valueError "total_tokens must equal input_tokens plus output_tokens"))
  | .known, _, _, _ =>
      .error (.raise (.valueError "known token usage requires non-negative integer counts"))

/-- The cost of a record, as parameters. -/
def costParams : CostMetadata → UsageStatus × Option Decimal × Option String
  | .unknown => (.unknown, none, none)
  | .known amount currency _ => (.known, some amount, some currency)

/-- The constructor of `CostMetadata`. -/
def costOf : UsageStatus → Option Decimal → Option String → Except AppendError CostMetadata
  | .unknown, none, none => .ok .unknown
  | .unknown, _, _ =>
      .error (.raise (.valueError "unknown cost cannot contain amount or currency"))
  | .known, some amount, currency =>
      if hamount : amount.negative = false ∨ amount.coefficient = 0 then
        match currency with
        | some currency =>
            if hcurrency : isCurrency currency = true then
              .ok (.known amount currency ⟨hamount, hcurrency⟩)
            else .error (.raise (.valueError "known cost requires an ISO-style currency code"))
        | none => .error (.raise (.valueError "known cost requires an ISO-style currency code"))
      else .error (.raise (.valueError "known cost requires a finite non-negative amount"))
  | .known, none, _ =>
      .error (.raise (.valueError "known cost requires a finite non-negative amount"))

/-- The check of one list of references. -/
def referencesMessage (name : String) (values : List String) : Option String :=
  if ¬values.Nodup then some s!"{name} must be unique"
  else if ∃ value ∈ values, value = "" ∨ 256 < value.length then
    some s!"{name} entries must be non-empty and at most 256 characters"
  else none

theorem referencesMessage_eq_none {name : String} {values : List String} :
    referencesMessage name values = none ↔
      values.Nodup ∧ ∀ value ∈ values, value ≠ "" ∧ value.length ≤ 256 := by
  unfold referencesMessage
  by_cases hnodup : values.Nodup
  · simp [hnodup]
  · simp [hnodup]

theorem references_valid {observationEventRefs evidenceRefs tokenizationReceiptRefs : List String}
    (hobservation : referencesMessage "observation_event_refs" observationEventRefs = none)
    (hevidence : referencesMessage "evidence_refs" evidenceRefs = none)
    (hreceipt : referencesMessage "tokenization_receipt_refs" tokenizationReceiptRefs = none) :
    ∀ values ∈ [observationEventRefs, evidenceRefs, tokenizationReceiptRefs],
      values.Nodup ∧ ∀ value ∈ values, value ≠ "" ∧ value.length ≤ 256 := by
  intro values hvalues
  simp only [List.mem_cons, List.not_mem_nil, or_false] at hvalues
  rcases hvalues with rfl | rfl | rfl
  · exact referencesMessage_eq_none.mp hobservation
  · exact referencesMessage_eq_none.mp hevidence
  · exact referencesMessage_eq_none.mp hreceipt

/-- The constructor of `InvocationReferences`. -/
def referencesOf (observationEventRefs evidenceRefs tokenizationReceiptRefs : List String) :
    Except AppendError InvocationReferences :=
  match hobservation : referencesMessage "observation_event_refs" observationEventRefs,
      hevidence : referencesMessage "evidence_refs" evidenceRefs,
      hreceipt : referencesMessage "tokenization_receipt_refs" tokenizationReceiptRefs with
  | some message, _, _ | none, some message, _ | none, none, some message =>
      .error (.raise (.valueError message))
  | none, none, none =>
      .ok ⟨observationEventRefs, evidenceRefs, tokenizationReceiptRefs,
        references_valid hobservation hevidence hreceipt⟩

/-- The texts of a record, those in its documents among them. -/
def texts (r : InvocationFields) : List String :=
  [r.invocationId, r.siteId, r.provider, r.requestedModel, r.promptVersion, r.outputSchemaVersion,
    r.policyVersion, r.tokenizerVersion, r.requestId, r.idempotencyKey] ++
  [r.observedModel, r.responseId, r.finishCode, r.errorCode, r.priceCatalogVersion,
    r.outputDigest].filterMap id ++
  r.references.observationEventRefs ++ r.references.evidenceRefs ++
  r.references.tokenizationReceiptRefs

/-- Every value of the record fits its column. -/
def fitsColumns (r : InvocationFields) : Bool :=
  (texts r).all isText && r.latencyMs.all isBigint &&
    (tokenParams r.tokenUsage).2.2.2.all isBigint &&
    (costParams r.cost).2.1.all (fun amount => (numericOf amount).isSome) &&
    [r.networkCallCount, r.toolCallCount, r.externalSendCount, r.attempt, r.retryCount].all isInteger

/-- The columns of a record. -/
def rowOf (r : InvocationFields) : InvocationRow :=
  { idempotencyKey := r.idempotencyKey
    provider := r.provider
    requestedModel := r.requestedModel
    observedModel := r.observedModel
    promptVersion := r.promptVersion
    outputSchemaVersion := r.outputSchemaVersion
    policyVersion := r.policyVersion
    tokenizerVersion := r.tokenizerVersion
    requestId := r.requestId
    responseId := r.responseId
    startedAt := r.startedAt.instant
    completedAt := r.completedAt.map Datetime.instant
    latencyMs := r.latencyMs
    status := r.status
    tokenUsageStatus := (tokenParams r.tokenUsage).1
    inputTokens := (tokenParams r.tokenUsage).2.1
    outputTokens := (tokenParams r.tokenUsage).2.2.1
    totalTokens := (tokenParams r.tokenUsage).2.2.2
    costStatus := (costParams r.cost).1
    costAmount := (costParams r.cost).2.1.bind numericOf
    costCurrency := (costParams r.cost).2.2
    networkCallCount := r.networkCallCount
    toolCallCount := r.toolCallCount
    externalSendCount := r.externalSendCount
    observationEventRefs := r.references.observationEventRefs
    evidenceRefs := r.references.evidenceRefs
    tokenizationReceiptRefs := r.references.tokenizationReceiptRefs
    attempt := r.attempt
    retryCount := r.retryCount
    finishCode := r.finishCode
    errorCode := r.errorCode
    budgetStatus := r.budgetStatus
    priceCatalogVersion := r.priceCatalogVersion
    outputDigest := r.outputDigest }

/-- `_record_params`, as the statement reads them. -/
def recordParams (r : InvocationFields) : Except AppendError InvocationRow :=
  if fitsColumns r then .ok (rowOf r) else .error .dataError

/-- A time that comes back in UTC. -/
def datetimeOf (t : ℤ) : Except AppendError Datetime :=
  match Datetime.of? t 0 with
  | some d => .ok d
  | none => .error .dataError

/-- `_record_from_row`. -/
def recordFromRow (key : String × String) (row : InvocationRow) :
    Except AppendError ModelInvocationRecord := do
  let startedAt ← datetimeOf row.startedAt
  let completedAt ← row.completedAt.mapM datetimeOf
  let tokenUsage ← tokenUsageOf row.tokenUsageStatus row.inputTokens row.outputTokens row.totalTokens
  let cost ← costOf row.costStatus row.costAmount row.costCurrency
  let references ←
    referencesOf row.observationEventRefs row.evidenceRefs row.tokenizationReceiptRefs
  let fields : InvocationFields := {
    invocationId := key.2
    siteId := key.1
    provider := row.provider
    requestedModel := row.requestedModel
    observedModel := row.observedModel
    promptVersion := row.promptVersion
    outputSchemaVersion := row.outputSchemaVersion
    policyVersion := row.policyVersion
    tokenizerVersion := row.tokenizerVersion
    requestId := row.requestId
    responseId := row.responseId
    startedAt
    completedAt
    latencyMs := row.latencyMs
    status := row.status
    tokenUsage
    cost
    networkCallCount := row.networkCallCount
    toolCallCount := row.toolCallCount
    externalSendCount := row.externalSendCount
    references
    idempotencyKey := row.idempotencyKey
    attempt := row.attempt
    retryCount := row.retryCount
    finishCode := row.finishCode
    errorCode := row.errorCode
    budgetStatus := row.budgetStatus
    priceCatalogVersion := row.priceCatalogVersion
    outputDigest := row.outputDigest }
  match h : fields.postInit with
  | .ok () => return ⟨fields, h⟩
  | .error e => throw (.raise e)

/-! ## The checks of the table -/

namespace InvocationRow
variable (siteId invocationId : String) (row : InvocationRow)

def textsAdmitted : Bool :=
  isSite siteId && siteId.length ≤ 140 && lengthIn 1 256 invocationId &&
    lengthIn 1 256 row.idempotencyKey && lengthIn 1 80 row.provider &&
    lengthIn 1 160 row.requestedModel && row.observedModel.all (lengthIn 1 160) &&
    lengthIn 1 80 row.promptVersion && lengthIn 1 80 row.outputSchemaVersion &&
    lengthIn 1 80 row.policyVersion && lengthIn 1 80 row.tokenizerVersion &&
    lengthIn 1 256 row.requestId && row.responseId.all (lengthIn 1 256)

def timesAdmitted : Bool :=
  match row.completedAt, row.latencyMs with
  | none, none => true
  | some completedAt, some latencyMs => row.startedAt ≤ completedAt && 0 ≤ latencyMs
  | some completedAt, none => row.startedAt ≤ completedAt
  | none, some _ => false

def tokensAdmitted : Bool :=
  match row.tokenUsageStatus, row.inputTokens, row.outputTokens, row.totalTokens with
  | .unknown, none, none, none => true
  | .known, some input, some output, some total =>
      0 ≤ input && 0 ≤ output && total = input + output
  | .known, input, output, _ => input.all (0 ≤ ·) && output.all (0 ≤ ·)
  | _, _, _, _ => false

def costAdmitted : Bool :=
  match row.costStatus with
  | .unknown => row.costAmount.isNone && row.costCurrency.isNone
  | .known =>
      row.costAmount.all (fun amount => !amount.negative || amount.coefficient = 0) &&
        row.costCurrency.all isCurrency && row.priceCatalogVersion.all (lengthIn 1 80)

def countsAdmitted : Bool :=
  0 ≤ row.networkCallCount && 0 ≤ row.toolCallCount && 0 ≤ row.externalSendCount &&
    1 ≤ row.attempt && 0 ≤ row.retryCount &&
    (row.networkCallCount = 0 && row.retryCount = 0 ||
      0 < row.networkCallCount && row.retryCount < row.networkCallCount)

def outcomeAdmitted : Bool :=
  row.finishCode.all isCode && row.errorCode.all (· ∈ errorCodes) &&
    row.outputDigest.all isDigest &&
    if row.status = .succeeded then row.errorCode.isNone else row.errorCode.isSome

/-- The checks that no column type makes. A check of a missing value is passed. -/
def isAdmitted : Bool :=
  row.textsAdmitted siteId invocationId && row.timesAdmitted && row.tokensAdmitted &&
    row.costAdmitted && row.countsAdmitted && row.outcomeAdmitted

end InvocationRow

/-- A row of the site with the key of the record. -/
def isConflict (record : ModelInvocationRecord) (e : (String × String) × InvocationRow) : Bool :=
  e.1.1 = record.siteId && e.2.idempotencyKey = record.idempotencyKey

/-- `append`, in one transaction. -/
def Postgres.append (record : ModelInvocationRecord) : Operation Tables ModelInvocationRecord :=
  Proc.atomically do
    let row ← recordParams record.toInvocationFields
    if !row.isAdmitted record.siteId record.invocationId then throw .integrityError
    let s ← get
    match s.items.find? (isConflict record) with
    | none =>
        if (s.get? (record.siteId, record.invocationId)).isSome then throw .integrityError
        set (s.set (record.siteId, record.invocationId) row)
        recordFromRow (record.siteId, record.invocationId) row
    | some (key, row) =>
        let existing ← recordFromRow key row
        if existing.eq record then return existing else throw keyConflict

def Postgres.machine :
    Machine Tables ModelInvocationRecord (Except AppendError ModelInvocationRecord) where
  step s record := (Postgres.append record).run s

end EsanGbos.AgentRuntime.InvocationStore
