import EsanGbos.Lib.Table
import EsanGbos.Stdlib

/-!
# Publishing an import

The publisher maps what an import found to governed records: evidence, facts and proposals of
entities. It builds and checks every record first and then saves them one after another; a save is
idempotent by the key of its record, and no transaction spans two of them.

## Main definitions

* `ImportResult` — what an import found.
* `pendingRecords` — the records of an import, built and checked.
* `InMemoryContextRepository.save` — one save.
* `publish` — the whole of it, with the faults of an attempt.
-/
namespace EsanGbos.Context.Publisher
open Lib

/-! ## Imports -/

/-- A `datetime`; a naive one is no value. -/
abbrev WireTime := Option Datetime

/-- `ByteLocator`, a non-empty half-open range. -/
structure ByteLocator where
  start : ℕ
  finish : ℕ
  start_lt : start < finish
deriving DecidableEq

/-- What the publisher reads of a `CanonicalObservation`. -/
structure Observation where
  eventId : String
  siteId : String
  processingPurpose : String
  connector : String
  occurredAt : WireTime
  ingestedAt : WireTime
  correlationId : String
deriving DecidableEq

/-- What it reads of an `EvidenceRecord`. -/
structure EvidenceRecord where
  evidenceId : String
  observationEventId : String
  siteId : String
  processingPurpose : String
  dataClassification : String
  sourceLineage : List String
  processorVersion : String
  rawSha256 : String
  objectRef : String
  mediaType : String
  locator : ByteLocator
deriving DecidableEq

/-- What it reads of a `FactProposal`. -/
structure FactProposal where
  factId : String
  siteId : String
  processingPurpose : String
  dataClassification : String
  sourceLineage : List String
  processorVersion : String
  ruleVersion : String
  outputVersion : String
  subjectRef : String
  predicate : String
  value : String
  confidence : Json
  evidenceRefs : List String
  status : String

/-- What it reads of an `EntityResolutionProposal`. -/
structure EntityResolutionProposal where
  proposalId : String
  siteId : String
  processingPurpose : String
  dataClassification : String
  sourceLineage : List String
  processorVersion : String
  ruleVersion : String
  outputVersion : String
  observedIdentityRef : String
  candidateIdentityRefs : List String
  confidence : Json
  evidenceRefs : List String
  status : String

structure ImportResult where
  observation : Observation
  evidence : List EvidenceRecord
  factProposals : List FactProposal
  entityResolutionProposals : List EntityResolutionProposal

/-! ## Records -/

/-- What a publication raises. -/
inductive PublishError where
  | validation (message : String)
  | contract (kind : String)
  | idempotencyConflict
  | overflow
  | transient
deriving DecidableEq

inductive RecordKind where
  | evidence | factProposal | entityResolutionProposal
deriving DecidableEq

namespace RecordKind

def value : RecordKind → String
  | evidence => "evidence_record"
  | factProposal => "fact_proposal"
  | entityResolutionProposal => "entity_resolution_proposal"

/-- `RECORD_ID_FIELDS`. -/
def idField : RecordKind → String
  | evidence => "evidence_record_id"
  | factProposal => "fact_proposal_record_id"
  | entityResolutionProposal => "entity_resolution_proposal_id"

end RecordKind

/-- `ALLOWED_PROCESSING_PURPOSES`. -/
def allowedProcessingPurposes : List String :=
  ["business_operations", "observation_processing", "entity_resolution", "customer_service",
    "sales_follow_up", "procurement_coordination", "product_sample_management", "risk_review",
    "metric_reporting", "audit_compliance"]

structure TenantScope where
  siteId : String
  processingPurpose : String
deriving DecidableEq

/-- `TenantScope.__post_init__`. -/
def TenantScope.check (scope : TenantScope) : Except PublishError Unit := do
  Proc.rejectIf (scope.siteId = "" ∨ 140 < scope.siteId.toList.length)
    (.validation "site_id must be present and at most 140 characters")
  Proc.rejectIf (scope.processingPurpose ∉ allowedProcessingPurposes)
    (.validation "processing_purpose is not governed or recognized")

structure GovernedEnvelope where
  siteId : String
  processingPurpose : String
  idempotencyKey : String
  payloadDigest : String
  payload : Json

/-- `RecordMetadata`. -/
structure RecordMetadata where
  kind : RecordKind
  recordId : String
  siteId : String
  processingPurpose : String
  idempotencyKey : String
  payloadDigest : String
  recordedAt : Datetime
deriving DecidableEq

/-- The contracts of the three kinds of record. A record has an identifier, and a proposal remains
proposed. -/
structure Contracts where
  accepts : RecordKind → Json → Bool
  identified : ∀ kind payload, accepts kind payload = true →
    ∃ id, id ≠ "" ∧ payload.get? kind.idField = some (.str id)
  factProposed : ∀ payload, accepts .factProposal payload = true →
    (payload.get? "fact").bind (·.get? "status") = some (.str "proposed")
  entityProposed : ∀ payload, accepts .entityResolutionProposal payload = true →
    payload.get? "status" = some (.str "proposed")

/-- `_PendingRecord`. -/
structure PendingRecord where
  scope : TenantScope
  kind : RecordKind
  envelope : GovernedEnvelope

/-! ## Payloads -/

/-- `_timestamp`. -/
def timestamp (value : WireTime) : Except PublishError String :=
  match value with
  | none => .error (.validation "Context wire timestamps must be timezone-aware")
  | some d =>
      match Datetime.of? d.instant 0 with
      | none => .error .overflow
      | some utc => .ok (String.ofList (replace utc.isoformat "+00:00".toList "Z".toList))

/-- `_source_lineage`; `list(dict.fromkeys(refs))` keeps the first of equal references. -/
def sourceLineage (sourceSystem : String) (refs : List String) (retrievedAt : String)
    (transformationVersion : String) : Json :=
  .obj [("evidence_status", .str "synthetic"), ("retrieved_at", .str retrievedAt),
    ("source_record_refs", .ofStrs refs.reverse.dedup.reverse),
    ("source_system", .str sourceSystem), ("transformation_version", .str transformationVersion)]

/-- `_translate_evidence_refs`. -/
def translateEvidenceRefs (evidenceRefs : List String)
    (evidenceRecordIds : List (String × String)) : Except PublishError (List String) :=
  evidenceRefs.mapM fun evidenceId =>
    match evidenceRecordIds.lookup evidenceId with
    | some id => .ok id
    | none => .error
        (.validation ("proposal references unpublished Observer evidence: " ++ evidenceId))

/-- `_evidence_payload`, with its keys in order. -/
def evidencePayload (observation : Observation) (evidence : EvidenceRecord)
    (evidenceRecordId : String) (recordedAt : WireTime) : Except PublishError Json := do
  let recorded ← timestamp recordedAt
  return .obj [("data_classification", .str evidence.dataClassification),
    ("evidence_record_id", .str evidenceRecordId),
    ("evidence_ref", .obj [("created_at", .str recorded),
      ("evidence_id", .str evidence.evidenceId),
      ("locator", .obj [("message_end", .int evidence.locator.finish),
        ("message_start", .int evidence.locator.start)]),
      ("media_type", .str evidence.mediaType), ("object_ref", .str evidence.objectRef),
      ("observation_event_id", .str evidence.observationEventId),
      ("raw_sha256", .str evidence.rawSha256), ("schema_version", .str "1.0")]),
    ("processing_purpose", .str evidence.processingPurpose), ("recorded_at", .str recorded),
    ("review_status", .str "unreviewed"), ("schema_version", .str "2.0"),
    ("site_id", .str evidence.siteId),
    ("source_lineage", sourceLineage observation.connector
      (evidence.sourceLineage ++ [evidence.observationEventId, evidence.evidenceId]) recorded
      evidence.processorVersion)]

/-- The `budget` of a proposal. -/
def budget (unit : String) (usedUnits : ℕ) : Json :=
  .obj [("limit_units", .int (max 1 usedUnits : ℕ)), ("network_calls", .int 0),
    ("tool_calls", .int 0), ("unit", .str unit), ("used_units", .int usedUnits)]

/-- The `processor` of a proposal. -/
def processor (processorVersion : String) : Json :=
  .obj [("kind", .str "deterministic_test_processor"), ("processor_id", .str processorVersion)]

/-- `_fact_payload`, with its keys in order; `recordId` is the identifier it derives. -/
def factPayload (observation : Observation) (proposal : FactProposal) (recordId correlationId : String)
    (evidenceRecordIds : List (String × String)) (recordedAt : WireTime) :
    Except PublishError Json := do
  let translatedEvidence ← translateEvidenceRefs proposal.evidenceRefs evidenceRecordIds
  let recorded ← timestamp recordedAt
  let occurred ← timestamp observation.occurredAt
  return .obj [("budget", budget "characters" proposal.value.toList.length),
    ("correlation_id", .str correlationId),
    ("data_classification", .str proposal.dataClassification),
    ("fact", .obj [("confidence", proposal.confidence),
      ("evidence_refs", .ofStrs translatedEvidence), ("extracted_at", .str recorded),
      ("fact_id", .str proposal.factId),
      ("model", .obj [("model", .str proposal.processorVersion),
        ("prompt_version", .str proposal.ruleVersion), ("provider", .str "synthetic")]),
      ("predicate", .str proposal.predicate), ("schema_version", .str "1.0"),
      ("status", .str proposal.status), ("subject_ref", .str proposal.subjectRef),
      ("value", .obj [("text", .str proposal.value), ("type", .str "text")])]),
    ("fact_proposal_record_id", .str recordId), ("output_version", .str proposal.outputVersion),
    ("processing_purpose", .str proposal.processingPurpose),
    ("processor", processor proposal.processorVersion),
    ("processor_version", .str proposal.processorVersion), ("recorded_time", .str recorded),
    ("rule_version", .str proposal.ruleVersion), ("schema_version", .str "1.0"),
    ("site_id", .str proposal.siteId),
    ("source_lineage", sourceLineage observation.connector
      (proposal.sourceLineage ++ observation.eventId :: proposal.evidenceRefs) recorded
      proposal.processorVersion),
    ("valid_time", .obj [("end", .null), ("start", .str occurred)])]

/-- `_entity_payload`, with its keys in order; `recordId` is the identifier it derives. -/
def entityPayload (observation : Observation) (proposal : EntityResolutionProposal)
    (recordId correlationId : String) (evidenceRecordIds : List (String × String))
    (recordedAt : WireTime) : Except PublishError Json := do
  let translatedEvidence ← translateEvidenceRefs proposal.evidenceRefs evidenceRecordIds
  let recorded ← timestamp recordedAt
  let occurred ← timestamp observation.occurredAt
  return .obj [("budget", budget "records" proposal.candidateIdentityRefs.length),
    ("candidates", .arr (proposal.candidateIdentityRefs.map fun candidate =>
      .obj [("confidence", proposal.confidence), ("entity_ref", .str candidate),
        ("matching_attributes", .ofStrs ["external_reference"])])),
    ("correlation_id", .str correlationId),
    ("data_classification", .str proposal.dataClassification),
    ("entity_resolution_proposal_id", .str recordId), ("entity_type", .str "Contact"),
    ("evidence_refs", .ofStrs translatedEvidence), ("output_version", .str proposal.outputVersion),
    ("processing_purpose", .str proposal.processingPurpose),
    ("processor", processor proposal.processorVersion),
    ("processor_version", .str proposal.processorVersion), ("recorded_time", .str recorded),
    ("rule_version", .str proposal.ruleVersion), ("schema_version", .str "1.0"),
    ("site_id", .str proposal.siteId), ("source_entity_ref", .str proposal.observedIdentityRef),
    ("source_lineage", sourceLineage observation.connector
      (proposal.sourceLineage ++ observation.eventId :: proposal.evidenceRefs) recorded
      proposal.processorVersion),
    ("status", .str proposal.status),
    ("valid_time", .obj [("end", .null), ("start", .str occurred)])]

/-! ## The records of an import -/

/-- What the publisher works with: the digests, the identifiers and the contracts. -/
structure Tools where
  py : Stdlib
  stableUlid : String → List String → String
  contracts : Contracts

/-- The arguments of `publish`. -/
structure PublishCall where
  result : ImportResult
  correlationId : String
  recordedAt : Option WireTime

section Building
variable (tools : Tools)

/-- `_validate_scope`, for the sites and purposes of the records. -/
def validateScope (scope : TenantScope) (records : List (String × String)) :
    Except PublishError Unit :=
  match records with
  | [] => .ok ()
  | (siteId, processingPurpose) :: records => do
      Proc.rejectIf (siteId ≠ scope.siteId)
        (.validation "Observer record site does not match observation site")
      Proc.rejectIf (processingPurpose ≠ scope.processingPurpose)
        (.validation "Observer record purpose does not match observation purpose")
      validateScope scope records

/-- `_pending`; `recordId` is the identifier in the payload. -/
def pendingRecord (scope : TenantScope) (kind : RecordKind) (recordId : String) (payload : Json) :
    Except PublishError PendingRecord := do
  Proc.rejectIf (tools.contracts.accepts kind payload = false) (.contract kind.value)
  let key := "context-publish:" ++ kind.value ++ ":" ++ recordId
  scope.check
  Proc.rejectIf (256 < key.toList.length)
    (.validation "idempotency_key must be present and at most 256 characters")
  return ⟨scope, kind, ⟨scope.siteId, scope.processingPurpose, key,
    tools.py.sha256 payload.dumps, payload⟩⟩

def evidenceRecordId (scope : TenantScope) (evidence : EvidenceRecord) : String :=
  tools.stableUlid "context-evidence-record"
    [scope.siteId, scope.processingPurpose, evidence.evidenceId]

def factRecordId (correlationId : String) (proposal : FactProposal) : String :=
  tools.stableUlid "context-fact-proposal-record"
    [proposal.siteId, proposal.processingPurpose, proposal.factId, correlationId]

def entityRecordId (correlationId : String) (proposal : EntityResolutionProposal) : String :=
  tools.stableUlid "context-entity-resolution-proposal"
    [proposal.siteId, proposal.processingPurpose, proposal.proposalId, correlationId]

/-- The scope of a publication. -/
def PublishCall.scope (call : PublishCall) : TenantScope :=
  ⟨call.result.observation.siteId, call.result.observation.processingPurpose⟩

/-- The time that the records carry. -/
def PublishCall.stableRecordedAt (call : PublishCall) : WireTime :=
  call.recordedAt.getD call.result.observation.ingestedAt

/-- The sites and purposes of the records. -/
def ImportResult.scopes (result : ImportResult) : List (String × String) :=
  result.evidence.map (fun e => (e.siteId, e.processingPurpose)) ++
    (result.factProposals.map (fun p => (p.siteId, p.processingPurpose)) ++
      result.entityResolutionProposals.map fun p => (p.siteId, p.processingPurpose))

/-- What `publish` builds and checks before it saves anything. -/
def pendingRecords (call : PublishCall) : Except PublishError (List PendingRecord) := do
  let result := call.result
  let scope := call.scope
  Proc.rejectIf (call.correlationId ≠ result.observation.correlationId)
    (.validation "correlation_id does not match the Observer import")
  scope.check
  validateScope scope result.scopes
  let _ ← timestamp call.stableRecordedAt
  let evidenceRecordIds := result.evidence.map fun e => (e.evidenceId, evidenceRecordId tools scope e)
  Proc.rejectIf (¬ (result.evidence.map (·.evidenceId)).Nodup)
    (.validation "Observer evidence IDs must be unique")
  let evidence ← result.evidence.mapM fun e => do
    let id := evidenceRecordId tools scope e
    pendingRecord tools scope .evidence id
      (← evidencePayload result.observation e id call.stableRecordedAt)
  let facts ← result.factProposals.mapM fun p => do
    let id := factRecordId tools call.correlationId p
    pendingRecord tools scope .factProposal id (← factPayload result.observation p id
      call.correlationId evidenceRecordIds call.stableRecordedAt)
  let entities ← result.entityResolutionProposals.mapM fun p => do
    let id := entityRecordId tools call.correlationId p
    pendingRecord tools scope .entityResolutionProposal id (← entityPayload result.observation p id
      call.correlationId evidenceRecordIds call.stableRecordedAt)
  return evidence ++ (facts ++ entities)

end Building

/-! ## The repository -/

/-- `InMemoryContextRepository`. -/
structure InMemoryContextRepository where
  records : Dict (String × RecordKind × String) RecordMetadata := Dict.empty
  payloads : Dict (String × RecordKind × String) GovernedEnvelope := Dict.empty
  idempotency : Dict (String × String) RecordMetadata := Dict.empty

/-- `FORBIDDEN_GATE4_FIELDS`. -/
def forbiddenGate4Fields : List String :=
  ["verified_fact", "verified_facts", "conflict", "conflicts", "decision", "decisions", "action",
    "actions", "action_proposal", "draft", "draft_mutation", "approved_command", "command",
    "review_case", "agent_task"]

/-- `validate_governed_record`; the sorted names are left out of the message. -/
def validateGovernedRecord (record : PendingRecord) : Except PublishError String := do
  let payload := record.envelope.payload
  Proc.rejectIf (record.scope.siteId ≠ record.envelope.siteId)
    (.validation "TenantScope site does not match governed envelope")
  Proc.rejectIf (record.scope.processingPurpose ≠ record.envelope.processingPurpose)
    (.validation "TenantScope purpose does not match governed envelope")
  Proc.rejectIf (forbiddenGate4Fields.any fun name => (payload.get? name).isSome)
    (.validation "Gate 4 fields are forbidden at Gate 3")
  Proc.rejectIf (record.kind = .factProposal ∧
      (payload.get? "fact").bind (·.get? "status") ≠ some (.str "proposed"))
    (.validation "fact status must remain proposed")
  Proc.rejectIf (record.kind = .entityResolutionProposal ∧
      payload.get? "status" ≠ some (.str "proposed"))
    (.validation "entity resolution status must remain proposed")
  match payload.get? record.kind.idField with
  | some (.str id) =>
      if id = "" then
        .error (.validation (record.kind.idField ++ " must be a non-empty string"))
      else .ok id
  | _ => .error (.validation (record.kind.idField ++ " must be a non-empty string"))

/-- `save`, at a time of the clock. -/
def InMemoryContextRepository.save (repository : InMemoryContextRepository) (now : Datetime)
    (record : PendingRecord) : Except PublishError RecordMetadata × InMemoryContextRepository :=
  match validateGovernedRecord record with
  | .error e => (.error e, repository)
  | .ok recordId =>
      let envelope := record.envelope
      let idempotencyKey := (record.scope.siteId, envelope.idempotencyKey)
      let recordKey := (record.scope.siteId, record.kind, recordId)
      match repository.idempotency.get? idempotencyKey with
      | some existing =>
          if existing.payloadDigest ≠ envelope.payloadDigest then
            (.error .idempotencyConflict, repository)
          else (.ok existing, repository)
      | none =>
          if (repository.records.get? recordKey).isSome then
            (.error (.validation "record_id already exists with another request"), repository)
          else
            let metadata : RecordMetadata := ⟨record.kind, recordId, envelope.siteId,
              envelope.processingPurpose, envelope.idempotencyKey, envelope.payloadDigest, now⟩
            (.ok metadata,
              { records := repository.records.set recordKey metadata
                payloads := repository.payloads.set recordKey envelope
                idempotency := repository.idempotency.set idempotencyKey metadata })

/-! ## A publication -/

/-- What happens to a save: nothing, it fails before it has an effect, or its answer is lost. -/
inductive Fault where
  | none | refused | unanswered
deriving DecidableEq

/-- The clock and the faults of an attempt, save by save. -/
structure Attempt where
  now : ℕ → Datetime
  fault : ℕ → Fault

/-- No save of the attempt fails. -/
def Attempt.Clean (attempt : Attempt) : Prop := ∀ n, attempt.fault n = .none

/-- What is left of the attempt after a save. -/
def Attempt.tail (attempt : Attempt) : Attempt :=
  ⟨fun n => attempt.now (n + 1), fun n => attempt.fault (n + 1)⟩

/-- A save, with the fault that happens to it. -/
def saveFaulty (repository : InMemoryContextRepository) (attempt : Attempt)
    (record : PendingRecord) : Except PublishError RecordMetadata × InMemoryContextRepository :=
  match attempt.fault 0 with
  | .none => repository.save (attempt.now 0) record
  | .refused => (.error .transient, repository)
  | .unanswered => (.error .transient, (repository.save (attempt.now 0) record).2)

/-- The saves of the records, one after another. -/
def saveAll (repository : InMemoryContextRepository) (attempt : Attempt) :
    List PendingRecord → Except PublishError (List RecordMetadata) × InMemoryContextRepository
  | [] => (.ok [], repository)
  | record :: records =>
      match saveFaulty repository attempt record with
      | (.error e, repository) => (.error e, repository)
      | (.ok metadata, repository) =>
          match saveAll repository attempt.tail records with
          | (.error e, repository) => (.error e, repository)
          | (.ok rest, repository) => (.ok (metadata :: rest), repository)

/-- `publish`. -/
def publish (tools : Tools) (repository : InMemoryContextRepository) (call : PublishCall)
    (attempt : Attempt) : Except PublishError (List RecordMetadata) × InMemoryContextRepository :=
  match pendingRecords tools call with
  | .error e => (.error e, repository)
  | .ok pending => saveAll repository attempt pending

end EsanGbos.Context.Publisher
