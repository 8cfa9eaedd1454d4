import EsanGbos.Context.Publishing
import EsanGbos.Spelling

/-!
# The context of an agent

An agent is given confirmed facts and no documents of evidence. The view checks that the facts are
those of one decision, that the decision, its proposal, the facts and their evidence name each
other, and that no value of a fact has a sensitive key.

## Main definitions

* `DecisionStorage` — what is stored.
* `AgentContextView.resolve` — the facts of a request.

## Main results

* `AgentContextView.resolve_screened_iff` — when the facts are free of sensitive keys.
-/
namespace EsanGbos.Context
open Lib

/-! ## Requests -/

/-- `_require_ref`. -/
def isRef (value : String) : Bool :=
  !value.toList.isEmpty && value.toList.length ≤ 256 &&
    !value.toList.any fun c => c == '\x00' || c == '\r' || c == '\n'

structure AgentFactVersionRef where
  factId : String
  factVersion : ℤ
  factId_ok : isRef factId = true
  factVersion_pos : 1 ≤ factVersion
deriving DecidableEq

/-- The reference as a pair. -/
def AgentFactVersionRef.key (reference : AgentFactVersionRef) : String × ℤ :=
  (reference.factId, reference.factVersion)

structure AgentContextRequest where
  siteId : String
  processingPurpose : String
  subjectType : String
  subjectRef : String
  decisionRef : String
  factVersionRefs : List AgentFactVersionRef
  evidenceRefs : List String
  scope_ok : siteId ≠ "" ∧ siteId.toList.length ≤ 140 ∧
    processingPurpose ∈ Publisher.allowedProcessingPurposes
  refs_ok : isRef subjectType = true ∧ isRef subjectRef = true ∧ isRef decisionRef = true
  facts_ok : factVersionRefs ≠ [] ∧ factVersionRefs.length ≤ 16 ∧
    (factVersionRefs.map AgentFactVersionRef.key).Nodup
  evidence_ok : evidenceRefs ≠ [] ∧ evidenceRefs.length ≤ 32 ∧ evidenceRefs.Nodup ∧
    ∀ value ∈ evidenceRefs, isRef value = true

/-! ## Storage -/

/-- What is read of a `ProposalSnapshot`. -/
structure ProposalSnapshot where
  siteId : String
  processingPurpose : String
  proposalVersion : String
  proposalRevision : ℤ
  subjectRef : String

structure EvidenceSnapshot where
  siteId : String
  document : Json

structure FactSnapshot where
  siteId : String
  factId : String
  factVersion : ℤ
  document : Json

/-- What is stored. A fact is found under its own identifier and version. -/
structure DecisionStorage where
  getDecision : String → String → Option Json
  getProposal : String → String → Option ProposalSnapshot
  getFact : String → String → ℤ → Option FactSnapshot
  getEvidence : String → String → Option EvidenceSnapshot
  getDecisionFactRefs : String → String → ℤ → List (String × String × ℤ)
  getDecisionEvidenceRefs : String → String → ℤ → List String
  getFactEvidenceRefs : String → String → ℤ → List String
  getFact_key : ∀ siteId factId factVersion fact, getFact siteId factId factVersion = some fact →
    fact.factId = factId ∧ fact.factVersion = factVersion

/-- `AgentContextError`. -/
structure AgentContextError where
  message : String
deriving DecidableEq, Repr

/-- `_SENSITIVE_KEYS`. -/
def sensitiveKeys : List String :=
  ["attachment", "attachments", "identity_map", "identity_mapping", "mapping_reference", "message",
    "message_body", "message_text", "object_ref", "raw", "raw_body", "raw_context", "raw_message",
    "source_lineage", "token_mapping"]

/-- `_contains_sensitive_key`. -/
def containsSensitiveKey (py : Stdlib) (value : Json) : Bool :=
  value.containsKey fun key => String.ofList (slug (py.casefold key.toList)) ∈ sensitiveKeys

/-! ## Parts of a document -/

/-- `document.get(name)`. -/
def member (document : Json) (name : String) : Json := (document.get? name).getD .null

/-- `document.get(name) == value`, for a text. -/
def hasText (document : Json) (name value : String) : Bool :=
  (member document name).str? = some value

/-- `_string`. -/
def stringOf (document : Json) (name : String) : Except AgentContextError String :=
  match (member document name).str? with
  | some value => if value = "" then .error ⟨s!"decision {name} is invalid"⟩ else .ok value
  | none => .error ⟨s!"decision {name} is invalid"⟩

/-- `_positive_int`. -/
def positiveInt (document : Json) (name : String) : Except AgentContextError ℤ :=
  match member document name with
  | .int i => if i < 1 then .error ⟨s!"decision {name} is invalid"⟩ else .ok i
  | _ => .error ⟨s!"decision {name} is invalid"⟩

/-- An element of `_fact_refs`. -/
def factRef (item : Json) : Except AgentContextError (String × ℤ) :=
  if item.hasKeys ["fact_id", "fact_version"] = false then
    .error ⟨"decision fact refs are not closed"⟩
  else
    match member item "fact_id", member item "fact_version" with
    | .str factId, .int factVersion =>
        if factId = "" ∨ factVersion < 1 then .error ⟨"decision fact ref is invalid"⟩
        else .ok (factId, factVersion)
    | _, _ => .error ⟨"decision fact ref is invalid"⟩

/-- `_fact_refs`, before its result is sorted. -/
def factRefs (value : Json) : Except AgentContextError (List (String × ℤ)) :=
  match value with
  | .arr items => do
      let parsed ← items.mapM factRef
      Proc.rejectIf (¬parsed.Nodup) (⟨"decision fact refs must be unique"⟩ : AgentContextError)
      return parsed
  | _ => .error ⟨"decision fact refs are invalid"⟩

/-- `_string_refs`. -/
def stringRefs (value : Json) (name : String) : Except AgentContextError (List String) :=
  match value.strs? with
  | none => .error ⟨s!"{name} refs are invalid"⟩
  | some parsed =>
      if parsed = [] ∨ "" ∈ parsed then .error ⟨s!"{name} refs are invalid"⟩
      else if parsed.Nodup then .ok parsed
      else .error ⟨s!"{name} refs must be unique"⟩

/-! ## The view -/

/-- A fact as the agent sees it. -/
structure CanonicalFact where
  factId : String
  factVersion : ℤ
  predicate : String
  value : Json
  validTime : Json
  recordedTime : String
  reviewStatus : String

def CanonicalFact.toWire (fact : CanonicalFact) : Json :=
  .obj [("fact_id", .str fact.factId), ("fact_version", .int fact.factVersion),
    ("predicate", .str fact.predicate), ("recorded_time", .str fact.recordedTime),
    ("review_status", .str fact.reviewStatus), ("valid_time", fact.validTime),
    ("value", fact.value)]

structure AgentContextBundle where
  request : AgentContextRequest
  facts : List CanonicalFact

/-- `to_wire`, the members in key order. -/
def AgentContextBundle.toWire (bundle : AgentContextBundle) : Json :=
  .obj [("decision_ref", .str bundle.request.decisionRef),
    ("evidence_refs", .ofStrs bundle.request.evidenceRefs),
    ("fact_version_refs", .arr (bundle.request.factVersionRefs.map fun reference =>
      .obj [("fact_id", .str reference.factId), ("fact_version", .int reference.factVersion)])),
    ("facts", .arr (bundle.facts.map CanonicalFact.toWire)),
    ("processing_purpose", .str bundle.request.processingPurpose),
    ("schema_version", .str "1.0"), ("site_id", .str bundle.request.siteId),
    ("subject_ref", .str bundle.request.subjectRef),
    ("subject_type", .str bundle.request.subjectType)]

/-- The size of `canonical_json` in bytes of UTF-8. -/
def AgentContextBundle.size (bundle : AgentContextBundle) : ℕ :=
  (bundle.toWire.dumps.map Char.utf8Size).sum

namespace AgentContextView
-- The values of the numbers with a fraction or an exponent.
variable (py : Stdlib) (float : {s : List Char // isReal s} → Option ℚ)
variable (storage : DecisionStorage) (request : AgentContextRequest)

/-- The references of a decision with their role. -/
def rolesOf (decision : Json) : Except AgentContextError (List (String × String × ℤ)) := do
  let inputs ← factRefs (member decision "input_fact_refs")
  let outputs ← factRefs (member decision "output_fact_refs")
  return inputs.map (Prod.mk "input") ++ outputs.map (Prod.mk "output")

/-- `_validate_decision`. Lists are equal when they are sorted if one is a permutation of the
other. -/
def validateDecision (decision : Json) : Except AgentContextError Unit := do
  Proc.rejectIf (hasText decision "decision_id" request.decisionRef = false ∨
      hasText decision "site_id" request.siteId = false)
    (⟨"decision site binding is not exact"⟩ : AgentContextError)
  Proc.rejectIf (hasText decision "processing_purpose" request.processingPurpose = false)
    (⟨"decision purpose is not exact"⟩ : AgentContextError)
  let decisionRevision ← positiveInt decision "decision_revision"
  let outputRefs ← factRefs (member decision "output_fact_refs")
  Proc.rejectIf (outputRefs.isPerm (request.factVersionRefs.map AgentFactVersionRef.key) = false)
    (⟨"decision fact lineage is not exact"⟩ : AgentContextError)
  let decisionEvidence ← stringRefs (member decision "evidence_refs") "decision evidence"
  Proc.rejectIf (decisionEvidence.isPerm request.evidenceRefs = false)
    (⟨"decision evidence lineage is not exact"⟩ : AgentContextError)
  let expectedRelational ← rolesOf decision
  Proc.rejectIf ((storage.getDecisionFactRefs request.siteId request.decisionRef
      decisionRevision).isPerm expectedRelational = false)
    (⟨"decision relational fact lineage is not exact"⟩ : AgentContextError)
  Proc.rejectIf ((storage.getDecisionEvidenceRefs request.siteId request.decisionRef
      decisionRevision).isPerm decisionEvidence = false)
    (⟨"decision relational evidence lineage is not exact"⟩ : AgentContextError)

/-- The proposal of a decision. -/
def proposalOf (decision : Json) : Except AgentContextError ProposalSnapshot := do
  let proposalRef ← stringOf decision "proposal_ref"
  match storage.getProposal request.siteId proposalRef with
  | none => throw ⟨"decision proposal lineage is missing"⟩
  | some proposal =>
      Proc.rejectIf (proposal.siteId ≠ request.siteId ∨
          proposal.processingPurpose ≠ request.processingPurpose ∨
          proposal.subjectRef ≠ request.subjectRef ∨
          hasText decision "proposal_version" proposal.proposalVersion = false ∨
          (member decision "proposal_revision").equals float (.int proposal.proposalRevision) =
            false)
        (⟨"decision proposal lineage is not exact"⟩ : AgentContextError)
      return proposal

/-- The members of a fact's document that the agent sees. -/
def canonicalFields (fact : FactSnapshot) (value : Json) :
    Except AgentContextError CanonicalFact :=
  match member fact.document "predicate", member fact.document "recorded_time",
      member fact.document "review_status" with
  | .str predicate, .str recordedTime, .str reviewStatus =>
      if predicate = "" ∨ (member fact.document "valid_time").hasKeys ["start", "end"] = false ∨
          reviewStatus ∉ ["human_reviewed", "rule_reviewed"] then
        .error ⟨"verified fact canonical fields are invalid"⟩
      else .ok ⟨fact.factId, fact.factVersion, predicate, value,
        member fact.document "valid_time", recordedTime, reviewStatus⟩
  | _, _, _ => .error ⟨"verified fact canonical fields are invalid"⟩

/-- `_canonical_fact`, with the evidence of the fact. -/
def canonicalFact (decision : Json) (fact : FactSnapshot) :
    Except AgentContextError (CanonicalFact × List String) := do
  let document := fact.document
  Proc.rejectIf (fact.siteId ≠ request.siteId ∨ hasText document "site_id" request.siteId = false ∨
      hasText document "processing_purpose" request.processingPurpose = false ∨
      hasText document "subject_ref" request.subjectRef = false)
    (⟨"verified fact site, purpose, or subject is not exact"⟩ : AgentContextError)
  Proc.rejectIf (hasText document "status" "confirmed" = false ∨
      hasText document "confirmation_decision_ref" request.decisionRef = false)
    (⟨"verified fact decision lineage is not exact"⟩ : AgentContextError)
  Proc.rejectIf (["proposal_ref", "proposal_version", "proposal_revision"].any fun name =>
      !(member document name).equals float (member decision name))
    (⟨"verified fact proposal lineage is not exact"⟩ : AgentContextError)
  let evidenceRefs ← stringRefs (member document "evidence_refs") "fact evidence"
  Proc.rejectIf ((storage.getFactEvidenceRefs request.siteId fact.factId fact.factVersion).isPerm
      evidenceRefs = false)
    (⟨"fact relational evidence lineage is not exact"⟩ : AgentContextError)
  Proc.rejectIf (¬evidenceRefs ⊆ request.evidenceRefs)
    (⟨"fact evidence is outside task refs"⟩ : AgentContextError)
  let value := member document "value"
  Proc.rejectIf (containsSensitiveKey py value = true)
    (⟨"verified fact value contains a sensitive mapping or raw field"⟩ : AgentContextError)
  let canonical ← canonicalFields fact value
  return (canonical, evidenceRefs)

/-- The body of the first loop of `resolve`. -/
def resolveFact (decision : Json) (reference : AgentFactVersionRef) :
    Except AgentContextError (CanonicalFact × List String) :=
  match storage.getFact request.siteId reference.factId reference.factVersion with
  | none => .error ⟨"exact verified fact version is missing"⟩
  | some fact => canonicalFact py float storage request decision fact

/-- The body of the second loop of `resolve`. -/
def checkEvidence (evidenceRef : String) : Except AgentContextError Unit :=
  match storage.getEvidence request.siteId evidenceRef with
  | none => .error ⟨"evidence lineage is missing from site scope"⟩
  | some evidence =>
      Proc.rejectIf (evidence.siteId ≠ request.siteId ∨
          hasText evidence.document "site_id" request.siteId = false ∨
          hasText evidence.document "processing_purpose" request.processingPurpose = false)
        ⟨"evidence scope or purpose is not exact"⟩

/-- `resolve`. -/
def resolve (maxContextBytes : ℕ) : Except AgentContextError AgentContextBundle :=
  match storage.getDecision request.siteId request.decisionRef with
  | none => .error ⟨"decision is missing from site scope"⟩
  | some decision => do
      validateDecision storage request decision
      let _ ← proposalOf float storage request decision
      let resolved ← request.factVersionRefs.mapM (resolveFact py float storage request decision)
      let seenEvidence := (resolved.map Prod.snd).flatten
      Proc.rejectIf (¬(seenEvidence ⊆ request.evidenceRefs ∧ request.evidenceRefs ⊆ seenEvidence))
        (⟨"fact evidence lineage does not exactly match task refs"⟩ : AgentContextError)
      request.evidenceRefs.forM (checkEvidence storage request)
      let bundle : AgentContextBundle := ⟨request, resolved.map Prod.fst⟩
      Proc.rejectIf (maxContextBytes < bundle.size)
        (⟨"canonical agent context exceeds byte limit"⟩ : AgentContextError)
      return bundle

/-! ## What a bundle is made of -/

/-- The proposal with which the decision was taken. -/
structure HasProposal (decision : Json) (proposal : ProposalSnapshot) : Prop where
  found : ∃ proposalRef, member decision "proposal_ref" = .str proposalRef ∧
    storage.getProposal request.siteId proposalRef = some proposal
  version : hasText decision "proposal_version" proposal.proposalVersion = true
  revision : (member decision "proposal_revision").equals float (.int proposal.proposalRevision) =
    true

/-- The decision and its proposal have confirmed the fact of the document. -/
structure Confirms (decision document : Json) : Prop where
  status : hasText document "status" "confirmed" = true
  decided : hasText document "confirmation_decision_ref" request.decisionRef = true
  proposed : ∀ name ∈ ["proposal_ref", "proposal_version", "proposal_revision"],
    (member document name).equals float (member decision name) = true

/-- The fact is a stored one, confirmed by the decision. -/
structure IsConfirmed (decision : Json) (fact : CanonicalFact) (evidenceRefs : List String) :
    Prop where
  stored : ∃ snapshot, storage.getFact request.siteId fact.factId fact.factVersion =
    some snapshot ∧ fact.value = member snapshot.document "value" ∧
    Confirms float request decision snapshot.document ∧
    (member snapshot.document "evidence_refs").strs? = some evidenceRefs

/-- The facts are the outputs of the decision, in the order of the request, and the evidence of
all of them is the one of the request. -/
structure IsExact (bundle : AgentContextBundle) (decision : Json) (proposal : ProposalSnapshot)
    (outputs : List (String × ℤ)) (evidenceOf : List (List String)) : Prop where
  decided : storage.getDecision request.siteId request.decisionRef = some decision
  proposed : HasProposal float storage request decision proposal
  parsed : factRefs (member decision "output_fact_refs") = .ok outputs
  perm : outputs.Perm (bundle.facts.map fun fact => (fact.factId, fact.factVersion))
  order : bundle.facts.map (fun fact => (fact.factId, fact.factVersion)) =
    request.factVersionRefs.map AgentFactVersionRef.key
  confirmed : List.Forall₂ (IsConfirmed float storage request decision) bundle.facts evidenceOf
  evidence : ∀ value, value ∈ request.evidenceRefs ↔ ∃ refs ∈ evidenceOf, value ∈ refs

section Resolved
variable {py float storage request} {decision : Json}

theorem exists_of_forall₂ {α β : Type} {R : α → β → Prop} {xs : List α} {ys : List β}
    (h : List.Forall₂ R xs ys) {y : β} (hy : y ∈ ys) : ∃ x ∈ xs, R x y := by
  induction h with
  | nil => cases hy
  | cons hxy _ ih =>
      rcases List.mem_cons.mp hy with rfl | hy
      · exact ⟨_, List.mem_cons_self, hxy⟩
      · obtain ⟨x, hx, hR⟩ := ih hy
        exact ⟨x, List.mem_cons_of_mem _ hx, hR⟩

theorem map_eq_of_forall₂ {α β γ : Type} {R : α → β → Prop} {xs : List α} {ys : List β}
    {f : β → γ} {g : α → γ} (h : List.Forall₂ R xs ys) (hR : ∀ x y, R x y → f y = g x) :
    ys.map f = xs.map g := by
  induction h with
  | nil => rfl
  | cons hxy _ ih => rw [List.map_cons, List.map_cons, hR _ _ hxy, ih]

theorem stringOf_eq_ok {document : Json} {name value : String}
    (h : stringOf document name = .ok value) : member document name = .str value := by
  unfold stringOf at h
  cases hmember : member document name with
  | str s =>
      simp only [hmember, Json.str?] at h
      split at h
      · cases h
      · rw [Except.ok.inj h]
  | null | bool _ | int _ | real _ | arr _ | obj _ => simp [hmember, Json.str?] at h

theorem stringRefs_eq_ok {value : Json} {name : String} {refs : List String}
    (h : stringRefs value name = .ok refs) : value.strs? = some refs := by
  unfold stringRefs at h
  cases hstrs : value.strs? with
  | none => simp [hstrs] at h
  | some parsed =>
      simp only [hstrs] at h
      split at h
      · cases h
      · split at h
        · rw [Except.ok.inj h]
        · cases h

theorem proposalOf_eq_ok {proposal : ProposalSnapshot}
    (h : proposalOf float storage request decision = .ok proposal) :
    HasProposal float storage request decision proposal := by
  unfold proposalOf at h
  obtain ⟨proposalRef, href, h⟩ := Proc.bind_eq_ok.mp h
  cases hget : storage.getProposal request.siteId proposalRef with
  | none => simp [hget] at h
  | some stored =>
      simp only [hget] at h
      obtain ⟨_, hcheck, h⟩ := Proc.bind_eq_ok.mp h
      obtain rfl := Except.ok.inj h
      simp only [Proc.rejectIf_eq_ok, not_or, Bool.not_eq_false] at hcheck
      exact ⟨⟨proposalRef, stringOf_eq_ok href, hget⟩, hcheck.2.2.2.1, hcheck.2.2.2.2⟩

theorem validateDecision_eq_ok (h : validateDecision storage request decision = .ok ()) :
    ∃ outputs, factRefs (member decision "output_fact_refs") = .ok outputs ∧
      outputs.Perm (request.factVersionRefs.map AgentFactVersionRef.key) := by
  unfold validateDecision at h
  obtain ⟨_, -, h⟩ := Proc.bind_eq_ok.mp h
  obtain ⟨_, -, h⟩ := Proc.bind_eq_ok.mp h
  obtain ⟨_, -, h⟩ := Proc.bind_eq_ok.mp h
  obtain ⟨outputs, houtputs, h⟩ := Proc.bind_eq_ok.mp h
  obtain ⟨_, hperm, -⟩ := Proc.bind_eq_ok.mp h
  rw [Proc.rejectIf_eq_ok, Bool.not_eq_false, List.isPerm_iff] at hperm
  exact ⟨outputs, houtputs, hperm⟩

theorem canonicalFields_eq_ok {snapshot : FactSnapshot} {value : Json} {fact : CanonicalFact}
    (h : canonicalFields snapshot value = .ok fact) :
    fact.factId = snapshot.factId ∧ fact.factVersion = snapshot.factVersion ∧
      fact.value = value := by
  unfold canonicalFields at h
  split at h
  · split at h
    · cases h
    · obtain rfl := Except.ok.inj h
      exact ⟨rfl, rfl, rfl⟩
  · cases h

/-- A fact that is resolved is confirmed, and its value was screened. -/
theorem resolveFact_eq_ok {reference : AgentFactVersionRef} {fact : CanonicalFact}
    {evidenceRefs : List String}
    (h : resolveFact py float storage request decision reference = .ok (fact, evidenceRefs)) :
    (fact.factId, fact.factVersion) = reference.key ∧
      IsConfirmed float storage request decision fact evidenceRefs ∧
      containsSensitiveKey py fact.value = false := by
  unfold resolveFact at h
  cases hget : storage.getFact request.siteId reference.factId reference.factVersion with
  | none => simp [hget] at h
  | some snapshot =>
      simp only [hget] at h
      obtain ⟨hid, hversion⟩ := storage.getFact_key _ _ _ _ hget
      unfold canonicalFact at h
      obtain ⟨_, -, h⟩ := Proc.bind_eq_ok.mp h
      obtain ⟨_, hlineage, h⟩ := Proc.bind_eq_ok.mp h
      obtain ⟨_, hproposal, h⟩ := Proc.bind_eq_ok.mp h
      obtain ⟨refs, hrefs, h⟩ := Proc.bind_eq_ok.mp h
      obtain ⟨_, -, h⟩ := Proc.bind_eq_ok.mp h
      obtain ⟨_, -, h⟩ := Proc.bind_eq_ok.mp h
      obtain ⟨_, hscreen, h⟩ := Proc.bind_eq_ok.mp h
      obtain ⟨canonical, hcanonical, h⟩ := Proc.bind_eq_ok.mp h
      obtain ⟨rfl, rfl⟩ := Prod.mk.inj (Except.ok.inj h)
      obtain ⟨hfactId, hfactVersion, hvalue⟩ := canonicalFields_eq_ok hcanonical
      rw [Proc.rejectIf_eq_ok, not_or, Bool.not_eq_false, Bool.not_eq_false] at hlineage
      rw [Proc.rejectIf_eq_ok, Bool.not_eq_true, List.any_eq_false] at hproposal
      rw [Proc.rejectIf_eq_ok, Bool.not_eq_true] at hscreen
      refine ⟨?_, ⟨snapshot, ?_, hvalue, ⟨hlineage.1, hlineage.2, ?_⟩, stringRefs_eq_ok hrefs⟩, ?_⟩
      · rw [AgentFactVersionRef.key, hfactId, hfactVersion, hid, hversion]
      · rw [hfactId, hfactVersion, hid, hversion, hget]
      · intro name hname
        simpa using hproposal name hname
      · rw [hvalue]
        exact hscreen

/-- The bundle that is returned is exact, and its values were screened. -/
theorem resolve_eq_ok {maxContextBytes : ℕ} {bundle : AgentContextBundle}
    (h : resolve py float storage request maxContextBytes = .ok bundle) :
    (∃ decision proposal outputs evidenceOf,
      IsExact float storage request bundle decision proposal outputs evidenceOf) ∧
      ∀ fact ∈ bundle.facts, containsSensitiveKey py fact.value = false := by
  unfold resolve at h
  cases hdecision : storage.getDecision request.siteId request.decisionRef with
  | none => simp [hdecision] at h
  | some decision =>
      simp only [hdecision] at h
      obtain ⟨_, hvalid, h⟩ := Proc.bind_eq_ok.mp h
      obtain ⟨proposal, hproposal, h⟩ := Proc.bind_eq_ok.mp h
      obtain ⟨resolved, hresolved, h⟩ := Proc.bind_eq_ok.mp h
      obtain ⟨_, hevidence, h⟩ := Proc.bind_eq_ok.mp h
      obtain ⟨_, -, h⟩ := Proc.bind_eq_ok.mp h
      obtain ⟨_, -, h⟩ := Proc.bind_eq_ok.mp h
      obtain rfl := Except.ok.inj h
      rw [Proc.rejectIf_eq_ok, not_not] at hevidence
      obtain ⟨outputs, houtputs, hperm⟩ := validateDecision_eq_ok hvalid
      have hfacts := Proc.forall₂_of_mapM hresolved
      have horder : (resolved.map Prod.fst).map (fun fact => (fact.factId, fact.factVersion)) =
          request.factVersionRefs.map AgentFactVersionRef.key := by
        rw [List.map_map]
        exact map_eq_of_forall₂ hfacts fun _ _ hfact => (resolveFact_eq_ok hfact).1
      refine ⟨⟨decision, proposal, outputs, resolved.map Prod.snd, hdecision,
        proposalOf_eq_ok hproposal, houtputs, ?_, horder, ?_, ?_⟩, ?_⟩
      · rw [horder]
        exact hperm
      · rw [List.forall₂_map_left_iff, List.forall₂_map_right_iff, List.forall₂_same]
        intro r hr
        obtain ⟨reference, -, hfact⟩ := exists_of_forall₂ hfacts hr
        exact (resolveFact_eq_ok hfact).2.1
      · intro value
        rw [← List.mem_flatten]
        exact ⟨fun hvalue => hevidence.2 hvalue, fun hvalue => hevidence.1 hvalue⟩
      · intro fact hfact
        obtain ⟨r, hr, rfl⟩ := List.mem_map.mp hfact
        obtain ⟨reference, -, hfact⟩ := exists_of_forall₂ hfacts hr
        exact (resolveFact_eq_ok hfact).2.2

/-! ## Sensitive keys -/

/-- Without camelCase the screen finds the spellings of sensitive keys. -/
theorem not_spells_of_screened {value : Json} (h : containsSensitiveKey py value = false)
    {key : String} (hkey : key ∈ value.keys) (hplain : splitCamel key.toList = key.toList) :
    ¬py.Spells sensitiveKeys key := by
  rw [containsSensitiveKey, Json.containsKey_eq_false_iff] at h
  have hunseen := h key hkey
  rw [decide_eq_false_iff_not] at hunseen
  rw [Stdlib.Spells, hplain]
  exact hunseen

/-- Each fact of a bundle has a value that is stored for a reference of the request. -/
theorem stored_of_mem {bundle : AgentContextBundle} {proposal : ProposalSnapshot}
    {outputs : List (String × ℤ)} {evidenceOf : List (List String)}
    (h : IsExact float storage request bundle decision proposal outputs evidenceOf)
    {fact : CanonicalFact} (hfact : fact ∈ bundle.facts) :
    ∃ reference ∈ request.factVersionRefs, reference.key = (fact.factId, fact.factVersion) ∧
      ∃ snapshot, storage.getFact request.siteId reference.factId reference.factVersion =
        some snapshot ∧ fact.value = member snapshot.document "value" := by
  have hmem : (fact.factId, fact.factVersion) ∈
      request.factVersionRefs.map AgentFactVersionRef.key := by
    rw [← h.order]
    exact List.mem_map_of_mem (f := fun fact : CanonicalFact => (fact.factId, fact.factVersion))
      hfact
  obtain ⟨reference, href, hpair⟩ := List.mem_map.mp hmem
  obtain ⟨refs, -, hconfirmed⟩ := exists_of_forall₂ h.confirmed.flip hfact
  obtain ⟨snapshot, hget, hvalue, -, -⟩ := hconfirmed.stored
  obtain ⟨hid, hversion⟩ := Prod.mk.inj hpair
  exact ⟨reference, href, hpair, snapshot, by rw [hid, hversion, hget], hvalue⟩

/-- A value that is stored for a reference of the request is one of the bundle. -/
theorem mem_of_stored {bundle : AgentContextBundle} {proposal : ProposalSnapshot}
    {outputs : List (String × ℤ)} {evidenceOf : List (List String)}
    (h : IsExact float storage request bundle decision proposal outputs evidenceOf)
    {reference : AgentFactVersionRef} (href : reference ∈ request.factVersionRefs)
    {snapshot : FactSnapshot} (hget : storage.getFact request.siteId reference.factId
      reference.factVersion = some snapshot) :
    ∃ fact ∈ bundle.facts, fact.value = member snapshot.document "value" := by
  have hmem : reference.key ∈ bundle.facts.map fun fact => (fact.factId, fact.factVersion) := by
    rw [h.order]
    exact List.mem_map_of_mem href
  obtain ⟨fact, hfact, hpair⟩ := List.mem_map.mp hmem
  obtain ⟨reference', -, hpair', snapshot', hget', hvalue⟩ := stored_of_mem h hfact
  obtain ⟨hid, hversion⟩ := Prod.mk.inj (hpair'.trans hpair)
  rw [hid, hversion] at hget'
  obtain rfl := Option.some.inj (hget.symm.trans hget')
  exact ⟨fact, hfact, hvalue⟩

/-- **The context of an agent is exact, and free of sensitive keys exactly under a condition**: in
the values that are stored for the facts of the request, a key that spells a sensitive one has no
boundary of camelCase. -/
theorem resolve_screened_iff {maxContextBytes : ℕ} {bundle : AgentContextBundle}
    (h : resolve py float storage request maxContextBytes = .ok bundle) :
    ((∃ decision proposal outputs evidenceOf,
      IsExact float storage request bundle decision proposal outputs evidenceOf) ∧
      ∀ fact ∈ bundle.facts, ∀ key ∈ fact.value.keys, ¬py.Spells sensitiveKeys key) ↔
    ∀ reference ∈ request.factVersionRefs, ∀ snapshot,
      storage.getFact request.siteId reference.factId reference.factVersion = some snapshot →
      ∀ key ∈ (member snapshot.document "value").keys, py.Spells sensitiveKeys key →
        splitCamel key.toList = key.toList := by
  obtain ⟨⟨decision, proposal, outputs, evidenceOf, hexact⟩, hscreened⟩ := resolve_eq_ok h
  constructor
  · rintro ⟨-, hclean⟩ reference href snapshot hget key hkey hspells
    obtain ⟨fact, hfact, hvalue⟩ := mem_of_stored hexact href hget
    rw [← hvalue] at hkey
    exact absurd hspells (hclean fact hfact key hkey)
  · intro hplain
    refine ⟨⟨decision, proposal, outputs, evidenceOf, hexact⟩, fun fact hfact key hkey => ?_⟩
    intro hspells
    obtain ⟨reference, href, -, snapshot, hget, hvalue⟩ := stored_of_mem hexact hfact
    have hstored : key ∈ (member snapshot.document "value").keys := hvalue ▸ hkey
    exact not_spells_of_screened (hscreened fact hfact) hkey
      (hplain reference href snapshot hget key hstored hspells) hspells

end Resolved

/-! ## A raw context in camelCase -/

theorem sampleReference_ok : isRef "f1" = true ∧ (1 : ℤ) ≤ 1 := by decide

def sampleReference : AgentFactVersionRef := ⟨"f1", 1, sampleReference_ok.1, sampleReference_ok.2⟩

theorem sampleScope_ok : "acme" ≠ "" ∧ "acme".toList.length ≤ 140 ∧
    "sales_follow_up" ∈ Publisher.allowedProcessingPurposes := by decide

theorem sampleRefs_ok : isRef "Deal" = true ∧ isRef "deal-1" = true ∧ isRef "d1" = true := by decide

theorem sampleFacts_ok : [sampleReference] ≠ [] ∧ [sampleReference].length ≤ 16 ∧
    ([sampleReference].map AgentFactVersionRef.key).Nodup := by decide

theorem sampleEvidence_ok : ["e1"] ≠ [] ∧ ["e1"].length ≤ 32 ∧ ["e1"].Nodup ∧
    ∀ value ∈ ["e1"], isRef value = true := by decide

def sampleRequest : AgentContextRequest where
  siteId := "acme"
  processingPurpose := "sales_follow_up"
  subjectType := "Deal"
  subjectRef := "deal-1"
  decisionRef := "d1"
  factVersionRefs := [sampleReference]
  evidenceRefs := ["e1"]
  scope_ok := sampleScope_ok
  refs_ok := sampleRefs_ok
  facts_ok := sampleFacts_ok
  evidence_ok := sampleEvidence_ok

def sampleDecision : Json :=
  .obj [("decision_id", .str "d1"), ("decision_revision", .int 1),
    ("evidence_refs", .ofStrs ["e1"]), ("input_fact_refs", .arr []),
    ("output_fact_refs", .arr [.obj [("fact_id", .str "f1"), ("fact_version", .int 1)]]),
    ("processing_purpose", .str "sales_follow_up"), ("proposal_ref", .str "p1"),
    ("proposal_revision", .int 1), ("proposal_version", .str "1"), ("site_id", .str "acme")]

/-- A confirmed fact whose value has one key. -/
def sampleFact (key : String) : Json :=
  .obj [("confirmation_decision_ref", .str "d1"), ("evidence_refs", .ofStrs ["e1"]),
    ("predicate", .str "budget"), ("processing_purpose", .str "sales_follow_up"),
    ("proposal_ref", .str "p1"), ("proposal_revision", .int 1), ("proposal_version", .str "1"),
    ("recorded_time", .str "2026-01-01T00:00:00Z"), ("review_status", .str "human_reviewed"),
    ("site_id", .str "acme"), ("status", .str "confirmed"), ("subject_ref", .str "deal-1"),
    ("valid_time", .obj [("end", .null), ("start", .str "2026-01-01T00:00:00Z")]),
    ("value", .obj [(key, .str "hello")])]

/-- The snapshots under their own identifiers. -/
def sampleGetFact (key : String) (_ : String) (factId : String) (factVersion : ℤ) :
    Option FactSnapshot :=
  if (factId, factVersion) = ("f1", 1) then some ⟨"acme", "f1", 1, sampleFact key⟩ else none

theorem sampleGetFact_key (key siteId factId : String) (factVersion : ℤ) (fact : FactSnapshot)
    (h : sampleGetFact key siteId factId factVersion = some fact) :
    fact.factId = factId ∧ fact.factVersion = factVersion := by
  unfold sampleGetFact at h
  split at h
  next heq =>
    obtain ⟨rfl, rfl⟩ := Prod.mk.inj heq
    obtain rfl := Option.some.inj h
    exact ⟨rfl, rfl⟩
  next => cases h

def sampleStorage (key : String) : DecisionStorage where
  getDecision _ _ := some sampleDecision
  getProposal _ _ := some ⟨"acme", "sales_follow_up", "1", 1, "deal-1"⟩
  getFact := sampleGetFact key
  getEvidence _ _ := some ⟨"acme", .obj [("processing_purpose", .str "sales_follow_up"),
    ("site_id", .str "acme")]⟩
  getDecisionFactRefs _ _ _ := [("output", "f1", 1)]
  getDecisionEvidenceRefs _ _ _ := ["e1"]
  getFactEvidenceRefs _ _ _ := ["e1"]
  getFact_key := sampleGetFact_key key

/-- The bundle that is returned for the sample. -/
theorem exists_sampleBundle (key : String) (hkey : (resolve (.ascii []) (fun _ => none)
      (sampleStorage key) sampleRequest 65536).isOk = true) :
    ∃ bundle, resolve (.ascii []) (fun _ => none) (sampleStorage key) sampleRequest 65536 =
      .ok bundle := by
  cases hresolve : resolve (.ascii []) (fun _ => none) (sampleStorage key) sampleRequest 65536 with
  | ok bundle => exact ⟨bundle, rfl⟩
  | error e =>
      rw [hresolve] at hkey
      cases hkey

/-- A raw context in camelCase reaches the agent. -/
theorem rawContext_resolved : ¬∀ (py : Stdlib) (float : {s : List Char // isReal s} → Option ℚ)
    (storage : DecisionStorage) (request : AgentContextRequest) (maxContextBytes : ℕ)
    (bundle : AgentContextBundle),
    resolve py float storage request maxContextBytes = .ok bundle →
    ∀ fact ∈ bundle.facts, ∀ key ∈ fact.value.keys, ¬py.Spells sensitiveKeys key := by
  intro h
  obtain ⟨bundle, hbundle⟩ := exists_sampleBundle "rawContext" (by decide +kernel)
  obtain ⟨⟨decision, proposal, outputs, evidenceOf, hexact⟩, -⟩ := resolve_eq_ok hbundle
  have hget : (sampleStorage "rawContext").getFact sampleRequest.siteId sampleReference.factId
      sampleReference.factVersion = some ⟨"acme", "f1", 1, sampleFact "rawContext"⟩ := rfl
  obtain ⟨fact, hfact, hvalue⟩ := mem_of_stored hexact (List.mem_singleton_self _) hget
  refine h _ _ _ _ _ bundle hbundle fact hfact "rawContext" ?_ ?_
  · rw [hvalue]
    decide +kernel
  · change _ ∈ sensitiveKeys
    decide +kernel

/-- A greeting does too. -/
theorem resolve_screened_greeting : ∃ bundle,
    resolve (.ascii []) (fun _ => none) (sampleStorage "greeting") sampleRequest 65536 =
        .ok bundle ∧
      ∀ fact ∈ bundle.facts, ∀ key ∈ fact.value.keys,
        ¬(Stdlib.ascii []).Spells sensitiveKeys key := by
  obtain ⟨bundle, hbundle⟩ := exists_sampleBundle "greeting" (by decide +kernel)
  refine ⟨bundle, hbundle, ((resolve_screened_iff hbundle).mpr ?_).2⟩
  intro reference href snapshot hget key hkey hspells
  obtain rfl : reference = sampleReference := by simpa [sampleRequest] using href
  have hsnapshot : (⟨"acme", "f1", 1, sampleFact "greeting"⟩ : FactSnapshot) = snapshot :=
    Option.some.inj hget
  subst hsnapshot
  obtain rfl : key = "greeting" := by
    simpa [sampleFact, member, Json.get?, Json.keys, Json.keysOfMembers] using hkey
  decide +kernel

end AgentContextView
end EsanGbos.Context
