import EsanGbos.Context.Models

/-!
# Preparing a publication

Before anything is stored a publication is checked against its trusted scope and team, its facts and
associations against a closed schema, and its identifiers and digests are computed. The identifiers
depend on the site and the observation alone, the digest on everything that is published.

## Main definitions

* `payload` — the document that a publication is digested as.
* `preparePublication` — the checks, the identifiers and the digests.
-/
namespace EsanGbos.Context
open Lib Observer

section Prepare
variable (py : Stdlib)

/-- `_digest`. -/
def digest (document : Json) : String := py.sha256 document.dumps

/-- `_stable_id`. -/
def stableId (kind : String) (parts : List String) : String :=
  kind ++ "-" ++
    String.ofList ((py.sha256 ("\x1f".intercalate (kind :: parts)).toList).toList.take 32)

/-- `_draft_subject`. -/
def draftSubject (observationId : String) : String :=
  let candidate := "Communication event " ++ observationId
  if candidate.length ≤ 140 then candidate
  else "Communication event " ++ String.ofList ((py.sha256 observationId.toList).toList.take 24)

/-! ## Facts and associations -/

/-- A value that a set can hold. -/
def isHashable : Json → Bool
  | .arr _ | .obj _ => false
  | _ => true

/-- `_bound_evidence`. -/
def boundEvidence (value : Option Json) (allowed : List String) (name : String) :
    Except Raise Unit :=
  match value with
  | some (.arr items) => do
      Proc.rejectIf (items = []) (.valueError s!"{name} is outside the publication evidence")
      Proc.rejectIf (items.all isHashable = false) .typeError
      Proc.rejectIf (¬(items.filterMap Json.str?).Nodup ∨
          items.all (fun item => item.str?.any allowed.contains) = false)
        (.valueError s!"{name} is outside the publication evidence")
  | _ => .error (.valueError s!"{name} is outside the publication evidence")

/-- `_confidence`. -/
def confidence (value : Option Json) (name : String) : Except Raise Unit :=
  Proc.rejectIf (value.any isConfidence = false) (.valueError s!"invalid {name}")

/-- `_closed_fact`. -/
def closedFact (allowed : List String) (value : Json) : Except Raise Unit := do
  Proc.rejectIf (value.hasKeys ["subject_ref", "predicate", "value_display", "type", "unit",
      "confidence", "evidence_refs", "status"] = false)
    (.valueError "fact proposal must use the closed schema")
  Proc.rejectIf ((value.get? "status").bind Json.str? ≠ some "proposed")
    (.valueError "fact proposal must remain proposed")
  textOf (value.get? "subject_ref") "fact subject_ref" 512
  textOf (value.get? "predicate") "fact predicate" 160
  textOf (value.get? "value_display") "fact value_display" 2000
  textOf (value.get? "type") "fact type" 80
  match value.get? "unit" with
  | some .null => pure ()
  | unit => textOf unit "fact unit" 80
  confidence (value.get? "confidence") "fact confidence"
  boundEvidence (value.get? "evidence_refs") allowed "fact evidence"

/-- `_closed_association`. -/
def closedAssociation (allowed : List String) (value : Json) : Except Raise Unit := do
  Proc.rejectIf (value.hasKeys ["type", "target_ref", "confidence", "evidence_refs"] = false)
    (.valueError "association suggestion must use the closed schema")
  textOf (value.get? "type") "association type" 80
  textOf (value.get? "target_ref") "association target_ref" 512
  confidence (value.get? "confidence") "association confidence"
  boundEvidence (value.get? "evidence_refs") allowed "association evidence"

/-! ## The documents -/

/-- The document that is digested as the payload, with its keys in order. -/
def payload (publication : Publication) (teamRef : Option String) : Json :=
  .obj [("association_suggestions", .arr publication.associationSuggestions),
    ("confidence", publication.confidence),
    ("evidence_refs", Json.ofStrs publication.evidenceRefs),
    ("fact_proposals", .arr publication.factProposals),
    ("invocation_refs", Json.ofStrs publication.invocationRefs),
    ("model", .obj [("name", .str publication.modelName),
      ("version", .str publication.modelVersion)]),
    ("observation_id", .str publication.observationId),
    ("original_language", .str publication.originalLanguage),
    ("processing_purpose", .str processingPurpose),
    ("review_status", .str publication.reviewStatus), ("site_id", .str publication.siteId),
    ("summary_zh", .str publication.summaryZh), ("team_ref", Json.ofOption .str teamRef)]

/-- The document that is digested as the payload of a draft, with its keys in order. -/
def draftPayload (publication : Publication) (teamRef : Option String) : Json :=
  match teamRef with
  | none => .obj []
  | some team => .obj [("doctype", .str "GBOS Informal Observation"), ("operation", .str "create"),
      ("values", .obj [("evidence_refs", .arr (publication.evidenceRefs.map fun value =>
          .obj [("evidence_ref", .str value), ("locator_ref", .str value)])),
        ("is_official_metric", .bool false), ("model_name", .str publication.modelName),
        ("model_version", .str publication.modelVersion), ("origin", .str "AI"),
        ("origin_reference", .str publication.observationId), ("review_status", .str "AI Draft"),
        ("subject", .str (draftSubject py publication.observationId)),
        ("summary_zh", .str publication.summaryZh), ("team", .str team)])]

/-! ## The prepared publication -/

structure PreparedPublication where
  intelligenceId : String
  draftId : String
  payloadDigest : String
  draftPayloadDigest : String
  subject : String
  teamRef : Option String

/-- The two checks of a publication against its scope. -/
def matchScope (scope : TenantScope) (publication : Publication) : Except Raise Unit := do
  Proc.rejectIf (scope.siteId ≠ publication.siteId)
    (.valueError "publication site does not match trusted scope")
  Proc.rejectIf (scope.processingPurpose ≠ .observationProcessing)
    (.valueError "publication purpose is not observation processing")

/-- The team of a publication, which a trusted one may only confirm. -/
def teamOf (publication : Publication) (trustedTeamRef : Option String) : Option String :=
  publication.teamRef.or trustedTeamRef

/-- What a publication that passes is prepared as. -/
def prepared (publication : Publication) (trustedTeamRef : Option String) : PreparedPublication :=
  let teamRef := teamOf publication trustedTeamRef
  { intelligenceId := stableId py "communication-intelligence"
      [publication.siteId, publication.observationId]
    draftId := stableId py "communication-draft" [publication.siteId, publication.observationId]
    payloadDigest := digest py (payload publication teamRef)
    draftPayloadDigest := digest py (draftPayload py publication teamRef)
    subject := draftSubject py publication.observationId
    teamRef }

/-- `_prepare_publication`. -/
def preparePublication (scope : TenantScope) (publication : Publication) (idempotencyKey : String)
    (trustedTeamRef : Option String) : Except Raise PreparedPublication := do
  matchScope scope publication
  text idempotencyKey "idempotency_key" 256
  optionalText trustedTeamRef "trusted team_ref" 256
  Proc.rejectIf (publication.teamRef.isSome ∧ publication.teamRef ≠ trustedTeamRef)
    (.valueError "publication team does not match trusted source")
  publication.factProposals.forM (closedFact publication.evidenceRefs)
  publication.associationSuggestions.forM (closedAssociation publication.evidenceRefs)
  return prepared py publication trustedTeamRef

end Prepare
end EsanGbos.Context
