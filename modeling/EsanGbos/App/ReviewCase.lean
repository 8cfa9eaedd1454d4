import EsanGbos.App.Query
import EsanGbos.Stdlib

/-!
# Review cases

A review case pins its subject: the snapshot of one revision, its digest, and the digest of the
scope that the reviewer decides about. A case without any pin is not submitted yet.

## Main definitions

* `ReviewCase` — the document.
* `buildCasePayload` — the scope that the digest of a case covers.
* `validateScope` — the check of the pins that every save makes.
* `caseDto` — the case as the endpoints return it.

## Main results

* `exists_caseDto` — a pinned case that its save has checked can be returned.
-/
namespace EsanGbos.App
open Lib

/-- `GBOS Review Case`. -/
structure ReviewCase where
  name : String
  modified : Naive
  title : String
  team : String
  assignedReviewer : String
  subjectDoctype : String
  subjectName : String
  subjectRevision : ℤ
  subjectPayloadSha256 : Option String
  subjectSnapshot : Option String
  casePayloadSha256 : Option String
  evidenceRefs : Option String
  policyVersion : Option String
  decisionNote : Option String
  decidedBy : Option String
  decidedAt : Option Naive
  decisionRecord : Option String
  decisionPayloadSha256 : Option String
  origin : String
  originReference : Option String
  businessStatus : String
  reviewStatus : String
  revision : ℤ
  lastRequestId : Option String
deriving DecidableEq

/-- `ReviewDTOValidationError`. -/
abbrev ReviewDtoError := String

/-- `REVIEW_SUBJECT_DOCTYPES`. -/
def reviewSubjectDoctypes : List String :=
  ["GBOS Demand Signal", "GBOS Party Profile", "GBOS Product Brief", "GBOS Sample Feedback",
    "GBOS Sample Iteration", "GBOS Sample Project", "GBOS Sample Shipment", "GBOS Sourcing Event",
    "GBOS Work Item"]

/-! ## Checks of the DTO -/

/-- `_require_text`. -/
def requireText (value : Json) (field : String) (maximum : ℕ) : Except ReviewDtoError String :=
  match value with
  | .str value =>
      if strip value = "" ∨ maximum < (strip value).toList.length then
        .error (field ++ " must contain 1 to " ++ toString maximum ++
          " non-whitespace-bound characters")
      else .ok (strip value)
  | _ => .error (field ++ " must be a nonempty string")

/-- `_require_positive_revision`. -/
def requirePositiveRevision (value : ℤ) (field : String) : Except ReviewDtoError ℤ :=
  if value < 1 then .error (field ++ " must be a positive integer") else .ok value

/-- `_require_hash`. -/
def requireHash (value : Option String) (field : String) : Except ReviewDtoError String :=
  match value with
  | some value =>
      if isDigest value then .ok value
      else .error (field ++ " must be a lowercase SHA-256 hex digest")
  | none => .error (field ++ " must be a lowercase SHA-256 hex digest")

/-- `validate_evidence_references`. -/
def validateEvidenceReferences (value : Json) : Except ReviewDtoError (List String) :=
  match value with
  | .arr (item :: items) => do
      Proc.rejectIf (100 < (item :: items).length)
        "evidence_refs must contain at most 100 references"
      let normalized ← (item :: items).zipIdx.mapM fun e =>
        requireText e.1 ("evidence_refs[" ++ toString e.2 ++ "]") 500
      Proc.rejectIf (¬ normalized.Nodup) "evidence_refs must not contain duplicates"
      return normalized
  | _ => .error "evidence_refs must be a nonempty list"

variable (platform : Platform)

/-- `canonical_payload_hash`. -/
def canonicalPayloadHash (payload : Json) : String := platform.sha256 payload.dumpsAscii

/-- `validate_subject_pin`. -/
def validateSubjectPin (case : ReviewCase) (snapshot : Json) : Except ReviewDtoError Unit := do
  Proc.rejectIf (case.subjectDoctype ∉ reviewSubjectDoctypes) "subject_doctype is not reviewable"
  let name ← requireText (.str case.subjectName) "subject_name" 140
  let revision ← requirePositiveRevision case.subjectRevision "subject_revision"
  let digest ← requireHash case.subjectPayloadSha256 "subject_payload_hash"
  Proc.rejectIf (snapshot.get? "doctype" ≠ some (.str case.subjectDoctype))
    "subject snapshot doctype does not match subject_doctype"
  Proc.rejectIf (snapshot.get? "name" ≠ some (.str name))
    "subject snapshot name does not match subject_name"
  Proc.rejectIf (snapshot.get? "revision" ≠ some (.int revision))
    "subject snapshot revision does not match subject_revision"
  Proc.rejectIf (canonicalPayloadHash platform snapshot ≠ digest)
    "subject snapshot hash does not match subject_payload_hash"

/-! ## The scope of a case -/

/-- `_json_object(value, fieldname)`; a field without a value is no object. -/
def jsonObject (value : Option String) (field : String) : Except ReviewDtoError Json :=
  match value.bind platform.parseJson with
  | some parsed =>
      if parsed.isObj then .ok parsed else .error (field ++ " must be a JSON object")
  | none => .error (field ++ " must be a JSON object")

/-- `_json_list(value, fieldname)`. -/
def jsonList (value : Option String) (field : String) : Except ReviewDtoError (List String) :=
  match validateEvidenceReferences ((value.bind platform.parseJson).getD .null) with
  | .ok references => .ok references
  | .error message => .error (field ++ ": " ++ message)

/-- `build_case_payload`. -/
def buildCasePayload (case : ReviewCase) : Except ReviewDtoError Json := do
  let snapshot ← jsonObject platform case.subjectSnapshot "subject_snapshot"
  let evidence ← jsonList platform case.evidenceRefs "evidence_refs"
  return .obj [("assigned_reviewer", .str case.assignedReviewer),
    ("evidence_refs", .ofStrs evidence),
    ("policy_version", .ofOption .str case.policyVersion),
    ("subject_doctype", .str case.subjectDoctype),
    ("subject_name", .str case.subjectName),
    ("subject_payload_sha256", .ofOption .str case.subjectPayloadSha256),
    ("subject_revision", .int case.subjectRevision),
    ("subject_snapshot", snapshot),
    ("team", .str case.team),
    ("title", .str case.title)]

/-- A pin of the case has a value. -/
def ReviewCase.isPinned (case : ReviewCase) : Bool :=
  let isSet := fun value : Option String => value.any (· ≠ "")
  case.subjectRevision ≠ 0 || isSet case.subjectPayloadSha256 || isSet case.subjectSnapshot ||
    isSet case.casePayloadSha256 || isSet case.evidenceRefs || isSet case.policyVersion

/-- The checks of a pinned case in `_validate_scope`. -/
def validatePins (case : ReviewCase) : Except ReviewDtoError Unit := do
  let snapshot ← jsonObject platform case.subjectSnapshot "subject_snapshot"
  validateSubjectPin platform case snapshot
  let _ ← jsonList platform case.evidenceRefs "evidence_refs"
  Proc.rejectIf (strip (case.policyVersion.getD "") = "") "policy_version must be nonempty"
  let payload ← buildCasePayload platform case
  Proc.rejectIf (some (canonicalPayloadHash platform payload) ≠ case.casePayloadSha256)
    "case_payload_sha256 does not match case scope"

/-- `_validate_scope`. -/
def validateScope (case : ReviewCase) : Except ReviewDtoError Unit := do
  Proc.rejectIf (case.subjectDoctype ∉ reviewSubjectDoctypes)
    "Subject DocType is not reviewable"
  if case.isPinned then validatePins platform case else return

/-! ## The case on the wire -/

/-- `_parse_json(value, fallback=…)`. -/
def parseJsonOr (value : Option String) (fallback : Json) : Option Json :=
  match value with
  | none => some fallback
  | some value => if value = "" then some fallback else platform.parseJson value

/-- What `_case_dto` returns. -/
structure CaseDto where
  name : String
  title : String
  team : String
  assignedReviewer : String
  businessStatus : String
  reviewStatus : String
  caseRevision : ℤ
  casePayloadHash : Option String
  subjectDoctype : String
  subjectName : String
  subjectRevision : ℤ
  subjectPayloadHash : Option String
  subjectSnapshot : Json
  evidence : List Json
  policyReference : Option String
  origin : String
  decisionNote : Option String
  decidedBy : Option String
  decidedAt : Option String
  decisionRecord : Option String
  decisionPayloadSha256 : Option String

/-- `_case_dto`; no value where it raises. -/
def caseDto (case : ReviewCase) : Option CaseDto := do
  let snapshot ← parseJsonOr platform case.subjectSnapshot (.obj [])
  let evidence ← (← parseJsonOr platform case.evidenceRefs (.arr [])).arr?
  return {
    name := case.name
    title := case.title
    team := case.team
    assignedReviewer := case.assignedReviewer
    businessStatus := case.businessStatus
    reviewStatus := case.reviewStatus
    caseRevision := case.revision
    casePayloadHash := case.casePayloadSha256
    subjectDoctype := case.subjectDoctype
    subjectName := case.subjectName
    subjectRevision := case.subjectRevision
    subjectPayloadHash := case.subjectPayloadSha256
    subjectSnapshot := snapshot
    evidence := evidence
    policyReference := case.policyVersion
    origin := case.origin
    decisionNote := case.decisionNote
    decidedBy := case.decidedBy
    decidedAt := case.decidedAt.map modifiedText
    decisionRecord := case.decisionRecord
    decisionPayloadSha256 := case.decisionPayloadSha256 }

variable {platform} {case : ReviewCase}

theorem exists_parseJson_of_jsonObject {value : Option String} {field : String} {parsed : Json}
    (h : jsonObject platform value field = .ok parsed) :
    value.bind platform.parseJson = some parsed := by
  unfold jsonObject at h
  split at h
  next hparse =>
    split at h
    next => injection h with h; rw [hparse, h]
    next => cases h
  next => cases h

theorem exists_arr_of_jsonList {value : Option String} {field : String} {references : List String}
    (h : jsonList platform value field = .ok references) :
    ∃ items, value.bind platform.parseJson = some (.arr items) := by
  unfold jsonList at h
  split at h
  next hvalid =>
    unfold validateEvidenceReferences at hvalid
    split at hvalid
    next item items hitems =>
      refine ⟨item :: items, ?_⟩
      cases hparse : value.bind platform.parseJson with
      | none => rw [hparse] at hitems; cases hitems
      | some parsed =>
        rw [hparse, Option.getD_some] at hitems
        rw [hitems]
    next => cases hvalid
  next => cases h

theorem parseJsonOr_eq {value : Option String} {fallback parsed : Json}
    (h : value.bind platform.parseJson = some parsed) :
    parseJsonOr platform value fallback = some (if value = some "" then fallback else parsed) := by
  cases value with
  | none => cases h
  | some value =>
    rw [Option.bind_some] at h
    rw [parseJsonOr]
    by_cases hempty : value = ""
    · rw [if_pos hempty, if_pos (by rw [hempty])]
    · rw [if_neg hempty, if_neg (by simpa using hempty), h]

/-- A pinned case that its save has checked can be returned. -/
theorem exists_caseDto (h : validateScope platform case = .ok ())
    (hpinned : case.isPinned = true) : ∃ dto, caseDto platform case = some dto := by
  obtain ⟨-, -, h⟩ := Proc.bind_eq_ok.mp h
  rw [if_pos hpinned] at h
  obtain ⟨snapshot, hsnapshot, h⟩ := Proc.bind_eq_ok.mp h
  obtain ⟨-, -, h⟩ := Proc.bind_eq_ok.mp h
  obtain ⟨evidence, hevidence, -⟩ := Proc.bind_eq_ok.mp h
  obtain ⟨items, hitems⟩ := exists_arr_of_jsonList hevidence
  have hparsed := exists_parseJson_of_jsonObject hsnapshot
  rw [caseDto, parseJsonOr_eq hparsed, parseJsonOr_eq hitems]
  by_cases hempty : case.evidenceRefs = some ""
  · rw [if_pos hempty]
    exact ⟨_, rfl⟩
  · rw [if_neg hempty]
    exact ⟨_, rfl⟩

end EsanGbos.App
