import EsanGbos.App.Permissions
import EsanGbos.App.Query
import EsanGbos.Lib.Paging
import EsanGbos.Stdlib
import Mathlib.Data.Prod.Lex
import Mathlib.Data.String.Basic

/-!
# The AI drafts of version 4

The list of AI drafts merges three doctypes. Of each it asks the database for the newest rows, one
more than a page shows, drops those that the cursor has passed, and sorts what is left. Each row of
the page is completed by what the Agent says about its origin.

## Main definitions

* `Doc`, `Documents` — the documents of the three doctypes.
* `enrich` — a row with the evidence and the model that the Agent returns.
* `listDrafts` — the endpoint.
-/
namespace EsanGbos.App
open Lib

inductive DraftDoctype where
  | workItem | reviewCase | informalObservation
deriving DecidableEq, Repr

namespace DraftDoctype

/-- `_DRAFT_DOCTYPES`. -/
def all : List DraftDoctype := [workItem, reviewCase, informalObservation]

/-- The prefix of the names of a doctype. -/
def label : DraftDoctype → String
  | workItem => "WRK"
  | reviewCase => "REV"
  | informalObservation => "OBS"

/-- `_KINDS`. -/
def kind : DraftDoctype → String
  | workItem => "Work Item"
  | reviewCase => "Review Case"
  | informalObservation => "CEO Informal Observation"

end DraftDoctype

/-- What the endpoints read of a document; `subject` is the title of a work item or review case. -/
structure Doc where
  doctype : DraftDoctype
  /-- The number that the ULID of the name spells. -/
  ulid : ℕ
  modified : Naive
  origin : String
  reviewStatus : String
  originReference : Option String
  subject : String
  revision : ℤ

def Doc.name (doc : Doc) : String := makeGbosName doc.doctype.label doc.ulid

/-- The tables of the three doctypes; a name is the key of a table. -/
structure Documents where
  rows : List Doc
  nodup : (rows.map fun doc => (doc.doctype, doc.name)).Nodup

/-- `AI_DRAFT_ROLES`. -/
def aiDraftRoles : List Role := [.reviewer, .gbosAdmin]

/-- A user of the endpoints. -/
structure Reader where
  roles : List Role
  /-- The permission query of the doctype admits the document. -/
  permits : Doc → Bool
  /-- What `_reviewer_names` collects from the review cases and work items of the user. -/
  reviewerNames : DraftDoctype → List String

/-- `_reviewer_names()`. -/
def Reader.allowed (reader : Reader) : Option (DraftDoctype → List String) :=
  if reader.roles.contains .gbosAdmin then none else some reader.reviewerNames

/-- The documents that a list may show to the user. -/
def Reader.sees (reader : Reader) (doc : Doc) : Bool :=
  reader.permits doc && reader.allowed.all fun names => (names doc.doctype).contains doc.name

/-- The statuses of a draft that awaits its review. -/
def draftStatuses : List String := ["AI Draft", "Pending"]

/-- The origin and the status that the list filters by. -/
def isDraft (status : Option String) (doc : Doc) : Bool :=
  doc.origin = "AI" && match status with
    | some status => doc.reviewStatus = status
    | none => draftStatuses.contains doc.reviewStatus

/-! ## Rows -/

/-- `modified desc, name desc`, with the names as the database compares them. -/
def newestFirst (collation : Collation) (doc doc' : Doc) : Prop :=
  doc'.modified.wall < doc.modified.wall ∨
    doc'.modified.wall = doc.modified.wall ∧ collation.le doc'.name doc.name = true

instance (collation : Collation) : DecidableRel (newestFirst collation) := fun _ _ =>
  inferInstanceAs (Decidable (_ ∨ _))

/-- `frappe.get_list` of a doctype. -/
def getList (collation : Collation) (docs : Documents) (reader : Reader) (status : Option String)
    (doctype : DraftDoctype) (pageLength : ℕ) : List Doc :=
  ((docs.rows.filter fun doc => doc.doctype = doctype && isDraft status doc &&
    reader.sees doc).insertionSort (newestFirst collation)).take pageLength

/-- A row of `_rows`. -/
structure Row where
  draftId : String
  kind : String
  status : String
  origin : String
  originReference : String
  subject : String
  revision : ℤ
  modified : String

/-- A row, as `_rows` and `_local_row` write it. -/
def Doc.toRow (doc : Doc) : Row where
  draftId := doc.name
  kind := doc.doctype.kind
  status := doc.reviewStatus
  origin := doc.origin
  originReference := doc.originReference.getD ""
  subject := doc.subject
  revision := doc.revision
  modified := modifiedText doc.modified

/-- `(modified, name)`, which Python compares in this order. -/
def Row.key (row : Row) : String ×ₗ String := toLex (row.modified, row.draftId)

/-- `_rows(status, cursor, page_size)`. -/
def draftRows (collation : Collation) (docs : Documents) (reader : Reader) (status : Option String)
    (cursor : Option (String × String)) (pageSize : ℕ) : List Row :=
  (DraftDoctype.all.flatMap fun doctype =>
    if reader.allowed.any fun names => (names doctype).isEmpty then []
    else ((getList collation docs reader status doctype (pageSize + 1)).map Doc.toRow).filter
      fun row => cursor.all fun c => row.key < toLex c).insertionSort
    fun row row' => row'.key ≤ row.key

/-! ## Enrichment -/

/-- `V4DTOValidationError`. -/
abbrev V4DtoError := String

/-- `_closed(payload, required=…)`. -/
def closed (payload : Json) (required : List String) : Except V4DtoError Unit := do
  let supplied := match payload with
    | .obj members => members.map Prod.fst
    | _ => []
  let missing := required.filter fun name => !supplied.contains name
  let unexpected := supplied.filter fun name => !required.contains name
  Proc.rejectIf (missing ≠ []) ("missing required fields: " ++ ", ".intercalate (missing.mergeSort))
  Proc.rejectIf (unexpected ≠ [])
    ("unexpected fields: " ++ ", ".intercalate (unexpected.mergeSort))

/-- `_text(value, field)`. -/
def text (value : Json) (field : String) : Except V4DtoError String :=
  match value with
  | .str value =>
      let normalized := strip value
      if normalized = "" ∨ 2000 < normalized.toList.length ∨ normalized.toList.contains '\x00' then
        .error (field ++ " must be a nonempty string")
      else .ok normalized
  | _ => .error (field ++ " must be a nonempty string")

/-- `_enum(value, field, allowed)`. -/
def enum (value : Json) (field : String) (allowed : List String) : Except V4DtoError String := do
  let normalized ← text value field
  Proc.rejectIf (normalized ∉ allowed) (field ++ " is not an allowed value")
  return normalized

/-- `_map_model_metadata`. -/
def mapModelMetadata (payload : Json) : Except V4DtoError (String × String) := do
  Proc.rejectIf (payload.isObj = false) "model must be an object"
  closed payload ["name", "version"]
  Proc.rejectIf (payload.get? "name" ≠ some (.str "deepseek-v4-flash")) "model.name is not allowed"
  let version ← text ((payload.get? "version").getD .null) "model.version"
  return ("deepseek-v4-flash", version)

/-- An entry of `_map_evidence`. -/
def mapEvidenceItem (item : Json) (index : ℕ) : Except V4DtoError (String × String) := do
  let field := "evidence[" ++ toString index ++ "]"
  Proc.rejectIf (item.isObj = false) (field ++ " must be an object")
  closed item ["ref", "locator"]
  let ref ← text ((item.get? "ref").getD .null) (field ++ ".ref")
  let locator ← text ((item.get? "locator").getD .null) (field ++ ".locator")
  return (ref, locator)

/-- `_map_evidence`. -/
def mapEvidence (payload : Json) : Except V4DtoError (List (String × String)) :=
  match payload with
  | .arr items =>
      if 100 < items.length then .error "evidence must be a list with at most 100 entries"
      else items.zipIdx.mapM fun item => mapEvidenceItem item.1 item.2
  | _ => .error "evidence must be a list with at most 100 entries"

/-- A draft of the wire contract. -/
structure AiDraft where
  draftId : String
  kind : String
  status : String
  origin : String
  subject : String
  evidence : List (String × String)
  model : String × String
  revision : ℤ
deriving DecidableEq

/-- `map_ai_draft`. -/
def mapAiDraft (row : Row) (evidence model : Json) : Except V4DtoError AiDraft := do
  Proc.rejectIf (row.origin ≠ "AI") "draft origin must be AI"
  let draftId ← text (.str row.draftId) "draft_id"
  let kind ← enum (.str row.kind) "kind" ["Work Item", "Review Case", "CEO Informal Observation"]
  let status ← enum (.str row.status) "status" draftStatuses
  let subject ← text (.str row.subject) "subject"
  let evidence ← mapEvidence evidence
  let model ← mapModelMetadata model
  Proc.rejectIf (row.revision < 0) "revision must be an integer >= 0"
  return ⟨draftId, kind, status, "AI", subject, evidence, model, row.revision⟩

/-- The error of `_enrich` where a record breaks the wire contract. -/
def invalidResponse : BffError := ⟨"internal_error", "Agent draft response is invalid", 503⟩

/-- A row with what the Agent returns; `agent` is `call_local` at the path of the reference. -/
def enrichRow (agent : String → Except BffError Json) (row : Row) : Except BffError AiDraft := do
  Proc.rejectIf (row.originReference = "") invalidResponse
  let data ← agent row.originReference
  let supplement := (data.get? "draft").getD .null
  Proc.rejectIf (supplement.isObj = false) invalidResponse
  Proc.rejectIf (supplement.get? "draft_id" ≠ some (.str row.originReference)) invalidResponse
  match mapAiDraft row ((supplement.get? "evidence").getD .null)
      ((supplement.get? "model").getD .null) with
  | .ok draft => return draft
  | .error _ => throw invalidResponse

/-- `_enrich(rows)`. -/
def enrich (agent : String → Except BffError Json) (rows : List Row) :
    Except BffError (List AiDraft) := rows.mapM (enrichRow agent)

/-! ## The endpoint -/

/-- The cursor after a row. -/
def Row.cursor (row : Row) : String := encodeCursor row.modified row.draftId

/-- `list(status, cursor, page_size)`. -/
def listDrafts (platform : Platform) (collation : Collation) (agent : String → Except BffError Json)
    (docs : Documents) (reader : Reader) (status : Option String) (pageSize : ℤ)
    (cursor : Option String) : Except BffError (List AiDraft × Option String) := do
  Proc.rejectIf (¬ ∃ role ∈ aiDraftRoles, role ∈ reader.roles)
    ⟨"permission_denied", "Role is not permitted", 403⟩
  Proc.rejectIf (∃ s ∈ status, s ∉ draftStatuses) ⟨"invalid_query", "status is not allowed", 400⟩
  Proc.rejectIf (¬ (1 ≤ pageSize ∧ pageSize ≤ 50))
    ⟨"invalid_query", "page_size is outside the allowed range", 400⟩
  let size := pageSize.toNat
  let cursorValue ← readCursor platform cursor
  let rows := draftRows collation docs reader status cursorValue size
  let page := rows.take size
  let nextCursor := if size < rows.length then page.getLast?.map Row.cursor else none
  let drafts ← enrich agent page
  return (drafts, nextCursor)

end EsanGbos.App
