import Mathlib.Logic.Function.Basic
import EsanGbos.App.ReviewCase

/-!
# Workflow documents

The documents of a workflow share a base class. Its check of a save compares the document with the
one in the database: the status may only move as the workflow says, and the revision that the
document carries has to be the current one.

## Main definitions

* `validateTransition`, `nextRevision` — the rules of a workflow and of a revision.
* `Document` — a document as a session holds it.
* `Document.validate` — what its doctype checks before it is saved.

## Main results

* `Document.validate_insert`, `Document.validate_update` — what a checked document looks like.
-/
namespace EsanGbos.App
open Lib

/-! ## The rules of a workflow -/

/-- `_TRANSITIONS`. -/
def transitions : List (String × List (String × List String)) :=
  [("sample", [("Draft", ["Designing", "Cancelled"]), ("Designing", ["Sampling", "Cancelled"]),
      ("Sampling", ["Sent", "Cancelled"]), ("Sent", ["Feedback", "Cancelled"]),
      ("Feedback", ["Approved", "Rejected", "Cancelled"]), ("Approved", []), ("Rejected", []),
      ("Cancelled", [])]),
    ("demand", [("Draft", ["Confirmed", "Cancelled"]), ("Confirmed", ["Sourcing", "Cancelled"]),
      ("Sourcing", ["Fulfilled", "Cancelled"]), ("Fulfilled", []), ("Cancelled", [])]),
    ("sourcing", [("Draft", ["Invited", "Cancelled"]), ("Invited", ["Collecting", "Cancelled"]),
      ("Collecting", ["Evaluating", "Cancelled"]),
      ("Evaluating", ["Selected", "Closed", "Cancelled"]), ("Selected", ["Closed"]),
      ("Closed", []), ("Cancelled", [])]),
    ("work", [("Open", ["In Progress", "Blocked", "Cancelled"]),
      ("In Progress", ["Blocked", "Done", "Cancelled"]), ("Blocked", ["In Progress", "Cancelled"]),
      ("Done", []), ("Cancelled", [])]),
    ("review", [("Pending", ["Approved", "Rejected", "Superseded"]), ("Approved", []),
      ("Rejected", []), ("Superseded", [])])]

/-- `_INITIAL_STATUSES`. -/
def initialStatuses : List (String × String) :=
  [("sample", "Draft"), ("demand", "Draft"), ("sourcing", "Draft"), ("work", "Open"),
    ("review", "Pending")]

/-- `InvalidTransition`. -/
abbrev InvalidTransition := String

/-- `validate_initial_status`. -/
def validateInitialStatus (workflow status : String) : Except InvalidTransition Unit :=
  match initialStatuses.lookup workflow with
  | none => .error ("unknown workflow: " ++ workflow)
  | some initial =>
      if status ≠ initial then
        .error ("invalid " ++ workflow ++ " initial status: " ++ status ++ "; expected " ++ initial)
      else .ok ()

/-- `transitions_for`. -/
def transitionsFor (workflow status : String) : Except InvalidTransition (List String) :=
  match (transitions.lookup workflow).bind (List.lookup status) with
  | none => .error ("unknown " ++ workflow ++ " status: " ++ status)
  | some allowed => .ok allowed

/-- `validate_transition`. -/
def validateTransition (workflow before after : String) : Except InvalidTransition Unit :=
  if before = after then .ok ()
  else
    match transitionsFor workflow before with
    | .error e => .error e
    | .ok allowed =>
        if after ∉ allowed then
          .error ("illegal " ++ workflow ++ " transition: " ++ before ++ " -> " ++ after)
        else .ok ()

/-- A status may be followed by another. -/
def Allowed (workflow before after : String) : Prop :=
  ∃ allowed, transitionsFor workflow before = .ok allowed ∧ after ∈ allowed

theorem validateInitialStatus_eq_ok {workflow status : String}
    (h : validateInitialStatus workflow status = .ok ()) :
    initialStatuses.lookup workflow = some status := by
  unfold validateInitialStatus at h
  split at h
  next => cases h
  next initial hinitial =>
    by_cases hstatus : status = initial
    · rw [hinitial, hstatus]
    · rw [if_pos hstatus] at h
      cases h

theorem validateTransition_eq_ok {workflow before after : String}
    (h : validateTransition workflow before after = .ok ()) :
    before = after ∨ Allowed workflow before after := by
  unfold validateTransition at h
  by_cases hsame : before = after
  · exact .inl hsame
  · rw [if_neg hsame] at h
    split at h
    next => cases h
    next allowed hallowed =>
      by_cases hmem : after ∈ allowed
      · exact .inr ⟨allowed, hallowed, hmem⟩
      · rw [if_pos hmem] at h
        cases h

/-- `RevisionConflict`. -/
abbrev RevisionConflict := String

/-- `next_revision`. -/
def nextRevision (expected current : ℤ) : Except RevisionConflict ℤ :=
  if expected ≠ current then
    .error ("expected revision " ++ toString expected ++ ", current revision " ++ toString current)
  else .ok (current + 1)

theorem nextRevision_eq_ok {expected current next : ℤ}
    (h : nextRevision expected current = .ok next) : expected = current ∧ next = current + 1 := by
  unfold nextRevision at h
  by_cases hne : expected ≠ current
  · rw [if_pos hne] at h
    cases h
  · rw [if_neg hne] at h
    exact ⟨not_not.mp hne, (Except.ok.inj h).symm⟩

/-! ## DocumentStore -/

/-- The doctypes of `WORKFLOWS`. -/
inductive WorkflowDoctype where
  | sampleProject | demandSignal | sourcingEvent | workItem | reviewCase
deriving DecidableEq, Repr

namespace WorkflowDoctype

def text : WorkflowDoctype → String
  | sampleProject => "GBOS Sample Project"
  | demandSignal => "GBOS Demand Signal"
  | sourcingEvent => "GBOS Sourcing Event"
  | workItem => "GBOS Work Item"
  | reviewCase => "GBOS Review Case"

/-- `WORKFLOWS`. -/
def workflow : WorkflowDoctype → String
  | sampleProject => "sample"
  | demandSignal => "demand"
  | sourcingEvent => "sourcing"
  | workItem => "work"
  | reviewCase => "review"

/-- `PREFIXES`. -/
def prefixes : WorkflowDoctype → String
  | sampleProject => "SAM"
  | demandSignal => "DEM"
  | sourcingEvent => "SRC"
  | workItem => "WRK"
  | reviewCase => "REV"

end WorkflowDoctype

/-- A row of `GBOS Sourcing Candidate`. -/
structure Candidate where
  candidateStatus : Option String
  supplierName : Option String
deriving DecidableEq

/-- The value of a field. -/
inductive Value where
  | null
  | text (value : String)
  | int (value : ℤ)
  | datetime (value : Naive)
  | rows (value : List Candidate)
deriving DecidableEq

namespace Value

def text? : Value → Option String
  | text value => some value
  | _ => none

def int? : Value → Option ℤ
  | int value => some value
  | _ => none

def datetime? : Value → Option Naive
  | datetime value => some value
  | _ => none

def rows? : Value → List Candidate
  | rows value => value
  | _ => []

/-- `bool(value)`. -/
def truthy : Value → Bool
  | null => false
  | text value => value ≠ ""
  | int value => value ≠ 0
  | datetime _ => true
  | rows value => value ≠ []

end Value

/-- A document. `values` holds the fields that the base class does not know. -/
structure Document where
  doctype : WorkflowDoctype
  name : String
  modified : Naive
  origin : String
  businessStatus : String
  reviewStatus : String
  revision : ℤ
  values : String → Value

/-- `self.get(fieldname)`. -/
def Document.get (doc : Document) (fieldname : String) : Value :=
  match fieldname with
  | "origin" => .text doc.origin
  | "business_status" => .text doc.businessStatus
  | "review_status" => .text doc.reviewStatus
  | "revision" => .int doc.revision
  | _ => doc.values fieldname

/-- The fields of a review case as its checks read them. -/
def Document.asReviewCase (doc : Document) : ReviewCase where
  name := doc.name
  modified := doc.modified
  title := ((doc.get "title").text?).getD ""
  team := ((doc.get "team").text?).getD ""
  assignedReviewer := ((doc.get "assigned_reviewer").text?).getD ""
  subjectDoctype := ((doc.get "subject_doctype").text?).getD ""
  subjectName := ((doc.get "subject_name").text?).getD ""
  subjectRevision := ((doc.get "subject_revision").int?).getD 0
  subjectPayloadSha256 := (doc.get "subject_payload_sha256").text?
  subjectSnapshot := (doc.get "subject_snapshot").text?
  casePayloadSha256 := (doc.get "case_payload_sha256").text?
  evidenceRefs := (doc.get "evidence_refs").text?
  policyVersion := (doc.get "policy_version").text?
  decisionNote := (doc.get "decision_note").text?
  decidedBy := (doc.get "decided_by").text?
  decidedAt := (doc.get "decided_at").datetime?
  decisionRecord := (doc.get "decision_record").text?
  decisionPayloadSha256 := (doc.get "decision_payload_sha256").text?
  origin := doc.origin
  originReference := (doc.get "origin_reference").text?
  businessStatus := doc.businessStatus
  reviewStatus := doc.reviewStatus
  revision := doc.revision
  lastRequestId := (doc.get "last_request_id").text?

/-- `self.flags`. -/
structure Flags where
  gbosFixtureSeed : Bool := false
  gbosReviewCommand : Bool := false
  gbosAiDraftCommand : Bool := false
deriving DecidableEq

/-- The request that saves a document. -/
structure Request where
  flags : Flags := {}
  user : String := "Guest"
  roles : List String := []
  now : Naive
  /-- Drawn by `make_gbos_name` for a new document. -/
  drawn : ℕ := 0

/-- What a save raises. -/
inductive FrappeError where
  | validation (message title : String)
  | permission
  | doesNotExist
  | duplicateEntry
  | rolledBack
deriving DecidableEq

/-- `frappe.throw(message, title=title)` where a check raises. -/
def throws {α : Type} (title : String) (checked : Except String α) : Except FrappeError α :=
  checked.mapError fun message => .validation message title

theorem throws_eq_ok {α : Type} {title : String} {checked : Except String α} {a : α} :
    throws title checked = .ok a ↔ checked = .ok a := by
  cases checked with
  | error message =>
      constructor
      · intro h
        cases h
      · intro h
        cases h
  | ok b =>
      constructor
      · intro h
        rw [Except.ok.inj h]
      · intro h
        rw [Except.ok.inj h]
        rfl

/-- The committed versions of every document, the oldest first. -/
structure DocumentStore where
  keys : List (WorkflowDoctype × String)
  versions : WorkflowDoctype × String → List Document

/-- The version that the database holds. -/
def DocumentStore.current (db : DocumentStore) (key : WorkflowDoctype × String) : Option Document :=
  (db.versions key).getLast?

/-- The `frappe.db.exists` of `_protect_assigned_review_subject`. -/
def DocumentStore.hasPendingCase (db : DocumentStore) (actor : String) (doc : Document) : Bool :=
  db.keys.any fun key => key.1 = .reviewCase ∧ (db.current key).any fun case =>
    case.get "assigned_reviewer" = .text actor ∧
      case.get "subject_doctype" = .text doc.doctype.text ∧
      case.get "subject_name" = .text doc.name ∧ case.businessStatus = "Pending" ∧
      case.reviewStatus = "Pending"

/-! ## The base class

`before` is the document in the database, which the save has locked; a new document has none. -/

namespace GBOSDocument
variable (db : DocumentStore) (request : Request) (before : Option Document) (doc : Document)

/-- `_validate_origin_boundary`. -/
def validateOriginBoundary : Except FrappeError Unit :=
  Proc.rejectIf (before.isNone ∧ doc.origin = "AI" ∧ doc.reviewStatus ≠ "AI Draft")
    (.validation "AI-origin records must be created as AI Draft" "AI Draft boundary")

/-- `_protect_assigned_review_subject`. -/
def protectAssignedReviewSubject : Except FrappeError Unit :=
  if before.isNone ∨ doc.doctype.text ∉ reviewSubjectDoctypes then .ok ()
  else if "Reviewer" ∉ request.roles then .ok ()
  else Proc.rejectIf (db.hasPendingCase request.user doc) .permission

/-- `_validate_transition`. -/
def validateTransition : Except FrappeError Unit :=
  throws "Invalid GBOS workflow transition" <| match before with
    | none =>
        if request.flags.gbosFixtureSeed ∧ doc.origin = "Fixture" then .ok ()
        else validateInitialStatus doc.doctype.workflow doc.businessStatus
    | some before =>
        App.validateTransition doc.doctype.workflow before.businessStatus doc.businessStatus

/-- `_advance_revision`. -/
def advanceRevision : Except FrappeError Document :=
  match before with
  | none => .ok { doc with revision := 1 }
  | some before => do
      let revision ← throws "Revision conflict" (nextRevision doc.revision before.revision)
      return { doc with revision := revision }

/-- `validate`. -/
def validate : Except FrappeError Document := do
  validateOriginBoundary before doc
  protectAssignedReviewSubject db request before doc
  validateTransition request before doc
  advanceRevision before doc

end GBOSDocument

/-! ## Doctypes with checks of their own -/

/-- `_validate_supplier_selection`. -/
def GBOSSourcingEvent.validateSupplierSelection (request : Request) (doc : Document) :
    Except FrappeError Unit := do
  let selectedRows := (doc.get "candidates").rows?.filter (·.candidateStatus = some "Selected")
  let isSelectedState := doc.businessStatus ∈ ["Selected", "Closed"]
  let supplier := doc.get "selected_supplier"
  if isSelectedState then
    Proc.rejectIf (¬ supplier.truthy)
      (.validation "Selected sourcing events require a selected supplier" "Supplier selection")
    Proc.rejectIf (selectedRows.length ≠ 1 ∨
        selectedRows.head?.bind (·.supplierName) ≠ supplier.text?)
      (.validation "Exactly one candidate must match the selected supplier" "Supplier selection")
  else
    Proc.rejectIf (supplier.truthy ∨ selectedRows ≠ [])
      (.validation "Supplier selection is only valid in Selected or Closed status"
        "Supplier selection")
  if ¬ isSelectedState ∨ request.flags.gbosFixtureSeed ∧ doc.origin = "Fixture" then return
  Proc.rejectIf (¬ ∃ role ∈ request.roles, role ∈ ["GBOS Admin", "Purchase Manager"]) .permission

namespace GBOSReviewCase

/-- `_IMMUTABLE_SCOPE_FIELDS`. -/
def immutableScopeFields : List String :=
  ["title", "team", "assigned_reviewer", "subject_doctype", "subject_name", "subject_revision",
    "subject_payload_sha256", "subject_snapshot", "case_payload_sha256", "evidence_refs",
    "policy_version", "origin", "origin_reference"]

/-- `_DECISION_FIELDS`. -/
def decisionFields : List String :=
  ["review_status", "decision_note", "decided_by", "decided_at", "decision_record",
    "decision_payload_sha256"]

/-- `_validate_scope`. -/
def validateScope (platform : Platform) (doc : Document) : Except FrappeError Unit := do
  let case := doc.asReviewCase
  Proc.rejectIf (case.subjectDoctype ∉ reviewSubjectDoctypes)
    (.validation "Subject DocType is not reviewable" "Invalid review subject")
  if case.isPinned then throws "Invalid review pin" (validatePins platform case) else return

/-- `_protect_command_boundary`. -/
def protectCommandBoundary (request : Request) (before : Option Document) (doc : Document) :
    Except FrappeError Unit :=
  match before with
  | none => .ok ()
  | some before => do
      Proc.rejectIf (∃ field ∈ immutableScopeFields, doc.get field ≠ before.get field) .permission
      Proc.rejectIf (before.businessStatus ≠ "Pending") .permission
      Proc.rejectIf (¬ request.flags.gbosReviewCommand ∧
        ∃ field ∈ decisionFields, doc.get field ≠ before.get field) .permission
      Proc.rejectIf (doc.businessStatus ≠ before.businessStatus ∧
        ¬ request.flags.gbosReviewCommand) .permission

/-- `_sync_decision_state`. -/
def syncDecisionState (request : Request) (before : Option Document) (doc : Document) : Document :=
  match before with
  | none => doc
  | some before =>
      if doc.businessStatus = before.businessStatus then doc
      else if doc.businessStatus ∈ ["Approved", "Rejected"] then
        { doc with
          reviewStatus := doc.businessStatus
          values := Function.update doc.values "decided_at" <|
            if (doc.get "decided_at").truthy then doc.get "decided_at" else .datetime request.now }
      else doc

end GBOSReviewCase

/-- `protect_ai_draft_command`. -/
def protectAiDraftCommand (request : Request) (before : Option Document) (doc : Document) :
    Except FrappeError Unit :=
  match before with
  | none => .ok ()
  | some before =>
      if before.reviewStatus ≠ "AI Draft" then .ok ()
      else if doc.reviewStatus = before.reviewStatus then .ok ()
      else do
        Proc.rejectIf (¬ request.flags.gbosAiDraftCommand) .permission
        Proc.rejectIf (before.origin ≠ "AI" ∨ doc.reviewStatus ≠ "Pending" ∨
          doc.businessStatus ≠ before.businessStatus) .permission

/-- The `validate` of the doctype, and after it the hooks of `doc_events`. -/
def Document.validate (platform : Platform) (db : DocumentStore) (request : Request)
    (before : Option Document) (doc : Document) : Except FrappeError Document :=
  match doc.doctype with
  | .sampleProject | .demandSignal => GBOSDocument.validate db request before doc
  | .sourcingEvent => do
      GBOSSourcingEvent.validateSupplierSelection request doc
      GBOSDocument.validate db request before doc
  | .workItem => do
      let doc ← GBOSDocument.validate db request before doc
      protectAiDraftCommand request before doc
      return doc
  | .reviewCase => do
      GBOSReviewCase.validateScope platform doc
      GBOSReviewCase.protectCommandBoundary request before doc
      let doc := GBOSReviewCase.syncDecisionState request before doc
      let doc ← GBOSDocument.validate db request before doc
      protectAiDraftCommand request before doc
      return doc

/-! ## What a checked document looks like -/

section Checked
variable {platform : Platform} {db : DocumentStore} {request : Request} {doc saved : Document}

namespace GBOSDocument

theorem validate_insert (h : validate db request none doc = .ok saved) :
    saved = { doc with revision := 1 } ∧
      ((request.flags.gbosFixtureSeed = true ∧ doc.origin = "Fixture") ∨
        initialStatuses.lookup doc.doctype.workflow = some doc.businessStatus) := by
  obtain ⟨-, -, h⟩ := Proc.bind_eq_ok.mp h
  obtain ⟨-, -, h⟩ := Proc.bind_eq_ok.mp h
  obtain ⟨_, hstatus, h⟩ := Proc.bind_eq_ok.mp h
  refine ⟨(Except.ok.inj h).symm, ?_⟩
  have hchecked := throws_eq_ok.mp hstatus
  by_cases hfixture : request.flags.gbosFixtureSeed = true ∧ doc.origin = "Fixture"
  · exact .inl hfixture
  · simp only [if_neg hfixture] at hchecked
    exact .inr (validateInitialStatus_eq_ok hchecked)

theorem validate_update {before : Document} (h : validate db request (some before) doc = .ok saved) :
    doc.revision = before.revision ∧ saved = { doc with revision := before.revision + 1 } ∧
      (before.businessStatus = doc.businessStatus ∨
        Allowed doc.doctype.workflow before.businessStatus doc.businessStatus) := by
  obtain ⟨-, -, h⟩ := Proc.bind_eq_ok.mp h
  obtain ⟨-, -, h⟩ := Proc.bind_eq_ok.mp h
  obtain ⟨_, hstatus, h⟩ := Proc.bind_eq_ok.mp h
  obtain ⟨revision, hrevision, h⟩ := Proc.bind_eq_ok.mp h
  obtain ⟨hexpected, hnext⟩ := nextRevision_eq_ok (throws_eq_ok.mp hrevision)
  refine ⟨hexpected, ?_, validateTransition_eq_ok (throws_eq_ok.mp hstatus)⟩
  rw [← hnext]
  exact (Except.ok.inj h).symm

end GBOSDocument

/-- The checks of a doctype change nothing that the base class compares. -/
theorem Document.exists_validate {before : Option Document}
    (h : doc.validate platform db request before = .ok saved) :
    ∃ reviewStatus values, GBOSDocument.validate db request before
      { doc with reviewStatus := reviewStatus, values := values } = .ok saved := by
  unfold Document.validate at h
  split at h
  next =>
      exact ⟨doc.reviewStatus, doc.values, h⟩
  next =>
      exact ⟨doc.reviewStatus, doc.values, h⟩
  next =>
      obtain ⟨-, -, h⟩ := Proc.bind_eq_ok.mp h
      exact ⟨doc.reviewStatus, doc.values, h⟩
  next =>
      obtain ⟨checked, hchecked, h⟩ := Proc.bind_eq_ok.mp h
      obtain ⟨-, -, h⟩ := Proc.bind_eq_ok.mp h
      rw [← Except.ok.inj h]
      exact ⟨doc.reviewStatus, doc.values, hchecked⟩
  next =>
      obtain ⟨-, -, h⟩ := Proc.bind_eq_ok.mp h
      obtain ⟨-, -, h⟩ := Proc.bind_eq_ok.mp h
      obtain ⟨checked, hchecked, h⟩ := Proc.bind_eq_ok.mp h
      obtain ⟨-, -, h⟩ := Proc.bind_eq_ok.mp h
      obtain rfl := Except.ok.inj h
      cases before with
      | none => exact ⟨doc.reviewStatus, doc.values, hchecked⟩
      | some before =>
          unfold GBOSReviewCase.syncDecisionState at hchecked
          dsimp only at hchecked
          split at hchecked
          · exact ⟨doc.reviewStatus, doc.values, hchecked⟩
          · split at hchecked
            · exact ⟨_, _, hchecked⟩
            · exact ⟨doc.reviewStatus, doc.values, hchecked⟩

/-- A new document starts at revision 1 and, unless it is a fixture, at the initial status. -/
theorem Document.validate_insert (h : doc.validate platform db request none = .ok saved) :
    saved.doctype = doc.doctype ∧ saved.name = doc.name ∧ saved.revision = 1 ∧
      ((request.flags.gbosFixtureSeed = true ∧ saved.origin = "Fixture") ∨
        initialStatuses.lookup saved.doctype.workflow = some saved.businessStatus) := by
  obtain ⟨reviewStatus, values, hbase⟩ := Document.exists_validate h
  obtain ⟨rfl, hstatus⟩ := GBOSDocument.validate_insert hbase
  exact ⟨rfl, rfl, rfl, hstatus⟩

/-- A saved document follows the one in the database. -/
theorem Document.validate_update {before : Document}
    (h : doc.validate platform db request (some before) = .ok saved) :
    saved.doctype = doc.doctype ∧ saved.name = doc.name ∧ doc.revision = before.revision ∧
      saved.revision = before.revision + 1 ∧ (before.businessStatus = saved.businessStatus ∨
        Allowed saved.doctype.workflow before.businessStatus saved.businessStatus) := by
  obtain ⟨reviewStatus, values, hbase⟩ := Document.exists_validate h
  obtain ⟨hrevision, rfl, hstatus⟩ := GBOSDocument.validate_update hbase
  exact ⟨rfl, rfl, hrevision, rfl, hstatus⟩

end Checked

end EsanGbos.App
