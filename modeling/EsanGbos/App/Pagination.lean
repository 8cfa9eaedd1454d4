import EsanGbos.App.DraftPages
import EsanGbos.App.Listing
import EsanGbos.AgentRuntime.ReadService

/-!
# The three lists that page by time and name

The lists of work items and review cases belong to the app, that of the drafts to the agent runtime.
All three continue after the time and the name of the last row of a page. Each writes that cursor
for any name, and reads it back within a bound of its own.

## Main results

* `walks_complete_iff` — walks through the lists are complete exactly where the cursors of their
  pages are within these bounds.
-/
namespace EsanGbos.App
open Lib Lib.Paging AgentRuntime

/-! ## Requests -/

/-- Who asks for work items, with which filters and how many at a time. -/
structure WorkItemQuery where
  session : Session
  permitted : ∃ role ∈ workReadRoles, role ∈ session.roles
  filters : Filters
  supported : ∀ name ∈ filters.names, name ∈ workFilters
  pageSize : ℤ

/-- Who asks for review cases, and how many at a time. -/
structure ReviewCaseQuery where
  session : Session
  permitted : ∃ role ∈ reviewCaseRoles, role ∈ session.roles
  pageSize : ℤ
  size_mem : 1 ≤ pageSize ∧ pageSize ≤ 50

/-- The drafts that are asked for. -/
structure DraftQuery where
  siteId : String
  pageSize : ℤ
  status : Option String
  admitted : ReadService.Admitted siteId pageSize status

/-- What the requests read: the rows of the tables do not change, and `permits` and `permitsCase`
are the permission queries. -/
structure Tables (platform : Platform) (db : MariaDb) (order : TextOrder) where
  workItems : WorkItems db
  permits : WorkItem → Bool
  reviewCases : ReviewCases platform db
  permitsCase : ReviewCase → Bool
  proposals : ReadService.Store order

section
variable {platform : Platform} {db : MariaDb} {order : TextOrder}
  (tables : Tables platform db order)

/-- The work items of a request, and those of the review cases and the drafts. -/
def Tables.itemsOf (query : WorkItemQuery) : List WorkItem :=
  visibleWorkItems tables.workItems tables.permits query.filters

def Tables.casesOf (query : ReviewCaseQuery) : List ReviewCase :=
  visibleReviewCases query.session tables.reviewCases tables.permitsCase

def Tables.draftsOf (query : DraftQuery) : List ReadService.ProposalRow :=
  ReadService.visibleDrafts tables.proposals query.siteId query.status

/-- A walk ends, and shows every row of the request once, the newest first. -/
def WalksWorkItems (query : WorkItemQuery) : Prop :=
  Complete (listWorkItems platform db query.session tables.workItems tables.permits query.filters
    query.pageSize) (olderRow db WorkItem.modified WorkItem.name) .ok (tables.itemsOf query)

def WalksReviewCases (query : ReviewCaseQuery) : Prop :=
  Complete (listReviewCases platform db query.session tables.reviewCases tables.permitsCase
    query.pageSize) (olderRow db ReviewCase.modified ReviewCase.name)
    (viewCase platform query.session) (tables.casesOf query)

def WalksDrafts (py : Stdlib) (query : DraftQuery) : Prop :=
  Complete (ReadService.listDrafts py tables.proposals query.siteId query.pageSize
    query.status) (ReadService.olderProposal order)
    (ReadService.draftFromRow tables.proposals) (tables.draftsOf query)

/-- The cursor of every page but the last is within the bounds of its reader. -/
def FitsWorkItems (query : WorkItemQuery) : Prop :=
  ∀ row, EndsPage (workPageSize query.pageSize) ((tables.itemsOf query).insertionSort
    (newestRow db WorkItem.modified WorkItem.name)) row →
    FitsCursor (modifiedText row.modified) row.name

def FitsReviewCases (query : ReviewCaseQuery) : Prop :=
  ∀ row, EndsPage query.pageSize.toNat ((tables.casesOf query).insertionSort
    (newestRow db ReviewCase.modified ReviewCase.name)) row →
    FitsCursor (modifiedText row.modified) row.name

/-- So it is for the drafts, whose evidence references are texts. -/
def FitsDrafts (query : DraftQuery) : Prop :=
  (∀ row, EndsPage query.pageSize.toNat ((tables.draftsOf query).insertionSort
    (ReadService.newestProposal order)) row → ReadService.FitsCursor row) ∧
    ∀ row ∈ tables.draftsOf query, row.evidenceRefs.strs?.isSome

variable {tables}

/-- Walks through the three lists are complete exactly where the cursors of their pages fit. -/
theorem walks_complete_iff (py : Stdlib) (hpy : py.ReadsIsoformat) (tables : Tables platform db order)
    (items : WorkItemQuery) (cases : ReviewCaseQuery) (drafts : DraftQuery) :
    (WalksWorkItems tables items ↔ FitsWorkItems tables items) ∧
      (WalksReviewCases tables cases ↔ FitsReviewCases tables cases) ∧
      (WalksDrafts tables py drafts ↔ FitsDrafts tables drafts) := by
  refine ⟨listWorkItems_complete_iff items.permitted items.supported,
    listReviewCases_complete_iff cases.permitted cases.size_mem, ?_⟩
  exact ReadService.listDrafts_complete_iff hpy drafts.admitted

/-- Rows with names that the app makes. -/
def Named (label : String) (names : List String) : Prop :=
  ∀ name ∈ names, ∃ value, name = makeGbosName label value

/-- Documents keep the names that the app makes; their lists are walked completely. -/
theorem walks_of_named {items : WorkItemQuery} {cases : ReviewCaseQuery}
    (hitems : Named "WRK" ((tables.itemsOf items).map WorkItem.name))
    (hcases : Named "REV" ((tables.casesOf cases).map ReviewCase.name)) :
    WalksWorkItems tables items ∧ WalksReviewCases tables cases := by
  constructor
  · refine (listWorkItems_complete_iff items.permitted items.supported).mpr fun row hrow => ?_
    obtain ⟨k, -, hk⟩ := hrow
    have hmem := (List.mem_insertionSort _).mp (List.mem_of_getElem? hk)
    obtain ⟨value, hname⟩ := hitems row.name (List.mem_map_of_mem hmem)
    rw [hname]
    exact fitsCursor_makeGbosName value row.modified (by decide)
      (List.all_iff_forall_prop.mp (by decide))
  · refine (listReviewCases_complete_iff cases.permitted cases.size_mem).mpr fun row hrow => ?_
    obtain ⟨k, -, hk⟩ := hrow
    have hmem := (List.mem_insertionSort _).mp (List.mem_of_getElem? hk)
    obtain ⟨value, hname⟩ := hcases row.name (List.mem_map_of_mem hmem)
    rw [hname]
    exact fitsCursor_makeGbosName value row.modified (by decide)
      (List.all_iff_forall_prop.mp (by decide))

end

/-! ## A proposal with a long id -/

/-- Texts as their code points decide. -/
def byCodePoint : TextOrder where
  le a b := a ≤ b
  le_total a b := by simpa using String.le_total a b
  le_trans a b c hab hbc := by
    simp only [decide_eq_true_eq] at hab hbc ⊢
    exact String.le_trans hab hbc

/-- A database that reads the texts of its own times. -/
noncomputable def readsTexts : MariaDb where
  toTextOrder := byCodePoint
  readDatetime := Function.partialInv Naive.text
  readDatetime_text := Function.partialInv_left Naive.text_injective

/-- A work item that is proposed to a site. -/
def proposalOf (proposalId : String) (createdAt : Datetime) : ReadService.ProposalRow where
  siteId := "acme"
  proposalId := proposalId
  actionType := "internal.work_item.propose"
  reviewStatus := "AI Draft"
  subjectRef := "S-1"
  subjectRevision := 0
  evidenceRefs := .arr [.str "E-1"]
  invocationIds := []
  createdAt := createdAt

theorem utc_lt : -microsPerDay < 0 ∧ 0 < microsPerDay := by decide

theorem early_mem : 0 ≤ (0 : ℤ) + 0 ∧ (0 : ℤ) + 0 < maxWall := by decide

theorem late_mem : 0 ≤ (1 : ℤ) + 0 ∧ (1 : ℤ) + 0 < maxWall := by decide

def early : Datetime := ⟨0, 0, utc_lt, early_mem⟩

def late : Datetime := ⟨1, 0, utc_lt, late_mem⟩

/-- Two proposals, of which the second has the id. -/
def twoProposals (proposalId : String) : List ReadService.ProposalRow :=
  [proposalOf proposalId late, proposalOf "P-1" early]

theorem distinct_twoProposals {proposalId : String} (h : proposalId ≠ "P-1") :
    (twoProposals proposalId).Pairwise fun p q => p.siteId = q.siteId →
      ¬ (byCodePoint.le p.proposalId q.proposalId = true ∧
        byCodePoint.le q.proposalId p.proposalId = true) := by
  refine List.pairwise_pair.mpr fun _ hle => h ?_
  have hle := hle.imp of_decide_eq_true of_decide_eq_true
  exact String.le_antisymm hle.1 hle.2

/-- The tables of a site with these proposals. -/
def tablesOf (platform : Platform) (db : MariaDb) {proposalId : String} (h : proposalId ≠ "P-1") :
    Tables platform db byCodePoint where
  workItems := ⟨[], List.Pairwise.nil⟩
  permits _ := true
  reviewCases := ⟨[], List.Pairwise.nil, by simp⟩
  permitsCase _ := true
  proposals := ⟨twoProposals proposalId, distinct_twoProposals h, []⟩

theorem admitted_acme {pageSize : ℤ} (h : 1 ≤ pageSize ∧ pageSize ≤ 50) :
    ReadService.Admitted "acme" pageSize none := ⟨by decide, by decide, h, by simp⟩

/-- Their drafts, one at a time. -/
def oneByOne : DraftQuery := ⟨"acme", 1, none, admitted_acme (by decide)⟩

variable {platform : Platform} {db : MariaDb} {proposalId : String}

theorem draftsOf_tablesOf (h : proposalId ≠ "P-1") :
    (tablesOf platform db h).draftsOf oneByOne = twoProposals proposalId := rfl

theorem evidence_twoProposals : ∀ row ∈ twoProposals proposalId, row.evidenceRefs.strs?.isSome := by
  rw [twoProposals, List.forall_mem_cons, List.forall_mem_cons]
  exact ⟨rfl, rfl, by simp⟩

theorem sorted_twoProposals : (twoProposals proposalId).insertionSort
    (ReadService.newestProposal byCodePoint) = twoProposals proposalId := rfl

/-- The first page ends with the proposal of the id. -/
theorem endsPage_twoProposals {row : ReadService.ProposalRow} :
    EndsPage 1 (twoProposals proposalId) row ↔ row = proposalOf proposalId late := by
  constructor
  · rintro ⟨k, hk, hrow⟩
    have hlength : (twoProposals proposalId).length = 2 := rfl
    obtain rfl : k = 0 := by omega
    injection hrow with hrow
    exact hrow.symm
  · rintro rfl
    exact ⟨0, Nat.lt_succ_self 1, rfl⟩

/-- The drafts of the two proposals are walked exactly where the cursor of the id is read. -/
theorem walksDrafts_tablesOf_iff {py : Stdlib} (hpy : py.ReadsIsoformat) (h : proposalId ≠ "P-1") :
    WalksDrafts (tablesOf platform db h) py oneByOne ↔
      ReadService.FitsCursor (proposalOf proposalId late) := by
  rw [WalksDrafts, draftsOf_tablesOf]
  refine (ReadService.listDrafts_complete_iff hpy oneByOne.admitted).trans ?_
  have hvisible : ReadService.visibleDrafts (tablesOf platform db h).proposals oneByOne.siteId
      oneByOne.status = twoProposals proposalId := rfl
  rw [ReadService.sortedDrafts, hvisible, sorted_twoProposals]
  refine (and_iff_left evidence_twoProposals).trans ?_
  constructor
  · intro hends
    exact hends _ (endsPage_twoProposals.mpr rfl)
  · intro hfits row hrow
    rw [endsPage_twoProposals.mp hrow]
    exact hfits

/-- With a short id they are. -/
theorem fitsCursor_short : ReadService.FitsCursor (proposalOf "P-2" late) := by
  refine ⟨?_, by decide⟩
  rw [ReadService.ProposalRow.cursor, ReadService.encodeCursor, String.toList_ofList,
    Cursor.length_encode]
  decide +kernel

/-- Characters outside ASCII take six characters of the cursor's text each. -/
theorem length_escaped (n : ℕ) :
    (((List.replicate n 'é').flatMap Json.escapeChar).flatMap Json.asciiChar).length = 6 * n := by
  induction n with
  | zero => rfl
  | succ n ih =>
    have hchar : ((Json.escapeChar 'é').flatMap Json.asciiChar).length = 6 := by decide
    rw [List.replicate_succ, List.flatMap_cons, List.flatMap_append, List.length_append, ih, hchar]
    omega

theorem not_fitsCursor_of_long {n : ℕ} (hn : 256 ≤ n) : ¬ ReadService.FitsCursor
    (proposalOf (String.ofList (List.replicate n 'é')) late) := by
  rintro ⟨hlength, -⟩
  rw [ReadService.ProposalRow.cursor, ReadService.encodeCursor, String.toList_ofList,
    Cursor.length_encode] at hlength
  have hid := length_escaped n
  have hbrace : (Json.asciiChar '{').length = 1 := by decide
  simp only [Json.dumpsAscii, Json.dumps, Json.dumpsMembers, Json.quote, proposalOf,
    List.flatMap_cons, List.flatMap_append, List.length_append, String.toList_ofList, hid, hbrace]
    at hlength
  omega

/-! ## The lists of a site -/

theorem admin_reads_items : ∃ role ∈ workReadRoles, role ∈ [Role.gbosAdmin] := by decide

theorem admin_reads_cases : ∃ role ∈ reviewCaseRoles, role ∈ [Role.gbosAdmin] := by decide

theorem admin_ne : strip "admin" ≠ "" := by decide

def adminSession : Session := ⟨[.gbosAdmin], "admin", admin_ne⟩

def allItems : WorkItemQuery where
  session := adminSession
  permitted := admin_reads_items
  filters := ⟨[], fun _ => true⟩
  supported := by simp
  pageSize := 20

theorem twenty_mem : 1 ≤ (20 : ℤ) ∧ (20 : ℤ) ≤ 50 := by decide

def allCases : ReviewCaseQuery := ⟨adminSession, admin_reads_cases, 20, twenty_mem⟩

theorem short_ne : "P-2" ≠ "P-1" := by decide

theorem long_ne : String.ofList (List.replicate 256 'é') ≠ "P-1" := by
  intro h
  have hlength : (String.ofList (List.replicate 256 'é')).toList.length = 256 := by
    rw [String.toList_ofList, List.length_replicate]
  rw [h] at hlength
  revert hlength
  decide

/-- A site without items and cases, whose two proposals are shown one by one. -/
theorem short_id_walked :
    WalksDrafts (tablesOf readsAll readsTexts short_ne) (.sample [] []) oneByOne := by
  have hiff := walks_complete_iff (.sample [] []) (Stdlib.sample_readsIsoformat [] [])
    (tablesOf readsAll readsTexts short_ne) allItems allCases oneByOne
  refine hiff.2.2.mpr ⟨fun row hrow => ?_, evidence_twoProposals⟩
  rw [draftsOf_tablesOf] at hrow
  rw [endsPage_twoProposals.mp hrow]
  exact fitsCursor_short

/-- The walk does not get past a proposal whose id has 256 characters, the longest that `get_draft`
takes. -/
theorem long_id_lost : ¬ ∀ (platform : Platform) (db : MariaDb) (order : TextOrder) (py : Stdlib),
    py.ReadsIsoformat → ∀ (tables : Tables platform db order) (items : WorkItemQuery)
    (cases : ReviewCaseQuery) (drafts : DraftQuery),
    (∀ row ∈ tables.draftsOf drafts, row.evidenceRefs.strs?.isSome) →
    WalksWorkItems tables items ∧ WalksReviewCases tables cases ∧ WalksDrafts tables py drafts := by
  intro h
  have hpy := Stdlib.sample_readsIsoformat [] []
  have hwalks := h readsAll readsTexts byCodePoint (.sample [] []) hpy
    (tablesOf readsAll readsTexts long_ne) allItems allCases oneByOne evidence_twoProposals
  exact not_fitsCursor_of_long le_rfl ((walksDrafts_tablesOf_iff hpy long_ne).mp hwalks.2.2)

end EsanGbos.App
