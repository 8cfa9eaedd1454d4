import EsanGbos.App.Permissions
import EsanGbos.App.ReviewCase
import EsanGbos.Lib.Paging

/-!
# The lists of work items and review cases

Both lists push their cursor into the database. After a cursor they ask for two sets of rows: those
of the cursor's time with a smaller name, and then, for what is left of the page, the older ones.

## Main definitions

* `MariaDb` — how the database compares names and reads times.
* `keysetRows` — the rows of a page, by the two queries.
* `listWorkItems`, `listReviewCases` — the endpoints.

## Main results

* `keysetRows_eq` — after a row the queries return the rows after it, in the list's order.
* `keysetPage_complete_iff` — when a walk through such a list is complete.
-/
namespace EsanGbos.App
open Lib Lib.Paging

/-- How the database compares names, and how it reads a text that a time is compared with. -/
structure MariaDb extends TextOrder where
  readDatetime : List Char → Option Naive
  readDatetime_text : ∀ d : Naive, readDatetime d.text = some d

variable {α β : Type}

/-! ## The queries -/

section
variable (db : MariaDb) (modified : α → Naive) (name : α → String)

/-- The rows come in the order `modified desc, name desc`. -/
abbrev newestRow : α → α → Prop := newest db.toTextOrder (fun row => (modified row).wall) name

abbrev olderRow : α → α → Prop := older db.toTextOrder (fun row => (modified row).wall) name

/-- The first rows of a list after a cursor, where `rows` satisfy its filters and permissions. -/
def keysetRows (rows : List α) (cursor : Option (String × String)) (length : ℕ) : List α :=
  match cursor with
  | none => (rows.insertionSort (newestRow db modified name)).take length
  | some (time, last) =>
      let at? := db.readDatetime time.toList
      let same := ((rows.filter fun row => at? = some (modified row) &&
        db.lt (name row) last).insertionSort (nameDesc db.toTextOrder name)).take length
      let remaining := length - same.length
      if 0 < remaining then
        same ++ ((rows.filter fun row => at?.any fun time =>
          (modified row).wall < time.wall).insertionSort (newestRow db modified name)).take remaining
      else same

/-- A page of a list, in which `view` returns a row. -/
def keysetPage (platform : Platform) (view : α → Except BffError β) (rows : List α) (size : ℕ)
    (cursor : Option String) : Except BffError (List β × Option String) := do
  let value ← readCursor platform cursor
  let found := keysetRows db modified name rows value (size + 1)
  let page := found.take size
  let nextCursor := if size < found.length then
    page.getLast?.map fun row => encodeCursor (modifiedText (modified row)) (name row) else none
  let shown ← page.mapM view
  return (shown, nextCursor)

end

/-! ## The rows after a row -/

variable {db : MariaDb} {modified : α → Naive} {name : α → String}

/-- The two queries after a row, without their limits. -/
def queries (db : MariaDb) (modified : α → Naive) (name : α → String) (rows : List α) (last : α) :
    List α :=
  ((rows.filter fun row => some (modified last) = some (modified row) &&
    db.lt (name row) (name last)).insertionSort (nameDesc db.toTextOrder name)) ++
  (rows.filter fun row => (modified row).wall < (modified last).wall).insertionSort
    (newestRow db modified name)

theorem keysetRows_queries (rows : List α) (last : α) (length : ℕ) :
    keysetRows db modified name rows (some (modifiedText (modified last), name last)) length =
      (queries db modified name rows last).take length := by
  have hread : db.readDatetime (modifiedText (modified last)).toList = some (modified last) := by
    rw [modifiedText, String.toList_ofList, db.readDatetime_text]
  rw [keysetRows, queries, hread]
  generalize hsame : (rows.filter fun row => some (modified last) = some (modified row) &&
    db.lt (name row) (name last)).insertionSort (nameDesc db.toTextOrder name) = same
  simp only [Option.any_some]
  split
  next hremaining =>
    have hlt : same.length < length := by
      rw [List.length_take] at hremaining
      omega
    rw [List.take_append, List.length_take, Nat.min_eq_right hlt.le]
  next hremaining =>
    have hle : length ≤ same.length := by
      rw [List.length_take] at hremaining
      omega
    rw [List.take_append_of_le_length hle]

/-- The rows of the two queries are those that come after the row. -/
theorem perm_queries (rows : List α) (last : α) : (queries db modified name rows last).Perm
    (rows.filter fun row => olderRow db modified name row last) := by
  have hsame : (rows.filter fun row => some (modified last) = some (modified row) &&
      db.lt (name row) (name last)) = ((rows.filter fun row =>
        olderRow db modified name row last).filter fun row => ! decide
          ((modified row).wall < (modified last).wall)) := by
    rw [List.filter_filter]
    refine List.filter_congr fun row _ => ?_
    have hwall : some (modified last) = some (modified row) ↔
        (modified row).wall = (modified last).wall := by
      rw [Option.some.injEq]
      refine ⟨fun h => by rw [h], fun h => ?_⟩
      cases hrow : modified row
      cases hlast : modified last
      rw [hrow, hlast] at h
      congr
      exact h.symm
    rw [Bool.eq_iff_iff]
    simp only [Bool.and_eq_true, decide_eq_true_eq, hwall, Bool.not_eq_true',
      decide_eq_false_iff_not]
    constructor
    · rintro ⟨heq, hlt⟩
      exact ⟨by omega, .inr ⟨heq, hlt⟩⟩
    · rintro ⟨hnot, hlt | h⟩
      · exact absurd hlt hnot
      · exact h
  have holder : (rows.filter fun row => decide ((modified row).wall < (modified last).wall)) =
      ((rows.filter fun row => olderRow db modified name row last).filter fun row =>
        decide ((modified row).wall < (modified last).wall)) := by
    rw [List.filter_filter]
    refine List.filter_congr fun row _ => ?_
    rw [Bool.eq_iff_iff]
    simp only [Bool.and_eq_true, decide_eq_true_eq]
    exact ⟨fun h => ⟨h, .inl h⟩, fun h => h.1⟩
  have hsplit := List.filter_append_perm (fun row => decide
    ((modified row).wall < (modified last).wall)) (rows.filter fun row =>
      olderRow db modified name row last)
  refine List.Perm.trans ?_ hsplit
  refine List.Perm.trans ?_ List.perm_append_comm
  rw [queries, ← hsame, ← holder]
  exact (List.perm_insertionSort _ _).append (List.perm_insertionSort _ _)

/-- The two queries return their rows in the order of the list. -/
theorem pairwise_queries {rows : List α} (h : NamesDistinct db.toTextOrder name rows) (last : α) :
    (queries db modified name rows last).Pairwise fun a b => olderRow db modified name b a := by
  refine List.pairwise_append.mpr ⟨?_, pairwise_older (h.filter _), ?_⟩
  · have hsorted := List.pairwise_insertionSort (nameDesc db.toTextOrder name)
      (rows.filter fun row => some (modified last) = some (modified row) &&
        db.lt (name row) (name last))
    have hnames := (h.filter fun row => some (modified last) = some (modified row) &&
      db.lt (name row) (name last)).of_perm (List.perm_insertionSort (nameDesc db.toTextOrder name) _).symm
    refine (hsorted.and hnames).imp_of_mem fun {a b} ha hb hab => ?_
    have htime : ∀ r ∈ (rows.filter fun row => some (modified last) = some (modified row) &&
        db.lt (name row) (name last)).insertionSort (nameDesc db.toTextOrder name),
        modified last = modified r := by
      intro r hr
      have hr := List.of_mem_filter ((List.mem_insertionSort _).mp hr)
      simp only [Bool.and_eq_true, decide_eq_true_eq, Option.some.injEq] at hr
      exact hr.1
    have htime : (modified b).wall = (modified a).wall := by rw [← htime a ha, ← htime b hb]
    exact .inr ⟨htime, TextOrder.lt_of_le_of_not_both hab.1 hab.2⟩
  · intro a ha b hb
    have ha := List.of_mem_filter ((List.mem_insertionSort _).mp ha)
    have hb := List.of_mem_filter ((List.mem_insertionSort _).mp hb)
    simp only [Bool.and_eq_true, decide_eq_true_eq, Option.some.injEq] at ha hb
    rw [ha.1] at hb
    exact .inl hb

/-- After a row of the list the queries return the rows after it, in the list's order. -/
theorem keysetRows_eq {rows front rest : List α} {last : α} (h : NamesDistinct db.toTextOrder name rows)
    (hsplit : rows.insertionSort (newestRow db modified name) = front ++ last :: rest) (length : ℕ) :
    keysetRows db modified name rows (some (modifiedText (modified last), name last)) length =
      rest.take length := by
  have hsorted : (rows.insertionSort (newestRow db modified name)).Pairwise
      fun a b => olderRow db modified name b a := pairwise_older h
  rw [hsplit] at hsorted
  have hafter := filter_after hsorted
  have hperm : (queries db modified name rows last).Perm rest := by
    rw [← hafter, ← hsplit]
    exact (perm_queries rows last).trans ((List.perm_insertionSort _ rows).filter _).symm
  have hrest : rest.Pairwise fun a b => olderRow db modified name b a :=
    (List.pairwise_cons.mp (List.pairwise_append.mp hsorted).2.1).2
  rw [keysetRows_queries, eq_of_perm_of_pairwise hperm (pairwise_queries h last) hrest]

/-! ## Walks -/

section
variable {platform : Platform} {view : α → Except BffError β} {rows : List α} {size : ℕ}

/-- A page, once its cursor is read and its rows are found. -/
theorem keysetPage_eq {cursor : Option String} {value : Option (String × String)} {rest : List α}
    (hcursor : readCursor platform cursor = .ok value)
    (hfound : keysetRows db modified name rows value (size + 1) = rest.take (size + 1)) :
    keysetPage db modified name platform view rows size cursor =
      shown (fun row => encodeCursor (modifiedText (modified row)) (name row)) view size rest := by
  rw [keysetPage, hcursor, Proc.ok_bind]
  dsimp only
  rw [hfound, ← shown_take]
  rfl

/-- The pages are those of the sorted rows, as far as the cursors fit. -/
theorem serves_keysetPage (h : NamesDistinct db.toTextOrder name rows) :
    Serves (keysetPage db modified name platform view rows size)
      (fun row => encodeCursor (modifiedText (modified row)) (name row)) view size
      (fun row => FitsCursor (modifiedText (modified row)) (name row))
      (rows.insertionSort (newestRow db modified name)) where
  first := keysetPage_eq rfl rfl
  later _ _ _ hsplit hfits := keysetPage_eq (readCursor_encodeCursor hfits)
    (keysetRows_eq h hsplit _)
  rejects row _ hfits := by
    refine ⟨⟨"invalid_cursor", "invalid cursor", 400⟩, ?_⟩
    rw [keysetPage, readCursor_eq_error hfits]
    rfl

/-- A walk is complete exactly where the cursor of every page fits and every row can be shown. -/
theorem keysetPage_complete_iff (h : NamesDistinct db.toTextOrder name rows) (hsize : 0 < size) :
    Complete (keysetPage db modified name platform view rows size) (olderRow db modified name) view
        rows ↔
      (∀ row, EndsPage size (rows.insertionSort (newestRow db modified name)) row →
        FitsCursor (modifiedText (modified row)) (name row)) ∧
      ∀ row ∈ rows, ∃ b, view row = .ok b :=
  (serves_keysetPage h).complete_iff hsize (List.perm_insertionSort _ _) (pairwise_older h)

end

/-! ## The endpoints -/

/-- Who makes a request. -/
structure Session where
  roles : List Role
  actor : String
  actor_ne : strip actor ≠ ""

/-- `require_roles(allowed)`. -/
def requireRoles (session : Session) (allowed : List Role) : Except BffError Unit :=
  Proc.rejectIf (¬ ∃ role ∈ allowed, role ∈ session.roles)
    ⟨"permission_denied", "Role is not permitted", 403⟩

/-- The fields of `WORK_FIELDS`. -/
structure WorkItem where
  name : String
  title : String
  team : String
  assignedTo : Option String
  priority : Option String
  dueDate : Option String
  origin : String
  businessStatus : String
  reviewStatus : String
  revision : ℤ
  referenceDoctype : Option String
  referenceName : Option String
  modified : Naive
deriving DecidableEq

/-- The table of work items. -/
structure WorkItems (db : MariaDb) where
  rows : List WorkItem
  distinct : NamesDistinct db.toTextOrder WorkItem.name rows

/-- `WORK_READ_ROLES`. -/
def workReadRoles : List Role :=
  [.gbosAdmin, .ceo, .salesManager, .salesUser, .purchaseManager, .buyer, .productRd, .reviewer]

/-- `WORK_FILTERS`. -/
def workFilters : List String := ["team", "business_status", "assigned_to", "priority", "due_date"]

/-- A filter object: the fields that it names, and the rows that Frappe takes it to admit. -/
structure Filters where
  names : List String
  admits : WorkItem → Bool

/-- The rows of a list of work items; `permits` is the permission query. -/
def visibleWorkItems {db : MariaDb} (items : WorkItems db) (permits : WorkItem → Bool)
    (filters : Filters) : List WorkItem :=
  items.rows.filter fun item => permits item && filters.admits item

/-- The page size of `work_item.list`. -/
def workPageSize (pageSize : ℤ) : ℕ := (max 1 (min pageSize 50)).toNat

/-- `work_item.list(filters, cursor, page_size)`. -/
def listWorkItems (platform : Platform) (db : MariaDb) (session : Session) (items : WorkItems db)
    (permits : WorkItem → Bool) (filters : Filters) (pageSize : ℤ) (cursor : Option String) :
    Except BffError (List WorkItem × Option String) := do
  requireRoles session workReadRoles
  let unexpected := filters.names.filter fun name => !workFilters.contains name
  Proc.rejectIf (unexpected ≠ []) ⟨"invalid_query",
    "unsupported filters: " ++ ", ".intercalate unexpected.mergeSort, 400⟩
  keysetPage db WorkItem.modified WorkItem.name platform .ok
    (visibleWorkItems items permits filters) (workPageSize pageSize) cursor

/-- The table of review cases; every save has checked its scope. -/
structure ReviewCases (platform : Platform) (db : MariaDb) where
  rows : List ReviewCase
  distinct : NamesDistinct db.toTextOrder ReviewCase.name rows
  checked : ∀ case ∈ rows, validateScope platform case = .ok ()

/-- `REVIEW_CASE_ROLES`. -/
def reviewCaseRoles : List Role := [.reviewer, .gbosAdmin]

/-- `review_case_scope_filters`, as the rows that it admits. -/
def inReviewScope (session : Session) (case : ReviewCase) : Bool :=
  session.roles.contains .gbosAdmin || case.assignedReviewer = strip session.actor

/-- `can_access_review_case`. -/
def canAccessReviewCase (session : Session) (assignedReviewer : String) : Bool :=
  session.roles.contains .gbosAdmin ||
    (session.roles.contains .reviewer && assignedReviewer = strip session.actor)

/-- The rows of a list of review cases; `permits` is the permission query. -/
def visibleReviewCases {platform : Platform} {db : MariaDb} (session : Session)
    (cases : ReviewCases platform db) (permits : ReviewCase → Bool) : List ReviewCase :=
  cases.rows.filter fun case => permits case && inReviewScope session case &&
    case.reviewStatus = "Pending" && case.businessStatus = "Pending" &&
    case.casePayloadSha256.any (· ≠ "")

/-- A row of the list, read again by `_scoped_case` and returned by `_case_dto`. -/
def viewCase (platform : Platform) (session : Session) (case : ReviewCase) :
    Except BffError CaseDto :=
  if canAccessReviewCase session case.assignedReviewer then
    match caseDto platform case with
    | some dto => .ok dto
    | none => .error ⟨"internal_error", "Internal server error", 500⟩
  else .error ⟨"permission_denied", "Permission denied", 403⟩

/-- `review_case.list(cursor, page_size)`. -/
def listReviewCases (platform : Platform) (db : MariaDb) (session : Session)
    (cases : ReviewCases platform db) (permits : ReviewCase → Bool) (pageSize : ℤ)
    (cursor : Option String) : Except BffError (List CaseDto × Option String) := do
  requireRoles session reviewCaseRoles
  Proc.rejectIf (¬ (1 ≤ pageSize ∧ pageSize ≤ 50))
    ⟨"invalid_query", "page_size is outside the allowed range", 400⟩
  keysetPage db ReviewCase.modified ReviewCase.name platform (viewCase platform session)
    (visibleReviewCases session cases permits) pageSize.toNat cursor

section
variable {platform : Platform} {session : Session} {pageSize : ℤ}

theorem requireRoles_eq_ok {allowed : List Role} (h : ∃ role ∈ allowed, role ∈ session.roles) :
    requireRoles session allowed = .ok () := Proc.rejectIf_eq_ok.mpr (not_not_intro h)

/-- A row in the scope of the user can be read and returned. -/
theorem exists_viewCase {cases : ReviewCases platform db} {permits : ReviewCase → Bool}
    (hrole : ∃ role ∈ reviewCaseRoles, role ∈ session.roles) {case : ReviewCase}
    (h : case ∈ visibleReviewCases session cases permits) :
    ∃ dto, viewCase platform session case = .ok dto := by
  obtain ⟨hmem, hvisible⟩ := List.mem_filter.mp h
  simp only [Bool.and_eq_true] at hvisible
  obtain ⟨⟨⟨⟨-, hscope⟩, -⟩, -⟩, hpin⟩ := hvisible
  have haccess : canAccessReviewCase session case.assignedReviewer = true := by
    obtain ⟨role, hallowed, hrole⟩ := hrole
    rw [canAccessReviewCase]
    rw [inReviewScope] at hscope
    simp only [reviewCaseRoles, List.mem_cons, List.not_mem_nil, or_false] at hallowed
    rcases hallowed with rfl | rfl
    · simpa [hrole] using hscope
    · simp [hrole]
  have hpinned : case.isPinned = true := by
    simp only [ReviewCase.isPinned, hpin, Bool.or_true, Bool.true_or]
  obtain ⟨dto, hdto⟩ := exists_caseDto (cases.checked case hmem) hpinned
  exact ⟨dto, by rw [viewCase, if_pos haccess, hdto]⟩

theorem listWorkItems_complete_iff {items : WorkItems db} {permits : WorkItem → Bool}
    {filters : Filters} (hrole : ∃ role ∈ workReadRoles, role ∈ session.roles)
    (hfilters : ∀ name ∈ filters.names, name ∈ workFilters) :
    Complete (listWorkItems platform db session items permits filters pageSize)
        (olderRow db WorkItem.modified WorkItem.name) .ok (visibleWorkItems items permits filters) ↔
      ∀ row, EndsPage (workPageSize pageSize) ((visibleWorkItems items permits filters).insertionSort
          (newestRow db WorkItem.modified WorkItem.name)) row →
        FitsCursor (modifiedText row.modified) row.name := by
  have hunexpected : (filters.names.filter fun name => !workFilters.contains name) = [] := by
    refine List.filter_eq_nil_iff.mpr fun name hname => ?_
    simpa using hfilters name hname
  have hfetch : listWorkItems platform db session items permits filters pageSize =
      keysetPage db WorkItem.modified WorkItem.name platform .ok
        (visibleWorkItems items permits filters) (workPageSize pageSize) := by
    funext cursor
    rw [listWorkItems, requireRoles_eq_ok hrole, Proc.ok_bind]
    dsimp only
    rw [hunexpected]
    rfl
  have hsize : 0 < workPageSize pageSize := by
    unfold workPageSize
    omega
  have hdistinct : NamesDistinct db.toTextOrder WorkItem.name (visibleWorkItems items permits filters) :=
    items.distinct.filter _
  rw [hfetch, keysetPage_complete_iff hdistinct hsize]
  exact and_iff_left fun row _ => ⟨row, rfl⟩

theorem listReviewCases_complete_iff {cases : ReviewCases platform db}
    {permits : ReviewCase → Bool} (hrole : ∃ role ∈ reviewCaseRoles, role ∈ session.roles)
    (hsize : 1 ≤ pageSize ∧ pageSize ≤ 50) :
    Complete (listReviewCases platform db session cases permits pageSize)
        (olderRow db ReviewCase.modified ReviewCase.name) (viewCase platform session)
        (visibleReviewCases session cases permits) ↔
      ∀ row, EndsPage pageSize.toNat ((visibleReviewCases session cases permits).insertionSort
          (newestRow db ReviewCase.modified ReviewCase.name)) row →
        FitsCursor (modifiedText row.modified) row.name := by
  have hfetch : listReviewCases platform db session cases permits pageSize =
      keysetPage db ReviewCase.modified ReviewCase.name platform (viewCase platform session)
        (visibleReviewCases session cases permits) pageSize.toNat := by
    funext cursor
    have hlength : Proc.rejectIf (¬ (1 ≤ pageSize ∧ pageSize ≤ 50))
        (⟨"invalid_query", "page_size is outside the allowed range", 400⟩ : BffError) = .ok () :=
      Proc.rejectIf_eq_ok.mpr (not_not_intro hsize)
    rw [listReviewCases, requireRoles_eq_ok hrole, hlength, Proc.ok_bind, Proc.ok_bind]
  have hdistinct : NamesDistinct db.toTextOrder ReviewCase.name (visibleReviewCases session cases permits) :=
    cases.distinct.filter _
  rw [hfetch, keysetPage_complete_iff hdistinct (by omega)]
  exact and_iff_left fun row hrow => exists_viewCase hrole hrow

end

end EsanGbos.App
