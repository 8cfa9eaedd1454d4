import EsanGbos.App.AiDraft

/-!
# Walks through the list of AI drafts

The list asks each doctype for one row more than a page shows, whatever the cursor is. So the pages
of a walk are those of a fixed list, which holds all drafts only where no doctype has more.

## Main results

* `walk_iff` — what a walk shows: the merged windows of the doctypes.
* `draft_walk_iff` — it shows every visible draft once, newest first, exactly where each doctype has
  at most one draft more than a page and the Agent returns every one.
-/
namespace EsanGbos.App
open Lib Lib.Paging

/-! ## The order of the rows -/

/-- Time and name of a document. -/
def Doc.key (doc : Doc) : ℕ ×ₗ String := toLex (doc.modified.wall, doc.name)

theorem modifiedText_lt_iff {m m' : Naive} :
    modifiedText m < modifiedText m' ↔ m.wall < m'.wall := by
  rw [modifiedText, modifiedText, String.lt_iff_toList_lt, String.toList_ofList,
    String.toList_ofList, Naive.text_lt_text_iff]

theorem modifiedText_inj {m m' : Naive} : modifiedText m = modifiedText m' ↔ m = m' := by
  refine ⟨fun h => ?_, fun h => h ▸ rfl⟩
  exact Naive.text_injective (String.ofList_injective h)

/-- The texts that Python compares come in the order of the times. -/
theorem key_toRow_lt_iff {doc doc' : Doc} :
    doc.toRow.key < doc'.toRow.key ↔ doc.key < doc'.key := by
  rw [Row.key, Row.key, Doc.key, Doc.key, Prod.Lex.toLex_lt_toLex, Prod.Lex.toLex_lt_toLex]
  have heq : modifiedText doc.modified = modifiedText doc'.modified ↔
      doc.modified.wall = doc'.modified.wall := by
    rw [modifiedText_inj]
    refine ⟨fun h => h ▸ rfl, fun h => ?_⟩
    cases hdoc : doc.modified
    cases hdoc' : doc'.modified
    rw [hdoc, hdoc'] at h
    congr
  exact or_congr modifiedText_lt_iff (and_congr heq Iff.rfl)

theorem key_toRow_le_iff {doc doc' : Doc} :
    doc.toRow.key ≤ doc'.toRow.key ↔ doc.key ≤ doc'.key := by
  rw [← not_lt, ← not_lt, key_toRow_lt_iff]

theorem label_injective {d d' : DraftDoctype} (h : d.label = d'.label) : d = d' := by
  revert h
  cases d <;> cases d' <;> decide

theorem length_label (d : DraftDoctype) : d.label.toList.length = 3 := by
  cases d <;> decide

theorem toNat_le_of_mem_label (d : DraftDoctype) : ∀ c ∈ d.label.toList, c.toNat ≤ 126 := by
  refine List.all_iff_forall_prop.mp ?_
  cases d <;> decide

/-- Documents are told apart by their names. -/
theorem Documents.eq_of_name {docs : Documents} {doc doc' : Doc} (hdoc : doc ∈ docs.rows)
    (hdoc' : doc' ∈ docs.rows) (h : doc.name = doc'.name) : doc = doc' := by
  have hdoctype : doc.doctype = doc'.doctype := by
    by_contra hne
    refine makeGbosName_ne ?_ (fun hlabel => hne (label_injective hlabel)) h
    rw [length_label, length_label]
  exact List.inj_on_of_nodup_map docs.nodup hdoc hdoc' (by rw [hdoctype, h])

theorem eq_of_key_eq {docs : Documents} {doc doc' : Doc} (hdoc : doc ∈ docs.rows)
    (hdoc' : doc' ∈ docs.rows) (h : doc.key = doc'.key) : doc = doc' :=
  docs.eq_of_name hdoc hdoc' (congrArg (fun key => (ofLex key).2) h)

/-! ## The windows -/

section
variable (collation : Collation) (docs : Documents) (reader : Reader) (status : Option String)
  (size : ℕ)

/-- The drafts of the filter that the user sees. -/
def matching : List Doc := docs.rows.filter fun doc => isDraft status doc && reader.sees doc

/-- Those of a doctype. -/
def matchingOf (doctype : DraftDoctype) : List Doc :=
  docs.rows.filter fun doc => doc.doctype = doctype && isDraft status doc && reader.sees doc

/-- The rows that the list asks the database for. -/
def windows : List Doc :=
  DraftDoctype.all.flatMap fun doctype => getList collation docs reader status doctype (size + 1)

/-- The windows, newest first. -/
def merged : List Doc :=
  (windows collation docs reader status size).insertionSort fun doc doc' => doc'.key ≤ doc.key

end

variable {platform : Platform} {collation : Collation} {agent : String → Except BffError Json}
  {docs : Documents} {reader : Reader} {status : Option String} {size : ℕ}

theorem mem_matchingOf_of_mem_getList {doctype : DraftDoctype} {n : ℕ} {doc : Doc}
    (h : doc ∈ getList collation docs reader status doctype n) :
    doc ∈ matchingOf docs reader status doctype :=
  (List.mem_insertionSort _).mp (List.mem_of_mem_take h)

theorem mem_rows_of_mem_windows {doc : Doc}
    (h : doc ∈ windows collation docs reader status size) : doc ∈ docs.rows := by
  obtain ⟨doctype, -, hdoc⟩ := List.mem_flatMap.mp h
  exact List.mem_of_mem_filter (mem_matchingOf_of_mem_getList hdoc)

/-- A doctype without names of the user has no row to show. -/
theorem getList_eq_nil {doctype : DraftDoctype} {n : ℕ}
    (h : (reader.allowed.any fun names => (names doctype).isEmpty) = true) :
    getList collation docs reader status doctype n = [] := by
  have hnone : matchingOf docs reader status doctype = [] := by
    refine List.filter_eq_nil_iff.mpr fun doc _ hdoc => ?_
    cases hallowed : reader.allowed with
    | none =>
      rw [hallowed] at h
      cases h
    | some names =>
      rw [hallowed, Option.any_some] at h
      simp only [Bool.and_eq_true, decide_eq_true_eq, Reader.sees, hallowed,
        Option.all_some] at hdoc
      obtain ⟨⟨hdoctype, -⟩, -, hname⟩ := hdoc
      rw [hdoctype, List.isEmpty_iff.mp h] at hname
      cases hname
  rw [getList, ← matchingOf, hnone, List.insertionSort_nil, List.take_nil]

/-- The rows of the list after a cursor are those of the windows. -/
theorem draftRows_eq (cursor : Option (String × String)) :
    draftRows collation docs reader status cursor size =
      ((merged collation docs reader status size).filter
        fun doc => cursor.all fun c => doc.toRow.key < toLex c).map Doc.toRow := by
  have hcandidates : (DraftDoctype.all.flatMap fun doctype =>
      if reader.allowed.any fun names => (names doctype).isEmpty then []
      else ((getList collation docs reader status doctype (size + 1)).map Doc.toRow).filter
        fun row => cursor.all fun c => row.key < toLex c) =
      ((windows collation docs reader status size).filter
        fun doc => cursor.all fun c => doc.toRow.key < toLex c).map Doc.toRow := by
    rw [windows, List.filter_flatMap, List.map_flatMap]
    refine List.flatMap_congr fun doctype _ => ?_
    split
    next h => rw [getList_eq_nil h, List.filter_nil, List.map_nil]
    next => rw [List.filter_map, Function.comp_def]
  have hantisymm : ∀ doc ∈ windows collation docs reader status size,
      ∀ doc' ∈ windows collation docs reader status size,
      doc'.key ≤ doc.key → doc.key ≤ doc'.key → doc = doc' := by
    intro doc hdoc doc' hdoc' hle hge
    have hdoc := mem_rows_of_mem_windows hdoc
    have hdoc' := mem_rows_of_mem_windows hdoc'
    exact eq_of_key_eq hdoc hdoc' (le_antisymm hge hle)
  rw [draftRows, hcandidates, merged, ← insertionSort_filter hantisymm,
    ← List.map_insertionSort (fun doc doc' : Doc => doc'.key ≤ doc.key)]
  exact fun doc _ doc' _ => key_toRow_le_iff.symm

theorem nodup_matching : (matching docs reader status).Nodup :=
  (List.Nodup.of_map _ docs.nodup).filter _

theorem nodup_windows : (windows collation docs reader status size).Nodup := by
  have hrows : docs.rows.Nodup := List.Nodup.of_map _ docs.nodup
  refine List.nodup_flatMap.mpr ⟨fun doctype _ => ?_, ?_⟩
  · have hsorted : ((matchingOf docs reader status doctype).insertionSort
        (newestFirst collation)).Nodup :=
      (List.perm_insertionSort _ _).nodup_iff.mpr (hrows.filter _)
    exact hsorted.sublist (List.take_sublist _ _)
  · have hdisjoint : ∀ {d d' : DraftDoctype}, d ≠ d' →
        (getList collation docs reader status d (size + 1)).Disjoint
          (getList collation docs reader status d' (size + 1)) := by
      intro d d' hne doc hdoc hdoc'
      have hd := List.of_mem_filter (mem_matchingOf_of_mem_getList hdoc)
      have hd' := List.of_mem_filter (mem_matchingOf_of_mem_getList hdoc')
      simp only [Bool.and_eq_true, decide_eq_true_eq] at hd hd'
      exact hne (hd.1.1.symm.trans hd'.1.1)
    have hall : DraftDoctype.all.Nodup := by decide
    exact hall.imp fun hne => hdisjoint hne

/-- The merged windows are sorted strictly. -/
theorem pairwise_merged :
    (merged collation docs reader status size).Pairwise fun doc doc' => doc'.key < doc.key := by
  have hnodup : (merged collation docs reader status size).Nodup :=
    (List.perm_insertionSort _ _).nodup_iff.mpr nodup_windows
  have hsorted : (merged collation docs reader status size).Pairwise
      fun doc doc' => doc'.key ≤ doc.key :=
    List.pairwise_insertionSort (fun doc doc' : Doc => doc'.key ≤ doc.key) _
  refine (hsorted.and hnodup).imp_of_mem fun hdoc hdoc' h => ?_
  have hdoc := mem_rows_of_mem_windows ((List.mem_insertionSort _).mp hdoc)
  have hdoc' := mem_rows_of_mem_windows ((List.mem_insertionSort _).mp hdoc')
  exact lt_of_le_of_ne h.1 fun heq => h.2 (eq_of_key_eq hdoc hdoc' heq.symm)

/-! ## Pages -/

/-- The arguments that the endpoint admits, from a user whom it admits. -/
structure Admitted (reader : Reader) (status : Option String) (pageSize : ℤ) : Prop where
  role : ∃ role ∈ aiDraftRoles, role ∈ reader.roles
  status_mem : ∀ s ∈ status, s ∈ draftStatuses
  size_mem : 1 ≤ pageSize ∧ pageSize ≤ 50

/-- The cursor of a document in the list. -/
def Doc.cursor (doc : Doc) : String := doc.toRow.cursor

/-- A document as the list shows it. -/
def viewDoc (agent : String → Except BffError Json) (doc : Doc) : Except BffError AiDraft :=
  enrichRow agent doc.toRow

variable {pageSize : ℤ}

/-- A page of the list, once its cursor is read. -/
theorem listDrafts_eq (h : Admitted reader status pageSize) {cursor : Option String}
    {value : Option (String × String)} (hcursor : readCursor platform cursor = .ok value) :
    listDrafts platform collation agent docs reader status pageSize cursor =
      shown Doc.cursor (viewDoc agent) pageSize.toNat
        ((merged collation docs reader status pageSize.toNat).filter
          fun doc => value.all fun c => doc.toRow.key < toLex c) := by
  have hrole : Proc.rejectIf (¬ ∃ role ∈ aiDraftRoles, role ∈ reader.roles)
      (⟨"permission_denied", "Role is not permitted", 403⟩ : BffError) = .ok () :=
    Proc.rejectIf_eq_ok.mpr (not_not_intro h.role)
  have hstatus : Proc.rejectIf (∃ s ∈ status, s ∉ draftStatuses)
      (⟨"invalid_query", "status is not allowed", 400⟩ : BffError) = .ok () := by
    refine Proc.rejectIf_eq_ok.mpr ?_
    rintro ⟨s, hs, hnot⟩
    exact hnot (h.status_mem s hs)
  have hsize : Proc.rejectIf (¬ (1 ≤ pageSize ∧ pageSize ≤ 50))
      (⟨"invalid_query", "page_size is outside the allowed range", 400⟩ : BffError) = .ok () :=
    Proc.rejectIf_eq_ok.mpr (not_not_intro h.size_mem)
  have hview : (fun doc : Doc => enrichRow agent doc.toRow) = viewDoc agent := rfl
  rw [listDrafts, hrole, hstatus, hsize, hcursor, Proc.ok_bind, Proc.ok_bind, Proc.ok_bind,
    Proc.ok_bind, draftRows_eq]
  dsimp only
  rw [← List.map_take, enrich, List.mapM_map, List.length_map, List.getLast?_map, Option.map_map]
  rfl

theorem readCursor_cursor (doc : Doc) : readCursor platform (some doc.cursor) =
    .ok (some (modifiedText doc.modified, doc.name)) := by
  have hfits : FitsCursor (modifiedText doc.modified) doc.name :=
    fitsCursor_makeGbosName doc.ulid doc.modified (length_label _) (toNat_le_of_mem_label _)
  exact readCursor_encodeCursor hfits

/-- Every page of a walk is a page of the merged windows. -/
theorem serves_listDrafts (h : Admitted reader status pageSize) :
    Serves (listDrafts platform collation agent docs reader status pageSize) Doc.cursor
      (viewDoc agent) pageSize.toNat (fun _ => True)
      (merged collation docs reader status pageSize.toNat) where
  first := by
    rw [listDrafts_eq h rfl]
    simp only [Option.all_none, List.filter_true]
  later front doc rest hsplit _ := by
    have hsorted : (front ++ doc :: rest).Pairwise fun a b => b.key < a.key := by
      rw [← hsplit]
      exact pairwise_merged
    have hafter := @filter_after Doc (fun a b => a.key < b.key) _ _ front rest doc hsorted
    have hkey : ∀ r : Doc, decide (r.toRow.key < toLex (modifiedText doc.modified, doc.name)) =
        decide (r.key < doc.key) := fun r => decide_eq_decide.mpr key_toRow_lt_iff
    rw [listDrafts_eq h (readCursor_cursor doc), hsplit]
    simp only [Option.all_some, hkey, hafter]
  rejects _ _ hnot := absurd trivial hnot

/-- What a walk through the list shows: the merged windows, if the Agent returns each of them. -/
theorem walk_iff (h : Admitted reader status pageSize) {drafts : List AiDraft} :
    Walk (listDrafts platform collation agent docs reader status pageSize) none drafts ↔
      (merged collation docs reader status pageSize.toNat).mapM (viewDoc agent) = .ok drafts := by
  have hpos : 0 < pageSize.toNat := by
    have hsize := h.size_mem
    omega
  rw [(serves_listDrafts h).walk_iff hpos]
  exact and_iff_right fun _ _ => trivial

/-! ## Complete walks -/

theorem perm_matching (docs : Documents) (reader : Reader) (status : Option String) :
    (DraftDoctype.all.flatMap fun doctype => matchingOf docs reader status doctype).Perm
      (matching docs reader status) := by
  have hrows : docs.rows.Nodup := List.Nodup.of_map _ docs.nodup
  have hmem : ∀ {d doc}, doc ∈ matchingOf docs reader status d ↔
      doc.doctype = d ∧ doc ∈ matching docs reader status := by
    intro d doc
    simp only [matchingOf, matching, List.mem_filter, Bool.and_eq_true, decide_eq_true_eq]
    tauto
  have hnodup : (DraftDoctype.all.flatMap fun d => matchingOf docs reader status d).Nodup := by
    refine List.nodup_flatMap.mpr ⟨fun d _ => hrows.filter _, ?_⟩
    have hall : DraftDoctype.all.Nodup := by decide
    refine hall.imp fun hne doc hdoc hdoc' => ?_
    exact hne ((hmem.mp hdoc).1.symm.trans (hmem.mp hdoc').1)
  refine (List.perm_ext_iff_of_nodup hnodup nodup_matching).mpr fun doc => ?_
  rw [List.mem_flatMap]
  constructor
  · rintro ⟨d, -, hdoc⟩
    exact (hmem.mp hdoc).2
  · intro hdoc
    refine ⟨doc.doctype, ?_, hmem.mpr ⟨rfl, hdoc⟩⟩
    cases doc.doctype <;> decide

theorem length_getList {doctype : DraftDoctype} {n : ℕ} :
    (getList collation docs reader status doctype n).length =
      min n (matchingOf docs reader status doctype).length := by
  rw [getList, ← matchingOf, List.length_take, List.length_insertionSort]

/-- The windows hold everything exactly where no doctype has more than its window. -/
theorem length_windows_eq_iff : (windows collation docs reader status size).length =
      (matching docs reader status).length ↔
    ∀ doctype, (matchingOf docs reader status doctype).length ≤ size + 1 := by
  have hlength := (perm_matching docs reader status).length_eq
  rw [← hlength]
  simp only [windows, DraftDoctype.all, List.flatMap_cons, List.flatMap_nil, List.append_nil,
    List.length_append, length_getList]
  constructor
  · intro heq doctype
    cases doctype <;> omega
  · intro hall
    have hwork := hall .workItem
    have hcase := hall .reviewCase
    have hobservation := hall .informalObservation
    omega

theorem perm_windows (h : ∀ doctype, (matchingOf docs reader status doctype).length ≤ size + 1) :
    (windows collation docs reader status size).Perm (matching docs reader status) := by
  refine List.Perm.trans ?_ (perm_matching docs reader status)
  refine List.Perm.flatMap_left _ fun doctype _ => ?_
  rw [getList, ← matchingOf, List.take_of_length_le]
  · exact List.perm_insertionSort _ _
  · rw [List.length_insertionSort]
    exact h doctype

/-- Following the cursors from none ends, and shows every visible draft of the filter once, the
newest first. -/
def WalksAll (platform : Platform) (collation : Collation)
    (agent : String → Except BffError Json) (docs : Documents) (reader : Reader)
    (status : Option String) (pageSize : ℤ) : Prop :=
  Complete (listDrafts platform collation agent docs reader status pageSize)
    (fun doc doc' : Doc => doc.key < doc'.key) (viewDoc agent) (matching docs reader status)

/-- A walk is complete exactly where its windows are, and the Agent returns every draft. -/
theorem walksAll_iff_windows (h : Admitted reader status pageSize) :
    WalksAll platform collation agent docs reader status pageSize ↔
      (∀ doctype, (matchingOf docs reader status doctype).length ≤ pageSize.toNat + 1) ∧
        ∀ doc ∈ matching docs reader status, ∃ draft, viewDoc agent doc = .ok draft := by
  have hmerged : (merged collation docs reader status pageSize.toNat).Perm
      (windows collation docs reader status pageSize.toNat) := List.perm_insertionSort _ _
  constructor
  · rintro ⟨all, hperm, -, drafts, hdrafts, hwalk⟩
    have hlength : (windows collation docs reader status pageSize.toNat).length =
        (matching docs reader status).length := by
      rw [← hmerged.length_eq, ← length_eq_of_mapM ((walk_iff h).mp hwalk),
        length_eq_of_mapM hdrafts, hperm.length_eq]
    refine ⟨length_windows_eq_iff.mp hlength, fun doc hdoc => ?_⟩
    exact exists_mapM_eq_ok.mp ⟨drafts, hdrafts⟩ doc (hperm.mem_iff.mpr hdoc)
  · rintro ⟨hall, hagent⟩
    have hperm := hmerged.trans (perm_windows hall)
    obtain ⟨drafts, hdrafts⟩ := exists_mapM_eq_ok.mpr
      fun doc hdoc => hagent doc (hperm.mem_iff.mp hdoc)
    exact ⟨_, hperm, pairwise_merged, drafts, hdrafts, (walk_iff h).mpr hdrafts⟩

/-- A walk through the list is complete, exactly where no doctype has more than one draft beyond a
page and the Agent returns every draft. -/
theorem draft_walk_iff (platform : Platform) (collation : Collation)
    (agent : String → Except BffError Json) (docs : Documents) (reader : Reader)
    (status : Option String) (pageSize : ℤ) (h : Admitted reader status pageSize) :
    WalksAll platform collation agent docs reader status pageSize ↔
      (∀ doctype, ((matchingOf docs reader status doctype).length : ℤ) ≤ pageSize + 1) ∧
        ∀ doc ∈ matching docs reader status, ∃ draft, viewDoc agent doc = .ok draft := by
  have hsize := h.size_mem
  rw [walksAll_iff_windows h]
  refine and_congr_left' (forall_congr' fun doctype => ?_)
  omega

/-! ## Drafts that no page shows -/

/-- A platform that reads every text as a datetime. -/
def readsAll : Platform where
  fromisoformat _ := true
  fromisoformat_text _ := rfl
  parseJson text := Json.loads text.toList
  sha256 text := String.ofList text

theorem early_lt : 0 < 3652059 * 86400000000 := by decide

/-- A work item that the Agent has proposed. -/
def proposedItem (ulid : ℕ) : Doc :=
  ⟨.workItem, ulid, ⟨0, early_lt⟩, "AI", "AI Draft", some "P-1", "Call back", 1⟩

def threeRows : List Doc := [proposedItem 1, proposedItem 2, proposedItem 3]

theorem nodup_threeRows : (threeRows.map fun doc => (doc.doctype, doc.name)).Nodup := by decide

def threeItems : Documents := ⟨threeRows, nodup_threeRows⟩

/-- An administrator, who sees every draft. -/
def administrator : Reader := ⟨[.gbosAdmin], fun _ => true, fun _ => []⟩

/-- An Agent that knows every proposal. -/
def knownDraft (reference : String) : Except BffError Json :=
  .ok (.obj [("draft", .obj [("draft_id", .str reference), ("evidence", .arr []),
    ("model", .obj [("name", .str "deepseek-v4-flash"), ("version", .str "1")])])])

theorem admitted_administrator {pageSize : ℤ} (h : 1 ≤ pageSize ∧ pageSize ≤ 50) :
    Admitted administrator none pageSize :=
  ⟨⟨.gbosAdmin, by decide, by decide⟩, by simp, h⟩

theorem knownDraft_threeItems : ∀ doc ∈ matching threeItems administrator none,
    ∃ draft, viewDoc knownDraft doc = .ok draft := by
  have hrows : matching threeItems administrator none = threeRows := rfl
  rw [hrows]
  simp only [threeRows, List.forall_mem_cons, List.not_mem_nil, false_implies, implies_true,
    and_true]
  exact ⟨⟨_, rfl⟩, ⟨_, rfl⟩, ⟨_, rfl⟩⟩

theorem three_drafts_walked :
    WalksAll readsAll codePoints knownDraft threeItems administrator none 2 := by
  refine (draft_walk_iff readsAll codePoints knownDraft threeItems administrator none 2
    (admitted_administrator (by decide))).mpr ⟨fun doctype => ?_, knownDraft_threeItems⟩
  cases doctype <;> decide

/-- With pages of one draft, the third of three work items is never shown. -/
theorem third_draft_lost : ¬ ∀ (platform : Platform) (collation : Collation)
    (agent : String → Except BffError Json) (docs : Documents) (reader : Reader)
    (status : Option String) (pageSize : ℤ), Admitted reader status pageSize →
    (∀ doc ∈ matching docs reader status, ∃ draft, viewDoc agent doc = .ok draft) →
      WalksAll platform collation agent docs reader status pageSize := by
  intro h
  have hadmitted : Admitted administrator none 1 := admitted_administrator (by decide)
  have hwalk := h readsAll codePoints knownDraft threeItems administrator none 1 hadmitted
    knownDraft_threeItems
  have hcount := ((walksAll_iff_windows hadmitted).mp hwalk).1 .workItem
  revert hcount
  decide

end EsanGbos.App
