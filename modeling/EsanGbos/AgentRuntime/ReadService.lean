import EsanGbos.AgentRuntime.Models
import EsanGbos.Lib.Cursor
import EsanGbos.Lib.Paging

/-!
# Reading the proposals of the agent runtime

The service lists the proposals of a site that become drafts, the newest first, and returns one by
its id. Its cursor names the time and the id of the last row of a page, and is refused when it is
longer than 2048 characters; ids are texts of any length.

## Main definitions

* `listDrafts`, `getDraft` — the two reads.
* `FitsCursor` — the cursor of a row can be read.

## Main results

* `listDrafts_complete_iff` — when a walk through the list is complete.
-/
namespace EsanGbos.AgentRuntime.ReadService
open Lib Lib.Paging

/-! ## The tables -/

/-- What the reads take from a row of `action_proposals`. -/
structure ProposalRow where
  siteId : String
  proposalId : String
  actionType : String
  reviewStatus : String
  subjectRef : String
  subjectRevision : ℤ
  evidenceRefs : Json
  invocationIds : List String
  createdAt : Datetime

/-- What the reads take from a row of `model_invocations`. -/
structure InvocationRow where
  siteId : String
  invocationId : String
  requestedModel : String
  observedModel : Option String
  startedAt : Datetime

/-- The two tables; site and id are the key of the proposals. -/
structure Store (order : TextOrder) where
  proposals : List ProposalRow
  distinct : proposals.Pairwise fun p q => p.siteId = q.siteId →
    ¬ (order.le p.proposalId q.proposalId = true ∧ order.le q.proposalId p.proposalId = true)
  invocations : List InvocationRow

/-! ## Rows -/

/-- `_DRAFT_KINDS`. -/
def draftKinds : List (String × String) :=
  [("internal.work_item.propose", "Work Item"), ("internal.review_case.propose", "Review Case"),
    ("internal.ai_draft.propose", "CEO Informal Observation")]

/-- The invocation comes first: `started_at asc, invocation_id asc`. -/
def invokedBefore (order : TextOrder) (i j : InvocationRow) : Prop :=
  i.startedAt.instant < j.startedAt.instant ∨
    i.startedAt.instant = j.startedAt.instant ∧ order.le i.invocationId j.invocationId = true

instance (order : TextOrder) : DecidableRel (invokedBefore order) := fun _ _ =>
  inferInstanceAs (Decidable (_ ∨ _))

/-- `model_version` of `_DRAFT_COLUMNS`. -/
def modelVersion {order : TextOrder} (store : Store order) (row : ProposalRow) : String :=
  let invocations := store.invocations.filter fun i => i.siteId = row.siteId &&
    row.invocationIds.contains i.invocationId && i.requestedModel = "deepseek-v4-flash"
  ((invocations.insertionSort (invokedBefore order)).head?.map fun i =>
    i.observedModel.getD i.requestedModel).getD "unknown"

/-- `AiDraft`. -/
structure AiDraft where
  draftId : String
  kind : String
  status : String
  origin : String
  subject : String
  evidence : List (String × String)
  modelVersion : String
  revision : ℤ
deriving DecidableEq

/-- `AiDraft.to_wire`. -/
def AiDraft.toWire (draft : AiDraft) : Json :=
  .obj [("draft_id", .str draft.draftId), ("kind", .str draft.kind), ("status", .str draft.status),
    ("origin", .str draft.origin), ("subject", .str draft.subject),
    ("evidence", .arr (draft.evidence.map fun e =>
      .obj [("ref", .str e.1), ("locator", .str e.2)])),
    ("model", .obj [("name", .str "deepseek-v4-flash"), ("version", .str draft.modelVersion)]),
    ("revision", .int draft.revision)]

/-- `_draft_from_row`. -/
def draftFromRow {order : TextOrder} (store : Store order) (row : ProposalRow) :
    Except Raise AiDraft :=
  match draftKinds.lookup row.actionType with
  | none => .error (.valueError "unsupported action proposal type")
  | some kind =>
      match row.evidenceRefs.strs? with
      | none => .error (.valueError "invalid proposal evidence references")
      | some references => .ok {
          draftId := row.proposalId
          kind := kind
          status := "AI Draft"
          origin := "AI"
          subject := row.subjectRef
          evidence := references.map fun reference => (reference, "evidence://" ++ reference)
          modelVersion := modelVersion store row
          revision := row.subjectRevision }

/-! ## Cursors -/

/-- `_encode_cursor`. -/
def encodeCursor (createdAt : Datetime) (proposalId : String) : String :=
  String.ofList (Cursor.encode (.obj [("created_at", .str (String.ofList createdAt.isoformat)),
    ("proposal_id", .str proposalId)]))

/-- The cursor after a row. -/
def ProposalRow.cursor (row : ProposalRow) : String := encodeCursor row.createdAt row.proposalId

/-- `_decode_cursor`. -/
def decodeCursor (py : Stdlib) (value : String) : Except Raise (Datetime × String) :=
  if value = "" ∨ 2048 < value.toList.length then .error (.valueError "invalid draft cursor")
  else match Cursor.decode value.toList with
    | none => .error (.valueError "invalid draft cursor")
    | some payload =>
        match payload.hasKeys ["created_at", "proposal_id"], (payload.get? "created_at").bind Json.str?,
            (payload.get? "proposal_id").bind Json.str? with
        | true, some createdAt, some proposalId =>
            if proposalId = "" then .error (.valueError "invalid draft cursor")
            else match py.fromisoformat createdAt.toList with
              | some (some createdAt) => .ok (createdAt, proposalId)
              | _ => .error (.valueError "invalid draft cursor")
        | _, _, _ => .error (.valueError "invalid draft cursor")

/-- The cursor of a row is within the bound of its reader. -/
def FitsCursor (row : ProposalRow) : Prop :=
  row.cursor.toList.length ≤ 2048 ∧ row.proposalId ≠ ""

instance (row : ProposalRow) : Decidable (FitsCursor row) := inferInstanceAs (Decidable (_ ∧ _))

/-! ## The reads -/

/-- `_require_site`. -/
def requireSite (siteId : String) : Except Raise Unit :=
  Proc.rejectIf (siteId = "" ∨ 140 < siteId.toList.length)
    (.valueError "site_id must be non-empty and at most 140 characters")

/-- The proposals of a list. -/
def visibleDrafts {order : TextOrder} (store : Store order) (siteId : String)
    (status : Option String) : List ProposalRow :=
  store.proposals.filter fun row => row.siteId = siteId &&
    (draftKinds.map Prod.fst).contains row.actionType && status.all (row.reviewStatus = ·)

/-- `created_at desc, proposal_id desc` -/
abbrev newestProposal (order : TextOrder) : ProposalRow → ProposalRow → Prop :=
  newest order (fun row => row.createdAt.instant) ProposalRow.proposalId

abbrev olderProposal (order : TextOrder) : ProposalRow → ProposalRow → Prop :=
  older order (fun row => row.createdAt.instant) ProposalRow.proposalId

/-- `(created_at, proposal_id)` is before a cursor. -/
def isBefore (order : TextOrder) (cursor : Datetime × String) (row : ProposalRow) : Bool :=
  row.createdAt.instant < cursor.1.instant ||
    (row.createdAt.instant = cursor.1.instant && order.lt row.proposalId cursor.2)

/-- `list_drafts`; a page is its drafts and the next cursor. -/
def listDrafts {order : TextOrder} (py : Stdlib) (store : Store order) (siteId : String)
    (pageSize : ℤ) (status : Option String) (cursor : Option String) :
    Except Raise (List AiDraft × Option String) := do
  requireSite siteId
  Proc.rejectIf (¬ (1 ≤ pageSize ∧ pageSize ≤ 50))
    (Raise.valueError "page_size must be between 1 and 50")
  Proc.rejectIf (∃ s ∈ status, s ∉ ["AI Draft", "Pending"])
    (Raise.valueError "unsupported draft status")
  let value ← cursor.mapM (decodeCursor py)
  let size := pageSize.toNat
  let rows := (((visibleDrafts store siteId status).filter fun row =>
    value.all fun value => isBefore order value row).insertionSort (newestProposal order)).take
      (size + 1)
  let visibleRows := rows.take size
  let drafts ← visibleRows.mapM (draftFromRow store)
  let nextCursor := if size < rows.length then visibleRows.getLast?.map ProposalRow.cursor else none
  return (drafts, nextCursor)

/-- `get_draft`. -/
def getDraft {order : TextOrder} (store : Store order) (siteId draftId : String) :
    Except Raise (Option AiDraft) := do
  requireSite siteId
  Proc.rejectIf (draftId = "" ∨ 256 < draftId.toList.length)
    (Raise.valueError "draft_id must be non-empty and at most 256 characters")
  match store.proposals.find? fun row => row.siteId = siteId && row.proposalId = draftId &&
      (draftKinds.map Prod.fst).contains row.actionType with
  | none => return none
  | some row => some <$> draftFromRow store row

/-! ## Walks -/

variable {py : Stdlib} {order : TextOrder} {store : Store order} {siteId : String} {pageSize : ℤ}
  {status : Option String}

theorem encodeCursor_ne (createdAt : Datetime) (proposalId : String) :
    encodeCursor createdAt proposalId ≠ "" := by
  intro h
  have hlength : (encodeCursor createdAt proposalId).toList.length = 0 := by
    rw [h]
    rfl
  have hpos : 0 < (Json.dumpsAscii (.obj [("created_at", .str (String.ofList createdAt.isoformat)),
      ("proposal_id", .str proposalId)])).length := by
    have hbrace : Json.asciiChar '{' = ['{'] := by decide
    rw [Json.dumpsAscii, Json.dumps, List.flatMap_cons, hbrace]
    exact Nat.succ_pos _
  rw [encodeCursor, String.toList_ofList, Cursor.length_encode] at hlength
  omega

/-- The reader accepts the cursor of a row exactly when it fits. -/
theorem decodeCursor_cursor (hpy : py.ReadsIsoformat) {row : ProposalRow} (h : FitsCursor row) :
    decodeCursor py row.cursor = .ok (row.createdAt, row.proposalId) := by
  have hlong : ¬ (row.cursor = "" ∨ 2048 < row.cursor.toList.length) := by
    rintro (hempty | hlong)
    · exact encodeCursor_ne _ _ hempty
    · exact Nat.not_lt.mpr h.1 hlong
  rw [decodeCursor, if_neg hlong, ProposalRow.cursor, encodeCursor, String.toList_ofList,
    Cursor.decode_encode]
  simp [Json.hasKeys, Json.get?, Json.str?, h.2, hpy row.createdAt]

theorem decodeCursor_eq_error {row : ProposalRow} (h : ¬ FitsCursor row) :
    decodeCursor py row.cursor = .error (.valueError "invalid draft cursor") := by
  by_cases hlong : 2048 < row.cursor.toList.length
  · rw [decodeCursor, if_pos (.inr hlong)]
  · have hempty : row.proposalId = "" := by
      by_contra hne
      exact h ⟨Nat.not_lt.mp hlong, hne⟩
    rw [decodeCursor]
    split
    next => rfl
    next =>
      rw [ProposalRow.cursor, encodeCursor, String.toList_ofList, Cursor.decode_encode]
      simp [Json.hasKeys, Json.get?, Json.str?, hempty]

/-- The proposals of a list, the newest first. -/
def sortedDrafts {order : TextOrder} (store : Store order) (siteId : String)
    (status : Option String) : List ProposalRow :=
  (visibleDrafts store siteId status).insertionSort (newestProposal order)

theorem distinct_visibleDrafts :
    NamesDistinct order ProposalRow.proposalId (visibleDrafts store siteId status) := by
  have hdistinct := store.distinct.filter fun row => row.siteId = siteId &&
    (draftKinds.map Prod.fst).contains row.actionType && status.all (row.reviewStatus = ·)
  refine hdistinct.imp_of_mem fun {p q} hp hq hpq => ?_
  have hp := List.of_mem_filter hp
  have hq := List.of_mem_filter hq
  simp only [Bool.and_eq_true, decide_eq_true_eq] at hp hq
  exact hpq (hp.1.1.trans hq.1.1.symm)

/-- The arguments that the list admits. -/
structure Admitted (siteId : String) (pageSize : ℤ) (status : Option String) : Prop where
  site_ne : siteId ≠ ""
  length_site : siteId.toList.length ≤ 140
  size_mem : 1 ≤ pageSize ∧ pageSize ≤ 50
  status_mem : ∀ s ∈ status, s ∈ ["AI Draft", "Pending"]

theorem requireSite_eq_ok (h : Admitted siteId pageSize status) : requireSite siteId = .ok () := by
  refine Proc.rejectIf_eq_ok.mpr ?_
  rintro (hempty | hlong)
  · exact h.site_ne hempty
  · exact Nat.not_lt.mpr h.length_site hlong

/-- A list of admitted arguments, up to its cursor. -/
theorem listDrafts_eq (h : Admitted siteId pageSize status) (cursor : Option String) :
    listDrafts py store siteId pageSize status cursor = (do
      let value ← cursor.mapM (decodeCursor py)
      shown ProposalRow.cursor (draftFromRow store) pageSize.toNat
        (((visibleDrafts store siteId status).filter fun row =>
          value.all fun value => isBefore order value row).insertionSort (newestProposal order))) := by
  have hsize : Proc.rejectIf (¬ (1 ≤ pageSize ∧ pageSize ≤ 50))
      (Raise.valueError "page_size must be between 1 and 50") = .ok () :=
    Proc.rejectIf_eq_ok.mpr (not_not_intro h.size_mem)
  have hstatus : Proc.rejectIf (∃ s ∈ status, s ∉ ["AI Draft", "Pending"])
      (Raise.valueError "unsupported draft status") = .ok () := by
    refine Proc.rejectIf_eq_ok.mpr ?_
    rintro ⟨s, hs, hnot⟩
    exact hnot (h.status_mem s hs)
  rw [listDrafts, requireSite_eq_ok h, hsize, hstatus, Proc.ok_bind, Proc.ok_bind, Proc.ok_bind]
  refine congrArg _ (funext fun value => ?_)
  rw [← shown_take]
  rfl

theorem serves_listDrafts (hpy : py.ReadsIsoformat) (h : Admitted siteId pageSize status) :
    Serves (listDrafts py store siteId pageSize status) ProposalRow.cursor (draftFromRow store)
      pageSize.toNat FitsCursor (sortedDrafts store siteId status) where
  first := by
    rw [listDrafts_eq h]
    have hall : ((visibleDrafts store siteId status).filter fun row =>
        (none : Option (Datetime × String)).all fun value => isBefore order value row) =
        visibleDrafts store siteId status := List.filter_eq_self.mpr fun _ _ => rfl
    exact congrArg (fun rows => shown ProposalRow.cursor (draftFromRow store) pageSize.toNat
      (rows.insertionSort (newestProposal order))) hall
  later front row rest hsplit hfits := by
    have hsorted : (sortedDrafts store siteId status).Pairwise
        fun a b => olderProposal order b a := pairwise_older distinct_visibleDrafts
    have hbefore : (visibleDrafts store siteId status).filter (fun r =>
        isBefore order (row.createdAt, row.proposalId) r) =
        (visibleDrafts store siteId status).filter fun r => olderProposal order r row := by
      refine List.filter_congr fun r _ => ?_
      rw [Bool.eq_iff_iff]
      simp only [isBefore, Bool.or_eq_true, Bool.and_eq_true, decide_eq_true_eq]
      exact Iff.rfl
    have hrest : ((visibleDrafts store siteId status).filter fun r =>
        olderProposal order r row).insertionSort (newestProposal order) = rest := by
      have hperm : (((visibleDrafts store siteId status).filter fun r =>
          olderProposal order r row).insertionSort (newestProposal order)).Perm
          ((sortedDrafts store siteId status).filter fun r => olderProposal order r row) :=
        (List.perm_insertionSort _ _).trans ((List.perm_insertionSort _ _).filter _).symm
      rw [eq_of_perm_of_pairwise hperm (pairwise_older (distinct_visibleDrafts.filter _))
        (hsorted.filter _), hsplit]
      exact filter_after (hsplit ▸ hsorted)
    rw [listDrafts_eq h, Option.mapM_some, decodeCursor_cursor hpy hfits]
    exact congrArg (shown ProposalRow.cursor (draftFromRow store) pageSize.toNat)
      ((congrArg (List.insertionSort (newestProposal order)) hbefore).trans hrest)
  rejects row _ hfits := by
    refine ⟨.valueError "invalid draft cursor", ?_⟩
    rw [listDrafts_eq h, Option.mapM_some, decodeCursor_eq_error hfits]
    rfl

theorem lookup_draftKinds {actionType : String} (h : actionType ∈ draftKinds.map Prod.fst) :
    (draftKinds.lookup actionType).isSome := by
  rw [draftKinds] at h
  simp only [List.map_cons, List.map_nil, List.mem_cons, List.not_mem_nil, or_false] at h
  rcases h with rfl | rfl | rfl <;> decide

/-- A walk is complete exactly where the cursor of every page fits, and every proposal of the list
names its evidence by texts. -/
theorem listDrafts_complete_iff (hpy : py.ReadsIsoformat) (h : Admitted siteId pageSize status) :
    Complete (listDrafts py store siteId pageSize status) (olderProposal order)
        (draftFromRow store) (visibleDrafts store siteId status) ↔
      (∀ row, EndsPage pageSize.toNat (sortedDrafts store siteId status) row → FitsCursor row) ∧
        ∀ row ∈ visibleDrafts store siteId status, row.evidenceRefs.strs?.isSome := by
  have hsize := h.size_mem
  rw [(serves_listDrafts hpy h).complete_iff (by omega) (List.perm_insertionSort _ _)
    (pairwise_older distinct_visibleDrafts)]
  refine and_congr_right' (forall₂_congr fun row hrow => ?_)
  have hkind := List.of_mem_filter hrow
  simp only [Bool.and_eq_true, List.contains_iff_mem] at hkind
  obtain ⟨kind, hlookup⟩ := Option.isSome_iff_exists.mp (lookup_draftKinds hkind.1.2)
  rw [draftFromRow, hlookup]
  cases row.evidenceRefs.strs? with
  | none => simp
  | some references => simp

end EsanGbos.AgentRuntime.ReadService
