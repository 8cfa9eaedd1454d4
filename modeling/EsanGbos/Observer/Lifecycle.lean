import EsanGbos.Observer.EvidenceStore
import EsanGbos.Lib.Naive

/-!
# The lifecycle of evidence

A lifecycle keeps one record for each registered evidence and deletes the object of a record that
is withdrawn or whose retention is over, unless a legal hold forbids it. Records are by evidence
and objects by content, so that two records may refer to one object.

## Main definitions

* `LifecycleRecord`, `Lifecycle` — the records, over the store.
* `Lifecycle.machine` — stores, registrations and the other calls, one after the other.
* `Lifecycle.Readable` — what is registered and not deleted can be read.
* `Lifecycle.Sound` — registrations name stored objects, deletions unshared ones.

## Main results

* `Lifecycle.readable_step_iff` — the calls that keep everything readable.
* `Lifecycle.readable_iff` — the runs that do.
-/
namespace EsanGbos.Observer
open Lib

/-! ## Times -/

/-- A `datetime`, naive or aware. -/
inductive Moment where
  | naive (d : Naive)
  | aware (d : Datetime)
deriving DecidableEq

/-- Adding a time span; out of range it raises. -/
def Moment.add (δ : Timedelta) : Moment → Except EvidenceError Moment
  | .naive d =>
      if h : 0 ≤ d.wall + δ ∧ (d.wall + δ).toNat < 3652059 * 86400000000 then
        .ok (.naive ⟨(d.wall + δ).toNat, h.2⟩)
      else .error .overflowError
  | .aware d =>
      match d.add δ with
      | some d' => .ok (.aware d')
      | none => .error .overflowError

/-- `a < b`; a naive and an aware datetime cannot be compared. -/
def Moment.lt : Moment → Moment → Except EvidenceError Bool
  | .naive a, .naive b => .ok (a.wall < b.wall)
  | .aware a, .aware b => .ok (a.instant < b.instant)
  | _, _ => .error .typeError

/-! ## Records -/

inductive RetentionClass where
  | ephemeral | operational | record | legalHold
deriving DecidableEq, Repr

def RetentionClass.text : RetentionClass → String
  | ephemeral => "R0-ephemeral"
  | operational => "R1-operational"
  | record => "R2-record"
  | legalHold => "R3-legal-hold"

/-- The class of a text, if there is one. -/
def RetentionClass.ofText? (text : String) : Option RetentionClass :=
  [ephemeral, operational, record, legalHold].find? fun c => c.text = text

/-- `_RETENTION_WINDOWS`. -/
def RetentionClass.window : RetentionClass → Option Timedelta
  | ephemeral => some 0
  | operational => some (days 30)
  | record => none
  | legalHold => none

structure DeletionTombstone where
  siteId : String
  evidenceId : String
  sha256 : String
  retentionClass : RetentionClass
  deletedAt : Moment
  reason : String
deriving DecidableEq

/-- `_LifecycleRecord`. -/
structure LifecycleRecord where
  scope : TenantScope
  evidenceId : String
  stored : StoredObject
  retentionClass : RetentionClass
  recordedAt : Moment
  withdrawnAt : Option Moment := none
  withdrawalReason : Option String := none
  holdId : Option String := none
  tombstone : Option DeletionTombstone := none
deriving DecidableEq

/-- The records of `EvidenceLifecycle`, by site and evidence, over the files of the store. -/
structure Lifecycle where
  records : Dict (String × String) LifecycleRecord
  objects : Objects

namespace Lifecycle
open EvidenceStore

/-- A call of the store, which leaves the records alone. -/
def onStore {α : Type} (x : Proc EvidenceError Objects α) : Proc EvidenceError Lifecycle α :=
  ⟨fun s => ((x.run s.objects).1, { s with objects := (x.run s.objects).2 })⟩

/-- The assignment of a record. -/
def setRecord (scope : TenantScope) (evidenceId : String) (record : LifecycleRecord) :
    Proc EvidenceError Lifecycle Unit :=
  modify fun s => { s with records := s.records.set (scope.siteId, evidenceId) record }

/-- `_get`. -/
def getRecord (s : Lifecycle) (scope : TenantScope) (evidenceId : String) :
    Except EvidenceError LifecycleRecord :=
  match s.records.get? (scope.siteId, evidenceId) with
  | some record =>
      if record.scope.processingPurpose = scope.processingPurpose then .ok record
      else .error (.evidenceNotFound "evidence lifecycle not found in tenant scope")
  | none => .error (.evidenceNotFound "evidence lifecycle not found in tenant scope")

/-- `register`. -/
def register (scope : TenantScope) (evidenceId : String) (stored : StoredObject)
    (retentionClass : String) (recordedAt : Moment) : Proc EvidenceError Lifecycle Unit := do
  match RetentionClass.ofText? retentionClass with
  | none => throw (.valueError "unknown retention_class")
  | some retention =>
      match (← get).records.get? (scope.siteId, evidenceId) with
      | some _ => throw (.lifecycleError "evidence lifecycle already registered")
      | none =>
          let record : LifecycleRecord :=
            { scope, evidenceId, stored, retentionClass := retention, recordedAt }
          setRecord scope evidenceId record

/-- `retention_due_at`, of the record that was found. -/
def retentionDueAt (record : LifecycleRecord) : Except EvidenceError (Option Moment) :=
  match record.retentionClass.window with
  | none => .ok none
  | some window => (record.recordedAt.add window).map some

/-- `withdraw`. -/
def withdraw (scope : TenantScope) (evidenceId : String) (at_ : Moment) (reason : String) :
    Proc EvidenceError Lifecycle Unit := do
  if strip reason = "" then throw (.valueError "withdrawal reason is required")
  let record ← getRecord (← get) scope evidenceId
  setRecord scope evidenceId
    { record with withdrawnAt := some at_, withdrawalReason := some reason }

/-- `place_legal_hold`. -/
def placeLegalHold (scope : TenantScope) (evidenceId holdId : String) :
    Proc EvidenceError Lifecycle Unit := do
  if holdId = "" then throw (.valueError "hold_id is required")
  let record ← getRecord (← get) scope evidenceId
  if record.tombstone.isSome then throw (.lifecycleError "cannot hold deleted evidence")
  if record.holdId.any (· ≠ holdId) then
    throw (.legalHoldError "another legal hold is already active")
  setRecord scope evidenceId { record with holdId := some holdId }

/-- `release_legal_hold`. -/
def releaseLegalHold (scope : TenantScope) (evidenceId holdId : String) :
    Proc EvidenceError Lifecycle Unit := do
  let record ← getRecord (← get) scope evidenceId
  if record.holdId ≠ some holdId then throw (.legalHoldError "legal hold identity mismatch")
  setRecord scope evidenceId { record with holdId := none }

/-- The checks of `delete` on a record that has no tombstone. -/
def requireDeletable (record : LifecycleRecord) (at_ : Moment) : Except EvidenceError Unit := do
  if record.holdId.isSome then throw (.legalHoldError "legal hold blocks deletion")
  let dueAt ← retentionDueAt record
  if record.withdrawnAt.isNone then
    match dueAt with
    | none => throw (.lifecycleError "evidence is not eligible for deletion")
    | some due =>
        if (← at_.lt due) then
          throw (.lifecycleError "evidence is not eligible for deletion")

/-- `reason or record.withdrawal_reason or "retention expired"`. -/
def deletionReason (record : LifecycleRecord) (reason : Option String) : String :=
  ((reason.filter (· ≠ "")).or (record.withdrawalReason.filter (· ≠ ""))).getD "retention expired"

/-- The tombstone that `delete` makes. -/
def tombstoneOf (scope : TenantScope) (evidenceId : String) (record : LifecycleRecord)
    (at_ : Moment) (reason : Option String) : DeletionTombstone where
  siteId := scope.siteId
  evidenceId := evidenceId
  sha256 := record.stored.sha256
  retentionClass := record.retentionClass
  deletedAt := at_
  reason := deletionReason record reason

variable (sha256 : List UInt8 → String)

/-- `delete`. -/
def delete (scope : TenantScope) (evidenceId : String) (at_ : Moment) (reason : Option String) :
    Proc EvidenceError Lifecycle DeletionTombstone := do
  let record ← getRecord (← get) scope evidenceId
  match record.tombstone with
  | some tombstone => pure tombstone
  | none =>
      requireDeletable record at_
      onStore (EvidenceStore.delete sha256 scope record.stored.objectRef)
      let tombstone := tombstoneOf scope evidenceId record at_ reason
      setRecord scope evidenceId { record with tombstone := some tombstone }
      pure tombstone

/-! ## Runs -/

inductive Call where
  | put (scope : TenantScope) (content : List UInt8) (mediaType : String)
  | register (scope : TenantScope) (evidenceId : String) (stored : StoredObject)
      (retentionClass : String) (recordedAt : Moment)
  | withdraw (scope : TenantScope) (evidenceId : String) (at_ : Moment) (reason : String)
  | placeLegalHold (scope : TenantScope) (evidenceId holdId : String)
  | releaseLegalHold (scope : TenantScope) (evidenceId holdId : String)
  | delete (scope : TenantScope) (evidenceId : String) (at_ : Moment) (reason : Option String)

inductive Answer where
  | stored (object : StoredObject)
  | tombstone (tombstone : DeletionTombstone)
  | done
deriving DecidableEq

def perform : Call → Proc EvidenceError Lifecycle Answer
  | .put scope content mediaType => .stored <$> onStore (put sha256 scope content mediaType)
  | .register scope evidenceId stored retentionClass recordedAt =>
      (fun _ => .done) <$> register scope evidenceId stored retentionClass recordedAt
  | .withdraw scope evidenceId at_ reason =>
      (fun _ => .done) <$> withdraw scope evidenceId at_ reason
  | .placeLegalHold scope evidenceId holdId =>
      (fun _ => .done) <$> placeLegalHold scope evidenceId holdId
  | .releaseLegalHold scope evidenceId holdId =>
      (fun _ => .done) <$> releaseLegalHold scope evidenceId holdId
  | .delete scope evidenceId at_ reason => .tombstone <$> delete sha256 scope evidenceId at_ reason

def machine : Machine Lifecycle Call (Except EvidenceError Answer) where
  step s c := (perform sha256 c).run s

/-! ## What the calls do -/

/-- A call that changes at most the withdrawal or the hold of one record, and places a hold only
where there is no tombstone. -/
def Edits (s s' : Lifecycle) : Prop :=
  s' = s ∨ ∃ key record record', s.records.get? key = some record ∧
    record'.scope = record.scope ∧ record'.stored = record.stored ∧
    record'.tombstone = record.tombstone ∧
    (record'.holdId.isSome → record.holdId.isSome ∨ record.tombstone = none) ∧
    s' = { s with records := s.records.set key record' }

theorem getRecord_eq_ok {s : Lifecycle} {scope : TenantScope} {evidenceId : String}
    {record : LifecycleRecord} (h : getRecord s scope evidenceId = .ok record) :
    s.records.get? (scope.siteId, evidenceId) = some record := by
  unfold getRecord at h
  split at h
  next found hget =>
    split at h
    · rw [hget, Except.ok.inj h]
    · cases h
  · cases h

theorem withdraw_edits (scope : TenantScope) (evidenceId : String) (at_ : Moment) (reason : String)
    (s : Lifecycle) : Edits s ((withdraw scope evidenceId at_ reason).run s).2 := by
  unfold withdraw
  by_cases hreason : strip reason = ""
  · rw [if_pos hreason]
    exact .inl rfl
  rw [if_neg hreason]
  simp only [Proc.run_get_bind, Proc.run_lift_bind]
  cases hget : getRecord s scope evidenceId with
  | error e => exact .inl rfl
  | ok record =>
      exact .inr ⟨_, record,
        { record with withdrawnAt := some at_, withdrawalReason := some reason },
        getRecord_eq_ok hget, rfl, rfl, rfl, .inl, rfl⟩

theorem placeLegalHold_edits (scope : TenantScope) (evidenceId holdId : String) (s : Lifecycle) :
    Edits s ((placeLegalHold scope evidenceId holdId).run s).2 := by
  unfold placeLegalHold
  by_cases hhold : holdId = ""
  · rw [if_pos hhold]
    exact .inl rfl
  rw [if_neg hhold]
  simp only [Proc.run_get_bind, Proc.run_lift_bind]
  cases hget : getRecord s scope evidenceId with
  | error e => exact .inl rfl
  | ok record =>
      by_cases htombstone : record.tombstone.isSome
      · simp only [if_pos htombstone]
        exact .inl rfl
      simp only [if_neg htombstone]
      by_cases hother : record.holdId.any (· ≠ holdId)
      · simp only [if_pos hother]
        exact .inl rfl
      simp only [if_neg hother]
      rw [Option.not_isSome_iff_eq_none] at htombstone
      exact .inr ⟨_, record, { record with holdId := some holdId }, getRecord_eq_ok hget, rfl, rfl,
        rfl, fun _ => .inr htombstone, rfl⟩

theorem releaseLegalHold_edits (scope : TenantScope) (evidenceId holdId : String) (s : Lifecycle) :
    Edits s ((releaseLegalHold scope evidenceId holdId).run s).2 := by
  unfold releaseLegalHold
  simp only [Proc.run_get_bind, Proc.run_lift_bind]
  cases hget : getRecord s scope evidenceId with
  | error e => exact .inl rfl
  | ok record =>
      by_cases hmismatch : record.holdId ≠ some holdId
      · simp only [if_pos hmismatch]
        exact .inl rfl
      simp only [if_neg hmismatch]
      refine .inr ⟨_, record, { record with holdId := none }, getRecord_eq_ok hget, rfl, rfl, rfl,
        ?_, rfl⟩
      intro hnone
      cases hnone

/-- The registrations that go through. -/
def Registers (s : Lifecycle) (scope : TenantScope) (evidenceId retentionClass : String) : Prop :=
  (RetentionClass.ofText? retentionClass).isSome ∧
    s.records.get? (scope.siteId, evidenceId) = none

theorem register_cases (scope : TenantScope) (evidenceId : String) (stored : StoredObject)
    (retentionClass : String) (recordedAt : Moment) (s : Lifecycle) :
    let after := ((register scope evidenceId stored retentionClass recordedAt).run s).2
    (after = s ∧ ¬ Registers s scope evidenceId retentionClass) ∨
      (Registers s scope evidenceId retentionClass ∧
        ∃ retention, after = ⟨s.records.set (scope.siteId, evidenceId)
            ⟨scope, evidenceId, stored, retention, recordedAt, none, none, none, none⟩,
          s.objects⟩) := by
  unfold register Registers
  cases hclass : RetentionClass.ofText? retentionClass with
  | none => exact .inl ⟨rfl, fun h => Bool.false_ne_true h.1⟩
  | some retention =>
      simp only [Proc.run_get_bind]
      cases hget : s.records.get? (scope.siteId, evidenceId) with
      | some old => exact .inl ⟨rfl, fun h => Option.some_ne_none _ h.2⟩
      | none => exact .inr ⟨⟨rfl, rfl⟩, retention, rfl⟩

/-- The deletions that pass their checks. -/
structure Deletes (s : Lifecycle) (scope : TenantScope) (evidenceId : String) (at_ : Moment)
    (record : LifecycleRecord) : Prop where
  found : getRecord s scope evidenceId = .ok record
  standing : record.tombstone = none
  deletable : requireDeletable record at_ = .ok ()

variable {sha256}

theorem delete_cases (hhex : HexDigests sha256) {s : Lifecycle} (hs : Intact sha256 s.objects)
    (scope : TenantScope) (evidenceId : String) (at_ : Moment) (reason : Option String) :
    let after := ((delete sha256 scope evidenceId at_ reason).run s).2
    (after = s ∧ ∀ record, Deletes s scope evidenceId at_ record →
        ∀ digest, isDigest digest = true →
          record.stored.objectRef ≠ objectRef sha256 scope digest) ∨
      ∃ record digest, Deletes s scope evidenceId at_ record ∧
        isDigest digest = true ∧ record.stored.objectRef = objectRef sha256 scope digest ∧
        after = ⟨s.records.set (scope.siteId, evidenceId)
            { record with tombstone := some (tombstoneOf scope evidenceId record at_ reason) },
          Function.update s.objects (path sha256 scope digest) none⟩ := by
  unfold delete
  simp only [Proc.run_get_bind, Proc.run_lift_bind]
  cases hget : getRecord s scope evidenceId with
  | error e =>
      refine .inl ⟨rfl, fun record h => ?_⟩
      have hfound := h.found
      rw [hget] at hfound
      cases hfound
  | ok record =>
      have hsame : ∀ found, Deletes s scope evidenceId at_ found → found = record := by
        intro found h
        exact Except.ok.inj (h.found.symm.trans hget)
      cases htombstone : record.tombstone with
      | some tombstone =>
          refine .inl ⟨by simp only [htombstone, Proc.run_pure], fun found h => ?_⟩
          have hnone := h.standing
          rw [hsame found h, htombstone] at hnone
          cases hnone
      | none =>
          simp only [htombstone, Proc.run_lift_bind]
          cases hdeletable : requireDeletable record at_ with
          | error e =>
              refine .inl ⟨rfl, fun found h => ?_⟩
              have hok := h.deletable
              rw [hsame found h, hdeletable] at hok
              cases hok
          | ok _ =>
              rcases EvidenceStore.delete_cases hhex hs scope record.stored.objectRef with
                ⟨e, hrun, hother⟩ | ⟨digest, href, hdigest, hrun⟩
              · have hstore : (onStore (EvidenceStore.delete sha256 scope
                    record.stored.objectRef)).run s = (.error e, s) := by simp only [onStore, hrun]
                refine .inl ⟨by simp only [Proc.run_bind_error hstore], fun found h => ?_⟩
                rw [hsame found h]
                exact hother
              · have hstore : (onStore (EvidenceStore.delete sha256 scope
                    record.stored.objectRef)).run s = (.ok (), ⟨s.records,
                      Function.update s.objects (path sha256 scope digest) none⟩) := by
                  simp only [onStore, hrun]
                refine .inr ⟨record, digest, ⟨hget, htombstone, hdeletable⟩, hdigest, href, ?_⟩
                simp only [Proc.run_bind_ok hstore]
                rfl

/-! ## The invariant -/

variable (sha256) in
/-- The files are intact, records lie under their sites, and what is held is not deleted. -/
structure Kept (s : Lifecycle) : Prop where
  intact : Intact sha256 s.objects
  site : ∀ key record, s.records.get? key = some record → record.scope.siteId = key.1
  held : ∀ key record, s.records.get? key = some record → record.holdId.isSome →
    record.tombstone = none

/-- A record written in place of another one, or anew, keeps the invariant. -/
theorem Kept.set {s : Lifecycle} (h : Kept sha256 s) {key : String × String}
    {record : LifecycleRecord} {objects : Objects} (hobjects : Intact sha256 objects)
    (hsite : record.scope.siteId = key.1) (hheld : record.holdId.isSome → record.tombstone = none) :
    Kept sha256 ⟨s.records.set key record, objects⟩ := by
  refine ⟨hobjects, fun k r hget => ?_, fun k r hget => ?_⟩
  · rw [Dict.get?_set] at hget
    split at hget
    next hk => rw [← Option.some.inj hget, hk, hsite]
    next => exact h.site k r hget
  · rw [Dict.get?_set] at hget
    split at hget
    next => rw [← Option.some.inj hget]; exact hheld
    next => exact h.held k r hget

theorem Kept.edits {s s' : Lifecycle} (h : Kept sha256 s) (he : Edits s s') : Kept sha256 s' := by
  rcases he with rfl | ⟨key, record, record', hget, hscope, -, htombstone, hheld, rfl⟩
  · exact h
  · refine h.set h.intact (by rw [hscope]; exact h.site key record hget) fun hhold => ?_
    rw [htombstone]
    rcases hheld hhold with hheld | hnone
    · exact h.held key record hget hheld
    · exact hnone

theorem Kept.step (hhex : HexDigests sha256) {s : Lifecycle} (h : Kept sha256 s) (c : Call) :
    Kept sha256 ((machine sha256).step s c).2 := by
  simp only [machine]
  cases c with
  | put scope content mediaType =>
      rw [perform, Proc.run_map]
      exact ⟨(put_spec h.intact scope content mediaType).1, h.site, h.held⟩
  | register scope evidenceId stored retentionClass recordedAt =>
      rw [perform, Proc.run_map]
      rcases register_cases scope evidenceId stored retentionClass recordedAt s with
        ⟨hafter, -⟩ | ⟨-, retention, hafter⟩ <;> rw [hafter]
      · exact h
      · exact h.set h.intact rfl fun hhold => rfl
  | withdraw scope evidenceId at_ reason =>
      rw [perform, Proc.run_map]
      have hedits := withdraw_edits scope evidenceId at_ reason s
      exact h.edits hedits
  | placeLegalHold scope evidenceId holdId =>
      rw [perform, Proc.run_map]
      have hedits := placeLegalHold_edits scope evidenceId holdId s
      exact h.edits hedits
  | releaseLegalHold scope evidenceId holdId =>
      rw [perform, Proc.run_map]
      have hedits := releaseLegalHold_edits scope evidenceId holdId s
      exact h.edits hedits
  | delete scope evidenceId at_ reason =>
      rw [perform, Proc.run_map]
      rcases delete_cases hhex h.intact scope evidenceId at_ reason with
        ⟨hafter, -⟩ | ⟨record, digest, hdeletes, -, -, hafter⟩ <;> rw [hafter]
      · exact h
      · refine h.set (h.intact.update_none _) (h.site _ record (getRecord_eq_ok hdeletes.found)) ?_
        intro hhold
        have hfree : ¬ record.holdId.isSome := by
          intro hsome
          have hok := hdeletes.deletable
          rw [requireDeletable, if_pos hsome] at hok
          cases hok
        exact absurd hhold hfree

/-! ## What can be read -/

variable (sha256) in
/-- What is registered without a tombstone, or held, is read as bytes with its digest. -/
def Readable (s : Lifecycle) : Prop :=
  ∀ record ∈ s.records.values, record.tombstone = none ∨ record.holdId.isSome →
    ∃ content, ((read sha256 record.scope record.stored.objectRef).run s.objects).1 = .ok content ∧
      sha256 content = record.stored.sha256

variable (sha256) in
/-- A receipt names the object of its digest, which is there. -/
def Refers (objects : Objects) (scope : TenantScope) (stored : StoredObject) : Prop :=
  stored.objectRef = objectRef sha256 scope stored.sha256 ∧
    objects (path sha256 scope stored.sha256) ≠ none

theorem Refers.digest (hhex : HexDigests sha256) {objects : Objects}
    (hobjects : Intact sha256 objects) {scope : TenantScope} {stored : StoredObject}
    (h : Refers sha256 objects scope stored) : isDigest stored.sha256 = true := by
  exact hobjects.digest hhex h.2

theorem readable_iff_refers (hhex : HexDigests sha256) {s : Lifecycle} (h : Kept sha256 s) :
    Readable sha256 s ↔ ∀ key record, s.records.get? key = some record → record.tombstone = none →
      Refers sha256 s.objects record.scope record.stored := by
  unfold Readable Refers
  simp only [read_eq_ok hhex h.intact, Dict.mem_values]
  constructor
  · intro hall key record hget htombstone
    exact hall record ⟨key, hget⟩ (.inl htombstone)
  · rintro hall record ⟨key, hget⟩ hkept
    refine hall key record hget ?_
    rcases hkept with htombstone | hheld
    · exact htombstone
    · exact h.held key record hget hheld

variable (sha256) in
/-- A registration that goes through has the receipt of a stored object, and a deletion that goes
through is of an object which no other standing record refers to. -/
def Sound (s : Lifecycle) : Call → Prop
  | .register scope evidenceId stored retentionClass _ =>
      Registers s scope evidenceId retentionClass → Refers sha256 s.objects scope stored
  | .delete scope evidenceId at_ _ =>
      ∀ record, Deletes s scope evidenceId at_ record →
        ∀ key other, s.records.get? key = some other → key ≠ (scope.siteId, evidenceId) →
          other.tombstone = none → other.stored.objectRef ≠ record.stored.objectRef
  | _ => True

/-! ## The calls that keep everything readable -/

variable (sha256) in
/-- Every standing record refers to its object. -/
def Present (s : Lifecycle) : Prop :=
  ∀ key record, s.records.get? key = some record → record.tombstone = none →
    Refers sha256 s.objects record.scope record.stored

theorem present_edits {s s' : Lifecycle} (he : Edits s s') :
    Present sha256 s' ↔ Present sha256 s := by
  rcases he with rfl | ⟨key, record, record', hget, hscope, hstored, htombstone, -, rfl⟩
  · exact Iff.rfl
  · constructor
    · intro h k r hk hr
      by_cases hkey : k = key
      · subst hkey
        obtain rfl := Option.some.inj (hget.symm.trans hk)
        rw [← hscope, ← hstored]
        exact h k record' (Dict.get?_set_self _ _ _) (by rw [htombstone, hr])
      · exact h k r (by rw [Dict.get?_set_of_ne _ _ hkey, hk]) hr
    · intro h k r hk hr
      rw [Dict.get?_set] at hk
      split at hk
      next =>
        obtain rfl := Option.some.inj hk
        rw [hscope, hstored]
        exact h key record hget (by rw [← htombstone, hr])
      next => exact h k r hk hr

theorem present_put {s : Lifecycle} (hs : Kept sha256 s) (h : Present sha256 s)
    (scope : TenantScope) (content : List UInt8) (mediaType : String) :
    Present sha256 ((onStore (put sha256 scope content mediaType)).run s).2 := by
  obtain ⟨-, hold, -⟩ := put_spec hs.intact scope content mediaType
  intro key record hget htombstone
  obtain ⟨href, hfile⟩ := h key record hget htombstone
  refine ⟨href, ?_⟩
  rw [← hold _ hfile] at hfile
  exact hfile

theorem present_register_iff {s : Lifecycle} (h : Present sha256 s) (scope : TenantScope)
    (evidenceId : String) (stored : StoredObject) (retentionClass : String) (recordedAt : Moment) :
    Present sha256 ((register scope evidenceId stored retentionClass recordedAt).run s).2 ↔
      (Registers s scope evidenceId retentionClass → Refers sha256 s.objects scope stored) := by
  rcases register_cases scope evidenceId stored retentionClass recordedAt s with
    ⟨hafter, hrefused⟩ | ⟨hregisters, retention, hafter⟩ <;> rw [hafter]
  · exact ⟨fun _ hregisters => absurd hregisters hrefused, fun _ => h⟩
  · constructor
    · intro hall _
      exact hall _ _ (Dict.get?_set_self _ _ _) rfl
    · intro hrefers key record hget htombstone
      rw [Dict.get?_set] at hget
      split at hget
      next =>
        obtain rfl := Option.some.inj hget
        exact hrefers hregisters
      next => exact h key record hget htombstone

/-- A reference of a site is one of every scope of the site. -/
theorem objectRef_congr {scope scope' : TenantScope} (h : scope.siteId = scope'.siteId)
    (digest : String) : objectRef sha256 scope digest = objectRef sha256 scope' digest := by
  rw [objectRef, objectRef, partition, partition, h]

theorem present_delete_iff (hhex : HexDigests sha256) {s : Lifecycle} (hs : Kept sha256 s)
    (h : Present sha256 s) (scope : TenantScope) (evidenceId : String) (at_ : Moment)
    (reason : Option String) :
    Present sha256 ((delete sha256 scope evidenceId at_ reason).run s).2 ↔
      ∀ record, Deletes s scope evidenceId at_ record →
        ∀ key other, s.records.get? key = some other → key ≠ (scope.siteId, evidenceId) →
          other.tombstone = none → other.stored.objectRef ≠ record.stored.objectRef := by
  rcases delete_cases hhex hs.intact scope evidenceId at_ reason with
    ⟨hafter, hforeign⟩ | ⟨record, digest, hdeletes, hdigest, href, hafter⟩ <;> rw [hafter]
  · refine ⟨fun _ record hdeletes => ?_, fun _ => h⟩
    -- the record's own reference is one of its site
    have hget := getRecord_eq_ok hdeletes.found
    have hrefers := h _ record hget hdeletes.standing
    have href := hrefers.1
    rw [objectRef_congr (hs.site _ record hget)] at href
    exact absurd href (hforeign record hdeletes _ (hrefers.digest hhex hs.intact))
  · have hpath : ∀ other : LifecycleRecord, Refers sha256 s.objects other.scope other.stored →
        (other.stored.objectRef = record.stored.objectRef ↔
          path sha256 other.scope other.stored.sha256 = path sha256 scope digest) := by
      intro other hother
      rw [hother.1, href]
      exact objectRef_inj hhex (hother.digest hhex hs.intact) hdigest
    constructor
    · intro hall found hfound key other hget hkey hstanding
      obtain rfl : found = record := Except.ok.inj (hfound.found.symm.trans hdeletes.found)
      rw [Ne, hpath other (h key other hget hstanding)]
      intro hplace
      obtain ⟨-, hfile⟩ := hall key other (by rw [Dict.get?_set_of_ne _ _ hkey, hget]) hstanding
      simp only [hplace, Function.update_self] at hfile
      exact hfile rfl
    · intro hunshared key other hget hstanding
      rw [Dict.get?_set] at hget
      split at hget
      next =>
        obtain rfl := Option.some.inj hget
        cases hstanding
      next hkey =>
        obtain ⟨hother, hfile⟩ := h key other hget hstanding
        refine ⟨hother, ?_⟩
        have hne := hunshared record hdeletes key other hget hkey hstanding
        rw [Ne, hpath other ⟨hother, hfile⟩] at hne
        intro hnone
        simp only [Function.update_of_ne hne] at hnone
        exact hfile hnone

/-- A call keeps everything readable exactly if it is sound. -/
theorem readable_step_iff (hhex : HexDigests sha256) {s : Lifecycle} (hs : Kept sha256 s)
    (h : Readable sha256 s) (c : Call) :
    Readable sha256 ((machine sha256).step s c).2 ↔ Sound sha256 s c := by
  have hpresent : Present sha256 s := (readable_iff_refers hhex hs).mp h
  rw [readable_iff_refers hhex (hs.step hhex c)]
  change Present sha256 _ ↔ _
  simp only [machine]
  cases c with
  | put scope content mediaType =>
      rw [perform, Proc.run_map]
      exact iff_of_true (present_put hs hpresent scope content mediaType) trivial
  | register scope evidenceId stored retentionClass recordedAt =>
      rw [perform, Proc.run_map]
      exact present_register_iff hpresent scope evidenceId stored retentionClass recordedAt
  | withdraw scope evidenceId at_ reason =>
      rw [perform, Proc.run_map, present_edits (withdraw_edits scope evidenceId at_ reason s)]
      exact iff_of_true hpresent trivial
  | placeLegalHold scope evidenceId holdId =>
      rw [perform, Proc.run_map, present_edits (placeLegalHold_edits scope evidenceId holdId s)]
      exact iff_of_true hpresent trivial
  | releaseLegalHold scope evidenceId holdId =>
      rw [perform, Proc.run_map, present_edits (releaseLegalHold_edits scope evidenceId holdId s)]
      exact iff_of_true hpresent trivial
  | delete scope evidenceId at_ reason =>
      rw [perform, Proc.run_map]
      exact present_delete_iff hhex hs hpresent scope evidenceId at_ reason

theorem kept_empty {objects : Objects} (hobjects : Intact sha256 objects) :
    Kept sha256 ⟨Dict.empty, objects⟩ := by
  refine ⟨hobjects, fun key record hget => ?_, fun key record hget => ?_⟩ <;> cases hget

theorem readable_empty (objects : Objects) : Readable sha256 ⟨Dict.empty, objects⟩ := by
  intro record hrecord
  obtain ⟨key, hget⟩ := Dict.mem_values.mp hrecord
  cases hget

/-- Over an intact store, everything that is registered and not deleted, and everything held, can be
read all along a run exactly if every call of the run is sound. -/
theorem readable_iff (hhex : HexDigests sha256) {objects : Objects}
    (hobjects : Intact sha256 objects) (calls : List Call) :
    (∀ before, before <+: calls →
        Readable sha256 ((machine sha256).final ⟨Dict.empty, objects⟩ before)) ↔
      (machine sha256).Guarded (Sound sha256) ⟨Dict.empty, objects⟩ calls := by
  exact Machine.forall_prefix_iff_guarded (P := Readable sha256) (fun s c hs => hs.step hhex c)
    (fun s c hs h => readable_step_iff hhex hs h c) (kept_empty hobjects) (readable_empty objects)
    calls

/-! ## One object under two records -/

/-- The digests of the bytes `hi` and of `site:acme`. -/
def sampleSha256 (content : List UInt8) : String :=
  if content.length = 2 then "8f434346648f6b96df89dda901c5176b10a6d83961dd3c1ac88b59b2dc327aa4"
  else "630e88c425f765f4c432534d6f4dc52775ed19913331abdf843fbad249d72d68"

theorem hexDigests_sampleSha256 : HexDigests sampleSha256 := by
  intro content
  unfold sampleSha256
  split <;> decide +kernel

def hi : List UInt8 := [104, 105]

/-- The receipt of `hi` at the site `acme`. -/
def hiReceipt : StoredObject :=
  ⟨objectRef sampleSha256 acme (sampleSha256 hi), sampleSha256 hi, 2, "text/plain"⟩

/-- The evidence `first` is stored, registered, held and released, withdrawn and deleted. -/
def deleteReleased : List Call :=
  [.put acme hi "text/plain", .register acme "first" hiReceipt "R2-record" (.aware newYear),
    .placeLegalHold acme "first" "case", .releaseLegalHold acme "first" "case",
    .withdraw acme "first" (.aware newYear) "consent withdrawn",
    .delete acme "first" (.aware newYear) none]

/-- The evidence `second` has the content of the held evidence `first` and is withdrawn. -/
def shareHeld : List Call :=
  [.put acme hi "text/plain", .register acme "first" hiReceipt "R2-record" (.aware newYear),
    .placeLegalHold acme "first" "case", .put acme hi "text/plain",
    .register acme "second" hiReceipt "R2-record" (.aware newYear),
    .withdraw acme "second" (.aware newYear) "consent withdrawn"]

/-- It is deleted, too. -/
def deleteShared : List Call := shareHeld ++ [.delete acme "second" (.aware newYear) none]

theorem intact_empty : Intact sampleSha256 fun _ => none := by
  intro place content h
  cases h

/-- Evidence that shares its content with no other one is readable until it is deleted. -/
theorem released_evidence_readable :
    Readable sampleSha256
        ((machine sampleSha256).final ⟨Dict.empty, fun _ => none⟩ (deleteReleased.take 5)) ∧
      Readable sampleSha256
        ((machine sampleSha256).final ⟨Dict.empty, fun _ => none⟩ deleteReleased) := by
  have hall := (readable_iff hexDigests_sampleSha256 intact_empty deleteReleased).mpr ?_
  · exact ⟨hall _ (List.take_prefix 5 _), hall _ (List.prefix_refl _)⟩
  refine ⟨trivial, fun _ => ⟨rfl, by decide +kernel⟩, trivial, trivial, trivial, ?_, trivial⟩
  intro record hdeletes key other hget hkey
  have hkeys : ∀ k ∈ ((machine sampleSha256).final ⟨Dict.empty, fun _ => none⟩
      (deleteReleased.take 5)).records.items.map Prod.fst, k = ("acme", "first") := by
    decide +kernel
  exact absurd (hkeys key (List.mem_map_of_mem (Dict.mem_items.mpr hget))) hkey

/-- The records of the two copies of `hi` before the deletion. -/
def firstHeld : LifecycleRecord where
  scope := acme
  evidenceId := "first"
  stored := hiReceipt
  retentionClass := .record
  recordedAt := .aware newYear
  holdId := some "case"

def secondWithdrawn : LifecycleRecord where
  scope := acme
  evidenceId := "second"
  stored := hiReceipt
  retentionClass := .record
  recordedAt := .aware newYear
  withdrawnAt := some (.aware newYear)
  withdrawalReason := some "consent withdrawn"

/-- The held evidence cannot be read any more. -/
theorem held_evidence_lost : HexDigests sampleSha256 ∧
    ¬ Readable sampleSha256
      ((machine sampleSha256).final ⟨Dict.empty, fun _ => none⟩ deleteShared) := by
  refine ⟨hexDigests_sampleSha256, fun h => ?_⟩
  rw [deleteShared, Machine.final_append, Machine.final_cons, Machine.final_nil] at h
  have hsound : (machine sampleSha256).Guarded (Sound sampleSha256) ⟨Dict.empty, fun _ => none⟩
      shareHeld :=
    ⟨trivial, fun _ => ⟨rfl, by decide +kernel⟩, trivial, trivial,
      fun _ => ⟨rfl, by decide +kernel⟩, trivial, trivial⟩
  obtain ⟨hkept, hreadable⟩ := hsound.invariant
    (P := fun s => Kept sampleSha256 s ∧ Readable sampleSha256 s)
    (fun s c hs hc => ⟨hs.1.step hexDigests_sampleSha256 c,
      (readable_step_iff hexDigests_sampleSha256 hs.1 hs.2 c).mpr hc⟩)
    ⟨kept_empty intact_empty, readable_empty _⟩
  -- so the deletion would have to be sound
  have hlast := (readable_step_iff hexDigests_sampleSha256 hkept hreadable
    (.delete acme "second" (.aware newYear) none)).mp h
  have hfirst : ((machine sampleSha256).final ⟨Dict.empty, fun _ => none⟩
      shareHeld).records.get? ("acme", "first") = some firstHeld := by decide +kernel
  have hsecond : ((machine sampleSha256).final ⟨Dict.empty, fun _ => none⟩
      shareHeld).records.get? ("acme", "second") = some secondWithdrawn := by decide +kernel
  refine hlast secondWithdrawn ⟨?_, rfl, rfl⟩ _ firstHeld hfirst (by decide) rfl rfl
  rw [getRecord, show acme.siteId = "acme" from rfl, hsecond]
  rfl

end Lifecycle
end EsanGbos.Observer
