import EsanGbos.Context.Outbox

/-!
# What a call does to the outbox

A call moves one draft, or buries the spent ones and leases a candidate, or records a publication.
What a draft is for, and what it was made of, never changes.

## Main definitions

* `Call.Moves` — the change that a call makes to a draft.
* `Publishes` — a publication is recorded, with a draft for its team.
* `step_draft`, `step_new` — the only ways that a draft changes or appears.
-/
namespace EsanGbos.Context
open Lib Observer

variable (py : Stdlib) (collation : Collation)

/-! ## What a call does to a draft -/

/-- The change that a call makes to a draft, where it makes one. -/
def Call.Moves (key : String × String) (old new : Draft) : Call → Prop
  | .publish .. => False
  | .claimDraft siteId workerId now _ => ∃ t, now = some t ∧ key.1 = siteId ∧
      (isSpent siteId t.instant (key, old) = true ∧
          new.toDraftRow = buried old.toDraftRow t.instant ∨
        isCandidate siteId t.instant (key, old) = true ∧ ∃ expiry, t.instant < expiry ∧
          new.toDraftRow = leased old.toDraftRow workerId expiry t.instant)
  | .heartbeatDraft siteId draftId workerId expectedAttempt now _ => ∃ t, now = some t ∧
      key = (siteId, draftId) ∧ old.heldBy workerId expectedAttempt t.instant = true ∧
      ∃ expiry, old.leaseExpiresAt.any (· < expiry) = true ∧
        new.toDraftRow = renewed old.toDraftRow expiry t.instant
  | .acknowledgeDraft siteId draftId workerId expectedAttempt now receipt => ∃ t, now = some t ∧
      key = (siteId, draftId) ∧ old.heldBy workerId expectedAttempt t.instant = true ∧
      new.toDraftRow = settled old.toDraftRow receipt t.instant
  | .failDraft siteId draftId workerId expectedAttempt now retryAt errorCode => ∃ t retry,
      now = some t ∧ retryAt = some retry ∧ t.instant < retry.instant ∧
      key = (siteId, draftId) ∧ old.heldBy workerId expectedAttempt t.instant = true ∧
      new.toDraftRow = failed old.toDraftRow retry.instant errorCode t.instant

theorem admitted_eq_ok {row : DraftRow} {draft : Draft} (h : admitted row = .ok draft) :
    draft.toDraftRow = row := by
  unfold admitted at h
  split at h
  next => rw [← Except.ok.inj h]
  next => cases h

theorem moved_eq_ok {old new : Draft} {row : DraftRow} (h : moved old row = .ok new) :
    new.toDraftRow = row := by
  unfold moved at h
  split at h
  next => exact admitted_eq_ok h
  next => cases h

theorem aware_eq_ok {value : Option Datetime} {name : String} {d : Datetime} :
    aware value name = .ok d ↔ value = some d := by
  cases value <;> simp [aware]

theorem leaseEnd_eq_ok {now expiry : Datetime} {duration : Timedelta}
    (h : leaseEnd now duration = .ok expiry) : expiry.instant = now.instant + duration := by
  unfold leaseEnd at h
  split at h
  next d hadd =>
    obtain rfl := Except.ok.inj h
    exact (Datetime.of?_eq_some hadd).1
  next => cases h

/-- A call leaves the tables alone or moves one draft. -/
def OneMoved (c : Call) (s s' : Tables) : Prop :=
  s' = s ∨ ∃ key old new, s.drafts.get? key = some old ∧ c.Moves key old new ∧
    s' = { s with drafts := s.drafts.set key new }

@[simp] theorem run_storeDraft (key : String × String) (draft : Draft) (s : Tables) :
    (storeDraft key draft).run s = (.ok (), { s with drafts := s.drafts.set key draft }) := rfl

theorem heartbeatDraft_cases (s : Tables) (siteId draftId workerId : String) (attempt : ℤ)
    (now : Option Datetime) (duration : Timedelta) :
    OneMoved (.heartbeatDraft siteId draftId workerId attempt now duration) s
      ((heartbeatDraft siteId draftId workerId attempt now duration).run s).2 := by
  have hstay : OneMoved (.heartbeatDraft siteId draftId workerId attempt now duration) s s :=
    .inl rfl
  refine Proc.run_lift_snd (P := OneMoved _ s) hstay fun t ht => ?_
  refine Proc.run_lift_snd (P := OneMoved _ s) hstay fun _ _ => ?_
  refine Proc.run_atomically_snd (P := OneMoved _ s) hstay fun _ s' hrun => ?_
  obtain ⟨-, -, hrun⟩ := Proc.run_lift_bind_eq_ok.mp hrun
  rw [Proc.run_get_bind] at hrun
  cases hget : s.drafts.get? (siteId, draftId) with
  | none =>
    rw [hget] at hrun
    cases hrun
  | some draft =>
    rw [hget] at hrun
    dsimp only at hrun
    by_cases hheld : draft.heldBy workerId attempt t.instant = true
    · rw [if_neg (by simp [hheld])] at hrun
      obtain ⟨expiry, -, hrun⟩ := Proc.run_lift_bind_eq_ok.mp hrun
      by_cases hlonger : draft.leaseExpiresAt.any (· < expiry) = true
      · rw [if_pos hlonger] at hrun
        obtain ⟨new, hmoved, hrun⟩ := Proc.run_lift_bind_eq_ok.mp hrun
        obtain ⟨-, rfl⟩ := Prod.mk.inj hrun
        exact .inr ⟨_, draft, new, hget, ⟨t, aware_eq_ok.mp ht, rfl, hheld, expiry, hlonger,
          moved_eq_ok hmoved⟩, rfl⟩
      · rw [if_neg hlonger] at hrun
        obtain ⟨-, rfl⟩ := Prod.mk.inj hrun
        exact hstay
    · rw [if_pos (by simp [hheld])] at hrun
      cases hrun

theorem acknowledgeDraft_cases (s : Tables) (siteId draftId workerId : String) (attempt : ℤ)
    (now : Option Datetime) (receipt : FrappeDraftReceipt) :
    OneMoved (.acknowledgeDraft siteId draftId workerId attempt now receipt) s
      ((acknowledgeDraft siteId draftId workerId attempt now receipt).run s).2 := by
  have hstay : OneMoved (.acknowledgeDraft siteId draftId workerId attempt now receipt) s s :=
    .inl rfl
  refine Proc.run_lift_snd (P := OneMoved _ s) hstay fun t ht => ?_
  refine Proc.run_lift_snd (P := OneMoved _ s) hstay fun _ _ => ?_
  refine Proc.run_atomically_snd (P := OneMoved _ s) hstay fun _ s' hrun => ?_
  obtain ⟨-, -, hrun⟩ := Proc.run_lift_bind_eq_ok.mp hrun
  rw [Proc.run_get_bind] at hrun
  cases hget : s.drafts.get? (siteId, draftId) with
  | none =>
    rw [hget] at hrun
    cases hrun
  | some draft =>
    rw [hget] at hrun
    dsimp only at hrun
    by_cases hdone : draft.status = .succeeded
    · rw [if_pos hdone] at hrun
      by_cases hreplay : draft.receipt ≠ some receipt
      · rw [if_pos hreplay] at hrun
        cases hrun
      · rw [if_neg hreplay] at hrun
        obtain ⟨-, rfl⟩ := Prod.mk.inj hrun
        exact hstay
    · rw [if_neg hdone] at hrun
      obtain ⟨-, -, hrun⟩ := Proc.run_lift_bind_eq_ok.mp hrun
      obtain ⟨-, -, hrun⟩ := Proc.run_lift_bind_eq_ok.mp hrun
      by_cases hheld : draft.heldBy workerId attempt t.instant = true
      · rw [if_neg (by simp [hheld])] at hrun
        obtain ⟨new, hmoved, hrun⟩ := Proc.run_lift_bind_eq_ok.mp hrun
        obtain ⟨-, rfl⟩ := Prod.mk.inj hrun
        exact .inr ⟨_, draft, new, hget, ⟨t, aware_eq_ok.mp ht, rfl, hheld, moved_eq_ok hmoved⟩,
          rfl⟩
      · rw [if_pos (by simp [hheld])] at hrun
        cases hrun

theorem failDraft_cases (s : Tables) (siteId draftId workerId : String) (attempt : ℤ)
    (now retryAt : Option Datetime) (errorCode : String) :
    OneMoved (.failDraft siteId draftId workerId attempt now retryAt errorCode) s
      ((failDraft siteId draftId workerId attempt now retryAt errorCode).run s).2 := by
  have hstay : OneMoved (.failDraft siteId draftId workerId attempt now retryAt errorCode) s s :=
    .inl rfl
  refine Proc.run_lift_snd (P := OneMoved _ s) hstay fun t ht => ?_
  refine Proc.run_lift_snd (P := OneMoved _ s) hstay fun retry hretry => ?_
  refine Proc.run_lift_snd (P := OneMoved _ s) hstay fun _ hcode => ?_
  have hlater := Proc.rejectIf_eq_ok.mp hcode
  rw [not_or, not_le] at hlater
  refine Proc.run_atomically_snd (P := OneMoved _ s) hstay fun _ s' hrun => ?_
  obtain ⟨-, -, hrun⟩ := Proc.run_lift_bind_eq_ok.mp hrun
  rw [Proc.run_get_bind] at hrun
  cases hget : s.drafts.get? (siteId, draftId) with
  | none =>
    rw [hget] at hrun
    cases hrun
  | some draft =>
    rw [hget] at hrun
    dsimp only at hrun
    by_cases hheld : draft.heldBy workerId attempt t.instant = true
    · rw [if_neg (by simp [hheld])] at hrun
      obtain ⟨new, hmoved, hrun⟩ := Proc.run_lift_bind_eq_ok.mp hrun
      obtain ⟨-, rfl⟩ := Prod.mk.inj hrun
      exact .inr ⟨_, draft, new, hget, ⟨t, retry, aware_eq_ok.mp ht, aware_eq_ok.mp hretry,
        hlater.1, rfl, hheld, moved_eq_ok hmoved⟩, rfl⟩
    · rw [if_pos (by simp [hheld])] at hrun
      cases hrun

/-! ## Claiming -/

/-- The tables after the drafts of spent attempts are buried. -/
def Swept (siteId : String) (now : Timestamptz) (s : Tables)
    (drafts : Dict (String × String) Draft) : Prop :=
  s.drafts.updateChecked (isSpent siteId now) (fun draft =>
    moved draft (buried draft.toDraftRow now)) = .ok drafts

/-- A claim buries what is spent and leases a candidate, where there is one. -/
theorem claimDraft_cases (s : Tables) (siteId workerId : String) (now : Option Datetime)
    (duration : Timedelta) :
    let s' := ((claimDraft collation siteId workerId now duration).run s).2
    s' = s ∨ ∃ t drafts, now = some t ∧ Swept siteId t.instant s drafts ∧
      (s' = { s with drafts } ∨ ∃ key old new expiry,
        candidate collation siteId t.instant drafts = some (key, old) ∧ t.instant < expiry ∧
        new.toDraftRow = leased old.toDraftRow workerId expiry t.instant ∧
        s' = { s with drafts := drafts.set key new }) := by
  let P : Tables → Prop := fun s' => s' = s ∨ ∃ t drafts, now = some t ∧
    Swept siteId t.instant s drafts ∧ (s' = { s with drafts } ∨ ∃ key old new expiry,
      candidate collation siteId t.instant drafts = some (key, old) ∧ t.instant < expiry ∧
      new.toDraftRow = leased old.toDraftRow workerId expiry t.instant ∧
      s' = { s with drafts := drafts.set key new })
  have hstay : P s := .inl rfl
  change P _
  refine Proc.run_lift_snd hstay fun _ _ => ?_
  refine Proc.run_lift_snd hstay fun _ _ => ?_
  refine Proc.run_lift_snd hstay fun t ht => ?_
  refine Proc.run_lift_snd hstay fun _ hpositive => ?_
  have hpositive : (0 : ℤ) < duration := by simpa using Proc.rejectIf_eq_ok.mp hpositive
  refine Proc.run_atomically_snd hstay fun _ s' hrun => ?_
  rw [Proc.run_get_bind] at hrun
  obtain ⟨drafts, hswept, hrun⟩ := Proc.run_lift_bind_eq_ok.mp hrun
  obtain ⟨expiry, hexpiry, hrun⟩ := Proc.run_lift_bind_eq_ok.mp hrun
  refine .inr ⟨t, drafts, aware_eq_ok.mp ht, hswept, ?_⟩
  cases hcandidate : candidate collation siteId t.instant drafts with
  | none =>
    rw [hcandidate] at hrun
    obtain ⟨-, rfl⟩ := Prod.mk.inj hrun
    exact .inl rfl
  | some e =>
    rw [hcandidate] at hrun
    obtain ⟨new, hmoved, hrun⟩ := Proc.run_lift_bind_eq_ok.mp hrun
    obtain ⟨-, -, hrun⟩ := Proc.run_lift_bind_eq_ok.mp hrun
    obtain ⟨-, rfl⟩ := Prod.mk.inj hrun
    refine .inr ⟨e.1, e.2, new, expiry.instant, rfl, ?_, moved_eq_ok hmoved, rfl⟩
    rw [leaseEnd_eq_ok hexpiry]
    omega

/-! ## Publishing -/

theorem matchScope_eq_ok {scope : TenantScope} {publication : Publication} {u : Unit} :
    matchScope scope publication = .ok u ↔
      scope.siteId = publication.siteId ∧ scope.processingPurpose = .observationProcessing := by
  simp only [matchScope, Proc.bind_eq_ok, Proc.rejectIf_eq_ok, ne_eq, not_not, exists_const]

variable {py} in
/-- No record of the site has the observation or the key of another one. -/
theorem insertIntelligence_eq_ok {key : String × String} {row : Intelligence} {s s' : Tables}
    {u : Unit} (h : (insertIntelligence py key row).run s = (.ok u, s')) :
    s.intelligence.get? key = none ∧ (∀ e ∈ s.intelligence.items, e.1.1 = key.1 →
      e.2.observationId ≠ row.observationId) ∧
      s' = { s with intelligence := s.intelligence.set key row } := by
  obtain ⟨-, -, h⟩ := Proc.run_lift_bind_eq_ok.mp h
  obtain ⟨-, -, h⟩ := Proc.run_lift_bind_eq_ok.mp h
  rw [Proc.run_get_bind] at h
  dsimp only at h
  rw [Proc.run_ite] at h
  split at h
  next => cases h
  next hfree =>
    obtain ⟨hkey, hother⟩ := not_or.mp hfree
    refine ⟨by simpa using hkey, fun e he hsite hobservation => hother ?_, (Prod.mk.inj h).2.symm⟩
    exact List.any_eq_true.mpr ⟨e, he, by simp [hsite, hobservation]⟩

theorem insertDraft_eq_ok {siteId : String} {row : DraftRow} {s s' : Tables} {u : Unit}
    (h : (insertDraft siteId row).run s = (.ok u, s')) :
    ∃ draft : Draft, draft.toDraftRow = row ∧ s.drafts.get? (siteId, row.draftId) = none ∧
      (∀ e ∈ s.drafts.items, e.1.1 = siteId → e.2.idempotencyKey ≠ row.idempotencyKey) ∧
      s' = { s with drafts := s.drafts.set (siteId, row.draftId) draft } := by
  obtain ⟨draft, hdraft, h⟩ := Proc.run_lift_bind_eq_ok.mp h
  rw [Proc.run_get_bind] at h
  dsimp only at h
  rw [Proc.run_ite] at h
  split at h
  next => cases h
  next hfree =>
    obtain ⟨hkey, hother⟩ := not_or.mp hfree
    refine ⟨draft, admitted_eq_ok hdraft, by simpa using hkey, fun e he hsite hsame => hother ?_,
      (Prod.mk.inj h).2.symm⟩
    exact List.any_eq_true.mpr ⟨e, he, by simp [hsite, hsame]⟩

/-- A draft is added for the team of a publication. -/
structure Drafts (publication : Publication) (prepared : PreparedPublication) (siteId : String)
    (now : Timestamptz) (drafts drafts' : Dict (String × String) Draft) (draft : Draft) : Prop where
  team : ∃ team, prepared.teamRef = some team ∧
    draft.toDraftRow = draftOf publication prepared team now
  fresh : drafts.get? (siteId, draft.draftId) = none
  other : ∀ e ∈ drafts.items, e.1.1 = siteId → e.2.idempotencyKey ≠ draft.idempotencyKey
  eq : drafts' = drafts.set (siteId, draft.draftId) draft

/-- A publication is recorded. -/
structure Publishes (py : Stdlib) (scope : TenantScope) (publication : Publication)
    (idempotencyKey : String) (trusted : Option String) (now : Timestamptz) (s s' : Tables) :
    Prop where
  passes : preparePublication py scope publication idempotencyKey trusted =
    .ok (prepared py publication trusted)
  fresh : s.intelligence.get? (scope.siteId, (prepared py publication trusted).intelligenceId) =
    none
  other : ∀ e ∈ s.intelligence.items, e.1.1 = scope.siteId →
    e.2.observationId ≠ publication.observationId
  eq : s'.intelligence =
    s.intelligence.set (scope.siteId, (prepared py publication trusted).intelligenceId)
      (intelligenceOf publication idempotencyKey (prepared py publication trusted))
  drafts : s'.drafts = s.drafts ∨ ∃ draft, Drafts publication (prepared py publication trusted)
    scope.siteId now s.drafts s'.drafts draft

variable {py} in
theorem preparePublication_eq_ok {scope : TenantScope} {publication : Publication}
    {idempotencyKey : String} {trusted : Option String} {p : PreparedPublication}
    (h : preparePublication py scope publication idempotencyKey trusted = .ok p) :
    p = prepared py publication trusted := by
  simp only [preparePublication, Proc.bind_eq_ok] at h
  obtain ⟨_, -, _, -, _, -, _, -, _, -, _, -, hp⟩ := h
  exact (Except.ok.inj hp).symm

/-- A publication leaves the tables alone or is recorded. -/
theorem publish_cases (s : Tables) (scope : TenantScope) (publication : Publication)
    (idempotencyKey : String) (trusted : Option String) (now : Timestamptz) :
    let s' := ((publish py scope publication idempotencyKey trusted now).run s).2
    s' = s ∨ Publishes py scope publication idempotencyKey trusted now s s' := by
  let P : Tables → Prop := fun s' =>
    s' = s ∨ Publishes py scope publication idempotencyKey trusted now s s'
  have hstay : P s := .inl rfl
  change P _
  refine Proc.run_lift_snd hstay fun _ _ => ?_
  refine Proc.run_lift_snd hstay fun p hp => ?_
  obtain rfl := preparePublication_eq_ok hp
  refine Proc.run_atomically_snd hstay fun _ s' hrun => ?_
  rw [Proc.run_get_bind] at hrun
  split at hrun
  next existing hfound =>
    rw [Proc.run_ite] at hrun
    split at hrun
    next => cases hrun
    next =>
      obtain ⟨-, rfl⟩ := Prod.mk.inj hrun
      exact hstay
  next =>
    obtain ⟨_, s₁, hinsert, hrun⟩ := Proc.run_bind_eq_ok.mp hrun
    obtain ⟨hfresh, hother, rfl⟩ := insertIntelligence_eq_ok hinsert
    cases hteam : (prepared py publication trusted).teamRef with
    | none =>
      rw [hteam] at hrun
      obtain ⟨-, rfl⟩ := Prod.mk.inj hrun
      exact .inr ⟨hp, hfresh, hother, rfl, .inl rfl⟩
    | some team =>
      rw [hteam] at hrun
      obtain ⟨draft, hrow, hfree, hsame, rfl⟩ := insertDraft_eq_ok hrun
      refine .inr ⟨hp, hfresh, hother, rfl, .inr ⟨draft, ⟨team, hteam, hrow⟩, ?_, ?_, ?_⟩⟩
      · rw [hrow]
        exact hfree
      · rw [hrow]
        exact hsame
      · rw [hrow]

/-! ## One step -/

variable {collation} in
theorem candidate_eq_some {siteId : String} {now : Timestamptz}
    {drafts : Dict (String × String) Draft} {key : String × String} {draft : Draft}
    (h : candidate collation siteId now drafts = some (key, draft)) :
    drafts.get? key = some draft ∧ isCandidate siteId now (key, draft) = true := by
  obtain ⟨hmem, hcandidate⟩ := List.mem_filter.mp (mem_of_head?_insertionSort h)
  exact ⟨Dict.mem_items.mp hmem, hcandidate⟩

theorem isCandidate_buried {siteId : String} {now now' : Timestamptz} {key : String × String}
    {old new : Draft} (h : new.toDraftRow = buried old.toDraftRow now') :
    isCandidate siteId now (key, new) = false := by
  have hstatus : new.status = .deadLetter := by rw [h]; rfl
  simp [isCandidate, hstatus]

/-- The sweep buries a draft or leaves it alone. -/
theorem Swept.draft {siteId : String} {now : Timestamptz} {s : Tables}
    {drafts : Dict (String × String) Draft} (h : Swept siteId now s drafts)
    {key : String × String} {old : Draft} (hold : s.drafts.get? key = some old) :
    ∃ new, drafts.get? key = some new ∧
      (new = old ∧ isSpent siteId now (key, old) = false ∨
        isSpent siteId now (key, old) = true ∧ new.toDraftRow = buried old.toDraftRow now) := by
  obtain ⟨new, hnew, hif⟩ := Dict.get?_updateChecked h hold
  refine ⟨new, hnew, ?_⟩
  cases hspent : isSpent siteId now (key, old) with
  | true =>
    rw [hspent, if_pos rfl] at hif
    exact .inr ⟨rfl, moved_eq_ok hif⟩
  | false =>
    rw [hspent, if_neg Bool.false_ne_true] at hif
    exact .inl ⟨hif, rfl⟩

variable {collation} in
/-- A candidate has not been swept. -/
theorem Swept.candidate {siteId : String} {now : Timestamptz} {s : Tables}
    {drafts : Dict (String × String) Draft} (h : Swept siteId now s drafts)
    {key : String × String} {old : Draft}
    (hold : Context.candidate collation siteId now drafts = some (key, old)) :
    s.drafts.get? key = some old ∧ isCandidate siteId now (key, old) = true := by
  obtain ⟨hget, hcandidate⟩ := candidate_eq_some hold
  cases hbefore : s.drafts.get? key with
  | none =>
    rw [(Dict.get?_updateChecked_eq_none h).mpr hbefore] at hget
    cases hget
  | some before =>
    obtain ⟨new, hnew, hcases⟩ := h.draft hbefore
    obtain rfl := Option.some.inj (hget.symm.trans hnew)
    rcases hcases with ⟨rfl, -⟩ | ⟨-, hburied⟩
    · exact ⟨rfl, hcandidate⟩
    · rw [isCandidate_buried hburied] at hcandidate
      cases hcandidate

theorem OneMoved.draft {c : Call} {s s' : Tables} (h : OneMoved c s s') {key : String × String}
    {old : Draft} (hold : s.drafts.get? key = some old) :
    ∃ new, s'.drafts.get? key = some new ∧ (new = old ∨ c.Moves key old new) := by
  rcases h with rfl | ⟨key', old', new, hget, hmoves, rfl⟩
  · exact ⟨old, hold, .inl rfl⟩
  · by_cases hkey : key = key'
    · subst hkey
      obtain rfl := Option.some.inj (hget.symm.trans hold)
      exact ⟨new, Dict.get?_set_self _ _ _, .inr hmoves⟩
    · exact ⟨old, (Dict.get?_set_of_ne _ _ hkey).trans hold, .inl rfl⟩

theorem OneMoved.none {c : Call} {s s' : Tables} (h : OneMoved c s s') {key : String × String}
    (hnone : s.drafts.get? key = none) : s'.drafts.get? key = none := by
  rcases h with rfl | ⟨key', old', new, hget, -, rfl⟩
  · exact hnone
  · have hkey : key ≠ key' := by
      rintro rfl
      rw [hnone] at hget
      cases hget
    exact (Dict.get?_set_of_ne _ _ hkey).trans hnone

theorem step_snd (s : Tables) (c : Call) :
    ((machine py collation).step s c).2 = ((perform py collation c).run s).2 := rfl

theorem claimDraft_draft (s : Tables) (siteId workerId : String) (now : Option Datetime)
    (duration : Timedelta) {key : String × String} {old : Draft}
    (hold : s.drafts.get? key = some old) :
    ∃ new,
      ((claimDraft collation siteId workerId now duration).run s).2.drafts.get? key = some new ∧
      (new = old ∨ (Call.claimDraft siteId workerId now duration).Moves key old new) := by
  rcases claimDraft_cases collation s siteId workerId now duration with
    hsame | ⟨t, drafts, ht, hswept, hcases⟩
  · exact ⟨old, by rw [hsame, hold], .inl rfl⟩
  · obtain ⟨new, hnew, hchange⟩ := hswept.draft hold
    have hburied : new = old ∨
        (Call.claimDraft siteId workerId now duration).Moves key old new := by
      rcases hchange with ⟨rfl, -⟩ | ⟨hspent, hrow⟩
      · exact .inl rfl
      · have hsite : key.1 = siteId := by
          simp only [isSpent, Bool.and_eq_true, decide_eq_true_eq] at hspent
          exact hspent.1.1.1
        exact .inr ⟨t, ht, hsite, .inl ⟨hspent, hrow⟩⟩
    rcases hcases with heq | ⟨key', old', new', expiry, hcandidate, hlater, hrow, heq⟩
    · exact ⟨new, by rw [heq, hnew], hburied⟩
    · by_cases hkey : key = key'
      · subst hkey
        obtain ⟨hget, hcan⟩ := hswept.candidate hcandidate
        obtain rfl := Option.some.inj (hget.symm.trans hold)
        have hsite : key.1 = siteId := by
          simp only [isCandidate, Bool.and_eq_true, decide_eq_true_eq] at hcan
          exact hcan.1.1
        refine ⟨new', by rw [heq, Dict.get?_set_self], .inr ⟨t, ht, hsite, .inr ⟨hcan, expiry, ?_⟩⟩⟩
        exact ⟨hlater, hrow⟩
      · exact ⟨new, by rw [heq, Dict.get?_set_of_ne _ _ hkey, hnew], hburied⟩

theorem claimDraft_none (s : Tables) (siteId workerId : String) (now : Option Datetime)
    (duration : Timedelta) {key : String × String} (hnone : s.drafts.get? key = none) :
    ((claimDraft collation siteId workerId now duration).run s).2.drafts.get? key = none := by
  rcases claimDraft_cases collation s siteId workerId now duration with
    hsame | ⟨t, drafts, -, hswept, hcases⟩
  · rw [hsame, hnone]
  · have hnew := (Dict.get?_updateChecked_eq_none hswept).mpr hnone
    rcases hcases with heq | ⟨key', old', new', expiry, hcandidate, -, -, heq⟩
    · rw [heq, hnew]
    · have hkey : key ≠ key' := by
        rintro rfl
        rw [(candidate_eq_some hcandidate).1] at hnew
        cases hnew
      rw [heq, Dict.get?_set_of_ne _ _ hkey, hnew]

/-- Every call leaves a draft alone or moves it. -/
theorem step_draft (s : Tables) (c : Call) {key : String × String} {old : Draft}
    (hold : s.drafts.get? key = some old) :
    ∃ new, ((machine py collation).step s c).2.drafts.get? key = some new ∧
      (new = old ∨ c.Moves key old new) := by
  rw [step_snd]
  cases c with
  | publish scope publication idempotencyKey trusted now =>
    rw [perform, Proc.run_map]
    refine ⟨old, ?_, .inl rfl⟩
    rcases publish_cases py s scope publication idempotencyKey trusted now with hsame | hpublishes
    · rw [hsame, hold]
    · rcases hpublishes.drafts with hdrafts | ⟨draft, hdraft⟩
      · rw [hdrafts, hold]
      · have hkey : key ≠ (scope.siteId, draft.draftId) := by
          rintro rfl
          rw [hdraft.fresh] at hold
          cases hold
        rw [hdraft.eq, Dict.get?_set_of_ne _ _ hkey, hold]
  | claimDraft siteId workerId now duration =>
    rw [perform, Proc.run_map]
    exact claimDraft_draft collation s siteId workerId now duration hold
  | heartbeatDraft siteId draftId workerId attempt now duration =>
    rw [perform, Proc.run_map]
    exact (heartbeatDraft_cases s siteId draftId workerId attempt now duration).draft hold
  | acknowledgeDraft siteId draftId workerId attempt now receipt =>
    rw [perform, Proc.run_map]
    exact (acknowledgeDraft_cases s siteId draftId workerId attempt now receipt).draft hold
  | failDraft siteId draftId workerId attempt now retryAt errorCode =>
    rw [perform, Proc.run_map]
    exact (failDraft_cases s siteId draftId workerId attempt now retryAt errorCode).draft hold

/-- A draft that was not there is a publication's. -/
theorem step_new (s : Tables) (c : Call) {key : String × String} {new : Draft}
    (hnone : s.drafts.get? key = none)
    (hnew : ((machine py collation).step s c).2.drafts.get? key = some new) :
    ∃ scope publication idempotencyKey trusted now,
      c = .publish scope publication idempotencyKey trusted now ∧
      Publishes py scope publication idempotencyKey trusted now s
        ((machine py collation).step s c).2 ∧
      key = (scope.siteId, new.draftId) ∧
      Drafts publication (prepared py publication trusted) scope.siteId now s.drafts
        ((machine py collation).step s c).2.drafts new := by
  rw [step_snd] at hnew ⊢
  cases c with
  | publish scope publication idempotencyKey trusted now =>
    rw [perform, Proc.run_map] at hnew ⊢
    refine ⟨scope, publication, idempotencyKey, trusted, now, rfl, ?_⟩
    rcases publish_cases py s scope publication idempotencyKey trusted now with
      hsame | hpublishes
    · rw [hsame, hnone] at hnew
      cases hnew
    · rcases hpublishes.drafts with hdrafts | ⟨draft, hdraft⟩
      · rw [hdrafts, hnone] at hnew
        cases hnew
      · by_cases hkey : key = (scope.siteId, draft.draftId)
        · rw [hdraft.eq, hkey, Dict.get?_set_self] at hnew
          obtain rfl := Option.some.inj hnew
          exact ⟨hpublishes, hkey, hdraft⟩
        · rw [hdraft.eq, Dict.get?_set_of_ne _ _ hkey, hnone] at hnew
          cases hnew
  | claimDraft siteId workerId now duration =>
    rw [perform, Proc.run_map] at hnew
    rw [claimDraft_none collation s siteId workerId now duration hnone] at hnew
    cases hnew
  | heartbeatDraft siteId draftId workerId attempt now duration =>
    rw [perform, Proc.run_map] at hnew
    rw [(heartbeatDraft_cases s siteId draftId workerId attempt now duration).none hnone] at hnew
    cases hnew
  | acknowledgeDraft siteId draftId workerId attempt now receipt =>
    rw [perform, Proc.run_map] at hnew
    rw [(acknowledgeDraft_cases s siteId draftId workerId attempt now receipt).none hnone] at hnew
    cases hnew
  | failDraft siteId draftId workerId attempt now retryAt errorCode =>
    rw [perform, Proc.run_map] at hnew
    rw [(failDraft_cases s siteId draftId workerId attempt now retryAt errorCode).none hnone]
      at hnew
    cases hnew

end EsanGbos.Context
