import EsanGbos.Observer.Publisher

/-!
# Marks under competing publishers

A mark names the worker and the time of its claim, and neither the attempt nor the time at which
it is made. As long as no late mark finds its row leased to its own worker id, every mark that
takes effect is made by the run that claimed the row for its present attempt, under its lease.

## Main definitions

* `Publishing.OnTime` — the condition on a mark that is late.
* `Publishing.Fenced` — a mark takes effect on its own claim alone, and in time.
* `Publishing.run_marks_fenced` — from the one to the other, over every interleaving.
-/
namespace EsanGbos.Observer
open Lib

/-- The lease of the claim lasts beyond `t`. -/
def Claimed.isLiveAt (claim : Claimed) (t : Timestamptz) : Bool :=
  claim.row.lease.any fun lease => t < lease.expiresAt

namespace Publishing
variable {ι : Type} (py : Stdlib) (collation : Collation)

/-- The interleavings of runs and of what is no run's doing. -/
def machine [DecidableEq ι] : Machine
    (Pool PublisherCall PublisherCall.Answer Raise (Option ContextPublicationResult) ι (Publishing ι))
    (Event ι (ContextOutboxPublisherWorker × TenantScope) PublisherChoice PublisherCommand) Unit :=
  Pool.machine ContextOutboxPublisherWorker.program (exec py collation) command

/-- A late mark of the run `i` does not find its row leased to its worker id. -/
def OnTime (i : ι) (c : PublisherCall) (s : Publishing ι) : Prop :=
  ∀ scope outboxId workerId now isPublished errorCode nextRetryAt,
    c = .markContextOutbox scope outboxId workerId now isPublished errorCode nextRetryAt →
    ∀ claim, s.claims i = some claim → claim.isLiveAt s.time.instant = false →
      ∀ row, s.outbox.rows.get? (scope.siteId, outboxId) = some row →
        ¬(row.status = .leased ∧ row.lease.any (·.owner = workerId) = true)

/-- A mark that changes the outbox changes the row of its run's claim, for the attempt that was
claimed and before the lease ends. -/
def Fenced [DecidableEq ι] (i : ι) (x : PublisherChoice) (c : PublisherCall) (s : Publishing ι) : Prop :=
  ∀ scope outboxId workerId now isPublished errorCode nextRetryAt,
    c = .markContextOutbox scope outboxId workerId now isPublished errorCode nextRetryAt →
    (exec py collation i x c s).2.outbox ≠ s.outbox →
      ∃ claim row, s.claims i = some claim ∧ claim.id = (scope.siteId, outboxId) ∧
        s.outbox.rows.get? claim.id = some row ∧ row.attemptCount = claim.row.attemptCount ∧
        claim.isLiveAt s.time.instant = true

/-! ## What a run relies on -/

/-- Claims are numbered: each row has been claimed at most once for each attempt. -/
structure Numbered (s : Publishing ι) : Prop where
  le : ∀ i claim, s.claims i = some claim →
    ∃ row, s.outbox.rows.get? claim.id = some row ∧ claim.row.attemptCount ≤ row.attemptCount
  injective : ∀ i j claim claim', s.claims i = some claim → s.claims j = some claim' → i ≠ j →
    claim.id = claim'.id → claim.row.attemptCount ≠ claim'.row.attemptCount

/-- The row is as it was claimed, or has been claimed again after the lease. -/
structure Held (claim : Claimed) (s : Publishing ι) : Prop where
  leased : claim.row.status = .leased
  current : ∃ row, s.outbox.rows.get? claim.id = some row ∧ (row = claim.row ∨
    claim.row.attemptCount < row.attemptCount ∧ claim.isLiveAt s.time.instant = false)

/-- What a step leaves to the run `j`, whose step it is not. -/
structure Leaves (j : ι) (s t : Publishing ι) : Prop where
  time : s.time.instant ≤ t.time.instant
  claims : t.claims j = s.claims j
  held : ∀ claim, s.claims j = some claim → Held claim s → Held claim t

section Rely
variable {i j : ι} {s t u : Publishing ι} {claim : Claimed}

theorem Leaves.refl (j : ι) (s : Publishing ι) : Leaves j s s := ⟨le_rfl, rfl, fun _ _ h => h⟩

theorem Leaves.trans (h : Leaves j s t) (h' : Leaves j t u) : Leaves j s u :=
  ⟨h.time.trans h'.time, h'.claims.trans h.claims,
    fun claim hclaim hheld => h'.held claim (h.claims.trans hclaim) (h.held claim hclaim hheld)⟩

theorem Claimed.isLiveAt_mono {t u : Timestamptz} (h : t ≤ u)
    (hlive : claim.isLiveAt t = false) : claim.isLiveAt u = false := by
  rw [Claimed.isLiveAt, Option.any_eq_false] at hlive ⊢
  intro lease hlease
  have hover := hlive lease hlease
  rw [decide_eq_false_iff_not, not_lt] at hover ⊢
  exact hover.trans h

/-- Later, with the row as it was. -/
theorem Held.of_get? (h : Held claim s) (htime : s.time.instant ≤ t.time.instant)
    (hget : ∀ row, s.outbox.rows.get? claim.id = some row →
      t.outbox.rows.get? claim.id = some row) : Held claim t := by
  obtain ⟨row, hrow, hcurrent⟩ := h.current
  refine ⟨h.leased, row, hget row hrow, hcurrent.imp_right ?_⟩
  exact fun ⟨hless, hlive⟩ => ⟨hless, Claimed.isLiveAt_mono htime hlive⟩

/-- A row that leaves its lease was claimed by the run, for this attempt, and in time. -/
def EndsOwn (i : ι) (s t : Publishing ι) : Prop :=
  ∀ id row row', s.outbox.rows.get? id = some row → t.outbox.rows.get? id = some row' →
    row.status = .leased → row'.status ≠ .leased →
      ∃ claim, s.claims i = some claim ∧ claim.id = id ∧
        row.attemptCount = claim.row.attemptCount ∧ claim.isLiveAt s.time.instant = true

def contract : Contract PublisherCall ι PublisherChoice (Publishing ι) where
  rely := Leaves
  guar i s t := Numbered t ∧ EndsOwn i s t ∧ ∀ j, j ≠ i → Leaves j s t
  allowed i _ c s := Numbered s ∧ OnTime i c s
  rely_refl := Leaves.refl
  rely_trans _ _ _ _ := Leaves.trans

theorem guar_refl (i : ι) {s : Publishing ι} (hs : Numbered s) : contract.guar i s s := by
  refine ⟨hs, fun id row row' hget hget' hleased hnot => ?_, fun j _ => .refl j s⟩
  obtain rfl := Option.some.inj (hget.symm.trans hget')
  exact absurd hleased hnot

/-! ### Claims -/

section Claiming
variable [DecidableEq ι] {now : Datetime} {id : String × String} {row row' : OutboxRow}

theorem Claims.own (h : Claims i now id row row' s t) : t.claims i = some ⟨id, row'⟩ := by
  rw [h.claims, Function.update_self]

theorem Claims.other (h : Claims i now id row row' s t) (hj : j ≠ i) :
    t.claims j = s.claims j := by
  rw [h.claims, Function.update_of_ne hj]

theorem Claims.get_own (h : Claims i now id row row' s t) :
    t.outbox.rows.get? id = some row' := by
  rw [h.rows, Dict.get?_set_self]

theorem Claims.get_other (h : Claims i now id row row' s t) {id' : String × String}
    (hid : id' ≠ id) : t.outbox.rows.get? id' = s.outbox.rows.get? id' := by
  rw [h.rows, Dict.get?_set_of_ne _ _ hid]

/-- The new attempt is beyond those of the claims before. -/
theorem Claims.fresh (h : Claims i now id row row' s t) (hs : Numbered s)
    (hclaim : s.claims j = some claim) (hid : claim.id = id) :
    claim.row.attemptCount < row'.attemptCount := by
  obtain ⟨stored, hstored, hle⟩ := hs.le j claim hclaim
  rw [hid, h.get] at hstored
  obtain rfl := Option.some.inj hstored
  have hattempt := h.attempt
  omega

theorem Claims.numbered (h : Claims i now id row row' s t) (hs : Numbered s) : Numbered t := by
  constructor
  · intro j claim hclaim
    by_cases hj : j = i
    · subst hj
      obtain rfl := Option.some.inj (h.own.symm.trans hclaim)
      exact ⟨row', h.get_own, le_rfl⟩
    · rw [h.other hj] at hclaim
      by_cases hid : claim.id = id
      · exact ⟨row', hid ▸ h.get_own, (h.fresh hs hclaim hid).le⟩
      · rw [h.get_other hid]
        exact hs.le j claim hclaim
  · intro j k claim claim' hclaim hclaim' hjk hid
    by_cases hj : j = i
    · subst hj
      obtain rfl := Option.some.inj (h.own.symm.trans hclaim)
      rw [h.other (Ne.symm hjk)] at hclaim'
      exact (h.fresh hs hclaim' hid.symm).ne'
    · rw [h.other hj] at hclaim
      by_cases hk : k = i
      · subst hk
        obtain rfl := Option.some.inj (h.own.symm.trans hclaim')
        exact (h.fresh hs hclaim hid).ne
      · rw [h.other hk] at hclaim'
        exact hs.injective j k claim claim' hclaim hclaim' hjk hid

/-- Whoever held the row before, holds it no more: it was due. -/
theorem Claims.held (h : Claims i now id row row' s t) (hs : Numbered s)
    (hnow : now.instant ≤ s.time.instant) (hclaim : s.claims j = some claim)
    (hheld : Held claim s) : Held claim t := by
  by_cases hid : claim.id = id
  · refine ⟨hheld.leased, row', hid ▸ h.get_own, .inr ⟨h.fresh hs hclaim hid, ?_⟩⟩
    rw [h.time]
    obtain ⟨stored, hstored, hcurrent⟩ := hheld.current
    rw [hid, h.get] at hstored
    obtain rfl := Option.some.inj hstored
    rcases hcurrent with hsame | ⟨-, hover⟩
    · have hdue := h.due
      rw [hsame, Outbox.isDue, hheld.leased] at hdue
      refine Claimed.isLiveAt_mono hnow ?_
      obtain ⟨lease, hlease, hexpired⟩ := (Option.any_eq_true _ _).mp hdue
      simpa [Claimed.isLiveAt, hlease] using hexpired
    · exact hover
  · refine hheld.of_get? (by rw [h.time]) fun stored hstored => ?_
    rw [h.get_other hid, hstored]

theorem Claims.guar (h : Claims i now id row row' s t) (hs : Numbered s)
    (hnow : now.instant ≤ s.time.instant) : contract.guar i s t := by
  refine ⟨h.numbered hs, fun id₁ row₁ row₂ hget₁ hget₂ hleased hnot => ?_, fun j hj => ?_⟩
  · by_cases hid : id₁ = id
    · subst hid
      obtain rfl := Option.some.inj (h.get_own.symm.trans hget₂)
      exact absurd h.status hnot
    · rw [h.get_other hid] at hget₂
      obtain rfl := Option.some.inj (hget₁.symm.trans hget₂)
      exact absurd hleased hnot
  · exact ⟨by rw [h.time], h.other hj, fun claim hclaim hheld => h.held hs hnow hclaim hheld⟩

end Claiming

/-! ### Marks -/

section Marking
variable {workerId : String} {now : Datetime} {row row' : OutboxRow}

/-- The row that a run marks on time is the one it has claimed. -/
theorem Marks.current (h : Marks workerId now claim.id row row' s t) (hheld : Held claim s)
    (hlate : claim.isLiveAt s.time.instant = false →
      ¬(row.status = .leased ∧ row.lease.any (·.owner = workerId) = true)) :
    row = claim.row ∧ claim.isLiveAt s.time.instant = true := by
  have howned : row.status = .leased ∧ row.lease.any (·.owner = workerId) = true := by
    obtain ⟨hlive, lease, hlease, howner⟩ := Outbox.isOwned_live h.owned
    exact ⟨Outbox.isLive_status hlive, by simp [hlease, howner]⟩
  have hlive : claim.isLiveAt s.time.instant = true := by
    by_contra hover
    exact hlate (Bool.not_eq_true _ ▸ hover) howned
  obtain ⟨stored, hstored, hcurrent⟩ := hheld.current
  rw [h.get] at hstored
  obtain rfl := Option.some.inj hstored
  refine ⟨hcurrent.resolve_right ?_, hlive⟩
  rintro ⟨-, hover⟩
  exact Bool.false_ne_true (hover.symm.trans hlive)

theorem Marks.numbered {id : String × String} (h : Marks workerId now id row row' s t)
    (hs : Numbered s) : Numbered t := by
  refine ⟨fun j claim hclaim => ?_, ?_⟩
  · rw [h.claims] at hclaim
    obtain ⟨stored, hstored, hle⟩ := hs.le j claim hclaim
    rw [h.rows, Dict.get?_set]
    split
    next hid =>
      rw [hid, h.get] at hstored
      obtain rfl := Option.some.inj hstored
      exact ⟨row', rfl, h.attempt.symm ▸ hle⟩
    next => exact ⟨stored, hstored, hle⟩
  · rw [h.claims]
    exact hs.injective

theorem Marks.guar (h : Marks workerId now claim.id row row' s t) (hs : Numbered s)
    (hclaim : s.claims i = some claim) (hheld : Held claim s)
    (hlate : claim.isLiveAt s.time.instant = false →
      ¬(row.status = .leased ∧ row.lease.any (·.owner = workerId) = true)) :
    contract.guar i s t := by
  obtain ⟨hrow, hlive⟩ := h.current hheld hlate
  refine ⟨h.numbered hs, fun id₁ row₁ row₂ hget₁ hget₂ hleased hnot => ?_, fun j hj => ?_⟩
  · by_cases hid : id₁ = claim.id
    · subst hid
      obtain rfl := Option.some.inj (hget₁.symm.trans h.get)
      exact ⟨claim, hclaim, rfl, by rw [hrow], hlive⟩
    · rw [h.rows, Dict.get?_set_of_ne _ _ hid] at hget₂
      obtain rfl := Option.some.inj (hget₁.symm.trans hget₂)
      exact absurd hleased hnot
  · refine ⟨by rw [h.time], by rw [h.claims], fun claim' hclaim' hheld' => ?_⟩
    by_cases hid : claim'.id = claim.id
    · -- The attempts differ, so the row is not as the run `j` has claimed it.
      obtain ⟨stored, hstored, hcurrent⟩ := hheld'.current
      rw [hid, h.get] at hstored
      obtain rfl := Option.some.inj hstored
      have hne : row ≠ claim'.row := fun hsame =>
        hs.injective j i claim' claim hclaim' hclaim hj hid (by rw [← hsame, hrow])
      obtain ⟨hless, hover⟩ := hcurrent.resolve_left hne
      refine ⟨hheld'.leased, row', ?_, .inr ⟨by rw [h.attempt]; exact hless, by rwa [h.time]⟩⟩
      rw [hid, h.rows, Dict.get?_set_self]
    · refine hheld'.of_get? (by rw [h.time]) fun stored hstored => ?_
      rw [h.rows, Dict.get?_set_of_ne _ _ hid, hstored]

end Marking

end Rely

/-! ## Runs -/

variable {py collation} [DecidableEq ι]

abbrev Holds {α : Type} (py : Stdlib) (collation : Collation) (i : ι)
    (Q : Except Raise α → Publishing ι → Prop) (p : PublisherRun α) (s : Publishing ι) : Prop :=
  p.Holds (exec py collation) contract i Q s

section Parts
variable {i : ι} {s : Publishing ι} {claim : Claimed}

/-- A mark of the row that the run has claimed. -/
theorem holds_markContextOutbox {scope : TenantScope} {outboxId workerId : String} {now : Datetime}
    {isPublished : Bool} {errorCode : Option String} {nextRetryAt : Option (Option Datetime)}
    (hclaim : s.claims i = some claim) (hheld : Held claim s)
    (hid : claim.id = (scope.siteId, outboxId)) :
    Holds py collation i (fun _ _ => True) (ContextOutboxStorage.markContextOutbox scope outboxId
      workerId now isPublished errorCode nextRetryAt) s := by
  apply Prog.Holds.invoke
  rintro t ht x ⟨hnumbered, htime⟩
  refine ⟨?_, trivial⟩
  have hclaim' : t.claims i = some claim := ht.claims.trans hclaim
  have hlate := htime scope outboxId workerId now isPublished errorCode nextRetryAt rfl claim hclaim'
  rcases hexec : exec py collation i x (.markContextOutbox scope outboxId workerId now isPublished
    errorCode nextRetryAt) t with ⟨r, u⟩
  obtain rfl | ⟨row, row', h⟩ := exec_markContextOutbox py collation hexec
  · exact guar_refl i hnumbered
  · rw [← hid] at h hlate
    exact h.guar hnumbered hclaim' (ht.held claim hclaim hheld) fun hover => hlate hover row h.get

theorem holds_publishClaimed (worker : ContextOutboxPublisherWorker) {scope : TenantScope}
    {now : Datetime} {outboxId : String} {row : OutboxRow}
    (hclaim : s.claims i = some ⟨(scope.siteId, outboxId), row⟩)
    (hheld : Held ⟨(scope.siteId, outboxId), row⟩ s) :
    Holds py collation i (fun _ _ => True) (worker.publishClaimed scope now outboxId row) s := by
  unfold ContextOutboxPublisherWorker.publishClaimed
  split
  · trivial
  apply Prog.Holds.bind (Q := fun _ t => t.claims i = some ⟨(scope.siteId, outboxId), row⟩ ∧
    Held ⟨(scope.siteId, outboxId), row⟩ t)
  · refine Prog.Holds.attempt (Q := fun _ t => t.claims i = some ⟨(scope.siteId, outboxId), row⟩ ∧
      Held ⟨(scope.siteId, outboxId), row⟩ t) ?_ fun _ _ h => h
    apply Prog.Holds.invoke
    intro t ht x hx
    exact ⟨guar_refl i hx.1, ht.claims.trans hclaim, ht.held _ hclaim hheld⟩
  · rintro published t ⟨hclaim, hheld⟩
    cases published with
    | error e =>
        change Holds py collation i _ (worker.markUnpublished scope now outboxId row) t
        unfold ContextOutboxPublisherWorker.markUnpublished
        split
        · trivial
        · refine (holds_markContextOutbox hclaim hheld rfl).bind ?_ ?_ <;>
            exact fun _ _ _ => trivial
    | ok _ =>
        refine (holds_markContextOutbox hclaim hheld rfl).bind ?_ ?_ <;> exact fun _ _ _ => trivial
  · exact fun _ _ _ => trivial

theorem holds_now : Holds py collation i
    (fun r t => ∀ now, r = .ok now → now.instant ≤ t.time.instant)
    ContextOutboxPublisherWorker.now s := by
  unfold ContextOutboxPublisherWorker.now
  apply Prog.Holds.bind (Q := fun r t => ∀ now, r = .ok (some now) →
    now.instant ≤ t.time.instant)
  · apply Prog.Holds.invoke
    intro t ht x hx
    refine ⟨guar_refl i hx.1, fun now hnow => ?_⟩
    have hread := Except.ok.inj hnow
    split at hread
    · obtain rfl := Option.some.inj hread
      exact le_rfl
    · cases hread
  · intro clocked t hclocked
    cases clocked with
    | none => exact fun now hnow => by cases hnow
    | some now => exact fun now' hnow => Except.ok.inj hnow ▸ hclocked now rfl
  · exact fun _ _ _ now hnow => by cases hnow

/-- A run marks its own claim alone. -/
theorem holds_program (run : ContextOutboxPublisherWorker × TenantScope) (i : ι)
    (s : Publishing ι) :
    Holds py collation i (fun _ _ => True) (ContextOutboxPublisherWorker.program run) s := by
  obtain ⟨worker, scope⟩ := run
  unfold ContextOutboxPublisherWorker.program ContextOutboxPublisherWorker.runOnce
  refine holds_now.bind ?_ fun _ _ _ => trivial
  intro now t hnow
  apply Prog.Holds.bind (Q := fun r t => ∀ outboxId row, r = .ok (some (outboxId, row)) →
    t.claims i = some ⟨(scope.siteId, outboxId), row⟩ ∧ Held ⟨(scope.siteId, outboxId), row⟩ t)
  · apply Prog.Holds.invoke
    intro u hu x hx
    rcases hexec : exec py collation i x (.claimContextOutbox scope worker.workerId now
      worker.leaseSeconds) u with ⟨r, v⟩
    obtain ⟨rfl, hnone⟩ | ⟨outboxId, row, row', h, rfl⟩ :=
      exec_claimContextOutbox py collation hexec
    · exact ⟨guar_refl i hx.1, fun outboxId row hr => absurd hr (hnone _)⟩
    · refine ⟨h.guar hx.1 ((hnow now rfl).trans hu.time), fun outboxId row hr => ?_⟩
      obtain ⟨rfl, rfl⟩ := Prod.mk.inj (Option.some.inj (Except.ok.inj hr))
      exact ⟨h.own, h.status, row', h.get_own, .inl rfl⟩
  · intro claimed u hclaimed
    cases claimed with
    | none => trivial
    | some e =>
        obtain ⟨hclaim, hheld⟩ := hclaimed e.1 e.2 rfl
        refine (holds_publishClaimed worker hclaim hheld).bind ?_ ?_ <;> exact fun _ _ _ => trivial
  · exact fun _ _ _ => trivial

end Parts

/-! ## Pools -/

omit [DecidableEq ι] in
/-- What is no run's doing leaves the rows that are there. -/
theorem leaves_command (j : ι) (c : PublisherCommand) (s : Publishing ι) :
    Leaves j s (command c s) ∧ ∀ id row, s.outbox.rows.get? id = some row →
      (command c s).outbox.rows.get? id = some row := by
  have hleaves : ∀ t : Publishing ι, s.time.instant ≤ t.time.instant → t.claims = s.claims →
      (∀ id row, s.outbox.rows.get? id = some row → t.outbox.rows.get? id = some row) →
      Leaves j s t ∧ ∀ id row, s.outbox.rows.get? id = some row →
        t.outbox.rows.get? id = some row := by
    intro t htime hclaims hrows
    exact ⟨⟨htime, by rw [hclaims], fun claim _ hheld => hheld.of_get? htime (hrows _)⟩, hrows⟩
  cases c with
  | tick time =>
      unfold command
      dsimp only
      split
      next hle => exact hleaves _ hle rfl fun _ _ h => h
      next => exact hleaves _ le_rfl rfl fun _ _ h => h
  | recordEvent site eventId purpose =>
      refine hleaves _ le_rfl rfl fun id row hget => ?_
      rw [← hget]
      simp only [command, Outbox.recordEvent, Proc.run_modify]
      split <;> rfl
  | enqueueContextOutbox scope outboxId observationEventId idempotencyKey payloadDigest now
      maxAttempts =>
      refine hleaves _ le_rfl rfl fun id row hget => ?_
      simp only [command]
      obtain hsame | ⟨now', row', -, hfree, -, -, -, hset⟩ := Outbox.enqueueContextOutbox_cases
        (s := s.outbox) scope outboxId observationEventId idempotencyKey payloadDigest now
        maxAttempts rfl
      · rw [hsame, hget]
      · have hne : id ≠ (scope.siteId, outboxId) := by
          rintro rfl
          cases hfree.symm.trans hget
        rw [hset, Dict.get?_set_of_ne _ _ hne, hget]

omit [DecidableEq ι] in
theorem Numbered.command {s : Publishing ι} (h : Numbered s) (c : PublisherCommand) :
    Numbered (Publishing.command c s) := by
  constructor
  · intro i claim hclaim
    obtain ⟨hleaves, hrows⟩ := leaves_command i c s
    rw [hleaves.claims] at hclaim
    obtain ⟨row, hget, hle⟩ := h.le i claim hclaim
    exact ⟨row, hrows _ _ hget, hle⟩
  · intro i j claim claim' hclaim hclaim'
    rw [(leaves_command i c s).1.claims] at hclaim
    rw [(leaves_command j c s).1.claims] at hclaim'
    exact h.injective i j claim claim' hclaim hclaim'

/-- At `start` nothing is enqueued and no run has started. -/
def initial (start : Datetime) :
    Pool PublisherCall PublisherCall.Answer Raise (Option ContextPublicationResult) ι
      (Publishing ι) :=
  ⟨⟨{}, start, fun _ => none⟩, fun _ => none⟩

/-- Of the call that a step makes. -/
def OfCall (P : ι → PublisherChoice → PublisherCall → Publishing ι → Prop)
    (s : Pool PublisherCall PublisherCall.Answer Raise (Option ContextPublicationResult) ι
      (Publishing ι)) :
    Event ι (ContextOutboxPublisherWorker × TenantScope) PublisherChoice PublisherCommand → Prop
  | .step i x => ∀ c next, s.runs i = some (.call c next) → P i x c s.shared
  | _ => True

section Pools
variable {s : Pool PublisherCall PublisherCall.Answer Raise (Option ContextPublicationResult) ι
    (Publishing ι)}
  {e : Event ι (ContextOutboxPublisherWorker × TenantScope) PublisherChoice PublisherCommand}

/-- Every run keeps its side, and the claims are numbered. -/
def Orderly (py : Stdlib) (collation : Collation)
    (s : Pool PublisherCall PublisherCall.Answer Raise (Option ContextPublicationResult) ι
      (Publishing ι)) : Prop :=
  Pool.AllHold (exec py collation) contract s ∧ Numbered s.shared

theorem Orderly.step (h : Orderly py collation s) (he : OfCall (fun i _ => OnTime i) s e) :
    Orderly py collation ((machine py collation).step s e).2 := by
  obtain ⟨hall, hnumbered⟩ := h
  constructor
  · refine hall.step (B := fun _ _ => True) holds_program ?_ ?_ ?_
    · exact fun i j s t hij hguar => hguar.2.2 i hij
    · exact fun i c s _ => (leaves_command i c s).1
    · cases e with
      | start i p => trivial
      | step i x => exact fun c next hrun => ⟨hnumbered, he c next hrun⟩
      | other c => trivial
  · cases e with
    | start i p => exact Pool.shared_start (P := Numbered) i p hnumbered
    | step i x =>
        exact Pool.shared_step (P := Numbered) i x hnumbered fun c next hrun =>
          (hall.guar hrun ⟨hnumbered, he c next hrun⟩).1
    | other c => exact hnumbered.command c

theorem Orderly.fenced (h : Orderly py collation s) (he : OfCall (fun i _ => OnTime i) s e) :
    OfCall (Fenced py collation) s e := by
  obtain ⟨hall, hnumbered⟩ := h
  cases e with
  | start i p => trivial
  | other c => trivial
  | step i x =>
      rintro c next hrun scope outboxId workerId now isPublished errorCode nextRetryAt rfl hchanged
      obtain ⟨-, hends, -⟩ := hall.guar (x := x) hrun ⟨hnumbered, he _ next hrun⟩
      rcases hexec : exec py collation i x (.markContextOutbox scope outboxId workerId now
        isPublished errorCode nextRetryAt) s.shared with ⟨r, t⟩
      rw [hexec] at hends hchanged
      obtain rfl | ⟨row, row', hmarks⟩ := exec_markContextOutbox py collation hexec
      · exact absurd rfl hchanged
      · obtain ⟨hlive, -⟩ := Outbox.isOwned_live hmarks.owned
        have hget' : t.outbox.rows.get? (scope.siteId, outboxId) = some row' := by
          rw [hmarks.rows, Dict.get?_set_self]
        obtain ⟨claim, hclaim, hid, hattempt, hlive⟩ := hends _ row row' hmarks.get hget'
          (Outbox.isLive_status hlive) hmarks.status
        exact ⟨claim, row, hclaim, hid, hid ▸ hmarks.get, hattempt, hlive⟩

/-- **Marks are fenced where no late mark finds its row leased to its own worker id**: in every
interleaving, a mark that takes effect is made by the run whose claim the row is in, and before
the lease of that claim ends. -/
theorem run_marks_fenced (py : Stdlib) (collation : Collation) (start : Datetime)
    {events : List (Event ι (ContextOutboxPublisherWorker × TenantScope) PublisherChoice
      PublisherCommand)}
    (hmarks : (machine py collation).Guarded (OfCall fun i _ => OnTime i) (initial start) events) :
    (machine py collation).Guarded (OfCall (Fenced py collation)) (initial start) events := by
  refine hmarks.imp (P := Orderly py collation) (fun s e hs he => hs.step he)
    (fun s e hs he => hs.fenced he) ⟨?_, ?_⟩
  · intro i p hp
    cases hp
  · constructor
    · intro i claim hclaim
      cases hclaim
    · intro i j claim claim' hclaim
      cases hclaim

/-- Where marks are fenced, rows leave their leases by the runs that have claimed them. -/
theorem endsOwn_of_fenced {i : ι} {x : PublisherChoice}
    (h : OfCall (Fenced py collation) s (.step i x)) :
    EndsOwn i s.shared ((machine py collation).step s (.step i x)).2.shared := by
  have hsame : ∀ {id row row'}, s.shared.outbox.rows.get? id = some row → row.status = .leased →
      row'.status ≠ .leased → s.shared.outbox.rows.get? id ≠ some row' := by
    intro id row row' hget hleased hnot hget'
    rw [hget, Option.some.injEq] at hget'
    exact hnot (hget' ▸ hleased)
  refine Pool.shared_step (P := EndsOwn i s.shared) i x ?_ ?_
  · intro id row row' hget hget' hleased hnot
    exact absurd hget' (hsame hget hleased hnot)
  · intro c next hrun id row row' hget hget' hleased hnot
    have hother := hsame hget hleased hnot
    cases c with
    | clock | publish => exact absurd hget' hother
    | claimContextOutbox scope workerId now leaseSeconds =>
        rcases hexec : exec py collation i x (.claimContextOutbox scope workerId now
          leaseSeconds) s.shared with ⟨r, t⟩
        rw [hexec] at hget'
        obtain ⟨rfl, -⟩ | ⟨outboxId, row₁, row₂, hclaims, -⟩ :=
          exec_claimContextOutbox py collation hexec
        · exact absurd hget' hother
        · rw [hclaims.rows, Dict.get?_set] at hget'
          split at hget'
          · exact absurd (Option.some.inj hget' ▸ hclaims.status) hnot
          · exact absurd hget' hother
    | markContextOutbox scope outboxId workerId now isPublished errorCode nextRetryAt =>
        have hfenced := h _ next hrun scope outboxId workerId now isPublished errorCode
          nextRetryAt rfl
        rcases hexec : exec py collation i x (.markContextOutbox scope outboxId workerId now
          isPublished errorCode nextRetryAt) s.shared with ⟨r, t⟩
        rw [hexec] at hget' hfenced
        obtain rfl | ⟨row₁, row₂, hmarks⟩ := exec_markContextOutbox py collation hexec
        · exact absurd hget' hother
        · obtain ⟨claim, stored, hclaim, hid, hstored, hattempt, hlive⟩ := hfenced
            fun hout => hother (hout ▸ hget')
          rw [hmarks.rows, Dict.get?_set] at hget'
          split at hget'
          next heq =>
            subst heq
            rw [hid, hget] at hstored
            obtain rfl := Option.some.inj hstored
            exact ⟨claim, hclaim, hid, hattempt, hlive⟩
          next => exact absurd hget' hother

end Pools

/-! ## Two runs of one worker id -/

def publisherOf (workerId : String) (h : isIdentifier 256 workerId = true := by decide) :
    ContextOutboxPublisherWorker × TenantScope :=
  (⟨workerId, 1, 30, h, by decide, by decide⟩, acme)

/-- An event is enqueued, and two runs of the worker `w` start. -/
def startBoth : List (Event Bool (ContextOutboxPublisherWorker × TenantScope) PublisherChoice
    PublisherCommand) :=
  [.other (.recordEvent "acme" "e1" .observationProcessing),
    .other (.enqueueContextOutbox acme "o1" "e1" "k1" (String.ofList (List.replicate 64 '0'))
      (some newYear) 3),
    .start false (publisherOf "w"), .start true (publisherOf "w")]

/-- The first run claims the row, publishes and marks it within its second. -/
def publishInTime : List (Event Bool (ContextOutboxPublisherWorker × TenantScope) PublisherChoice
    PublisherCommand) :=
  startBoth ++ List.replicate 4 (.step false {})

/-- The second one claims the row while the first one still publishes. -/
def overtake : List (Event Bool (ContextOutboxPublisherWorker × TenantScope) PublisherChoice
    PublisherCommand) :=
  startBoth ++ [.step false {}, .step false {}, .other (.tick (newYearAt 1000000)),
    .step true {}, .step true {}, .step false {}]

omit [DecidableEq ι] in
theorem onTime_of_live {i : ι} {c : PublisherCall} {s : Publishing ι}
    (h : (s.claims i).all (fun claim => claim.isLiveAt s.time.instant) = true) : OnTime i c s := by
  intro _ _ _ _ _ _ _ _ claim hclaim hover
  rw [hclaim, Option.all_some] at h
  exact absurd (h.symm.trans hover) (by decide)

theorem run_marks_fenced_publishInTime :
    (machine (.ascii []) codePoints).Guarded (OfCall (Fenced (.ascii []) codePoints))
      (initial newYear) publishInTime := by
  refine run_marks_fenced (.ascii []) codePoints newYear ⟨trivial, trivial, trivial, trivial, ?_⟩
  refine ⟨fun c next _ => onTime_of_live ?_, fun c next _ => onTime_of_live ?_,
    fun c next _ => onTime_of_live ?_, fun c next _ => onTime_of_live ?_, trivial⟩
  all_goals decide +kernel

/-- The row of the second claim is marked by the first run, whose lease has ended. -/
theorem overtake_not_fenced : ¬∀ events,
    (machine (.ascii []) codePoints).Guarded (OfCall (Fenced (.ascii []) codePoints))
      (initial newYear : Pool PublisherCall PublisherCall.Answer Raise
        (Option ContextPublicationResult) Bool (Publishing Bool)) events := by
  intro h
  have hends := endsOwn_of_fenced (h (overtake ++ [.step false {}])).at
  let before : Publishing Bool :=
    ((machine (.ascii []) codePoints).final (initial newYear) overtake).shared
  have hleased : (before.outbox.rows.get? ("acme", "o1")).map (fun row =>
      (row.status, row.attemptCount)) = some (.leased, 2) := by decide +kernel
  have hclaimed : (before.claims false).map (fun claim => claim.row.attemptCount) = some 1 := by
    decide +kernel
  have hpublished : ((((machine (.ascii []) codePoints).step
      ((machine (.ascii []) codePoints).final (initial newYear) overtake)
      (.step false {})).2.shared.outbox.rows.get? ("acme", "o1")).map (·.status)) =
        some .published := by decide +kernel
  obtain ⟨row, hget, hrow⟩ := Option.map_eq_some_iff.mp hleased
  obtain ⟨row', hget', hstatus⟩ := Option.map_eq_some_iff.mp hpublished
  obtain ⟨hstatus₁, hattempt₁⟩ := Prod.mk.inj hrow
  obtain ⟨claim, hclaim, -, hattempt, -⟩ := hends _ row row' hget hget' hstatus₁
    (by rw [hstatus]; decide)
  have hone : claim.row.attemptCount = 1 := by
    change before.claims false = some claim at hclaim
    rw [hclaim] at hclaimed
    exact Option.some.inj hclaimed
  omega

end Publishing
end EsanGbos.Observer
