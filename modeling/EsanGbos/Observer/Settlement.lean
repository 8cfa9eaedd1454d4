import EsanGbos.Observer.Transitions

/-!
# Rows that are never settled

A row of the outbox is settled once it is published, or dead with its letter. As long as a worker
holds it under a live lease, or an attempt is left to claim it for, it can still be settled. A row
whose last attempt was leased to a worker that died is stranded: a claim looks for an attempt that
is left and every other operation for a lease that is live.

## Main definitions

* `Outbox.Sound` — the invariant of the rows.
* `Outbox.Stranded` — nothing settles the row any more.
* `Outbox.run_settles_iff` — a row can still be settled exactly where it is not stranded.
-/
namespace EsanGbos.Observer
open Lib

/-- Nothing happens to a row any more. -/
def OutboxStatus.isFinal : OutboxStatus → Bool
  | published | deadLetter => true
  | queued | leased | retryWait => false

namespace Outbox

/-! ## The invariant -/

/-- A row that the operations can have written. -/
structure IsWellFormed (py : Stdlib) (s : Outbox) (id : String × String) (row : OutboxRow) :
    Prop where
  site : isSiteId id.1 = true
  name : isIdentifier 256 id.2 = true
  visible : s.isVisible id.1 row = true
  attempts : 0 ≤ row.attemptCount ∧ row.attemptCount ≤ row.maxAttempts ∧ row.maxAttempts ≤ 100
  waiting : row.status = .queued ∨ row.status = .retryWait → row.attemptCount < row.maxAttempts
  lease_iff : row.lease.isSome = true ↔ row.status = .leased
  generation : 0 ≤ row.leaseGeneration
  held : ∀ lease, row.lease = some lease → 1 ≤ row.attemptCount ∧
    (isIdentifier 256 lease.owner = true ∨ isSafeText lease.owner = true ∧ 1 ≤ row.leaseGeneration)
  buried : row.status = .deadLetter →
    (s.deadLetters.get? (id.1, deadLetterIdOf py id.1 id.2)).isSome = true

def Sound (py : Stdlib) (s : Outbox) : Prop :=
  ∀ id row, s.rows.get? id = some row → IsWellFormed py s id row

theorem sound_empty (py : Stdlib) : Sound py {} := fun id row h => by cases h

section Invariant
variable {py : Stdlib} {s s' : Outbox} {id : String × String} {row row' : OutboxRow}

theorem Grows.visible (h : Grows s s') (hvisible : s.isVisible id.1 row = true) :
    s'.isVisible id.1 row = true := by
  rw [isVisible, decide_eq_true_eq] at hvisible ⊢
  exact h.events _ _ hvisible

theorem IsWellFormed.grows (h : IsWellFormed py s id row) (hgrows : Grows s s') :
    IsWellFormed py s' id row :=
  { h with
    visible := hgrows.visible h.visible
    buried := fun hdead => hgrows.deadLetters _ (h.buried hdead) }

theorem IsWellFormed.lease_none (h : IsWellFormed py s id row) (hstatus : row.status ≠ .leased) :
    row.lease = none := by
  cases hlease : row.lease with
  | none => rfl
  | some lease => exact absurd (h.lease_iff.mp (by rw [hlease]; rfl)) hstatus

/-- A transition writes a row of its kind. -/
theorem IsWellFormed.transition (h : IsWellFormed py s id row) {now : Datetime}
    (htransition : Transition now id.2 row row')
    (hletter : row'.status = .deadLetter →
      (s.deadLetters.get? (id.1, deadLetterIdOf py id.1 id.2)).isSome = true) :
    IsWellFormed py s id row' := by
  obtain ⟨hlow, hhigh, hmax⟩ := h.attempts
  cases htransition with
  | lease hattempts _ hworker _ =>
      refine ⟨h.site, h.name, h.visible, ⟨?_, hattempts, hmax⟩, fun hw => ?_, by simp [leased],
        h.generation, fun l hl => ?_, hletter⟩
      · change 0 ≤ row.attemptCount + 1
        omega
      · rcases hw with hw | hw <;> cases hw
      · obtain rfl := Option.some.inj hl
        exact ⟨by change 1 ≤ row.attemptCount + 1; omega, .inl hworker⟩
  | fence hattempts _ hworker _ =>
      have hgeneration := h.generation
      refine ⟨h.site, h.name, h.visible, ⟨?_, hattempts, hmax⟩, fun hw => ?_,
        by simp [fenced, leased], ?_, fun l hl => ?_, hletter⟩
      · change 0 ≤ row.attemptCount + 1
        omega
      · rcases hw with hw | hw <;> cases hw
      · change 0 ≤ row.leaseGeneration + 1
        omega
      · obtain rfl := Option.some.inj hl
        refine ⟨by change 1 ≤ row.attemptCount + 1; omega, .inr ⟨hworker, ?_⟩⟩
        change 1 ≤ row.leaseGeneration + 1
        omega
  | extend hlive _ =>
      refine ⟨h.site, h.name, h.visible, h.attempts, h.waiting, ?_, h.generation, fun l hl => ?_,
        h.buried⟩
      · rw [← h.lease_iff, Option.isSome_map]
      · obtain ⟨lease, hlease, rfl⟩ := Option.map_eq_some_iff.mp hl
        exact h.held lease hlease
  | publish _ _ =>
      refine ⟨h.site, h.name, h.visible, h.attempts, fun hw => ?_, by simp [published],
        h.generation, fun l hl => (by cases hl), hletter⟩
      rcases hw with hw | hw <;> cases hw
  | fail _ _ =>
      refine ⟨h.site, h.name, h.visible, h.attempts, fun hw => ?_, ?_, h.generation,
        fun l hl => (by cases hl), hletter⟩
      · by_cases hattempts : row.maxAttempts ≤ row.attemptCount
        · simp [failed, hattempts] at hw
        · exact not_le.mp hattempts
      · by_cases hattempts : row.maxAttempts ≤ row.attemptCount <;> simp [failed, hattempts]

theorem Sound.step (hs : Sound py s) {c : Call} (hmove : Move py c s s') : Sound py s' := by
  intro id row hget
  cases hmove with
  | idle hgrows hrows =>
      rw [hrows] at hget
      exact (hs id row hget).grows hgrows
  | enqueue id' row' hgrows hsite hid _ hvisible hstatus hattempt hattempts hlease hgeneration
      hrows =>
      rw [hrows, Dict.get?_set] at hget
      split at hget
      next heq =>
        obtain rfl := Option.some.inj hget
        subst heq
        refine ⟨hsite, hid, hgrows.visible hvisible, ?_, fun _ => ?_, by simp [hlease, hstatus],
          by rw [hgeneration], fun l hl => (by rw [hlease] at hl; cases hl),
          fun hdead => (by rw [hstatus] at hdead; cases hdead)⟩
        · rw [hattempt]
          exact ⟨le_rfl, by omega, hattempts.2⟩
        · rw [hattempt]
          exact hattempts.1
      next => exact (hs id row hget).grows hgrows
  | update id' row₀ row' now hgrows _ hget' htransition hrows hletter =>
      rw [hrows, Dict.get?_set] at hget
      split at hget
      next heq =>
        obtain rfl := Option.some.inj hget
        subst heq
        exact ((hs id row₀ hget').grows hgrows).transition htransition hletter
      next => exact (hs id row hget).grows hgrows

theorem run_sound (py : Stdlib) (collation : Collation) (calls : List Call) :
    Sound py ((machine py collation).final {} calls) :=
  Machine.Reachable.invariant (fun s c hs => hs.step (perform_move py collation s c))
    ⟨calls, rfl⟩ (sound_empty py)

end Invariant

/-! ## Stranded rows -/

/-- A datetime from `t` on at which a lease can begin. -/
def HasRoom (t : Timestamptz) : Prop := ∃ d : Datetime, t ≤ d.instant ∧ ∃ e, plus d 1 = .ok e

/-- When the row may be taken next. -/
def dueAt (row : OutboxRow) : Timestamptz :=
  match row.lease with
  | some lease => lease.expiresAt
  | none => row.nextRetryAt

/-- The row is not final, nobody holds it from `now` on, and there is no attempt or no time left
to take it. -/
def Stranded (now : Timestamptz) (id : String × String) (row : OutboxRow) : Prop :=
  row.status.isFinal = false ∧ ¬(isLive now row = true ∧ isNameable id.2 row = true) ∧
    (row.attemptCount < row.maxAttempts → ¬HasRoom (max now (dueAt row)))

section Stranding
variable {py : Stdlib} {s s' : Outbox} {id : String × String} {row row' : OutboxRow}

/-- A row is due once its time has come. -/
theorem isDue_iff (h : IsWellFormed py s id row) (now : Timestamptz) :
    isDue now row = true ↔ row.status.isFinal = false ∧ dueAt row ≤ now := by
  cases hstatus : row.status with
  | queued | retryWait =>
      have hlease := h.lease_none (by rw [hstatus]; decide)
      simp [isDue, dueAt, hstatus, hlease, OutboxStatus.isFinal]
  | leased =>
      obtain ⟨lease, hlease⟩ := Option.isSome_iff_exists.mp (h.lease_iff.mpr hstatus)
      simp [isDue, dueAt, hstatus, hlease, OutboxStatus.isFinal]
  | published | deadLetter => simp [isDue, hstatus, OutboxStatus.isFinal]

theorem isLive_mono {now t : Timestamptz} (hle : now ≤ t) (h : isLive t row = true) :
    isLive now row = true := by
  rw [isLive, Bool.and_eq_true, Option.any_eq_true] at h ⊢
  obtain ⟨hstatus, lease, hlease, hp⟩ := h
  rw [decide_eq_true_eq] at hp
  exact ⟨hstatus, lease, hlease, by simpa using lt_of_le_of_lt hle hp⟩

/-- No transition from `now` on leads out of a stranded row. -/
theorem Stranded.no_transition {now : Timestamptz} (hstranded : Stranded now id row)
    (h : IsWellFormed py s id row) {t : Datetime} (ht : now ≤ t.instant) :
    ¬Transition t id.2 row row' := by
  obtain ⟨-, hheld, hroom⟩ := hstranded
  have hclaim : row.attemptCount < row.maxAttempts → isDue t.instant row = true →
      (∃ e, ∃ duration : ℤ, 0 < duration ∧ plus t duration = .ok e) → False := by
    rintro hattempts hdue ⟨e, duration, hpositive, hplus⟩
    refine hroom hattempts ⟨t, max_le ht ((isDue_iff h _).mp hdue).2, ?_⟩
    exact plus_ok_of_le hplus (by omega) (by omega)
  intro htransition
  cases htransition with
  | lease hattempts hdue _ hexpiry => exact hclaim hattempts hdue ⟨_, hexpiry⟩
  | fence hattempts hdue _ hexpiry => exact hclaim hattempts hdue ⟨_, hexpiry⟩
  | extend hlive hname => exact hheld ⟨isLive_mono ht hlive, hname⟩
  | publish hlive hname => exact hheld ⟨isLive_mono ht hlive, hname⟩
  | fail hlive hname => exact hheld ⟨isLive_mono ht hlive, hname⟩

theorem Stranded.step {now : Timestamptz} (hstranded : Stranded now id row) (hs : Sound py s)
    (hget : s.rows.get? id = some row) {c : Call} (hmove : Move py c s s')
    (hstamp : ∀ d, c.stamp = some d → now ≤ d.instant) : s'.rows.get? id = some row := by
  cases hmove with
  | idle _ hrows => rw [hrows, hget]
  | enqueue id' row' _ _ _ hfree _ _ _ _ _ _ hrows =>
      have hne : id ≠ id' := by
        rintro rfl
        cases hfree.symm.trans hget
      rw [hrows, Dict.get?_set_of_ne _ _ hne, hget]
  | update id' row₀ row' t _ hc hget' htransition hrows _ =>
      have hne : id ≠ id' := by
        rintro rfl
        obtain rfl := Option.some.inj (hget'.symm.trans hget)
        exact hstranded.no_transition (hs id row₀ hget) (hstamp t hc) htransition
      rw [hrows, Dict.get?_set_of_ne _ _ hne, hget]

/-- A stranded row stays as it is in every further run. -/
theorem run_stranded (collation : Collation) {now : Timestamptz}
    (hstranded : Stranded now id row) (hs : Sound py s) (hget : s.rows.get? id = some row)
    {calls : List Call} (hcalls : ∀ c ∈ calls, ∀ d, c.stamp = some d → now ≤ d.instant) :
    ((machine py collation).final s calls).rows.get? id = some row := by
  have hguarded : (machine py collation).Guarded
      (fun _ c => ∀ d, c.stamp = some d → now ≤ d.instant) s calls :=
    Machine.Guarded.of_forall (fun c hc _ => hcalls c hc) s
  have hrun := hguarded.invariant
    (P := fun s => Sound py s ∧ s.rows.get? id = some row) ?_ ⟨hs, hget⟩
  · exact hrun.2
  · rintro t c ⟨ht, hrow⟩ hstamp
    have hmove := perform_move py collation t c
    exact ⟨ht.step hmove, hstranded.step ht hrow hmove hstamp⟩

end Stranding

/-! ## Settling a row -/

/-- The row is published, or dead with its letter. -/
def Settled (py : Stdlib) (id : String × String) (s : Outbox) : Prop :=
  ∃ row, s.rows.get? id = some row ∧ (row.status = .published ∨ row.status = .deadLetter ∧
    ∃ letter, s.deadLetters.get? (id.1, deadLetterIdOf py id.1 id.2) = some letter)

section Settling
variable {py : Stdlib} {s : Outbox} {id : String × String} {row : OutboxRow}

theorem ascii_of_contains {l : List Char} {c : Char} (hl : (l.all fun c => c.toNat < 128) = true)
    (h : l.contains c = true) : c.toNat < 128 := by
  have hc := List.all_eq_true.mp hl c (List.contains_iff_mem.mp h)
  simpa using hc

/-- The token of a claim names its generation. -/
theorem generationOf_fenceToken (hhex : py.HexDigests) {scope : TenantScope} {a : FenceArguments}
    {generation : ℤ} (hgeneration : 1 ≤ generation) (htoken : a.fenceToken =
      fenceToken py scope.siteId a.outboxId a.workerId a.expectedAttempt generation) :
    generationOf py scope a = .ok generation := by
  obtain ⟨material, hmaterial⟩ : ∃ material, a.fenceToken =
      "v1".toList ++ ':' :: (Json.intText generation ++ ':' :: (py.sha256 material).toList) :=
    ⟨_, by rw [htoken, fenceToken, List.append_assoc]; rfl⟩
  have hdigest := hhex material
  simp only [isDigest, Bool.and_eq_true, decide_eq_true_eq, List.all_eq_true] at hdigest
  obtain ⟨hlength, hchars⟩ := hdigest
  have hint : ':' ∉ Json.intText generation := by
    intro hmem
    have hnumber := Json.isNumberChar_of_mem_intText hmem
    revert hnumber
    decide
  have hcolon : ':' ∉ (py.sha256 material).toList := by
    intro hmem
    have hchar := hchars _ hmem
    revert hchar
    decide
  have hsplit : a.fenceToken.splitOn ':' =
      ["v1".toList, Json.intText generation, (py.sha256 material).toList] := by
    rw [hmaterial, List.splitOn_append_cons_self_of_not_mem (by decide),
      List.splitOn_append_cons_self_of_not_mem hint, List.splitOn_eq_singleton hcolon]
  have hascii : (a.fenceToken.any fun c => 128 ≤ c.toNat) = false := by
    rw [List.any_eq_false, hmaterial]
    intro c hc
    have hnumber : isNumberChar c = true → c.toNat < 128 := by
      intro h
      rw [isNumberChar, Bool.or_eq_true] at h
      rcases h with h | h
      · rw [Char.isDigit, Bool.and_eq_true, decide_eq_true_eq, decide_eq_true_eq] at h
        exact lt_of_le_of_lt (UInt32.le_iff_toNat_le.mp h.2) (by decide)
      · exact ascii_of_contains (by decide) h
    simp only [List.mem_append, List.mem_cons] at hc
    rw [decide_eq_true_eq, not_le]
    rcases hc with hc | rfl | hc | rfl | hc
    · exact ascii_of_contains (by decide) (List.contains_iff_mem.mpr hc)
    · decide
    · exact hnumber (Json.isNumberChar_of_mem_intText hc)
    · decide
    · exact ascii_of_contains (by decide) (hchars c hc)
  rw [generationOf, hsplit]
  simp only [Json.readInt_intText]
  rw [if_neg, hascii, if_neg Bool.false_ne_true, if_neg (not_not.mpr htoken.symm)]
  rintro (h | h | h)
  · exact h rfl
  · omega
  · exact h hlength

theorem settled_published (collation : Collation) {c : Call} (row : OutboxRow) (now : Datetime)
    (hstep : ((machine py collation).step s c).2 =
      { s with rows := s.rows.set id (published row now) }) :
    Settled py id ((machine py collation).step s c).2 := by
  rw [hstep]
  exact ⟨published row now, Dict.get?_set_self _ _ _, .inl rfl⟩

/-- The owner of a live lease marks its row. -/
theorem settled_markContextOutbox (collation : Collation) (h : IsWellFormed py s id row)
    (hget : s.rows.get? id = some row) (scope : TenantScope) (hsite : scope.siteId = id.1)
    {workerId : String} (hworker : isIdentifier 256 workerId = true) {now : Datetime}
    (howned : isOwned workerId now.instant row = true) :
    Settled py id ((machine py collation).step s
      (.markContextOutbox scope id.2 workerId (some now) true none none)).2 := by
  have hvalid : validateMark id.2 workerId (some now) true none none = .ok (now, none) := by
    simp [validateMark, requireIdentifier, h.name, hworker, bind, Except.bind, pure, Except.pure]
  have hvisible := h.visible
  rw [← hsite] at hvisible
  apply settled_published collation row now
  have hkey : (scope.siteId, id.2) = id := by rw [hsite]
  have hrun := updateRow_eq (fun row => published row now)
    (.outboxConflict "outbox lease transition rejected") (hkey.symm ▸ hget) hvisible howned
  simp only [machine, perform, Proc.run_map, markContextOutbox, hvalid, Proc.run_lift_bind,
    Proc.run_atomically, hrun, hkey]

/-- The holder of a fenced claim publishes its row. -/
theorem settled_markPublished (hhex : py.HexDigests) (collation : Collation)
    (h : IsWellFormed py s id row) (hget : s.rows.get? id = some row) {lease : Lease}
    (hlease : row.lease = some lease) (howner : isSafeText lease.owner = true)
    (hgeneration : 1 ≤ row.leaseGeneration) (hname : isSafeText id.2 = true) {now : Datetime}
    (hlive : isLive now.instant row = true) :
    Settled py id ((machine py collation).step s
      (.markPublished ⟨id.1, .observationProcessing, h.site⟩ ⟨id.2, lease.owner, row.attemptCount,
        fenceToken py id.1 id.2 lease.owner row.attemptCount row.leaseGeneration, some now⟩)).2 := by
  have hattempt := (h.held lease hlease).1
  have hattempts := h.attempts
  set a : FenceArguments := ⟨id.2, lease.owner, row.attemptCount,
    fenceToken py id.1 id.2 lease.owner row.attemptCount row.leaseGeneration, some now⟩ with ha
  set scope : TenantScope := ⟨id.1, .observationProcessing, h.site⟩ with hscope
  have hvalid : validateTransition py scope a = .ok (now, row.leaseGeneration) := by
    have htoken : generationOf py scope a = .ok row.leaseGeneration :=
      generationOf_fenceToken hhex hgeneration rfl
    have hexpected : requireExpectedAttempt a.expectedAttempt = .ok () :=
      if_pos ⟨hattempt, by simp only [ha]; omega⟩
    have hoid : requireSafeText a.outboxId "outbox_id" = .ok () := if_pos hname
    have hwid : requireSafeText a.workerId "worker_id" = .ok () := if_pos howner
    rw [validateTransition, hoid, hwid, hexpected, htoken]
    rfl
  have hfenced : isFenced a row.leaseGeneration now.instant row = true := by
    rw [isLive, hlease, Bool.and_eq_true] at hlive
    simp [isFenced, isOwned, ha, hlease, hlive.1, (by simpa using hlive.2 : now.instant < lease.expiresAt)]
  apply settled_published collation row now
  have hgetRow : s.rows.get? (id.1, id.2) = some row := hget
  have hrun := updateRow_eq (fun row => published row now) leaseConflict hgetRow h.visible hfenced
  simp only [machine, perform, Proc.run_map, markPublished, hvalid, Proc.run_lift_bind]
  rw [Proc.run_bind, Proc.run_atomically, hrun]
  rfl

theorem candidate_isSome (collation : Collation) {now : Timestamptz}
    (hget : s.rows.get? id = some row) (hclaim : s.isClaimable id.1 now (id, row) = true) :
    ∃ e, s.candidate collation id.1 now = some e := by
  rw [← Option.isSome_iff_exists, Option.isSome_iff_ne_none, candidate, Ne,
    List.head?_eq_none_iff]
  intro hnil
  have hmem : (id, row) ∈ (s.rows.items.filter (s.isClaimable id.1 now)).insertionSort
      (claimBefore collation) := by
    rw [List.mem_insertionSort, List.mem_filter]
    exact ⟨Dict.mem_items.mpr hget, hclaim⟩
  rw [hnil] at hmem
  cases hmem

/-- What a claim writes, whether or not it can return the row. -/
theorem run_claim_snd {collation : Collation} {scope : TenantScope} {workerId : String}
    {now : Option Datetime} {duration : Timedelta} {now' expiry : Datetime}
    (hvalid : validateFencedClaim scope workerId now duration = .ok (now', expiry))
    (hcandidate : s.candidate collation scope.siteId now'.instant = some (id, row)) :
    ((claim py collation scope workerId now duration).run s).2 =
      { s with rows := s.rows.set id (fenced row workerId now' expiry) } := by
  rw [claim, hvalid, Proc.run_lift_bind]
  dsimp only
  rw [Proc.run_bind, Proc.run_atomically, Proc.run_get_bind]
  simp only [hcandidate, Proc.run_modify_bind, Proc.run_pure, Proc.run_lift_bind]
  split <;> rfl

/-- A row with an attempt left is taken up after finitely many claims at a time at which it is
due. -/
theorem exists_owned (collation : Collation) (hs : Sound py s) (hget : s.rows.get? id = some row)
    (hattempts : row.attemptCount < row.maxAttempts) {d e : Datetime} (hplus : plus d 1 = .ok e)
    (hdue : isDue d.instant row = true) (scope : TenantScope) (hsite : scope.siteId = id.1)
    (hscope : scope.processingPurpose = .observationProcessing) :
    ∃ n, ∃ row', ((machine py collation).final s
        (List.replicate n (.claim scope "w" (some d) 1))).rows.get? id = some row' ∧
      isOwned "w" d.instant row' = true := by
  have hvalid : validateFencedClaim scope "w" (some d) 1 = .ok (d, e) := by
    have hpurpose : requireObservationScope scope = .ok () := if_pos hscope
    have hworker : requireSafeText "w" "worker_id" = .ok () := if_pos (by decide)
    have hduration : requireDuration 1 = .ok () := if_pos (by decide)
    rw [validateFencedClaim, hpurpose, hworker, hduration]
    change (plus d 1 >>= fun expiry => pure (d, expiry)) = _
    rw [hplus]
    rfl
  have hlt : d.instant < e.instant := by
    have hinstant := plus_ok hplus
    omega
  refine Machine.exists_final_replicate
    (P := fun s => Sound py s ∧ s.rows.get? id = some row)
    (Q := fun s => ∃ row', s.rows.get? id = some row' ∧ isOwned "w" d.instant row' = true)
    (fun s => s.rows.items.countP (s.isClaimable id.1 d.instant)) _ ?_ ⟨hs, hget⟩
  rintro t ⟨ht, hrow⟩
  have hready : t.isClaimable id.1 d.instant (id, row) = true := by
    simp [isClaimable, (ht id row hrow).visible, hattempts, hdue]
  obtain ⟨⟨id', row'⟩, hcandidate⟩ := candidate_isSome collation hrow hready
  obtain ⟨hget', hready'⟩ := candidate_some hcandidate
  have hstep : ((machine py collation).step t (.claim scope "w" (some d) 1)).2 =
      { t with rows := t.rows.set id' (fenced row' "w" d e) } := by
    simp only [machine, perform, Proc.run_map]
    exact run_claim_snd hvalid (hsite.symm ▸ hcandidate)
  rw [hstep]
  by_cases hid : id' = id
  · left
    subst hid
    exact ⟨_, Dict.get?_set_self _ _ _, by simpa [isOwned, fenced, leased] using hlt⟩
  · right
    refine ⟨⟨?_, ?_⟩, ?_⟩
    · rw [← hstep]
      exact ht.step (perform_move py collation t (.claim scope "w" (some d) 1))
    · change (t.rows.set id' _).get? id = some row
      rw [Dict.get?_set_of_ne _ _ (Ne.symm hid), hrow]
    · -- The claim has taken a row that is not due any more.
      have hbusy : t.isClaimable id.1 d.instant (id', fenced row' "w" d e) = false := by
        simp [isClaimable, isDue, fenced, leased, hlt]
      have hcount := Dict.countP_items_set (v := fenced row' "w" d e) hget' hready' hbusy
      exact lt_of_lt_of_eq (Nat.lt_succ_self _) hcount.symm

/-- A call that settles the row, once somebody holds it who can name it. -/
theorem exists_settled_of_live (hhex : py.HexDigests) (collation : Collation)
    (h : IsWellFormed py s id row) (hget : s.rows.get? id = some row) {now : Datetime}
    (hlive : isLive now.instant row = true) (hname : isNameable id.2 row = true) :
    ∃ c : Call, c.stamp = some now ∧ Settled py id ((machine py collation).step s c).2 := by
  rw [isNameable, Option.any_eq_true] at hname
  obtain ⟨lease, hlease, hname⟩ := hname
  rw [Bool.or_eq_true] at hname
  by_cases howner : isIdentifier 256 lease.owner = true
  · have howned : isOwned lease.owner now.instant row = true := by
      rw [isLive, hlease, Bool.and_eq_true] at hlive
      rw [isOwned, hlease, Bool.and_eq_true]
      exact ⟨hlive.1, by simpa using hlive.2⟩
    exact ⟨_, rfl, settled_markContextOutbox collation h hget
      ⟨id.1, .observationProcessing, h.site⟩ rfl howner howned⟩
  · obtain ⟨hsafe, hgeneration⟩ := (h.held lease hlease).2.resolve_left howner
    exact ⟨_, rfl, settled_markPublished hhex collation h hget hlease hsafe hgeneration
      (hname.resolve_left howner) hlive⟩

/-- A row with an attempt left is taken up and published. -/
theorem exists_settled_of_attempt (collation : Collation) (hs : Sound py s)
    (hget : s.rows.get? id = some row) (hfinal : row.status.isFinal = false)
    (hattempts : row.attemptCount < row.maxAttempts) {now : Timestamptz}
    (hroom : HasRoom (max now (dueAt row))) :
    ∃ later : List Call, (∀ c ∈ later, ∀ d, c.stamp = some d → now ≤ d.instant) ∧
      Settled py id ((machine py collation).final s later) := by
  have h := hs id row hget
  obtain ⟨d, hd, e, hplus⟩ := hroom
  obtain ⟨hnow, hdue⟩ := max_le_iff.mp hd
  let scope : TenantScope := ⟨id.1, .observationProcessing, h.site⟩
  obtain ⟨n, row', hget', howned⟩ := exists_owned collation hs hget hattempts hplus
    ((isDue_iff h _).mpr ⟨hfinal, hdue⟩) scope rfl rfl
  have hs' : Sound py ((machine py collation).final s
      (List.replicate n (.claim scope "w" (some d) 1))) :=
    Machine.Reachable.invariant (fun s c hs => hs.step (perform_move py collation s c)) ⟨_, rfl⟩ hs
  refine ⟨List.replicate n (.claim scope "w" (some d) 1) ++
    [.markContextOutbox scope id.2 "w" (some d) true none none], ?_, ?_⟩
  · intro c hc t ht
    have hstamp : c.stamp = some d := by
      rcases List.mem_append.mp hc with hc | hc
      · rw [List.eq_of_mem_replicate hc]
        rfl
      · rw [List.mem_singleton.mp hc]
        rfl
    rw [hstamp] at ht
    exact Option.some.inj ht ▸ hnow
  · rw [Machine.final_append]
    exact settled_markContextOutbox collation (hs' id row' hget') hget' scope rfl
      (by decide) howned

end Settling

/-! ## Runs -/

/-- **A row can still be settled exactly where it is not stranded**, after any run of both
repositories and by calls from now on. It never has more attempts than it may. -/
theorem run_settles_iff (py : Stdlib) (hhex : py.HexDigests) (collation : Collation)
    {calls : List Call} {id : String × String} {row : OutboxRow}
    (hget : ((machine py collation).final {} calls).rows.get? id = some row) (now : Datetime) :
    row.attemptCount ≤ row.maxAttempts ∧
    ((∃ later : List Call, (∀ c ∈ later, ∀ d, c.stamp = some d → now.instant ≤ d.instant) ∧
        Settled py id ((machine py collation).final ((machine py collation).final {} calls)
          later)) ↔
      ¬Stranded now.instant id row) := by
  have hs := run_sound py collation calls
  have h := hs id row hget
  refine ⟨h.attempts.2.1, ?_, ?_⟩
  · rintro ⟨later, hlater, row', hget', hdone⟩ hstranded
    obtain rfl := Option.some.inj
      (hget'.symm.trans (run_stranded collation hstranded hs hget hlater))
    have hfinal := hstranded.1
    rcases hdone with hstatus | ⟨hstatus, -⟩
    all_goals
      rw [hstatus] at hfinal
      cases hfinal
  · intro hstranded
    by_cases hfinal : row.status.isFinal = true
    · refine ⟨[], fun c hc => absurd hc List.not_mem_nil, row, hget, ?_⟩
      cases hstatus : row.status with
      | published => exact .inl rfl
      | deadLetter => exact .inr ⟨rfl, Option.isSome_iff_exists.mp (h.buried hstatus)⟩
      | queued | leased | retryWait =>
          rw [hstatus] at hfinal
          cases hfinal
    · rw [Bool.not_eq_true] at hfinal
      by_cases hheld : isLive now.instant row = true ∧ isNameable id.2 row = true
      · obtain ⟨c, hstamp, hsettled⟩ :=
          exists_settled_of_live hhex collation h hget hheld.1 hheld.2
        refine ⟨[c], ?_, hsettled⟩
        intro c' hc' d hd
        rw [List.mem_singleton.mp hc', hstamp] at hd
        exact Option.some.inj hd ▸ le_rfl
      · have hroom : row.attemptCount < row.maxAttempts ∧
            HasRoom (max now.instant (dueAt row)) := by
          by_contra hnone
          exact hstranded ⟨hfinal, hheld, fun hattempts hroom => hnone ⟨hattempts, hroom⟩⟩
        exact exists_settled_of_attempt collation hs hget hfinal hroom.1 hroom.2

/-! ## A worker that dies -/

def payload : String := String.ofList (List.replicate 64 '0')

/-- An event is recorded, and enqueued for publication. -/
def publishLetter (maxAttempts : ℤ) : List Call :=
  [.recordEvent "acme" "e1" .observationProcessing,
    .enqueueContextOutbox acme "o1" "e1" "k1" payload (some newYear) maxAttempts]

/-- It is leased for a second, and the worker is not heard of again. -/
def abandonPublication (maxAttempts : ℤ) : List Call :=
  publishLetter maxAttempts ++ [.claimContextOutbox acme "w" (some newYear) 1]

/-- Its row then. -/
def abandonedRow (maxAttempts : ℤ) : OutboxRow :=
  leased (newRow "e1" "k1" payload newYear maxAttempts) "w" newYear (newYearAt 1000000)

/-- With a single attempt the row is stranded a second later. -/
theorem abandonPublication_stranded : ¬∀ (calls : List Call) (id : String × String) row,
    ((machine (.sample [] []) codePoints).final {} calls).rows.get? id = some row →
    ∃ later : List Call, (∀ c ∈ later, ∀ d, c.stamp = some d →
        (newYearAt 1000000).instant ≤ d.instant) ∧
      Settled (.sample [] []) id ((machine (.sample [] []) codePoints).final
        ((machine (.sample [] []) codePoints).final {} calls) later) := by
  intro h
  have hget : ((machine (.sample [] []) codePoints).final {} (abandonPublication 1)).rows.get?
      ("acme", "o1") = some (abandonedRow 1) := by decide +kernel
  obtain ⟨later, hlater, row, hrow, hdone⟩ := h _ _ _ hget
  have hs := run_sound (.sample [] []) codePoints (abandonPublication 1)
  have hstranded : Stranded (newYearAt 1000000).instant ("acme", "o1") (abandonedRow 1) :=
    ⟨rfl, by decide, fun hlt => absurd hlt (by decide)⟩
  rw [run_stranded codePoints hstranded hs hget hlater] at hrow
  obtain rfl := Option.some.inj hrow
  revert hdone
  simp [abandonedRow, leased]

/-- With a second attempt it is not. -/
theorem run_settles_iff_abandonPublication :
    ∃ later : List Call, (∀ c ∈ later, ∀ d, c.stamp = some d →
        (newYearAt 1000000).instant ≤ d.instant) ∧
      Settled (.sample [] []) ("acme", "o1") ((machine (.sample [] []) codePoints).final
        ((machine (.sample [] []) codePoints).final {} (abandonPublication 2)) later) := by
  have hget : ((machine (.sample [] []) codePoints).final {} (abandonPublication 2)).rows.get?
      ("acme", "o1") = some (abandonedRow 2) := by decide +kernel
  refine (run_settles_iff (.sample [] []) (Stdlib.sample_hexDigests [] (by simp)) codePoints hget
    (newYearAt 1000000)).2.mpr ?_
  rintro ⟨-, -, hroom⟩
  refine hroom (by decide) ⟨newYearAt 1000000, by decide, newYearAt 1000001, ?_⟩
  decide +kernel

end Outbox
end EsanGbos.Observer
