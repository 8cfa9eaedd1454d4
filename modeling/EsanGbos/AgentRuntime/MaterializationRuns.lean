import EsanGbos.Lib.Lease
import EsanGbos.AgentRuntime.MaterializationMoves

/-!
# Runs of the outbox

Whatever the clocks of the workers say, every materialization is leased work: its attempts are
handed out one after the other, only the last holder settles them, and what was completed stays
completed with one receipt.

## Main definitions

* `observe`, `historyOf` — what the answers of a run say of one materialization.
* `Shows` — the phase a row is in.

## Main results

* `run_leases` — the history of every run is one of leased work.
* `run_integrityError_iff` — the table refuses nothing but a heartbeat that goes back in time.
-/
namespace EsanGbos.AgentRuntime.Materialization
open Lib

/-! ## Histories -/

def keyOf (py : Stdlib) (bundle : Bundle) : String × String :=
  (bundle.siteId, materializationIdOf py bundle.siteId bundle.proposalId)

abbrev Seen := Call × Except MaterializationError Answer

abbrev Event := Lease.Event String FrappeDraftReceipt

abbrev Phase := Lease.Phase String FrappeDraftReceipt

/-- What a call and its answer say of a materialization. -/
def observe (py : Stdlib) (key : String × String) : Seen → Option Event
  | (.enqueue bundle _, .ok _) => if keyOf py bundle = key then some .added else none
  | (.claim .., .ok (.claimed (some claim))) =>
      if (claim.siteId, claim.materializationId) = key then
        some (.taken claim.attempt claim.leaseOwner) else none
  | (.heartbeat key' workerId attempt _ _, .ok _) =>
      if key' = key then some (.renewed attempt workerId) else none
  | (.acknowledge key' workerId attempt _ _, .ok (.acknowledged receipt)) =>
      if key' = key then some (.completed attempt workerId receipt) else none
  | (.fail key' workerId attempt _ _ _, .ok _) =>
      if key' = key then some (.failed attempt workerId) else none
  | _ => none

theorem observe_error {py : Stdlib} {key : String × String} (c : Call) (e : MaterializationError) :
    observe py key (c, .error e) = none := by
  cases c <;> rfl

/-- What a run says of a materialization. -/
def historyOf (py : Stdlib) (collation : Collation) (key : String × String) (calls : List Call) :
    List Event :=
  ((machine py collation).trace {} calls).filterMap (observe py key)

/-! ## Phases -/

/-- The phase of a row. -/
inductive Shows : Option OutboxRow → Phase → Prop
  | absent : Shows none .absent
  | waiting {row : OutboxRow} {n : ℕ} (hstatus : row.status = .pending ∨ row.status = .retry)
      (hattempt : row.attempt = n) : Shows (some row) (.waiting n)
  | held {row : OutboxRow} {n : ℕ} {workerId : String} (hstatus : row.status = .running)
      (hattempt : row.attempt = n) (howner : row.leaseOwner = some workerId) :
      Shows (some row) (.held n workerId)
  | done {row : OutboxRow} {receipt : FrappeDraftReceipt} (hstatus : row.status = .succeeded)
      (hreceipt : storedReceipt row = .ok receipt) : Shows (some row) (.done receipt)
  | dead {row : OutboxRow} (hstatus : row.status = .deadLetter) : Shows (some row) .dead

theorem newReceipt_eq_ok (receipt : FrappeDraftReceipt) :
    newReceipt receipt.doctype receipt.name receipt.revision receipt.requestId
      receipt.requestDigest = .ok receipt := by
  obtain ⟨hdoctype, hname, hrequest⟩ : (receipt.doctype ≠ "" ∧ receipt.doctype.length ≤ 256) ∧
      (receipt.name ≠ "" ∧ receipt.name.length ≤ 256) ∧
      (receipt.requestId ≠ "" ∧ receipt.requestId.length ≤ 256) := by
    simpa using receipt.texts_ok
  rw [newReceipt, dif_pos hdoctype, dif_pos hname, dif_pos hrequest, dif_pos receipt.revision_nonneg,
    dif_pos receipt.digest_ok]

/-- A completed row holds the receipt it was completed with. -/
theorem storedReceipt_setSucceeded (receipt : FrappeDraftReceipt) (now : Timestamptz)
    (row : OutboxRow) : storedReceipt (setSucceeded receipt now row) = .ok receipt := by
  simp only [storedReceipt, setSucceeded, Option.getD_some, newReceipt_eq_ok]
  rfl

section Step
variable {py : Stdlib} {collation : Collation} {s t : Store} {key key' : String × String}
  {row : OutboxRow} {p : Phase}

/-- A step of the protocol, or none. -/
def Follows (e : Option Event) (p : Phase) (row? : Option OutboxRow) : Prop :=
  ∃ q, Shows row? q ∧ (Lease.Step 5 p e q ∨ e = none ∧ q = p)

theorem Follows.stay {row? : Option OutboxRow} (h : Shows row? p) : Follows none p row? :=
  ⟨p, h, .inr ⟨rfl, rfl⟩⟩

/-- The phase of a row that is held. -/
theorem Shows.of_held {workerId : String} {attempt : ℤ} {now : Timestamptz}
    (h : Shows (s.outbox.get? key) p) (hheld : s.held? key workerId attempt now = some row) :
    ∃ n : ℕ, p = .held n workerId ∧ (n : ℤ) = attempt := by
  obtain ⟨hget, hholds⟩ := held?_eq_some.mp hheld
  obtain ⟨hstatus, howner, hattempt, -⟩ := isHeld_iff.mp hholds
  rw [hget] at h
  cases h with
  | waiting hstatus' => rcases hstatus' with h | h <;> rw [hstatus] at h <;> cases h
  | @held _ n workerId' _ hattempt' howner' =>
      obtain rfl := Option.some.inj (howner.symm.trans howner')
      exact ⟨n, rfl, hattempt'.symm.trans hattempt⟩
  | done hstatus' | dead hstatus' => rw [hstatus] at hstatus'; cases hstatus'

/-- What an operation on another row leaves alone. -/
theorem Shows.put_of_ne (h : Shows (s.outbox.get? key) p) (hne : key' ≠ key) (row : OutboxRow) :
    Shows ((s.put key' row).outbox.get? key) p := by
  rw [Store.outbox_put, Dict.get?_set_of_ne _ _ hne.symm]
  exact h

/-! ## Steps -/

/-- An operation of which nothing is seen. -/
theorem follows_idle (h : Shows (s.outbox.get? key) p) {c : Call}
    {answer : Except MaterializationError Answer} (hsilent : observe py key (c, answer) = none)
    (hrow : t.outbox.get? key = s.outbox.get? key) :
    Follows (observe py key (c, answer)) p (t.outbox.get? key) := by
  rw [hsilent, hrow]
  exact .stay h

theorem follows_error (h : Shows (s.outbox.get? key) p) (c : Call) (e : MaterializationError) :
    Follows (observe py key (c, .error e)) p (s.outbox.get? key) :=
  follows_idle h (observe_error c e) rfl

/-- A row after the first statement of a claim: it stays as it was, or its last lease has lapsed. -/
theorem shows_swept (hs : s.Sound) (h : Shows (s.outbox.get? key) p) (siteId : String)
    (now : Timestamptz) :
    (s.swept siteId now).outbox.get? key = s.outbox.get? key ∨
      Shows ((s.swept siteId now).outbox.get? key) .dead ∧ Lease.Step 5 p none .dead := by
  cases hget : s.outbox.get? key with
  | none =>
      left
      rw [Store.swept, Dict.get?_updateIf, hget]
      rfl
  | some row =>
      rw [Store.get?_swept hget]
      by_cases hexhausted : isExhausted siteId now (key, row) = true
      · right
        rw [if_pos hexhausted]
        refine ⟨.dead rfl, ?_⟩
        simp only [isExhausted, Bool.and_eq_true, decide_eq_true_eq] at hexhausted
        obtain ⟨⟨⟨-, hrunning⟩, -⟩, hspent⟩ := hexhausted
        rw [hget] at h
        cases h with
        | waiting hstatus => rcases hstatus with h | h <;> rw [hrunning] at h <;> cases h
        | held hstatus hattempt howner =>
            refine .lapse _ ?_
            have hmaximum := (hs _ _ hget).maximum
            omega
        | done hstatus | dead hstatus => rw [hrunning] at hstatus; cases hstatus
      · left
        rw [if_neg hexhausted]

theorem follows_enqueue (h : Shows (s.outbox.get? key) p) (bundle : Bundle) (now : Timestamptz)
    {c : Call} (hc : c = .enqueue bundle now) :
    Follows (observe py key (c, ((perform py collation c).run s).1)) p
      (((perform py collation c).run s).2.outbox.get? key) := by
  subst hc
  rw [perform, Proc.run_map]
  rcases run_enqueue py bundle now s with ⟨e, -, hrun⟩ | ⟨t, hrun, -, -, hnone, houtbox⟩
  · rw [hrun]
    exact follows_error h _ e
  · rw [hrun]
    by_cases hkey : keyOf py bundle = key
    · subst hkey
      change s.outbox.get? (keyOf py bundle) = none at hnone
      rw [hnone] at h
      cases h
      have hget : t.outbox.get? (keyOf py bundle) =
          some (pendingRow bundle.proposalId bundle.proposal.taskId bundle.taskAttempt now) := by
        rw [houtbox]
        exact Dict.get?_set_self _ _ _
      refine ⟨.waiting 0, ?_, .inl ?_⟩
      · change Shows (t.outbox.get? _) _
        rw [hget]
        exact .waiting (.inl rfl) rfl
      · simp only [observe, Except.map, if_true]
        exact .add
    · refine follows_idle h (if_neg hkey) ?_
      rw [houtbox]
      exact Dict.get?_set_of_ne _ _ (Ne.symm hkey)

theorem follows_claim (hs : s.Sound) (h : Shows (s.outbox.get? key) p)
    (locked : String × String → Bool) (siteId workerId : String) (now : Option Datetime)
    (leaseDuration : Timedelta) {c : Call} (hc : c = .claim locked siteId workerId now leaseDuration) :
    Follows (observe py key (c, ((perform py collation c).run s).1)) p
      (((perform py collation c).run s).2.outbox.get? key) := by
  subst hc
  rw [perform, Proc.run_map]
  rcases @run_claim s collation locked siteId workerId hs now leaseDuration with
    ⟨⟨e, hrun⟩, -⟩ | ⟨hrun, -⟩ | ⟨now', expiry, -, -, -, hrun⟩
  · rw [hrun]
    exact follows_error h _ _
  · rw [hrun]
    exact follows_error h _ _
  · rw [hrun, takeCandidate]
    have hswept := shows_swept hs h siteId now'.instant
    cases hcandidate : candidate collation locked siteId now'.instant
        (s.swept siteId now'.instant).outbox with
    | none =>
        rcases hswept with hsame | ⟨hdead, hlapse⟩
        · exact follows_idle h rfl hsame
        · exact ⟨.dead, hdead, .inl hlapse⟩
    | some e =>
        obtain ⟨hget, hdue, -⟩ := candidate_spec hcandidate
        dsimp only
        cases hclaim : claimOf (s.swept siteId now'.instant) e.1
            (setClaimed workerId now'.instant expiry.instant e.2) workerId expiry.instant with
        | error err => exact follows_error h _ err
        | ok claim =>
            obtain ⟨hkey, -, hattempt, -, howner, -⟩ := claimOf_spec hclaim
            by_cases heq : e.1 = key
            · -- the row is due, so its last lease has not lapsed
              obtain ⟨-, hleft, hstatus⟩ := isDue_iff.mp hdue
              rw [heq] at hget
              have hsame : s.outbox.get? key = some e.2 := by
                rcases hswept with hsame | ⟨hdead, -⟩
                · rw [← hsame, hget]
                · rw [hget] at hdead
                  cases hdead with
                  | dead hdead => simp [hdead] at hstatus
              have hmaximum := (hs _ _ hsame).maximum
              have hseen : observe py key (.claim locked siteId workerId now leaseDuration,
                  .ok (.claimed (some claim))) = some (.taken (e.2.attempt + 1) workerId) := by
                rw [observe, if_pos (hkey.trans heq), hattempt, howner]
                rfl
              have hrow : ((s.swept siteId now'.instant).put e.1
                  (setClaimed workerId now'.instant expiry.instant e.2)).outbox.get? key =
                    some (setClaimed workerId now'.instant expiry.instant e.2) := by
                rw [Store.outbox_put, heq, Dict.get?_set_self]
              rw [hsame] at h
              cases h with
              | @waiting _ n _ hn =>
                  refine ⟨.held (n + 1) workerId, ?_, .inl ?_⟩
                  · refine hrow ▸ .held rfl ?_ rfl
                    simp [setClaimed, hn]
                  · exact (hseen.trans (by rw [hn])) ▸ .take workerId (by omega)
              | @held _ n _ _ hn _ =>
                  refine ⟨.held (n + 1) workerId, ?_, .inl ?_⟩
                  · refine hrow ▸ .held rfl ?_ rfl
                    simp [setClaimed, hn]
                  · exact (hseen.trans (by rw [hn])) ▸ .retake workerId (by omega)
              | done hdone | dead hdone => simp [hdone] at hstatus
            · have hseen : observe py key (.claim locked siteId workerId now leaseDuration,
                  .ok (.claimed (some claim))) = none := if_neg (hkey.symm ▸ heq)
              rcases hswept with hsame | ⟨hdead, hlapse⟩
              · refine follows_idle h hseen ?_
                exact (Dict.get?_set_of_ne _ _ (Ne.symm heq)).trans hsame
              · refine ⟨.dead, hdead.put_of_ne heq _, .inl ?_⟩
                exact hseen ▸ hlapse

theorem follows_heartbeat (hs : s.Sound) (h : Shows (s.outbox.get? key) p) (workerId : String)
    (attempt : ℤ) (now : Option Datetime) (leaseDuration : Timedelta) {c : Call}
    (hc : c = .heartbeat key' workerId attempt now leaseDuration) :
    Follows (observe py key (c, ((perform py collation c).run s).1)) p
      (((perform py collation c).run s).2.outbox.get? key) := by
  subst hc
  rw [perform, Proc.run_map]
  rcases @run_heartbeat s key' workerId hs attempt now leaseDuration with
    ⟨-, e, -, hrun⟩ | ⟨now', expiry, row, ⟨-, -, -, hheld⟩, hrun⟩
  · rw [hrun]
    exact follows_error h _ e
  · have hseen : key' = key → observe py key (.heartbeat key' workerId attempt now leaseDuration,
        .ok .renewed) = some (.renewed attempt workerId) := fun hkey => if_pos hkey
    have hsilent : key' ≠ key → observe py key (.heartbeat key' workerId attempt now leaseDuration,
        .ok .renewed) = none := fun hkey => if_neg hkey
    by_cases hkey : key' = key
    · subst hkey
      obtain ⟨n, rfl, rfl⟩ := h.of_held hheld
      obtain ⟨hstatus, howner, hattempt, -⟩ := isHeld_iff.mp (held?_eq_some.mp hheld).2
      rw [hrun]
      split
      · split
        · refine ⟨.held n workerId, ?_, .inl ((hseen rfl).symm ▸ .renew n workerId)⟩
          rw [Store.outbox_put, Dict.get?_set_self]
          exact .held hstatus hattempt howner
        · exact follows_error h _ _
      · exact ⟨.held n workerId, h, .inl ((hseen rfl).symm ▸ .renew n workerId)⟩
    · rw [hrun]
      split
      · split
        · exact ⟨p, h.put_of_ne hkey _, .inr ⟨hsilent hkey, rfl⟩⟩
        · exact follows_error h _ _
      · exact ⟨p, h, .inr ⟨hsilent hkey, rfl⟩⟩

theorem follows_acknowledge (hs : s.Sound) (h : Shows (s.outbox.get? key) p) (workerId : String)
    (attempt : ℤ) (now : Option Datetime) (receipt : FrappeDraftReceipt) {c : Call}
    (hc : c = .acknowledge key' workerId attempt now receipt) :
    Follows (observe py key (c, ((perform py collation c).run s).1)) p
      (((perform py collation c).run s).2.outbox.get? key) := by
  subst hc
  rw [perform, Proc.run_map]
  rcases @run_acknowledge s key' workerId hs attempt now receipt with
    ⟨e, -, hrun⟩ | ⟨row, hget, hstatus, hstored, hrun⟩ | ⟨now', row, -, -, -, hheld, hrun⟩
  · rw [hrun]
    exact follows_error h _ e
  · rw [hrun]
    by_cases hkey : key' = key
    · subst hkey
      refine ⟨p, h, .inl ?_⟩
      rw [hget] at h
      cases h with
      | done _ hreceipt =>
          obtain rfl := Except.ok.inj (hstored.symm.trans hreceipt)
          simp only [observe, Except.map, if_true]
          exact .again attempt workerId receipt
      | waiting hstatus' => rcases hstatus' with h | h <;> rw [hstatus] at h <;> cases h
      | held hstatus' | dead hstatus' => rw [hstatus] at hstatus'; cases hstatus'
    · exact ⟨p, h, .inr ⟨if_neg hkey, rfl⟩⟩
  · rw [hrun]
    by_cases hkey : key' = key
    · subst hkey
      obtain ⟨n, rfl, rfl⟩ := h.of_held hheld
      refine ⟨.done receipt, ?_, .inl ?_⟩
      · rw [Store.outbox_put, Dict.get?_set_self]
        exact .done rfl (storedReceipt_setSucceeded receipt now'.instant row)
      · simp only [observe, Except.map, if_true]
        exact .complete n workerId receipt
    · exact ⟨p, h.put_of_ne hkey _, .inr ⟨if_neg hkey, rfl⟩⟩

theorem follows_fail (hs : s.Sound) (h : Shows (s.outbox.get? key) p) (workerId : String)
    (attempt : ℤ) (now retryAt : Option Datetime) (errorCode : String) {c : Call}
    (hc : c = .fail key' workerId attempt now retryAt errorCode) :
    Follows (observe py key (c, ((perform py collation c).run s).1)) p
      (((perform py collation c).run s).2.outbox.get? key) := by
  subst hc
  rw [perform, Proc.run_map]
  rcases @run_fail s key' workerId hs attempt now retryAt errorCode with
    ⟨e, -, hrun⟩ | ⟨now', retryAt', row, -, -, -, hheld, hrun⟩
  · rw [hrun]
    exact follows_error h _ e
  · rw [hrun]
    by_cases hkey : key' = key
    · subst hkey
      obtain ⟨n, rfl, hn⟩ := h.of_held hheld
      obtain ⟨hget, hholds⟩ := held?_eq_some.mp hheld
      obtain ⟨-, -, hattempt, -⟩ := isHeld_iff.mp hholds
      have hmaximum := (hs _ _ hget).maximum
      by_cases hspent : row.maxAttempts ≤ row.attempt
      · refine ⟨.dead, ?_, .inl ?_⟩
        · rw [Store.outbox_put, Dict.get?_set_self]
          exact .dead (by simp [setFailed, hspent])
        · simp only [observe, Except.map, if_true, ← hn]
          exact .bury workerId (by omega)
      · refine ⟨.waiting n, ?_, .inl ?_⟩
        · rw [Store.outbox_put, Dict.get?_set_self]
          exact .waiting (.inr (by simp [setFailed, hspent])) (hattempt.trans hn.symm)
        · simp only [observe, Except.map, if_true, ← hn]
          exact .retry workerId (by omega)
    · exact ⟨p, h.put_of_ne hkey _, .inr ⟨if_neg hkey, rfl⟩⟩

/-- Every call makes a step of the protocol for every materialization, or none. -/
theorem follows_step (hs : s.Sound) (h : Shows (s.outbox.get? key) p) (c : Call) :
    Follows (observe py key (c, ((machine py collation).step s c).1)) p
      (((machine py collation).step s c).2.outbox.get? key) := by
  cases c with
  | enqueue bundle now => exact @follows_enqueue py collation s key p h bundle now _ rfl
  | claim locked siteId workerId now leaseDuration =>
      exact follows_claim hs h locked siteId workerId now leaseDuration rfl
  | heartbeat key' workerId attempt now leaseDuration =>
      exact @follows_heartbeat py collation s key key' p hs h workerId attempt now leaseDuration _ rfl
  | acknowledge key' workerId attempt now receipt =>
      exact @follows_acknowledge py collation s key key' p hs h workerId attempt now receipt _ rfl
  | fail key' workerId attempt now retryAt errorCode =>
      exact @follows_fail py collation s key key' p hs h workerId attempt now retryAt errorCode _ rfl

end Step

/-! ## Runs -/

section Runs
variable {py : Stdlib} {collation : Collation} {s : Store}

/-- What a call leaves of the rows. -/
theorem Store.Sound.step (hs : s.Sound) (c : Call) : ((machine py collation).step s c).2.Sound := by
  have hput : ∀ {key row row'}, s.outbox.get? key = some row → Transition row row' →
      (s.put key row').Sound := fun hget h => hs.put (h.sound (hs _ _ hget)).2
  cases c with
  | enqueue bundle now =>
      change ((_ <$> enqueue py bundle now).run s).2.Sound
      rw [Proc.run_map]
      rcases run_enqueue py bundle now s with ⟨e, -, hrun⟩ | ⟨t, hrun, -, -, -, houtbox⟩
      · rw [hrun]
        exact hs
      · rw [hrun]
        intro key row hget
        rw [houtbox, Dict.get?_set] at hget
        split at hget
        · obtain rfl := Option.some.inj hget
          exact sound_pendingRow _ _ bundle.attempt_pos now
        · exact hs key row hget
  | claim locked siteId workerId now leaseDuration =>
      change ((_ <$> claimMaterialization collation locked siteId workerId now
        leaseDuration).run s).2.Sound
      rw [Proc.run_map]
      rcases @run_claim s collation locked siteId workerId hs now leaseDuration with
        ⟨⟨e, hrun⟩, -⟩ | ⟨hrun, -⟩ | ⟨now', expiry, -, -, -, hrun⟩
      · rw [hrun]
        exact hs
      · rw [hrun]
        exact hs
      · rw [hrun, takeCandidate]
        cases hcandidate : candidate collation locked siteId now'.instant
            (s.swept siteId now'.instant).outbox with
        | none => exact hs.swept
        | some e =>
            obtain ⟨hget, hdue, -⟩ := candidate_spec hcandidate
            dsimp only
            cases claimOf (s.swept siteId now'.instant) e.1
                (setClaimed workerId now'.instant expiry.instant e.2) workerId expiry.instant with
            | error err => exact hs
            | ok claim =>
                exact hs.swept.put ((transition_of_isDue hdue workerId expiry.instant).sound
                  (hs.swept _ _ hget)).2
  | heartbeat key workerId attempt now leaseDuration =>
      change ((_ <$> heartbeatMaterialization key workerId attempt now leaseDuration).run s).2.Sound
      rw [Proc.run_map]
      rcases @run_heartbeat s key workerId hs attempt now leaseDuration with
        ⟨-, e, -, hrun⟩ | ⟨now', expiry, row, ⟨-, -, -, hheld⟩, hrun⟩
      · rw [hrun]
        exact hs
      · obtain ⟨hget, hholds⟩ := held?_eq_some.mp hheld
        rw [hrun]
        split
        next hends =>
          split
          next hnow => exact hput hget (.renew _ _ (isHeld_iff.mp hholds).1 hends hnow)
          next => exact hs
        next => exact hs
  | acknowledge key workerId attempt now receipt =>
      change ((_ <$> acknowledgeMaterialization key workerId attempt now receipt).run s).2.Sound
      rw [Proc.run_map]
      rcases @run_acknowledge s key workerId hs attempt now receipt with
        ⟨e, -, hrun⟩ | ⟨row, -, -, -, hrun⟩ | ⟨now', row, -, -, -, hheld, hrun⟩
      · rw [hrun]
        exact hs
      · rw [hrun]
        exact hs
      · obtain ⟨hget, hholds⟩ := held?_eq_some.mp hheld
        rw [hrun]
        exact hput hget (.succeed receipt _ (isHeld_iff.mp hholds).1)
  | fail key workerId attempt now retryAt errorCode =>
      change ((_ <$> failMaterialization key workerId attempt now retryAt errorCode).run s).2.Sound
      rw [Proc.run_map]
      rcases @run_fail s key workerId hs attempt now retryAt errorCode with
        ⟨e, -, hrun⟩ | ⟨now', retryAt', row, -, -, hcode, hheld, hrun⟩
      · rw [hrun]
        exact hs
      · obtain ⟨hget, hholds⟩ := held?_eq_some.mp hheld
        rw [hrun]
        exact hput hget (.fail _ _ (isHeld_iff.mp hholds).1 hcode)

theorem sound_final (calls : List Call) : ((machine py collation).final {} calls).Sound :=
  Machine.Reachable.invariant (fun _ c hs => hs.step c) ⟨calls, rfl⟩ sound_empty

/-- Every run is one of leased work, for every materialization. -/
theorem runs_history (key : String × String) (calls : List Call) : ∃ p,
    Shows (((machine py collation).final {} calls).outbox.get? key) p ∧
      Lease.Runs 5 (historyOf py collation key calls) p := by
  suffices hall : ((machine py collation).final {} calls).Sound ∧ ∃ p,
      Shows (((machine py collation).final {} calls).outbox.get? key) p ∧
        Lease.Runs 5 (historyOf py collation key calls) p from hall.2
  refine Machine.trace_induction (M := machine py collation)
    (P := fun trace s => s.Sound ∧ ∃ p, Shows (s.outbox.get? key) p ∧
      Lease.Runs 5 (trace.filterMap (observe py key)) p) ?_ ?_ calls
  · exact ⟨sound_empty, .absent, .absent, .start⟩
  · rintro trace s c ⟨hs, p, hshows, hruns⟩
    refine ⟨hs.step c, ?_⟩
    obtain ⟨q, hq, hstep⟩ := @follows_step py collation s key p hs hshows c
    refine ⟨q, hq, ?_⟩
    rw [List.filterMap_append, List.filterMap_cons, List.filterMap_nil]
    rcases hstep with hstep | ⟨hnone, rfl⟩
    · have hruns := hruns.step hstep
      cases hseen : observe py key (c, ((machine py collation).step s c).1) with
      | none => rwa [hseen] at hruns
      | some e => rwa [hseen] at hruns
    · rw [hnone]
      simpa using hruns

/-! ## Leased work -/

/-- Whatever the workers and their clocks do, a materialization is leased work. Its attempts are
handed out one after the other, at most five of them; who renews a lease, completes a row or gives
it up holds the last attempt; and a row that was completed answers every completion with its one
receipt, for good. -/
theorem run_leases (py : Stdlib) (collation : Collation) (key : String × String)
    (calls : List Call) :
    (∃ n ≤ 5, (Lease.takes (historyOf py collation key calls)).map Prod.fst = Lease.attempts n) ∧
    (∀ before e after, historyOf py collation key calls = before ++ e :: after →
      (∀ attempt workerId, e = .renewed attempt workerId ∨ e = .failed attempt workerId →
        (Lease.takes before).getLast? = some (attempt, workerId) ∧ Lease.receipts before = []) ∧
      (∀ attempt workerId receipt, e = .completed attempt workerId receipt →
        (Lease.takes before).getLast? = some (attempt, workerId) ∧ Lease.receipts before = [] ∨
          receipt ∈ Lease.receipts before) ∧
      (Lease.receipts before ≠ [] → Lease.receipt? e ≠ none)) ∧
    ∀ receipt ∈ Lease.receipts (historyOf py collation key calls), ∀ more, ∃ row,
      ((machine py collation).final {} (calls ++ more)).outbox.get? key = some row ∧
        row.status = .succeeded ∧ storedReceipt row = .ok receipt := by
  obtain ⟨p, hshows, hruns⟩ := @runs_history py collation key calls
  refine ⟨?_, fun before e after hsplit => ?_, fun receipt hreceipt more => ?_⟩
  · obtain ⟨n, htakes, hn⟩ := hruns.takes_eq
    exact ⟨n, hn, htakes⟩
  · rw [hsplit] at hruns
    refine ⟨fun attempt workerId he => hruns.holder he, ?_, hruns.over⟩
    rintro attempt workerId receipt rfl
    exact hruns.completed
  · -- the history goes on, so the receipt is still in it
    obtain ⟨q, hq, hruns'⟩ := @runs_history py collation key (calls ++ more)
    have hstill : receipt ∈ Lease.receipts (historyOf py collation key (calls ++ more)) := by
      rw [historyOf, Machine.trace_append, List.filterMap_append, Lease.receipts_append]
      exact List.mem_append_left _ hreceipt
    rw [hruns'.eq_done hstill] at hq
    generalize hrow : ((machine py collation).final {} (calls ++ more)).outbox.get? key = row? at hq
    cases hq with
    | done hstatus hstored => exact ⟨_, rfl, hstatus, hstored⟩

/-! ## What the table refuses -/

/-- A heartbeat that asks for a longer lease at a time before the row's. -/
def GoesBack (s : Store) : Call → Prop
  | .heartbeat key workerId attempt now leaseDuration => ∃ now' expiry row,
      Beats s key workerId attempt now leaseDuration now' expiry row ∧
        endsBefore expiry row = true ∧ now'.instant < row.updatedAt
  | _ => False

theorem step_integrityError_iff (hs : s.Sound) (c : Call) :
    ((machine py collation).step s c).1 = .error .integrityError ↔ GoesBack s c := by
  have hfails : ∀ {α : Type} {f : α → Answer} {x : Op α} {e : MaterializationError} {t : Store},
      x.run s = (.error e, t) → ((f <$> x).run s).1 = .error e := by
    intro α f x e t hrun
    rw [Proc.run_map, hrun]
    rfl
  have hanswers : ∀ {α : Type} {f : α → Answer} {x : Op α} {a : α} {t : Store},
      x.run s = (.ok a, t) → ((f <$> x).run s).1 ≠ .error .integrityError := by
    intro α f x a t hrun
    rw [Proc.run_map, hrun]
    simp [Except.map]
  cases c with
  | enqueue bundle now =>
      refine iff_of_false ?_ id
      rcases run_enqueue py bundle now s with ⟨e, he, hrun⟩ | ⟨t, hrun, -⟩
      · exact fun h => he (Except.error.inj ((hfails hrun).symm.trans h))
      · exact hanswers hrun
  | claim locked siteId workerId now leaseDuration =>
      refine iff_of_false ?_ id
      rcases @run_claim s collation locked siteId workerId hs now leaseDuration with
        ⟨⟨e, hrun⟩, -⟩ | ⟨hrun, -⟩ | ⟨now', expiry, -, -, -, hrun⟩
      · exact fun h => by cases (hfails hrun).symm.trans h
      · exact fun h => by cases (hfails hrun).symm.trans h
      · cases htake : takeCandidate collation locked siteId workerId now'.instant expiry.instant
            (s.swept siteId now'.instant) with
        | ok taken =>
            rw [htake] at hrun
            exact hanswers hrun
        | error e =>
            rw [htake] at hrun
            obtain ⟨e', rfl⟩ := takeCandidate_error htake
            exact fun h => by cases (hfails hrun).symm.trans h
  | heartbeat key workerId attempt now leaseDuration =>
      rcases @run_heartbeat s key workerId hs attempt now leaseDuration with
        ⟨hnone, e, he, hrun⟩ | ⟨now', expiry, row, hbeats, hrun⟩
      · refine iff_of_false (fun h => he (Except.error.inj ((hfails hrun).symm.trans h))) ?_
        rintro ⟨now', expiry, row, hbeats, -⟩
        exact hnone now' expiry row hbeats
      · by_cases hback : endsBefore expiry row = true ∧ now'.instant < row.updatedAt
        · rw [if_pos hback.1, if_neg (not_le.mpr hback.2)] at hrun
          exact iff_of_true (hfails hrun) ⟨now', expiry, row, hbeats, hback⟩
        · refine iff_of_false ?_ ?_
          · by_cases hends : endsBefore expiry row = true
            · rw [if_pos hends, if_pos (not_lt.mp fun hlt => hback ⟨hends, hlt⟩)] at hrun
              exact hanswers hrun
            · rw [if_neg hends] at hrun
              exact hanswers hrun
          · rintro ⟨now'', expiry', row', hbeats', hback'⟩
            obtain rfl := Except.ok.inj (hbeats.valid.symm.trans hbeats'.valid)
            obtain rfl := Except.ok.inj (hbeats.expiry.symm.trans hbeats'.expiry)
            obtain rfl := Option.some.inj (hbeats.held.symm.trans hbeats'.held)
            exact hback hback'
  | acknowledge key workerId attempt now receipt =>
      refine iff_of_false ?_ id
      rcases @run_acknowledge s key workerId hs attempt now receipt with
        ⟨e, he, hrun⟩ | ⟨row, -, -, -, hrun⟩ | ⟨now', row, -, -, -, -, hrun⟩
      · exact fun h => he (Except.error.inj ((hfails hrun).symm.trans h))
      · exact hanswers hrun
      · exact hanswers hrun
  | fail key workerId attempt now retryAt errorCode =>
      refine iff_of_false ?_ id
      rcases @run_fail s key workerId hs attempt now retryAt errorCode with
        ⟨e, he, hrun⟩ | ⟨now', retryAt', row, -, -, -, -, hrun⟩
      · exact fun h => he (Except.error.inj ((hfails hrun).symm.trans h))
      · exact hanswers hrun

/-- In no run do the triggers and the constraint of the table refuse a row, except that of a
heartbeat that goes back in time. -/
theorem run_integrityError_iff (py : Stdlib) (collation : Collation) (calls : List Call) (c : Call) :
    ((machine py collation).step ((machine py collation).final {} calls) c).1 =
        .error .integrityError ↔
      GoesBack ((machine py collation).final {} calls) c :=
  step_integrityError_iff (sound_final calls) c

end Runs
end EsanGbos.AgentRuntime.Materialization
