import EsanGbos.Context.Moves

/-!
# The drafts of the outbox

A move changes the columns of the lease and the outcome of a draft, and only while the draft is
open. Its texts and its identity stay what the publication made them, so whether a worker can be
handed the draft is decided when it is published.

## Main definitions

* `Draft.Timely` — a lease ends, and a waiting draft is due, after the draft was created.
* `DraftRow.isLegible`, `Call.isSafe` — a draft whose texts a claim may carry, and the publications
  that leave such drafts.
* `Consistent` — what every reachable state satisfies.
-/
namespace EsanGbos.Context
open Lib Observer

variable {py : Stdlib} {collation : Collation}

/-! ## What every row satisfies -/

namespace Draft
variable (draft : Draft)

theorem createdAt_le : draft.createdAt ≤ draft.updatedAt := by
  have h := draft.admitted
  simp only [DraftRow.isAdmitted, Bool.and_eq_true, decide_eq_true_eq] at h
  exact h.2

theorem lease : draft.leaseAdmitted = true := by
  have h := draft.admitted
  simp only [DraftRow.isAdmitted, Bool.and_eq_true, decide_eq_true_eq] at h
  simp only [h]

end Draft

/-! ## What no move changes -/

section Moves
variable {c : Call} {key : String × String} {old new : Draft}

/-- A move changes the columns that the database grants, and no others. -/
theorem Call.Moves.row (h : c.Moves key old new) :
    new.toDraftRow = { old.toDraftRow with
      status := new.status
      attempt := new.attempt
      nextAttemptAt := new.nextAttemptAt
      leaseOwner := new.leaseOwner
      leaseExpiresAt := new.leaseExpiresAt
      lastErrorCode := new.lastErrorCode
      receipt := new.receipt
      updatedAt := new.updatedAt } := by
  cases c with
  | publish => exact h.elim
  | claimDraft =>
    obtain ⟨t, -, -, ⟨-, hrow⟩ | ⟨-, expiry, -, hrow⟩⟩ := h
    · simp only [hrow, buried]
    · simp only [hrow, leased]
  | heartbeatDraft =>
    obtain ⟨t, -, -, -, expiry, -, hrow⟩ := h
    simp only [hrow, renewed]
  | acknowledgeDraft =>
    obtain ⟨t, -, -, -, hrow⟩ := h
    simp only [hrow, settled]
  | failDraft =>
    obtain ⟨t, retry, -, -, -, -, -, hrow⟩ := h
    simp only [hrow, failed]

theorem heldBy_iff {workerId : String} {attempt : ℤ} {now : Timestamptz} :
    old.heldBy workerId attempt now = true ↔ old.status = .running ∧
      old.leaseOwner = some workerId ∧ old.attempt = attempt ∧
      ∃ e, old.leaseExpiresAt = some e ∧ now < e := by
  simp only [DraftRow.heldBy, Bool.and_eq_true, decide_eq_true_eq, Option.any_eq_true, and_assoc]

theorem isSpent_iff {siteId : String} {now : Timestamptz} :
    isSpent siteId now (key, old) = true ↔ key.1 = siteId ∧ old.status = .running ∧
      (∃ e, old.leaseExpiresAt = some e ∧ e ≤ now) ∧ old.maxAttempts ≤ old.attempt := by
  simp only [isSpent, Bool.and_eq_true, decide_eq_true_eq, Option.any_eq_true, and_assoc]

theorem isCandidate_iff {siteId : String} {now : Timestamptz} :
    isCandidate siteId now (key, old) = true ↔ key.1 = siteId ∧ old.attempt < old.maxAttempts ∧
      ((old.status = .pending ∨ old.status = .retry) ∧ old.nextAttemptAt ≤ now ∨
        old.status = .running ∧ ∃ e, old.leaseExpiresAt = some e ∧ e ≤ now) := by
  simp only [isCandidate, Bool.and_eq_true, Bool.or_eq_true, decide_eq_true_eq,
    Option.any_eq_true, and_assoc]

/-- A succeeded or dead-lettered draft is not moved. -/
theorem Call.Moves.status (h : c.Moves key old new) :
    old.status ≠ .succeeded ∧ old.status ≠ .deadLetter := by
  cases c with
  | publish => exact h.elim
  | claimDraft =>
    obtain ⟨t, -, -, ⟨hspent, -⟩ | ⟨hcandidate, -⟩⟩ := h
    · simp [(isSpent_iff.mp hspent).2.1]
    · rcases (isCandidate_iff.mp hcandidate).2.2 with ⟨hwaiting | hwaiting, -⟩ | ⟨hrunning, -⟩
      · simp [hwaiting]
      · simp [hwaiting]
      · simp [hrunning]
  | heartbeatDraft =>
    obtain ⟨t, -, -, hheld, -⟩ := h
    simp [(heldBy_iff.mp hheld).1]
  | acknowledgeDraft =>
    obtain ⟨t, -, -, hheld, -⟩ := h
    simp [(heldBy_iff.mp hheld).1]
  | failDraft =>
    obtain ⟨t, retry, -, -, -, -, hheld, -⟩ := h
    simp [(heldBy_iff.mp hheld).1]

/-- The attempt that a worker's call is about. -/
def Call.expectedAttempt : Call → Option ℤ
  | .heartbeatDraft _ _ _ expectedAttempt _ _ => some expectedAttempt
  | .acknowledgeDraft _ _ _ expectedAttempt _ _ => some expectedAttempt
  | .failDraft _ _ _ expectedAttempt _ _ _ => some expectedAttempt
  | _ => none

/-- A worker's call moves no draft of another attempt. -/
theorem Call.Moves.expectedAttempt {n : ℤ} (h : c.Moves key old new)
    (hn : c.expectedAttempt = some n) : old.attempt = n := by
  cases c with
  | publish => exact h.elim
  | claimDraft => cases hn
  | heartbeatDraft =>
    obtain ⟨t, -, -, hheld, -⟩ := h
    exact (heldBy_iff.mp hheld).2.2.1.trans (Option.some.inj hn)
  | acknowledgeDraft =>
    obtain ⟨t, -, -, hheld, -⟩ := h
    exact (heldBy_iff.mp hheld).2.2.1.trans (Option.some.inj hn)
  | failDraft =>
    obtain ⟨t, retry, -, -, -, -, hheld, -⟩ := h
    exact (heldBy_iff.mp hheld).2.2.1.trans (Option.some.inj hn)

/-- The attempts count up. -/
theorem Call.Moves.attempt_le (h : c.Moves key old new) : old.attempt ≤ new.attempt := by
  cases c with
  | publish => exact h.elim
  | claimDraft =>
    obtain ⟨t, -, -, ⟨-, hrow⟩ | ⟨-, expiry, -, hrow⟩⟩ := h
    · simp [hrow, buried]
    · simp [hrow, leased]
  | heartbeatDraft =>
    obtain ⟨t, -, -, -, expiry, -, hrow⟩ := h
    simp [hrow, renewed]
  | acknowledgeDraft =>
    obtain ⟨t, -, -, -, hrow⟩ := h
    simp [hrow, settled]
  | failDraft =>
    obtain ⟨t, retry, -, -, -, -, -, hrow⟩ := h
    simp [hrow, failed]

/-! ## The times of a draft -/

/-- A lease ends, and a draft that waits is due, after the draft was created. -/
def Draft.Timely (draft : Draft) : Prop :=
  (∀ e, draft.leaseExpiresAt = some e → draft.createdAt < e) ∧
    (draft.status = .pending ∨ draft.status = .retry → draft.createdAt ≤ draft.nextAttemptAt)

/-- The row records a later update than its creation, so a move to a later time is timely. -/
theorem Call.Moves.timely (h : c.Moves key old new) (htimely : old.Timely) : new.Timely := by
  have hcreated := new.createdAt_le
  cases c with
  | publish => exact h.elim
  | claimDraft =>
    obtain ⟨t, -, -, ⟨-, hrow⟩ | ⟨-, expiry, hlater, hrow⟩⟩ := h
    · simp [Draft.Timely, hrow, buried]
    · simp only [hrow, leased] at hcreated
      have hlease : old.createdAt < expiry := lt_of_le_of_lt hcreated hlater
      simpa [Draft.Timely, hrow, leased] using hlease
  | heartbeatDraft =>
    obtain ⟨t, -, -, hheld, expiry, hlonger, hrow⟩ := h
    obtain ⟨hrunning, -, -, e, he, -⟩ := heldBy_iff.mp hheld
    have hbefore := htimely.1 e he
    simp only [he, Option.any_some, decide_eq_true_eq] at hlonger
    have hlease : old.createdAt < expiry := lt_trans hbefore hlonger
    simpa [Draft.Timely, hrow, renewed, hrunning] using hlease
  | acknowledgeDraft =>
    obtain ⟨t, -, -, -, hrow⟩ := h
    simp [Draft.Timely, hrow, settled]
  | failDraft =>
    obtain ⟨t, retry, -, -, hlater, -, -, hrow⟩ := h
    simp only [hrow, failed] at hcreated
    simp only [Draft.Timely, hrow, failed]
    refine ⟨fun e he => ?_, fun _ => (lt_of_le_of_lt hcreated hlater).le⟩
    cases he

end Moves

/-! ## Texts that a claim may carry -/

section Texts
variable {maximum : ℕ} {t : String}

/-- The character is neither white space nor null. -/
def isInk (c : Char) : Bool := !isWhitespace c && c != '\x00'

theorem cleanText_iff : cleanText maximum t = true ↔ t ≠ "" ∧
    (∀ c ∈ t.toList.head?, isWhitespace c = false) ∧
    (∀ c ∈ t.toList.getLast?, isWhitespace c = false) ∧ t.length ≤ maximum ∧
    ∀ c ∈ t.toList, c ∉ ['\r', '\n', '\x00'] := by
  simp only [cleanText, isIdentifier, Bool.and_eq_true, Bool.not_eq_true', decide_eq_true_eq,
    Option.any_eq_false, List.any_eq_false, String.length_toList, and_assoc,
    List.isEmpty_eq_false_iff, ne_eq, String.toList_eq_nil_iff, List.contains_eq_mem,
    Option.mem_def]

theorem cleanText_of_ink (hne : t ≠ "") (hlength : t.length ≤ maximum)
    (h : ∀ c ∈ t.toList, isInk c = true) : cleanText maximum t = true := by
  have hink : ∀ c ∈ t.toList, isWhitespace c = false ∧ c ≠ '\x00' := by
    intro c hc
    simpa [isInk] using h c hc
  refine cleanText_iff.mpr ⟨hne, fun c hc => (hink c (List.mem_of_head? hc)).1,
    fun c hc => (hink c (List.mem_of_getLast? hc)).1, hlength, fun c hc hmem => ?_⟩
  obtain ⟨hspace, hnull⟩ := hink c hc
  simp only [List.mem_cons, List.not_mem_nil, or_false] at hmem
  rcases hmem with rfl | rfl | rfl
  · exact absurd hspace (by decide)
  · exact absurd hspace (by decide)
  · exact hnull rfl

/-- The digits of a digest. -/
theorem isInk_of_isDigest (h : isDigest t = true) : ∀ c ∈ t.toList, isInk c = true := by
  intro c hc
  simp only [isDigest, Bool.and_eq_true, List.all_eq_true] at h
  have hdigits : ∀ d ∈ "0123456789abcdef".toList, isInk d = true :=
    List.all_iff_forall_prop.mp (by decide)
  exact hdigits c (by simpa using h.2 c hc)

theorem length_of_isDigest (h : isDigest t = true) : t.toList.length = 64 := by
  simp only [isDigest, Bool.and_eq_true, decide_eq_true_eq] at h
  exact h.1

theorem cleanText_stableId (hdigest : py.HexDigests) (kind : String) (parts : List String)
    (hkind : kind.length ≤ 200) (hink : ∀ c ∈ kind.toList, isInk c = true) :
    cleanText 256 (stableId py kind parts) = true := by
  have htext := hdigest ("\x1f".intercalate (kind :: parts)).toList
  have hlength := length_of_isDigest htext
  refine cleanText_of_ink ?_ ?_ fun c hc => ?_
  · simp [stableId]
  · have := List.length_take_le 32 (py.sha256 ("\x1f".intercalate (kind :: parts)).toList).toList
    simp only [stableId, String.length_append, String.length_ofList]
    have hdash : "-".length = 1 := rfl
    omega
  · simp only [stableId, String.toList_append, String.toList_ofList, List.mem_append] at hc
    rcases hc with (hc | hc) | hc
    · exact hink c hc
    · have hdash : ∀ d ∈ "-".toList, isInk d = true :=
        List.all_iff_forall_prop.mp (by decide)
      exact hdash c hc
    · exact isInk_of_isDigest htext c (List.mem_of_mem_take hc)

theorem cleanText_subject (h : cleanText maximum t = true)
    (hlength : ("Communication event " ++ t).length ≤ 140) :
    cleanText 140 ("Communication event " ++ t) = true := by
  obtain ⟨hne, -, hlast, -, hinner⟩ := cleanText_iff.mp h
  refine cleanText_iff.mpr ⟨?_, fun c hc => ?_, fun c hc => ?_, hlength, fun c hc => ?_⟩
  · intro hempty
    have hlen := congrArg String.length hempty
    rw [String.length_append] at hlen
    have hprefix : "Communication event ".length = 20 := rfl
    have hzero : "".length = 0 := rfl
    omega
  · rw [String.toList_append] at hc
    have hhead : ("Communication event ".toList ++ t.toList).head? = some 'C' := rfl
    rw [hhead, Option.mem_some_iff] at hc
    rw [← hc]
    decide
  · rw [String.toList_append, List.getLast?_append_of_ne_nil] at hc
    · exact hlast c hc
    · simpa using hne
  · rw [String.toList_append, List.mem_append] at hc
    rcases hc with hc | hc
    · have hprefix : ∀ d ∈ "Communication event ".toList, d ∉ ['\r', '\n', '\x00'] :=
        List.all_iff_forall_prop.mp (by decide)
      exact hprefix c hc
    · exact hinner c hc

theorem cleanText_draftSubject (hdigest : py.HexDigests) (h : cleanText 256 t = true) :
    cleanText 140 (draftSubject py t) = true := by
  unfold draftSubject
  dsimp only
  split
  next hshort => exact cleanText_subject h hshort
  next =>
    have htext := hdigest t.toList
    have hlength := length_of_isDigest htext
    have hsuffix : (String.ofList ((py.sha256 t.toList).toList.take 24)).length = 24 := by
      rw [String.length_ofList, List.length_take, hlength]
      rfl
    refine cleanText_subject (cleanText_of_ink ?_ hsuffix.le fun c hc => ?_) ?_
    · intro hempty
      rw [hempty] at hsuffix
      cases hsuffix
    · rw [String.toList_ofList] at hc
      exact isInk_of_isDigest htext c (List.mem_of_mem_take hc)
    · rw [String.length_append, hsuffix]
      decide

end Texts

/-- What a claim would carry of the draft passes the checks of a claim. -/
def DraftRow.isLegible (row : DraftRow) : Bool :=
  cleanText 256 row.draftId && cleanText 256 row.intelligenceId &&
    cleanText 256 row.observationId && cleanText 140 row.subject && cleanText 2000 row.summaryZh &&
    cleanText 256 row.teamRef && cleanText 160 row.modelVersion && row.evidenceRefs ≠ [] &&
    row.evidenceRefs.Nodup && row.evidenceRefs.all (cleanText 512)

/-- The draft of a publication, where it leaves one, is legible. -/
def Call.isSafe : Call → Bool
  | .publish _ publication _ trusted _ => (teamOf publication trusted).isNone ||
      (cleanText 256 publication.observationId && cleanText 2000 publication.summaryZh &&
        cleanText 160 publication.modelVersion &&
        publication.evidenceRefs.all (cleanText 512))
  | _ => true

theorem Call.Moves.isLegible {c : Call} {key : String × String} {old new : Draft}
    (h : c.Moves key old new) (hold : old.isLegible = true) : new.isLegible = true := by
  rw [h.row]
  exact hold

theorem Publication.evidence (publication : Publication) :
    publication.evidenceRefs ≠ [] ∧ publication.evidenceRefs.Nodup := by
  have h := publication.valid
  cases hcheck : publication.toPublicationFields.check with
  | error e =>
    rw [hcheck] at h
    cases h
  | ok u =>
    simp only [PublicationFields.check, Proc.bind_eq_ok, Proc.rejectIf_eq_ok, not_or, not_not,
      exists_const] at hcheck
    exact ⟨hcheck.2.2.1.1, hcheck.2.2.1.2.2.1⟩

theorem Publication.team (publication : Publication) {team : String}
    (h : publication.teamRef = some team) : cleanText 256 team = true := by
  have hvalid := publication.valid
  cases hcheck : publication.toPublicationFields.check with
  | error e =>
    rw [hcheck] at hvalid
    cases hvalid
  | ok u =>
    simp only [PublicationFields.check, Proc.bind_eq_ok, Proc.rejectIf_eq_ok, h, Option.all_some,
      Bool.not_eq_false, exists_const] at hcheck
    exact hcheck.2.1

theorem teamOf_clean {scope : TenantScope} {publication : Publication} {idempotencyKey : String}
    {trusted : Option String} {p : PreparedPublication} {team : String}
    (h : preparePublication py scope publication idempotencyKey trusted = .ok p)
    (hteam : teamOf publication trusted = some team) : cleanText 256 team = true := by
  simp only [preparePublication, Proc.bind_eq_ok] at h
  obtain ⟨_, -, _, -, _, htrusted, -⟩ := h
  cases hown : publication.teamRef with
  | some own =>
    rw [teamOf, hown] at hteam
    obtain rfl := Option.some.inj hteam
    exact publication.team hown
  | none =>
    rw [teamOf, hown, Option.none_or] at hteam
    rw [hteam] at htrusted
    simpa [optionalText, text, Proc.rejectIf_eq_ok] using htrusted

/-- A safe publication leaves a legible draft. -/
theorem Drafts.isLegible (hdigest : py.HexDigests) {scope : TenantScope}
    {publication : Publication} {idempotencyKey : String} {trusted : Option String}
    {now : Timestamptz} {drafts drafts' : Dict (String × String) Draft} {draft : Draft}
    (hpasses : preparePublication py scope publication idempotencyKey trusted =
      .ok (prepared py publication trusted))
    (h : Drafts publication (prepared py publication trusted) scope.siteId now drafts drafts' draft)
    (hsafe : (Call.publish scope publication idempotencyKey trusted now).isSafe = true) :
    draft.isLegible = true := by
  obtain ⟨team, hteam, hrow⟩ := h.team
  have hteam : teamOf publication trusted = some team := hteam
  have hclean := teamOf_clean hpasses hteam
  obtain ⟨hne, hnodup⟩ := publication.evidence
  simp only [Call.isSafe, hteam, Option.isNone_some, Bool.false_or, Bool.and_eq_true] at hsafe
  obtain ⟨⟨⟨hobservation, hsummary⟩, hversion⟩, hevidence⟩ := hsafe
  have hdraft := cleanText_stableId hdigest "communication-draft"
    [publication.siteId, publication.observationId] (by decide)
    (List.all_iff_forall_prop.mp (by decide))
  have hintelligence := cleanText_stableId hdigest "communication-intelligence"
    [publication.siteId, publication.observationId] (by decide)
    (List.all_iff_forall_prop.mp (by decide))
  have hsubject := cleanText_draftSubject hdigest hobservation
  rw [hrow]
  simp only [DraftRow.isLegible, draftOf, prepared, hdraft, hintelligence, hobservation, hsubject,
    hsummary, hclean, hversion, hne, hnodup, hevidence, ne_eq, not_false_eq_true, decide_true,
    Bool.and_self]


/-! ## A claim that is not refused -/

/-- The records of one observation are one, and so are its drafts. -/
structure Consistent (s : Tables) : Prop where
  timely : ∀ key draft, s.drafts.get? key = some draft → draft.Timely
  named : ∀ key draft, s.drafts.get? key = some draft →
    draft.idempotencyKey = "communication-draft:" ++ draft.observationId
  oneDraft : ∀ key draft key' draft', s.drafts.get? key = some draft →
    s.drafts.get? key' = some draft' → key.1 = key'.1 →
    draft.idempotencyKey = draft'.idempotencyKey → key = key'
  oneRecord : ∀ key row key' row', s.intelligence.get? key = some row →
    s.intelligence.get? key' = some row' → key.1 = key'.1 →
    row.observationId = row'.observationId → key = key'

theorem Consistent.empty : Consistent {} where
  timely := by intro key draft h; cases h
  named := by intro key draft h; cases h
  oneDraft := by intro key draft key' draft' h; cases h
  oneRecord := by intro key row key' row' h; cases h

/-- Where a draft of the next state comes from. -/
theorem step_origin (s : Tables) (c : Call) {key : String × String} {new : Draft}
    (hnew : ((machine py collation).step s c).2.drafts.get? key = some new) :
    (∃ old, s.drafts.get? key = some old ∧ (new = old ∨ c.Moves key old new)) ∨
      s.drafts.get? key = none ∧ ∃ scope publication idempotencyKey trusted now,
        c = .publish scope publication idempotencyKey trusted now ∧
        preparePublication py scope publication idempotencyKey trusted =
          .ok (prepared py publication trusted) ∧ key = (scope.siteId, new.draftId) ∧
        Drafts publication (prepared py publication trusted) scope.siteId now s.drafts
          ((machine py collation).step s c).2.drafts new := by
  cases hold : s.drafts.get? key with
  | some old =>
    obtain ⟨new', hnew', hmove⟩ := step_draft py collation s c hold
    obtain rfl := Option.some.inj (hnew.symm.trans hnew')
    exact .inl ⟨old, rfl, hmove⟩
  | none =>
    obtain ⟨scope, publication, idempotencyKey, trusted, now, hc, hpublishes, hkey, hdraft⟩ :=
      step_new py collation s c hold hnew
    exact .inr ⟨rfl, scope, publication, idempotencyKey, trusted, now, hc, hpublishes.passes, hkey,
      hdraft⟩

variable (py collation) in
/-- A call leaves the records alone or publishes one. -/
theorem step_intelligence (s : Tables) (c : Call) :
    ((machine py collation).step s c).2.intelligence = s.intelligence ∨
      ∃ scope publication idempotencyKey trusted now,
        Publishes py scope publication idempotencyKey trusted now s
          ((machine py collation).step s c).2 := by
  have hmoved : ∀ {c : Call} {s' : Tables}, OneMoved c s s' → s'.intelligence = s.intelligence := by
    rintro c s' (rfl | ⟨key, old, new, -, -, rfl⟩)
    · rfl
    · rfl
  rw [step_snd]
  cases c with
  | publish scope publication idempotencyKey trusted now =>
    rw [perform, Proc.run_map]
    rcases publish_cases py s scope publication idempotencyKey trusted now with
      hsame | hpublishes
    · exact .inl (by rw [hsame])
    · exact .inr ⟨scope, publication, idempotencyKey, trusted, now, hpublishes⟩
  | claimDraft siteId workerId now duration =>
    rw [perform, Proc.run_map]
    rcases claimDraft_cases collation s siteId workerId now duration with
      hsame | ⟨t, drafts, -, -, heq | ⟨_, _, _, _, -, -, -, heq⟩⟩
    · exact .inl (by rw [hsame])
    · exact .inl (by rw [heq])
    · exact .inl (by rw [heq])
  | heartbeatDraft siteId draftId workerId attempt now duration =>
    rw [perform, Proc.run_map]
    exact .inl (hmoved (heartbeatDraft_cases s siteId draftId workerId attempt now duration))
  | acknowledgeDraft siteId draftId workerId attempt now receipt =>
    rw [perform, Proc.run_map]
    exact .inl (hmoved (acknowledgeDraft_cases s siteId draftId workerId attempt now receipt))
  | failDraft siteId draftId workerId attempt now retryAt errorCode =>
    rw [perform, Proc.run_map]
    exact .inl (hmoved (failDraft_cases s siteId draftId workerId attempt now retryAt errorCode))

theorem Call.Moves.named {c : Call} {key : String × String} {old new : Draft}
    (h : c.Moves key old new) : new.idempotencyKey = old.idempotencyKey ∧
      new.observationId = old.observationId := by
  rw [h.row]
  exact ⟨rfl, rfl⟩

theorem Consistent.step {s : Tables} (h : Consistent s) (c : Call) :
    Consistent ((machine py collation).step s c).2 where
  timely := by
    intro key new hnew
    rcases step_origin s c hnew with ⟨old, hold, rfl | hmoves⟩ | ⟨-, _, publication, _, _, now,
      -, -, -, hdraft⟩
    · exact h.timely key new hold
    · exact hmoves.timely (h.timely key old hold)
    · obtain ⟨team, -, hrow⟩ := hdraft.team
      simp [Draft.Timely, hrow, draftOf]
  named := by
    intro key new hnew
    rcases step_origin s c hnew with ⟨old, hold, rfl | hmoves⟩ | ⟨-, _, publication, _, _, now,
      -, -, -, hdraft⟩
    · exact h.named key new hold
    · rw [hmoves.named.1, hmoves.named.2, h.named key old hold]
    · obtain ⟨team, -, hrow⟩ := hdraft.team
      simp [hrow, draftOf]
  oneDraft := by
    intro key new key' new' hnew hnew' hsite hsame
    -- The key of a draft that was there has not changed, and a new one differs from them all.
    have hkept : ∀ {key new}, (∃ old, s.drafts.get? key = some old ∧ (new = old ∨
        c.Moves key old new)) → ∃ old, s.drafts.get? key = some old ∧
        new.idempotencyKey = old.idempotencyKey := by
      rintro key new ⟨old, hold, rfl | hmoves⟩
      · exact ⟨new, hold, rfl⟩
      · exact ⟨old, hold, hmoves.named.1⟩
    rcases step_origin s c hnew with hfirst | ⟨hnone, scope, _, _, _, _, -, -, hkey, hdraft⟩
    · obtain ⟨old, hold, hidem⟩ := hkept hfirst
      rcases step_origin s c hnew' with hsecond | ⟨-, scope, _, _, _, _, -, -, hkey', hdraft⟩
      · obtain ⟨old', hold', hidem'⟩ := hkept hsecond
        exact h.oneDraft key old key' old' hold hold' hsite (by rw [← hidem, ← hidem', hsame])
      · have hother := hdraft.other (key, old) (Dict.mem_items.mpr hold)
        refine absurd (hidem.symm.trans hsame) (hother ?_)
        rw [hsite, hkey']
    · by_contra hne
      have hbefore : s.drafts.get? key' = some new' := by
        rw [hdraft.eq, ← hkey, Dict.get?_set_of_ne _ _ (Ne.symm hne)] at hnew'
        exact hnew'
      refine hdraft.other (key', new') (Dict.mem_items.mpr hbefore) ?_ hsame.symm
      rw [← hsite, hkey]
  oneRecord := by
    intro key row key' row' hrow hrow' hsite hsame
    rcases step_intelligence py collation s c with heq | ⟨scope, publication,
      idempotencyKey, trusted, now, hpublishes⟩
    · rw [heq] at hrow hrow'
      exact h.oneRecord key row key' row' hrow hrow' hsite hsame
    · have hother : ∀ {key row}, s.intelligence.get? key = some row → key.1 = scope.siteId →
          row.observationId ≠ publication.observationId := by
        intro key row hget hsite
        exact hpublishes.other (key, row) (Dict.mem_items.mpr hget) hsite
      rw [hpublishes.eq, Dict.get?_set] at hrow hrow'
      split at hrow
      next hkey =>
        obtain rfl := Option.some.inj hrow
        split at hrow'
        next hkey' => rw [hkey, hkey']
        next => exact absurd hsame.symm (hother hrow' (by rw [← hsite, hkey]))
      next =>
        split at hrow'
        next hkey' =>
          obtain rfl := Option.some.inj hrow'
          exact absurd hsame (hother hrow (by rw [hsite, hkey']))
        next => exact h.oneRecord key row key' row' hrow hrow' hsite hsame

end EsanGbos.Context
