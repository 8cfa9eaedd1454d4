import EsanGbos.MediaRuntime.Postgres
import EsanGbos.MediaRuntime.Queue

/-!
# The two repositories agree

The rows of the table are the jobs of the dictionary, each as the row that stands for it, and every
call answers alike on both sides. The table refuses what no column can hold and audio that is ready
without a transcript and a proof; the dictionary takes all of it, so the calls have to fit.

## Main definitions

* `encode` — the row of a job; `Postgres.jobFromRow_encode` is the way back.
* `Call.fits` — what a call may ask for.
* `Memory.run_refines` — both repositories give the same answers in every run of such calls.
-/
namespace EsanGbos.MediaRuntime
open Lib

/-- The row of a job. -/
def encode (job : MediaJob) : MediaRow :=
  { requestId := job.requestId
    receipt := (toContract job.receipt).toOption.getD .null
    workSpec := workSpecOf job.durationMs job.channels job.sampleRate job.languageHint
    submissionDigest := job.submissionDigest
    status := job.status
    dueAt := job.dueAt
    attempt := job.attempt
    maxAttempts := job.maxAttempts
    fencingToken := job.fencingToken
    leaseOwner := job.leaseOwner
    leaseExpiresAt := job.leaseExpiresAt
    reasonCodes := Json.ofStrs job.reasonCodes
    transcriptRef := job.transcriptRef
    artifactProof := job.artifactProof.map proofDocument
    createdAt := job.createdAt
    updatedAt := job.updatedAt }

/-- A job that the table has a row for. -/
structure MediaJob.IsStorable (job : MediaJob) : Prop where
  received : (Datetime.of? job.receipt.receivedAt 0).isSome = true
  admitted : (encode job).isAdmitted (job.siteId, job.jobId) = true

/-- Audio is ready with a transcript and a proof. -/
def MediaJob.mayComplete (status : MediaJobStatus) (transcriptRef : Option String)
    (artifactProof : Option MediaArtifactProof) (job : MediaJob) : Bool :=
  status ≠ .ready || !"audio/".toList.isPrefixOf job.receipt.mediaType.toList ||
    transcriptRef.isSome && artifactProof.isSome

/-- The collation orders the identifiers of jobs by code points, as every collation does that
puts digits before letters and both in their order. -/
def OrdersJobIds (py : Stdlib) (collation : Collation) : Prop :=
  ∀ siteId requestId siteId' requestId',
    collation.le (jobIdOf py siteId requestId) (jobIdOf py siteId' requestId') = true ↔
      jobIdOf py siteId requestId ≤ jobIdOf py siteId' requestId'

/-! ## Calls that fit -/

def Call.siteId : Call → String
  | enqueue submission _ => submission.receipt.siteId
  | get siteId _ | getByRequest siteId _ | claim siteId _ _ _ | heartbeat siteId _ _ _ _ _
  | complete siteId _ _ _ _ _ _ _ _ | retry siteId _ _ _ _ _ _ => siteId

/-- The other texts of a call. -/
def Call.texts : Call → List String
  | enqueue submission _ =>
      let receipt := submission.receipt
      [receipt.receiptId, receipt.purpose, receipt.requestId, receipt.mediaType, receipt.sha256,
        receipt.objectRef, receipt.evidenceRef, receipt.immutableChecksum,
        receipt.consentBasis] ++ submission.languageHint.toList
  | get _ jobId => [jobId]
  | getByRequest _ requestId => [requestId]
  | claim _ workerId _ _ => [workerId]
  | heartbeat _ jobId workerId _ _ _ | retry _ jobId workerId _ _ _ _ => [jobId, workerId]
  | complete _ jobId workerId _ _ _ _ transcriptRef _ => [jobId, workerId] ++ transcriptRef.toList

/-- The end of the lease that is asked for can be represented. -/
def leaseFits (siteId workerId : String) (now : Option Datetime) (leaseDuration : Timedelta) :
    Bool :=
  match validateLeaseInput siteId workerId now leaseDuration with
  | .error _ => true
  | .ok now => (plus now leaseDuration).isOk

/-- The columns and the calendar have room for the call, and it completes no audio without a
transcript and a proof. -/
def Call.fits (s : Memory) (c : Call) : Bool :=
  lengthWithin 140 c.siteId && isText c.siteId && c.texts.all isText &&
    match c with
    | enqueue submission _ => lengthWithin 256 submission.receipt.requestId &&
        (Datetime.of? submission.receipt.receivedAt 0).isSome
    | claim siteId workerId now leaseDuration => workerId.toList.length ≤ 256 &&
        leaseFits siteId workerId now leaseDuration
    | heartbeat siteId _ workerId _ now leaseDuration =>
        leaseFits siteId workerId now leaseDuration
    | complete siteId jobId _ _ _ status _ transcriptRef artifactProof =>
        transcriptRef.all (lengthWithin 512) &&
          (s.jobs.get? (siteId, jobId)).all (MediaJob.mayComplete status transcriptRef artifactProof)
    | _ => true

/-! ## Documents are read back -/

section Documents
variable {py : Stdlib}

/-- The time a receipt was received at is read back, and its text can be stored. -/
theorem rfc3339_ok (hiso : py.ReadsIsoformat) {t : Timestamptz}
    (h : (Datetime.of? t 0).isSome = true) :
    ∃ text, rfc3339 t = .ok text ∧ receivedAtOf py text = .ok t ∧
      isText text = true := by
  obtain ⟨d, hd⟩ := Option.isSome_iff_exists.mp h
  obtain ⟨hinstant, hoffset⟩ := Datetime.of?_eq_some hd
  obtain ⟨clock, hclock, hchars⟩ := Datetime.isoformat_utc hoffset
  have htext := timestamp_utc hoffset
  refine ⟨String.ofList (replace d.isoformat "+00:00".toList ['Z']), ?_, ?_, ?_⟩
  · rw [rfc3339, hd, Option.bind_some, htext]
  · rw [receivedAtOf, String.toList_ofList, replace_timestamp hoffset htext]
    simp only [hiso d, hinstant]
  · have hplus : ∀ c ∈ clock, c ≠ '+' := by
      rintro c hc rfl
      exact absurd (hchars '+' hc) (by decide)
    have hnul : '\x00' ∉ clock := fun hc => absurd (hchars _ hc) (by decide)
    have hutc : "+00:00".toList = ['+', '0', '0', ':', '0', '0'] := by decide
    rw [isText, String.toList_ofList, hclock, hutc, replace_append _ hplus]
    simp [hnul]

theorem sourceKindOf_value (kind : SourceKind) : sourceKindOf kind.value = .ok kind := by
  cases kind <;> decide

theorem receiptFromMapping_contractOf {receipt : UploadReceipt} {text : String}
    (h : receivedAtOf py text = .ok receipt.receivedAt) :
    receiptFromMapping py (contractOf receipt text) = .ok receipt := by
  simp [receiptFromMapping, contractOf, textOf, intOf, Json.get?, sourceKindOf_value, h, bind,
    Except.bind, pure, Except.pure]

theorem languageHintOf_workSpecOf (durationMs channels sampleRate : ℤ)
    (languageHint : Option String) :
    languageHintOf (workSpecOf durationMs channels sampleRate languageHint) =
      .ok languageHint := by
  cases languageHint <;>
    simp [languageHintOf, workSpecOf, textOf, Json.get?, Json.ofOption, Except.map]

theorem proofOf_proofDocument (proof : MediaArtifactProof) :
    proofOf (proofDocument proof) = .ok proof := by
  obtain ⟨output, executable, model, hvalid⟩ := proof
  simp [proofOf, proofDocument, Json.hasKeys, textOf, Json.get?, hvalid, bind, Except.bind, pure,
    Except.pure]

theorem toContract_ok (hiso : py.ReadsIsoformat) {receipt : UploadReceipt}
    (h : (Datetime.of? receipt.receivedAt 0).isSome = true) :
    ∃ text, toContract receipt = .ok (contractOf receipt text) ∧
      receivedAtOf py text = .ok receipt.receivedAt ∧ isText text = true := by
  obtain ⟨text, htext, hread, hstored⟩ := rfc3339_ok hiso h
  exact ⟨text, by rw [toContract, htext]; rfl, hread, hstored⟩

/-- Row decoding inverts row encoding. -/
theorem Postgres.jobFromRow_encode (hiso : py.ReadsIsoformat) {key : String × String}
    {job : MediaJob} (hkey : key = (job.siteId, job.jobId))
    (h : (Datetime.of? job.receipt.receivedAt 0).isSome = true) :
    jobFromRow py (key, encode job) = .ok job := by
  obtain ⟨text, hcontract, hread, -⟩ := toContract_ok hiso h
  have hreceipt : mappingOf (encode job).receipt "receipt" = .ok (contractOf job.receipt text) := by
    change mappingOf ((toContract job.receipt).toOption.getD .null) "receipt" = _
    rw [hcontract]
    rfl
  have hspec : mappingOf (encode job).workSpec "work_spec" = .ok (encode job).workSpec := rfl
  have hints : intOf (encode job).workSpec "duration_ms" = .ok job.durationMs ∧
      intOf (encode job).workSpec "channels" = .ok job.channels ∧
      intOf (encode job).workSpec "sample_rate" = .ok job.sampleRate := by
    simp [encode, workSpecOf, intOf, Json.get?]
  have hhint : languageHintOf (encode job).workSpec = .ok job.languageHint :=
    languageHintOf_workSpecOf _ _ _ _
  have hproof : ((encode job).artifactProof.mapM fun value => do
      proofOf (← mappingOf value "artifact_proof")) = (.ok job.artifactProof : Except Raise _) := by
    change (job.artifactProof.map proofDocument).mapM _ = _
    cases job.artifactProof with
    | none => rfl
    | some proof =>
        change (do let value ← proofOf (proofDocument proof); pure (some value)) = _
        rw [proofOf_proofDocument]
        rfl
  have hcodes : (encode job).reasonCodes.strs? = some job.reasonCodes := Json.strs?_ofStrs _
  simp only [jobFromRow, hreceipt, hspec, hints, hhint, hproof, hcodes, Proc.ok_bind,
    receiptFromMapping_contractOf hread]
  rw [hkey]
  rfl

end Documents

/-! ## Jobs stay storable -/

section Storable
variable {job : MediaJob}

/-- The checks of the state of a job. -/
theorem hasValidState_encode : (encode job).hasValidState = true ↔
    0 ≤ job.attempt ∧ 0 ≤ job.fencingToken ∧ job.leaseOwner.all (lengthWithin 256) = true ∧
      job.transcriptRef.all (lengthWithin 512) = true ∧ job.attempt ≤ job.maxAttempts ∧
      job.attempt ≤ job.fencingToken ∧
      (if job.status = .leased then job.leaseOwner.isSome && job.leaseExpiresAt.isSome
        else job.leaseOwner.isNone && job.leaseExpiresAt.isNone) = true ∧
      (encode job).hasValidArtifact = true := by
  have hproof : (encode job).artifactProof.all Json.isObj = true := by
    change (job.artifactProof.map proofDocument).all Json.isObj = true
    cases job.artifactProof <;> rfl
  have hcodes : (encode job).reasonCodes.arr?.isSome = true := rfl
  simp only [MediaRow.hasValidState, hproof, hcodes, Bool.and_eq_true, decide_eq_true_eq,
    and_true, and_assoc]
  exact Iff.rfl

theorem hasValidArtifact_of_ne (h : job.status ≠ .ready) :
    (encode job).hasValidArtifact = true := by
  simp [MediaRow.hasValidArtifact, encode, h]

namespace MediaJob

/-- An update that leaves the input alone keeps a job storable if its state is valid. -/
theorem IsStorable.of_state {job' : MediaJob} (h : job.IsStorable)
    (hreceipt : job'.receipt = job.receipt)
    (hinput : (encode job').hasValidInput (job'.siteId, job'.jobId) =
      (encode job).hasValidInput (job.siteId, job.jobId))
    (hstate : (encode job').hasValidState = true) : job'.IsStorable := by
  have hold := (Bool.and_eq_true _ _ ▸ h.admitted).1
  refine ⟨hreceipt ▸ h.received, ?_⟩
  rw [MediaRow.isAdmitted, hinput, hold, hstate]
  rfl

theorem IsStorable.state (h : job.IsStorable) : (encode job).hasValidState = true :=
  (Bool.and_eq_true _ _ ▸ h.admitted).2

theorem IsStorable.claimed (h : job.IsStorable) {workerId : String}
    (hworker : lengthWithin 256 workerId = true) (hattempts : job.attempt < job.maxAttempts)
    (now expiry : Datetime) : (job.claimed workerId now expiry).IsStorable := by
  obtain ⟨hattempt, hfencing, -, htranscript, -, hle, -, -⟩ := hasValidState_encode.mp h.state
  refine h.of_state rfl rfl (hasValidState_encode.mpr ⟨?_, ?_, hworker, htranscript, ?_, ?_, rfl, ?_⟩)
  · change 0 ≤ job.attempt + 1
    omega
  · change 0 ≤ job.fencingToken + 1
    omega
  · change job.attempt + 1 ≤ job.maxAttempts
    omega
  · change job.attempt + 1 ≤ job.fencingToken + 1
    omega
  · exact hasValidArtifact_of_ne (by simp [MediaJob.claimed])

theorem IsStorable.renewed (h : job.IsStorable) (hleased : job.status = .leased)
    (now expiry : Datetime) : (job.renewed now expiry).IsStorable := by
  obtain ⟨hattempt, hfencing, howner, htranscript, hmax, hle, hlease, -⟩ :=
    hasValidState_encode.mp h.state
  refine h.of_state rfl rfl (hasValidState_encode.mpr
    ⟨hattempt, hfencing, howner, htranscript, hmax, hle, ?_, ?_⟩)
  · rw [if_pos hleased, Bool.and_eq_true] at hlease
    rw [if_pos (show (job.renewed now expiry).status = .leased from hleased), Bool.and_eq_true]
    exact ⟨hlease.1, rfl⟩
  · exact hasValidArtifact_of_ne (by simp [MediaJob.renewed, hleased])

/-- A lease that ends without the job being ready. -/
theorem IsStorable.released (h : job.IsStorable) {job' : MediaJob}
    (hinput : (encode job').hasValidInput (job'.siteId, job'.jobId) =
      (encode job).hasValidInput (job.siteId, job.jobId)) (hreceipt : job'.receipt = job.receipt)
    (hcounts : job'.attempt = job.attempt ∧ job'.fencingToken = job.fencingToken ∧
      job'.maxAttempts = job.maxAttempts)
    (hlease : job'.status ≠ .leased ∧ job'.leaseOwner = none ∧ job'.leaseExpiresAt = none)
    (htranscript : job'.transcriptRef.all (lengthWithin 512) = true)
    (hartifact : (encode job').hasValidArtifact = true) : job'.IsStorable := by
  obtain ⟨hattempt, hfencing, -, -, hmax, hle, -, -⟩ := hasValidState_encode.mp h.state
  obtain ⟨hattempt', hfencing', hmax'⟩ := hcounts
  refine h.of_state hreceipt hinput (hasValidState_encode.mpr ?_)
  rw [hattempt', hfencing', hmax', if_neg hlease.1, hlease.2.1, hlease.2.2]
  exact ⟨hattempt, hfencing, rfl, htranscript, hmax, hle, rfl, hartifact⟩

theorem IsStorable.retried (h : job.IsStorable) (retryAt : Datetime) (reasonCodes : List String)
    (now : Datetime) : (job.retried retryAt reasonCodes now).IsStorable := by
  obtain ⟨-, -, -, htranscript, -⟩ := hasValidState_encode.mp h.state
  have hstatus : ∀ status : MediaJobStatus, status = .leased ∨ status = .ready →
      (job.retried retryAt reasonCodes now).status ≠ status := by
    rintro status hstatus
    by_cases hless : job.attempt < job.maxAttempts <;>
      rcases hstatus with rfl | rfl <;> simp [MediaJob.retried, hless]
  exact h.released rfl rfl ⟨rfl, rfl, rfl⟩ ⟨hstatus .leased (.inl rfl), rfl, rfl⟩ htranscript
    (hasValidArtifact_of_ne (hstatus .ready (.inr rfl)))

theorem IsStorable.reaped (h : job.IsStorable) (now : Datetime) : (job.reaped now).IsStorable := by
  obtain ⟨-, -, -, htranscript, -⟩ := hasValidState_encode.mp h.state
  exact h.released rfl rfl ⟨rfl, rfl, rfl⟩ ⟨by simp [MediaJob.reaped], rfl, rfl⟩ htranscript
    (hasValidArtifact_of_ne (by simp [MediaJob.reaped]))

theorem IsStorable.completed {py : Stdlib} (hiso : py.ReadsIsoformat) (h : job.IsStorable)
    {status : MediaJobStatus} {transcriptRef : Option String}
    {artifactProof : Option MediaArtifactProof} (hterminal : status.isTerminal = true)
    (htranscript : transcriptRef.all (lengthWithin 512) = true)
    (hmay : mayComplete status transcriptRef artifactProof job = true) (reasonCodes : List String)
    (now : Datetime) :
    (job.completed status reasonCodes transcriptRef artifactProof now).IsStorable := by
  refine h.released rfl rfl ⟨rfl, rfl, rfl⟩ ⟨?_, rfl, rfl⟩ htranscript ?_
  · rintro hleased
    obtain rfl : status = .leased := hleased
    cases hterminal
  · obtain ⟨text, hcontract, -⟩ := toContract_ok hiso h.received
    have hmedia : (encode (job.completed status reasonCodes transcriptRef artifactProof
        now)).receipt.get? "media_type" = some (.str job.receipt.mediaType) := by
      change ((toContract job.receipt).toOption.getD .null).get? "media_type" = _
      rw [hcontract]
      simp [Except.toOption, contractOf, Json.get?]
    have hproof : ∀ proof : MediaArtifactProof, (["ffmpeg_output_sha256",
        "ffmpeg_executable_sha256", "whisper_model_sha256"].all fun name =>
          ((proofDocument proof).get? name).isSome) = true := by
      intro proof
      simp [proofDocument, Json.get?]
    simp only [mayComplete, Bool.or_eq_true, Bool.and_eq_true, decide_eq_true_eq] at hmay
    simp only [MediaRow.hasValidArtifact, hmedia, Bool.or_eq_true, Bool.and_eq_true,
      decide_eq_true_eq]
    rcases hmay with (hstatus | haudio) | ⟨hsome, hproofs⟩
    · exact .inl hstatus
    · exact .inr (.inl haudio)
    · obtain ⟨proof, rfl⟩ := Option.isSome_iff_exists.mp hproofs
      exact .inr (.inr ⟨hsome, hproof proof⟩)

end MediaJob
end Storable

/-! ## Parameters that can be stored -/

section Texts

/-- Letters that are written out keep the null character out. -/
theorem isText_of_forall {s : String} {p : Char → Bool} (hp : p '\x00' = false)
    (h : ∀ c ∈ s.toList, p c = true) : isText s = true := by
  rw [isText, Bool.not_eq_true', List.contains_eq_mem, decide_eq_false_iff_not]
  intro hmem
  rw [h _ hmem] at hp
  cases hp

theorem isText_of_isDigest {s : String} (h : isDigest s = true) : isText s = true := by
  rw [isDigest, Bool.and_eq_true, List.all_eq_true] at h
  exact isText_of_forall (by decide) h.2

theorem isText_of_isReasonCode {code : String} (h : isReasonCode code = true) :
    isText code = true := by
  have hslug : ∀ c : Char, isSlugChar c = true →
      (isSlugChar c || c == '_' || c == '.' || c == '-') = true := by
    intro c hc
    simp [hc]
  cases hlist : code.toList with
  | nil => simp [isText, hlist]
  | cons c cs =>
      simp only [isReasonCode, hlist, Bool.and_eq_true, List.all_eq_true] at h
      refine isText_of_forall (p := fun c => isSlugChar c || c == '_' || c == '.' || c == '-')
        (by decide) ?_
      rw [hlist, List.forall_mem_cons]
      exact ⟨hslug c h.1.1, h.2⟩

theorem isJsonb_ofStrs {xs : List String} (h : ∀ x ∈ xs, isText x = true) :
    Postgres.isJsonb (Json.ofStrs xs) = true := by
  change Postgres.areJsonb (xs.map .str) = true
  induction xs with
  | nil => rfl
  | cons x xs ih =>
      obtain ⟨hx, hxs⟩ := List.forall_mem_cons.mp h
      rw [List.map_cons, Postgres.areJsonb, ih hxs, Bool.and_true]
      exact hx

theorem isJsonb_of_reasonCodes {reasonCodes : List String}
    (h : validateReasonCodes reasonCodes = .ok ()) :
    Postgres.isJsonb (Json.ofStrs reasonCodes) = true := by
  unfold validateReasonCodes at h
  split at h
  · next hcodes => exact isJsonb_ofStrs fun code hcode =>
      isText_of_isReasonCode (List.all_eq_true.mp hcodes.2 code hcode)
  · cases h

theorem isJsonb_proofDocument (proof : MediaArtifactProof) :
    Postgres.isJsonb (proofDocument proof) = true := by
  obtain ⟨output, executable, model, hvalid⟩ := proof
  simp only [isValidSha256, Bool.and_eq_true] at hvalid
  simp [proofDocument, Postgres.isJsonb, Postgres.areMembers, isText_of_isDigest hvalid.1.1.1,
    isText_of_isDigest hvalid.1.2.1, isText_of_isDigest hvalid.2.1]
  decide

theorem parameters_ok {texts : List String} {documents : List Json}
    (htexts : texts.all isText = true) (hdocuments : documents.all Postgres.isJsonb = true) :
    Postgres.parameters texts documents = .ok () := by
  rw [Postgres.parameters, htexts, hdocuments]
  rfl

theorem setSite_ok {siteId : String} (hlength : lengthWithin 140 siteId = true)
    (htext : isText siteId = true) : Postgres.setSite siteId = .ok () := by
  simp [Postgres.setSite, hlength, Postgres.parameters, htext]

end Texts

/-! ## The calls agree -/

namespace Memory

/-- The table that stands for the dictionary. -/
def tableOf (s : Memory) : MediaTable := s.jobs.map encode

/-- Every job has a row. -/
def Stored (s : Memory) : Prop := ∀ key job, s.jobs.get? key = some job → job.IsStorable

theorem Stored.set {s : Memory} (h : Stored s) {key : String × String} {job : MediaJob}
    (hjob : job.IsStorable) : Stored { s with jobs := s.jobs.set key job } := by
  intro key' job' hget
  rw [Dict.get?_set] at hget
  split at hget
  · obtain rfl := Option.some.inj hget
    exact hjob
  · exact h key' job' hget

theorem mem_tableOf {s : Memory} {e : MediaEntry} (h : e ∈ s.tableOf.items) :
    ∃ job, s.jobs.get? e.1 = some job ∧ e.2 = encode job := by
  obtain ⟨⟨key, job⟩, hmem, rfl⟩ := List.mem_map.mp h
  exact ⟨job, Dict.mem_items.mp hmem, rfl⟩

section Leases
variable {py : Stdlib} {s : Memory} {siteId jobId workerId : String} {fencingToken : ℤ}

/-- A statement that a lease is needed for does to the row what is done to the job. -/
theorem run_liveLease_update (hiso : py.ReadsIsoformat) (now : Timestamptz)
    {f : MediaRow → MediaRow} {g : MediaJob → MediaJob}
    (hfg : ∀ job, f (encode job) = encode (g job))
    (hg : ∀ job, s.jobs.get? (siteId, jobId) = some job →
      isLiveLease workerId fencingToken now job = true →
        (siteId, jobId) = ((g job).siteId, (g job).jobId) ∧ (g job).IsStorable) :
    (do
      let rows ← Postgres.update (Postgres.isLiveLease siteId jobId workerId fencingToken now) f
      Postgres.requiredLeaseRow py rows : PgOp MediaJob).run s.tableOf =
      match (s.jobs.get? (siteId, jobId)).filter (isLiveLease workerId fencingToken now) with
      | none => (.error (.leaseConflict "lease_lost"), s.tableOf)
      | some job =>
          (.ok (g job), tableOf { s with jobs := s.jobs.set (siteId, jobId) (g job) }) := by
  have hrow : ∀ (e : MediaEntry) job, e.2 = encode job →
      Postgres.isLiveLease siteId jobId workerId fencingToken now e =
        (decide (e.1 = (siteId, jobId)) && isLiveLease workerId fencingToken now job) := by
    rintro ⟨key, _⟩ job rfl
    rfl
  cases hlive : (s.jobs.get? (siteId, jobId)).filter (isLiveLease workerId fencingToken now) with
  | none =>
      have hnone : ∀ e ∈ s.tableOf.items,
          Postgres.isLiveLease siteId jobId workerId fencingToken now e = false := by
        intro e he
        obtain ⟨job, hget, hencode⟩ := mem_tableOf he
        rw [hrow e job hencode, Bool.and_eq_false_iff, decide_eq_false_iff_not]
        by_cases hkey : e.1 = (siteId, jobId)
        · right
          rw [← hkey, hget] at hlive
          simpa using hlive
        · exact .inl hkey
      rw [Proc.run_bind_ok (Postgres.run_update_none hnone)]
      rfl
  | some job =>
      obtain ⟨hget, hlease⟩ := Option.filter_eq_some_iff.mp hlive
      obtain ⟨hkey, hstorable⟩ := hg job hget hlease
      have hgetRow : s.tableOf.get? (siteId, jobId) = some (encode job) := by
        rw [tableOf, Dict.get?_map, hget, Option.map_some]
      have hone : ∀ e ∈ s.tableOf.items,
          Postgres.isLiveLease siteId jobId workerId fencingToken now e = true ↔
            e.1 = (siteId, jobId) := by
        intro e he
        obtain ⟨job', hget', hencode⟩ := mem_tableOf he
        rw [hrow e job' hencode, Bool.and_eq_true, decide_eq_true_eq, and_iff_left_iff_imp]
        intro hsame
        rw [hsame, hget] at hget'
        exact Option.some.inj hget' ▸ hlease
      have hadmitted : (f (encode job)).isAdmitted (siteId, jobId) = true := by
        rw [hfg, hkey]
        exact hstorable.admitted
      rw [Proc.run_bind_ok (Postgres.run_update_one hgetRow hone hadmitted), hfg]
      have hdecoded := Postgres.jobFromRow_encode hiso hkey hstorable.received
      simp only [Postgres.requiredLeaseRow, List.head?_cons, hdecoded, Proc.run_lift]
      rw [tableOf, ← Dict.map_set]
      rfl

end Leases

/-- Both repositories answer a call alike, and their states still agree. -/
structure Agrees (py : Stdlib) (collation : Collation) (s : Memory) (c : Call) : Prop where
  step : (Postgres.machine py collation).step s.tableOf c =
    (((machine py).step s c).1, ((machine py).step s c).2.tableOf)
  stored : Stored ((machine py).step s c).2

section Agreement
variable {py : Stdlib} {collation : Collation} {R : Set (String × String)} {s : Memory}

/-- A call that leaves both states alone. -/
theorem Agrees.of_same {c : Call} (r : Except Raise (Option MediaJob))
    (hmemory : (machine py).step s c = (r, s))
    (hpostgres : (Postgres.machine py collation).step s.tableOf c = (r, s.tableOf))
    (hs : Stored s) : Agrees py collation s c := by
  refine ⟨by rw [hmemory, hpostgres], ?_⟩
  rw [hmemory]
  exact hs

/-- A call that a lease is needed for. -/
theorem Agrees.of_liveLease (hiso : py.ReadsIsoformat) (h : Coherent py R s) (hs : Stored s)
    {c : Call} (siteId jobId workerId : String) (fencingToken : ℤ) (now : Timestamptz)
    (f : MediaRow → MediaRow) (g : MediaJob → MediaJob)
    (hfg : ∀ job, f (encode job) = encode (g job))
    (hkey : ∀ job, (g job).siteId = job.siteId ∧ (g job).jobId = job.jobId)
    (hg : ∀ job, s.jobs.get? (siteId, jobId) = some job → job.status = .leased →
      job.IsStorable → (g job).IsStorable)
    (hmemory : (machine py).step s c =
      match (s.jobs.get? (siteId, jobId)).filter (isLiveLease workerId fencingToken now) with
      | none => (.error (.leaseConflict "lease_lost"), s)
      | some job => (.ok (some (g job)), { s with jobs := s.jobs.set (siteId, jobId) (g job) }))
    (hpostgres : (Postgres.machine py collation).step s.tableOf c =
      (some <$> Proc.atomically (do
        let rows ← Postgres.update (Postgres.isLiveLease siteId jobId workerId fencingToken now) f
        Postgres.requiredLeaseRow py rows : PgOp MediaJob)).run s.tableOf) :
    Agrees py collation s c := by
  have hlive : ∀ job, s.jobs.get? (siteId, jobId) = some job →
      isLiveLease workerId fencingToken now job = true →
        (siteId, jobId) = ((g job).siteId, (g job).jobId) ∧ (g job).IsStorable := by
    intro job hget hlease
    simp only [isLiveLease, Bool.and_eq_true, decide_eq_true_eq] at hlease
    obtain ⟨hsite, hjob⟩ := hkey job
    rw [hsite, hjob]
    exact ⟨(h.indexed.job_request _ job hget).1, hg job hget hlease.1.1.1 (hs _ job hget)⟩
  have hrun := run_liveLease_update hiso now hfg hlive
  constructor
  · rw [hmemory, hpostgres, Proc.run_map, Proc.run_atomically, hrun]
    cases (s.jobs.get? (siteId, jobId)).filter (isLiveLease workerId fencingToken now) <;> rfl
  · rw [hmemory]
    cases hfilter : (s.jobs.get? (siteId, jobId)).filter
        (isLiveLease workerId fencingToken now) with
    | none => exact hs
    | some job =>
        obtain ⟨hget, hlease⟩ := Option.filter_eq_some_iff.mp hfilter
        exact hs.set (hlive job hget hlease).2

theorem exists_plus_of_leaseFits {siteId workerId : String} {now : Option Datetime} {now' : Datetime}
    {leaseDuration : Timedelta} (h : leaseFits siteId workerId now leaseDuration = true)
    (hvalid : validateLeaseInput siteId workerId now leaseDuration = .ok now') :
    ∃ expiry, plus now' leaseDuration = .ok expiry := by
  simp only [leaseFits, hvalid] at h
  cases hplus : plus now' leaseDuration with
  | ok expiry => exact ⟨expiry, rfl⟩
  | error e =>
      rw [hplus] at h
      cases h

theorem agrees_heartbeat (hiso : py.ReadsIsoformat) (h : Coherent py R s) (hs : Stored s)
    {siteId jobId workerId : String} {fencingToken : ℤ} {now : Option Datetime}
    {leaseDuration : Timedelta}
    (hfits : (Call.heartbeat siteId jobId workerId fencingToken now leaseDuration).fits s = true) :
    Agrees py collation s (.heartbeat siteId jobId workerId fencingToken now leaseDuration) := by
  simp only [Call.fits, Call.siteId, Call.texts, Bool.and_eq_true] at hfits
  obtain ⟨⟨⟨hlength, hsite⟩, htexts⟩, hlease⟩ := hfits
  have hparameters : Postgres.parameters [siteId, jobId, workerId] = .ok () :=
    parameters_ok (by rw [List.all_cons, hsite, htexts]; rfl) rfl
  cases hvalid : validateLeaseInput siteId workerId now leaseDuration with
  | error e =>
      refine .of_same (.error e) ?_ ?_ hs
      · simp only [machine, perform, Proc.run_map, run_heartbeat, hvalid]
        rfl
      · simp only [Postgres.machine, Postgres.perform, Postgres.heartbeat, Proc.run_map,
          Proc.run_lift_bind, hvalid]
        rfl
  | ok now' =>
      obtain ⟨expiry, hplus⟩ := exists_plus_of_leaseFits hlease hvalid
      refine .of_liveLease hiso h hs siteId jobId workerId fencingToken now'.instant
        (Postgres.setRenewed now' expiry)
        (fun job => job.renewed now' expiry) (fun _ => rfl) (fun _ => ⟨rfl, rfl⟩)
        (fun job _ hleased hjob => hjob.renewed hleased now' expiry) ?_ ?_
      · simp only [machine, perform, Proc.run_map, run_heartbeat, hvalid, hplus]
        cases (s.jobs.get? (siteId, jobId)).filter
          (isLiveLease workerId fencingToken now'.instant) <;> rfl
      · simp only [Postgres.machine, Postgres.perform, Postgres.heartbeat, Proc.run_map,
          Proc.run_lift_bind, hvalid, Proc.run_atomically, setSite_ok hlength hsite, hplus,
          hparameters]

theorem validateReasonCodes_of_completion {now : Option Datetime} {status : MediaJobStatus}
    {reasonCodes : List String} {now' : Datetime}
    (h : validateCompletion now status reasonCodes = .ok now') :
    validateReasonCodes reasonCodes = .ok () := by
  unfold validateCompletion at h
  obtain ⟨_, -, h⟩ := Proc.bind_eq_ok.mp h
  split at h
  · cases h
  · dsimp only at h
    obtain ⟨_, hcodes, -⟩ := Proc.bind_eq_ok.mp h
    exact hcodes

theorem validateReasonCodes_of_retry {now retryAt : Option Datetime} {reasonCodes : List String}
    {times : Datetime × Datetime} (h : validateRetry now retryAt reasonCodes = .ok times) :
    validateReasonCodes reasonCodes = .ok () := by
  unfold validateRetry at h
  obtain ⟨_, -, h⟩ := Proc.bind_eq_ok.mp h
  obtain ⟨_, -, h⟩ := Proc.bind_eq_ok.mp h
  split at h
  · cases h
  · dsimp only at h
    obtain ⟨_, hcodes, -⟩ := Proc.bind_eq_ok.mp h
    exact hcodes

theorem agrees_complete (hiso : py.ReadsIsoformat) (h : Coherent py R s) (hs : Stored s)
    {siteId jobId workerId : String} {fencingToken : ℤ} {now : Option Datetime}
    {status : MediaJobStatus} {reasonCodes : List String} {transcriptRef : Option String}
    {artifactProof : Option MediaArtifactProof}
    (hfits : (Call.complete siteId jobId workerId fencingToken now status reasonCodes transcriptRef
      artifactProof).fits s = true) :
    Agrees py collation s (.complete siteId jobId workerId fencingToken now status reasonCodes
      transcriptRef artifactProof) := by
  simp only [Call.fits, Call.siteId, Call.texts, Bool.and_eq_true] at hfits
  obtain ⟨⟨⟨hlength, hsite⟩, htexts⟩, htranscript, hmay⟩ := hfits
  cases hvalid : validateCompletion now status reasonCodes with
  | error e =>
      refine .of_same (.error e) ?_ ?_ hs
      · simp only [machine, perform, Proc.run_map, run_complete, hvalid]
        rfl
      · simp only [Postgres.machine, Postgres.perform, Postgres.complete, Proc.run_map,
          Proc.run_lift_bind, hvalid]
        rfl
  | ok now' =>
      have hcodes := isJsonb_of_reasonCodes (validateReasonCodes_of_completion hvalid)
      have hparameters : Postgres.parameters ([siteId, jobId, workerId] ++ transcriptRef.toList)
          (Json.ofStrs reasonCodes :: artifactProof.toList.map proofDocument) = .ok () := by
        refine parameters_ok ?_ ?_
        · rw [List.cons_append, List.all_cons, hsite]
          exact htexts
        · rw [List.all_cons, hcodes]
          cases artifactProof with
          | none => rfl
          | some proof => simp [isJsonb_proofDocument]
      refine .of_liveLease hiso h hs siteId jobId workerId fencingToken now'.instant
        (Postgres.setCompleted status reasonCodes transcriptRef artifactProof now')
        (fun job => job.completed status reasonCodes transcriptRef artifactProof now')
        (fun _ => rfl) (fun _ => ⟨rfl, rfl⟩) ?_ ?_ ?_
      · intro job hget _ hjob
        rw [hget] at hmay
        exact hjob.completed hiso (validateCompletion_ok hvalid) htranscript hmay reasonCodes now'
      · simp only [machine, perform, Proc.run_map, run_complete, hvalid]
        cases (s.jobs.get? (siteId, jobId)).filter
          (isLiveLease workerId fencingToken now'.instant) <;> rfl
      · simp only [Postgres.machine, Postgres.perform, Postgres.complete, Proc.run_map,
          Proc.run_lift_bind, hvalid, Proc.run_atomically, setSite_ok hlength hsite, hparameters]

theorem agrees_retry (hiso : py.ReadsIsoformat) (h : Coherent py R s) (hs : Stored s)
    {siteId jobId workerId : String} {fencingToken : ℤ} {now retryAt : Option Datetime}
    {reasonCodes : List String}
    (hfits : (Call.retry siteId jobId workerId fencingToken now retryAt reasonCodes).fits s =
      true) :
    Agrees py collation s (.retry siteId jobId workerId fencingToken now retryAt reasonCodes) := by
  simp only [Call.fits, Call.siteId, Call.texts, Bool.and_eq_true] at hfits
  obtain ⟨⟨⟨hlength, hsite⟩, htexts⟩, -⟩ := hfits
  cases hvalid : validateRetry now retryAt reasonCodes with
  | error e =>
      refine .of_same (.error e) ?_ ?_ hs
      · simp only [machine, perform, Proc.run_map, run_retry, hvalid]
        rfl
      · simp only [Postgres.machine, Postgres.perform, Postgres.retry, Proc.run_map,
          Proc.run_lift_bind, hvalid]
        rfl
  | ok times =>
      obtain ⟨now', retryAt'⟩ := times
      have hcodes := isJsonb_of_reasonCodes (validateReasonCodes_of_retry hvalid)
      have hparameters : Postgres.parameters [siteId, jobId, workerId]
          [Json.ofStrs reasonCodes] = .ok () := by
        refine parameters_ok ?_ ?_
        · rw [List.all_cons, hsite]
          exact htexts
        · rw [List.all_cons, hcodes]
          rfl
      refine .of_liveLease hiso h hs siteId jobId workerId fencingToken now'.instant
        (Postgres.setRetried retryAt' reasonCodes now')
        (fun job => job.retried retryAt' reasonCodes now') (fun _ => rfl) (fun _ => ⟨rfl, rfl⟩)
        (fun job _ _ hjob => hjob.retried retryAt' reasonCodes now') ?_ ?_
      · simp only [machine, perform, Proc.run_map, run_retry, hvalid]
        cases (s.jobs.get? (siteId, jobId)).filter
          (isLiveLease workerId fencingToken now'.instant) <;> rfl
      · simp only [Postgres.machine, Postgres.perform, Postgres.retry, Proc.run_map,
          Proc.run_lift_bind, hvalid, Proc.run_atomically, setSite_ok hlength hsite, hparameters]

theorem items_tableOf (s : Memory) :
    s.tableOf.items = s.jobs.items.map fun e => (e.1, encode e.2) := rfl

theorem Stored.reaped (hs : Stored s) (siteId : String) (now : Datetime) :
    Stored (s.reaped siteId now) := by
  intro key job hget
  rw [Memory.reaped, Dict.get?_updateIf] at hget
  obtain ⟨job₀, hget₀, rfl⟩ := Option.map_eq_some_iff.mp hget
  split
  · exact (hs key job₀ hget₀).reaped now
  · exact hs key job₀ hget₀

/-- Reaping goes the same way on both sides. -/
theorem run_reapExhausted (h : Coherent py R s) (hs : Stored s) (siteId : String)
    (now : Datetime) : ∃ updated,
      (Postgres.update (Postgres.isExhausted siteId now.instant) (Postgres.setReaped now)).run
        s.tableOf = (.ok updated, (s.reaped siteId now).tableOf) := by
  have hmap : (s.reaped siteId now).tableOf = s.tableOf.updateIf
      (Postgres.isExhausted siteId now.instant) (Postgres.setReaped now) :=
    Dict.map_updateIf encode (fun _ _ => rfl) fun _ => rfl
  refine ⟨_, (Postgres.run_update ?_).trans (Prod.ext rfl hmap.symm)⟩
  intro e he _
  obtain ⟨job, hget, hencode⟩ := mem_tableOf he
  obtain ⟨hname, -⟩ := h.indexed.job_request e.1 job hget
  rw [hencode, hname]
  exact ((hs e.1 job hget).reaped now).admitted

theorem candidate_tableOf (hcollation : OrdersJobIds py collation) (h : Coherent py R s)
    (siteId : String) (now : Timestamptz) :
    Postgres.candidate collation siteId now s.tableOf =
      (s.candidate siteId now).map fun job => ((siteId, job.jobId), encode job) := by
  have hfilter : s.tableOf.items.filter (Postgres.isCandidate siteId now) =
      (s.jobs.items.filter (isCandidate siteId now)).map fun e => (e.1, encode e.2) := by
    rw [items_tableOf, List.filter_map]
    rfl
  have hmem : ∀ e ∈ s.jobs.items.filter (isCandidate siteId now),
      e.1 = (siteId, e.2.jobId) ∧ ∃ requestId, e.2.jobId = jobIdOf py siteId requestId := by
    rintro ⟨key, job⟩ he
    obtain ⟨hitem, hready⟩ := List.mem_filter.mp he
    simp only [isCandidate, Bool.and_eq_true, decide_eq_true_eq] at hready
    have hget := Dict.mem_items.mp hitem
    obtain ⟨hname, -⟩ := h.indexed.job_request key job hget
    have hsite : job.siteId = siteId := by rw [← hready.1.1, hname]
    obtain ⟨hid, -⟩ := h.named key job hget
    exact ⟨by rw [hname, hsite], job.requestId, by rw [hid, hsite]⟩
  have hrow : ((s.jobs.items.filter (isCandidate siteId now)).insertionSort
        fun e e' => precedes e.2 e'.2).map (fun e => (e.1, encode e.2)) =
      ((s.jobs.items.filter (isCandidate siteId now)).map fun e =>
        (e.1, encode e.2)).insertionSort (Postgres.precedes collation) := by
    refine List.map_insertionSort _ _ _ _ fun e he e' he' => ?_
    obtain ⟨hkey, requestId, hid⟩ := hmem e he
    obtain ⟨hkey', requestId', hid'⟩ := hmem e' he'
    have hle : collation.le e.1.2 e'.1.2 = true ↔ e.2.jobId ≤ e'.2.jobId := by
      rw [hkey, hkey', hid, hid']
      exact hcollation siteId requestId siteId requestId'
    simp only [precedes, Postgres.precedes, hle]
    exact Iff.rfl
  have hjob : ((s.jobs.items.filter (isCandidate siteId now)).insertionSort
        fun e e' => precedes e.2 e'.2).map Prod.snd =
      ((s.jobs.items.filter (isCandidate siteId now)).map Prod.snd).insertionSort precedes :=
    List.map_insertionSort _ _ _ _ fun _ _ _ _ => Iff.rfl
  rw [Postgres.candidate, candidate, hfilter, ← hrow, ← hjob, List.head?_map, List.head?_map]
  cases hhead : ((s.jobs.items.filter (isCandidate siteId now)).insertionSort
      fun e e' => precedes e.2 e'.2).head? with
  | none => rfl
  | some e =>
      obtain ⟨hkey, -⟩ := hmem e (mem_of_head?_insertionSort hhead)
      rw [Option.map_some, Option.map_some, Option.map_some, hkey]

theorem lengthWithin_of_lease {siteId workerId : String} {now : Option Datetime} {now' : Datetime}
    {leaseDuration : Timedelta}
    (hvalid : validateLeaseInput siteId workerId now leaseDuration = .ok now')
    (hlength : workerId.toList.length ≤ 256) : lengthWithin 256 workerId = true := by
  unfold validateLeaseInput at hvalid
  split at hvalid
  · cases hvalid
  · split at hvalid
    · cases hvalid
    · next hnames =>
        have hne : workerId.toList ≠ [] := by
          intro hnil
          exact hnames (.inr (String.toList_eq_nil_iff.mp hnil))
        have hpos := List.length_pos_of_ne_nil hne
        simp only [lengthWithin, Bool.and_eq_true, decide_eq_true_eq]
        omega

theorem run_takeCandidate_none {rows : MediaTable} {siteId workerId : String}
    {now expiry : Datetime} (h : Postgres.candidate collation siteId now.instant rows = none) :
    (Postgres.takeCandidate py collation siteId workerId now expiry).run rows = (.ok none, rows) := by
  have hnone : ∀ e ∈ rows.items,
      (Postgres.candidate collation siteId now.instant rows).any (·.1 = e.1) = false := by
    intro e _
    rw [h]
    rfl
  rw [Postgres.takeCandidate, Proc.run_getThe_bind]
  dsimp only
  rw [Proc.run_bind_ok (Postgres.run_update_none hnone)]
  rfl

theorem run_takeCandidate_some {rows : MediaTable} {siteId workerId : String}
    {now expiry : Datetime} {key : String × String} {row : MediaRow} {job : MediaJob}
    (h : Postgres.candidate collation siteId now.instant rows = some (key, row))
    (hget : rows.get? key = some row)
    (hadmitted : (Postgres.setClaimed workerId now expiry row).isAdmitted key = true)
    (hdecoded : Postgres.jobFromRow py (key, Postgres.setClaimed workerId now expiry row) =
      .ok job) :
    (Postgres.takeCandidate py collation siteId workerId now expiry).run rows =
      (.ok (some job), rows.set key (Postgres.setClaimed workerId now expiry row)) := by
  have hone : ∀ e ∈ rows.items,
      (Postgres.candidate collation siteId now.instant rows).any (·.1 = e.1) = true ↔
        e.1 = key := by
    intro e _
    rw [h]
    simp [eq_comm]
  rw [Postgres.takeCandidate, Proc.run_getThe_bind]
  dsimp only
  rw [Proc.run_bind_ok (Postgres.run_update_one hget hone hadmitted)]
  simp only [List.head?_cons, Option.mapM_some, hdecoded]
  rfl

theorem run_claim_ok {rows reaped : MediaTable} {siteId workerId : String} {now : Option Datetime}
    {leaseDuration : Timedelta} {now' expiry : Datetime} {updated : List MediaEntry}
    {job : Option MediaJob} {t : MediaTable}
    (hvalid : validateLeaseInput siteId workerId now leaseDuration = .ok now')
    (hset : Postgres.setSite siteId = .ok ()) (hplus : plus now' leaseDuration = .ok expiry)
    (hparameters : Postgres.parameters [siteId, workerId] = .ok ())
    (hreap : (Postgres.update (Postgres.isExhausted siteId now'.instant)
      (Postgres.setReaped now')).run rows = (.ok updated, reaped))
    (htake : (Postgres.takeCandidate py collation siteId workerId now' expiry).run reaped = (.ok job, t)) :
    (Postgres.claim py collation siteId workerId now leaseDuration).run rows = (.ok job, t) := by
  rw [Postgres.claim, Proc.run_lift_bind, hvalid]
  dsimp only
  rw [Proc.run_atomically_ok, Proc.run_lift_bind, hset]
  dsimp only
  rw [Proc.run_bind_ok hreap, Proc.run_lift_bind, hplus]
  dsimp only
  rw [Proc.run_lift_bind, hparameters]
  exact htake

theorem agrees_claim (hiso : py.ReadsIsoformat) (hcollation : OrdersJobIds py collation)
    (h : Coherent py R s) (hs : Stored s) {siteId workerId : String} {now : Option Datetime}
    {leaseDuration : Timedelta}
    (hfits : (Call.claim siteId workerId now leaseDuration).fits s = true) :
    Agrees py collation s (.claim siteId workerId now leaseDuration) := by
  simp only [Call.fits, Call.siteId, Call.texts, Bool.and_eq_true, decide_eq_true_eq] at hfits
  obtain ⟨⟨⟨hlength, hsite⟩, htexts⟩, hworker, hlease⟩ := hfits
  have hparameters : Postgres.parameters [siteId, workerId] = .ok () :=
    parameters_ok (by rw [List.all_cons, hsite, htexts]; rfl) rfl
  cases hvalid : validateLeaseInput siteId workerId now leaseDuration with
  | error e =>
      refine .of_same (.error e) ?_ ?_ hs
      · simp only [machine, perform, run_claim, hvalid]
      · simp only [Postgres.machine, Postgres.perform, Postgres.claim, Proc.run_lift_bind, hvalid]
  | ok now' =>
      obtain ⟨expiry, hplus⟩ := exists_plus_of_leaseFits hlease hvalid
      obtain ⟨updated, hreap⟩ := run_reapExhausted h hs siteId now'
      have hreaped := h.evolve (evolves_reaped s siteId now')
      have hstored := hs.reaped siteId now'
      have hcandidate := candidate_tableOf hcollation hreaped siteId now'.instant
      have hrun : ∀ job t, (Postgres.takeCandidate py collation siteId workerId now' expiry).run
          (s.reaped siteId now').tableOf = (.ok job, t) →
            (Postgres.machine py collation).step s.tableOf
              (.claim siteId workerId now leaseDuration) = (.ok job, t) := fun job t =>
        run_claim_ok hvalid (setSite_ok hlength hsite) hplus hparameters hreap
      cases hchosen : (s.reaped siteId now').candidate siteId now'.instant with
      | none =>
          rw [hchosen] at hcandidate
          have hmemory : (machine py).step s (.claim siteId workerId now leaseDuration) =
              (.ok none, s.reaped siteId now') := by
            simp only [machine, perform, run_claim, hvalid, hchosen]
          exact ⟨by rw [hmemory, hrun _ _ (run_takeCandidate_none hcandidate)],
            by rw [hmemory]; exact hstored⟩
      | some current =>
          rw [hchosen] at hcandidate
          have hmemory : (machine py).step s (.claim siteId workerId now leaseDuration) =
              (.ok (some (current.claimed workerId now' expiry)), { s.reaped siteId now' with
                jobs := (s.reaped siteId now').jobs.set (siteId, current.jobId)
                  (current.claimed workerId now' expiry) }) := by
            simp only [machine, perform, run_claim, hvalid, hchosen, hplus]
          obtain ⟨key, hget, hready⟩ := candidate_some hchosen
          simp only [isCandidate, Bool.and_eq_true, decide_eq_true_eq] at hready
          obtain ⟨⟨hkeySite, hattempts⟩, -⟩ := hready
          obtain ⟨hname, -⟩ := hreaped.indexed.job_request key current hget
          obtain rfl : key = (siteId, current.jobId) := by rw [← hkeySite, hname]
          have hclaimed := (hstored _ current hget).claimed (lengthWithin_of_lease hvalid hworker)
            hattempts now' expiry
          have hgetRow : (s.reaped siteId now').tableOf.get? (siteId, current.jobId) =
              some (encode current) := by
            rw [tableOf, Dict.get?_map, hget, Option.map_some]
          have hencode : Postgres.setClaimed workerId now' expiry (encode current) =
              encode (current.claimed workerId now' expiry) := rfl
          have hname' : (siteId, current.jobId) = ((current.claimed workerId now' expiry).siteId,
              (current.claimed workerId now' expiry).jobId) := hname
          have hadmitted : (Postgres.setClaimed workerId now' expiry (encode current)).isAdmitted
              (siteId, current.jobId) = true := by
            rw [hencode, hname']
            exact hclaimed.admitted
          have hdecoded : Postgres.jobFromRow py ((siteId, current.jobId),
              Postgres.setClaimed workerId now' expiry (encode current)) =
                .ok (current.claimed workerId now' expiry) := by
            rw [hencode]
            exact Postgres.jobFromRow_encode hiso hname' hclaimed.received
          have htake := run_takeCandidate_some hcandidate hgetRow hadmitted hdecoded
          refine ⟨?_, by rw [hmemory]; exact hstored.set hclaimed⟩
          rw [hmemory, hrun _ _ htake]
          rw [hencode, tableOf, tableOf, Dict.map_set]

/-- The row of a request is found where the dictionary of requests says. -/
theorem find?_isRequest (h : Indexed s) (siteId requestId : String) :
    s.tableOf.items.find? (Postgres.isRequest siteId requestId) =
      (s.requests.get? (siteId, requestId)).bind fun jobId =>
        (s.jobs.get? (siteId, jobId)).map fun job => ((siteId, jobId), encode job) := by
  have hrow : ∀ e ∈ s.tableOf.items, Postgres.isRequest siteId requestId e = true →
      s.requests.get? (siteId, requestId) = some e.1.2 ∧ e.1.1 = siteId ∧
        ∃ job, s.jobs.get? e.1 = some job ∧ e.2 = encode job := by
    intro e he hrequest
    obtain ⟨job, hget, hencode⟩ := mem_tableOf he
    obtain ⟨hname, hindex⟩ := h.job_request e.1 job hget
    simp only [Postgres.isRequest, hencode, Bool.and_eq_true, decide_eq_true_eq] at hrequest
    obtain ⟨hsite, hid⟩ := hrequest
    have hjobSite : job.siteId = siteId := by rw [← hsite, hname]
    have hjobRequest : job.requestId = requestId := hid
    rw [hjobSite, hjobRequest] at hindex
    exact ⟨by rw [hindex, hname], hsite, job, hget, hencode⟩
  cases hindex : s.requests.get? (siteId, requestId) with
  | none =>
      rw [Option.bind_none, List.find?_eq_none]
      intro e he hrequest
      rw [(hrow e he hrequest).1] at hindex
      cases hindex
  | some jobId =>
      obtain ⟨job, hget, hsite, hid⟩ := h.request_job siteId requestId jobId hindex
      rw [Option.bind_some, hget, Option.map_some]
      have hmem : ((siteId, jobId), encode job) ∈ s.tableOf.items :=
        List.mem_map.mpr ⟨_, Dict.mem_items.mpr hget, rfl⟩
      have hfound : Postgres.isRequest siteId requestId ((siteId, jobId), encode job) = true := by
        simp only [Postgres.isRequest, Bool.and_eq_true, decide_eq_true_eq, true_and]
        exact hid
      cases hfind : s.tableOf.items.find? (Postgres.isRequest siteId requestId) with
      | none =>
          rw [List.find?_eq_none] at hfind
          exact absurd hfound (hfind _ hmem)
      | some e =>
          have he := List.mem_of_find?_eq_some hfind
          obtain ⟨hindex', hsite', -⟩ := hrow e he (List.find?_some hfind)
          have hkey : e.1 = (siteId, jobId) :=
            Prod.ext hsite' (Option.some.inj (hindex'.symm.trans hindex))
          exact congrArg some (s.tableOf.entries.eq_of_key he hmem hkey)

theorem run_select (p : MediaEntry → Bool) (rows : MediaTable) :
    (Postgres.select p).run rows = (.ok (rows.items.find? p), rows) := rfl

theorem agrees_get (hiso : py.ReadsIsoformat) (h : Coherent py R s) (hs : Stored s)
    {siteId jobId : String} (hfits : (Call.get siteId jobId).fits s = true) :
    Agrees py collation s (.get siteId jobId) := by
  simp only [Call.fits, Call.siteId, Call.texts, Bool.and_eq_true] at hfits
  obtain ⟨⟨⟨hlength, hsite⟩, htexts⟩, -⟩ := hfits
  have hparameters : Postgres.parameters [siteId, jobId] = .ok () :=
    parameters_ok (by rw [List.all_cons, hsite, htexts]; rfl) rfl
  have hfind : s.tableOf.items.find? (fun e => e.1 = (siteId, jobId)) =
      (s.jobs.get? (siteId, jobId)).map fun job => ((siteId, jobId), encode job) := by
    rw [Dict.find?_items, tableOf, Dict.get?_map, Option.map_map]
    rfl
  have hmemory : (machine py).step s (.get siteId jobId) =
      (.ok (s.jobs.get? (siteId, jobId)), s) := rfl
  refine .of_same _ hmemory ?_ hs
  simp only [Postgres.machine, Postgres.perform, Postgres.get, Proc.run_atomically,
    Proc.run_lift_bind, setSite_ok hlength hsite, hparameters, Proc.run_bind_ok (run_select _ _),
    hfind]
  cases hget : s.jobs.get? (siteId, jobId) with
  | none => rfl
  | some job =>
      obtain ⟨hname, -⟩ := h.indexed.job_request _ job hget
      simp only [Option.map_some, Option.mapM_some,
        Postgres.jobFromRow_encode hiso hname (hs _ job hget).received]
      rfl

theorem agrees_getByRequest (hiso : py.ReadsIsoformat) (h : Coherent py R s) (hs : Stored s)
    {siteId requestId : String} (hfits : (Call.getByRequest siteId requestId).fits s = true) :
    Agrees py collation s (.getByRequest siteId requestId) := by
  simp only [Call.fits, Call.siteId, Call.texts, Bool.and_eq_true] at hfits
  obtain ⟨⟨⟨hlength, hsite⟩, htexts⟩, -⟩ := hfits
  have hparameters : Postgres.parameters [siteId, requestId] = .ok () :=
    parameters_ok (by rw [List.all_cons, hsite, htexts]; rfl) rfl
  have hfind := find?_isRequest h.indexed siteId requestId
  cases hindex : s.requests.get? (siteId, requestId) with
  | none =>
      rw [hindex, Option.bind_none] at hfind
      refine .of_same (.ok none) ?_ ?_ hs
      · simp only [machine, perform, getByRequest, Proc.run_get_bind, hindex]
        rfl
      · simp only [Postgres.machine, Postgres.perform, Postgres.getByRequest, Proc.run_atomically,
          Proc.run_lift_bind, setSite_ok hlength hsite, hparameters,
          Proc.run_bind_ok (run_select _ _), hfind]
        rfl
  | some jobId =>
      obtain ⟨job, hget, -⟩ := h.indexed.request_job siteId requestId jobId hindex
      obtain ⟨hname, -⟩ := h.indexed.job_request _ job hget
      rw [hindex, Option.bind_some, hget, Option.map_some] at hfind
      refine .of_same (.ok (some job)) ?_ ?_ hs
      · simp only [machine, perform, getByRequest, Proc.run_get_bind, hindex, hget]
        rfl
      · simp only [Postgres.machine, Postgres.perform, Postgres.getByRequest, Proc.run_atomically,
          Proc.run_lift_bind, setSite_ok hlength hsite, hparameters,
          Proc.run_bind_ok (run_select _ _), hfind, Option.mapM_some,
          Postgres.jobFromRow_encode hiso hname (hs _ job hget).received]
        rfl

theorem length_jobIdOf (hhex : py.HexDigests) (siteId requestId : String) :
    (jobIdOf py siteId requestId).toList.length = 38 := by
  have hdigest := hhex ("\x1f".intercalate ["local-media-job-v1", siteId, requestId]).toList
  rw [isDigest, Bool.and_eq_true, decide_eq_true_eq] at hdigest
  simp only [jobIdOf, String.toList_append, String.toList_ofList, List.length_append,
    List.length_take, hdigest.1]
  decide

theorem isText_jobIdOf (hhex : py.HexDigests) (siteId requestId : String) :
    isText (jobIdOf py siteId requestId) = true := by
  have hdigest := hhex ("\x1f".intercalate ["local-media-job-v1", siteId, requestId]).toList
  rw [isDigest, Bool.and_eq_true, List.all_eq_true] at hdigest
  refine isText_of_forall
    (p := fun c => "0123456789abcdef".toList.contains c || "media-".toList.contains c)
    (by decide) fun c hc => ?_
  simp only [jobIdOf, String.toList_append, String.toList_ofList, List.mem_append] at hc
  rcases hc with hc | hc
  · rw [List.contains_iff_mem.mpr hc, Bool.or_true]
  · rw [hdigest.2 c (List.mem_of_mem_take hc), Bool.true_or]

theorem isDigest_digest (hhex : py.HexDigests) (submission : MediaJobSubmission) :
    isDigest (submission.digest py) = true := hhex _

/-- The row of a submission that fits passes the checks of the table. -/
theorem isStorable_newJob (hhex : py.HexDigests) {submission : MediaJobSubmission}
    (hsite : lengthWithin 140 submission.receipt.siteId = true)
    (hrequest : lengthWithin 256 submission.receipt.requestId = true)
    (hreceived : (Datetime.of? submission.receipt.receivedAt 0).isSome = true)
    (hiso : py.ReadsIsoformat) (now : Datetime) : (newJob py submission now).IsStorable := by
  obtain ⟨text, hcontract, -⟩ := toContract_ok hiso hreceived
  have hid : lengthWithin 256 (newJob py submission now).jobId = true := by
    change lengthWithin 256 (jobIdOf py _ _) = true
    rw [lengthWithin, length_jobIdOf hhex]
    rfl
  have hreceipt : (encode (newJob py submission now)).receipt.isObj = true := by
    change ((toContract submission.receipt).toOption.getD .null).isObj = true
    rw [hcontract]
    rfl
  have hdigest : isDigest (encode (newJob py submission now)).submissionDigest = true :=
    isDigest_digest hhex submission
  have hspec : (encode (newJob py submission now)).workSpec.isObj = true := rfl
  refine ⟨hreceived, ?_⟩
  rw [MediaRow.isAdmitted, Bool.and_eq_true]
  constructor
  · simp only [MediaRow.hasValidInput, hid, hreceipt, hdigest, hspec, Bool.and_eq_true,
      decide_eq_true_eq, and_true]
    exact ⟨⟨⟨hsite, hrequest⟩, submission.maxAttempts_mem.1⟩, submission.maxAttempts_mem.2⟩
  · exact hasValidState_encode.mpr ⟨le_rfl, le_rfl, rfl, rfl,
      le_trans Int.one_nonneg submission.maxAttempts_mem.1, le_rfl, rfl,
      hasValidArtifact_of_ne (by simp [newJob])⟩

theorem run_insert_new {rows : MediaTable} {key : String × String} {row : MediaRow}
    (hadmitted : row.isAdmitted key = true)
    (hfind : rows.items.find? (Postgres.isRequest key.1 row.requestId) = none)
    (hget : rows.get? key = none) :
    (Postgres.insert key row).run rows = (.ok (some (key, row)), rows.set key row) := by
  rw [Postgres.insert, Proc.run_lift_bind, Postgres.checkRow, if_pos hadmitted]
  dsimp only
  rw [Proc.run_get_bind, hfind, hget]
  rfl

theorem run_insert_conflict {rows : MediaTable} {key : String × String} {row : MediaRow}
    {e : MediaEntry} (hadmitted : row.isAdmitted key = true)
    (hfind : rows.items.find? (Postgres.isRequest key.1 row.requestId) = some e) :
    (Postgres.insert key row).run rows = (.ok none, rows) := by
  rw [Postgres.insert, Proc.run_lift_bind, Postgres.checkRow, if_pos hadmitted]
  dsimp only
  rw [Proc.run_get_bind, hfind]
  rfl

/-- The parameters of an insert that fits. -/
theorem parameters_insert (hhex : py.HexDigests) {submission : MediaJobSubmission} {text : String}
    (hsite : isText submission.receipt.siteId = true)
    (htexts : (Call.texts (.enqueue submission none)).all isText = true)
    (htext : isText text = true) :
    Postgres.parameters [jobIdOf py submission.receipt.siteId submission.receipt.requestId,
        submission.receipt.siteId, submission.receipt.requestId, submission.digest py]
      [contractOf submission.receipt text, workSpecOf submission.durationMs submission.channels
        submission.sampleRate submission.languageHint] = .ok () := by
  simp only [Call.texts, List.all_append, List.all_cons, List.all_nil, Bool.and_eq_true,
    and_true] at htexts
  obtain ⟨⟨hreceipt, hpurpose, hrequest, hmedia, hsha, hobject, hevidence, hchecksum, hconsent⟩,
    hhint⟩ := htexts
  refine parameters_ok ?_ ?_
  · simp only [List.all_cons, List.all_nil, isText_jobIdOf hhex, hsite, hrequest,
      isText_of_isDigest (isDigest_digest hhex submission), Bool.and_true]
  · have hkind : isText submission.receipt.sourceKind.value = true := by
      cases submission.receipt.sourceKind <;> decide
    have hspec : Postgres.isJsonb (Json.ofOption .str submission.languageHint) = true := by
      cases hh : submission.languageHint with
      | none => rfl
      | some hint =>
          rw [hh] at hhint
          simpa [Json.ofOption, Postgres.isJsonb] using hhint
    simp only [List.all_cons, List.all_nil, contractOf, workSpecOf, Postgres.isJsonb,
      Postgres.areMembers, hreceipt, hpurpose, hrequest, hmedia, hsha, hobject, hevidence,
      hchecksum, hconsent, hsite, htext, hkind, hspec, Bool.and_true]
    decide

theorem run_insertOrFind_new {rows : MediaTable} {submission : MediaJobSubmission}
    {key : String × String} {row : MediaRow} {job : MediaJob}
    (hadmitted : row.isAdmitted key = true)
    (hfind : rows.items.find? (Postgres.isRequest key.1 row.requestId) = none)
    (hget : rows.get? key = none) (hdecoded : Postgres.jobFromRow py (key, row) = .ok job) :
    (Postgres.insertOrFind py submission key row).run rows = (.ok job, rows.set key row) := by
  rw [Postgres.insertOrFind, Proc.run_bind_ok (run_insert_new hadmitted hfind hget)]
  dsimp only
  rw [hdecoded]
  rfl

theorem run_insertOrFind_conflict {rows : MediaTable} {submission : MediaJobSubmission}
    {key : String × String} {row : MediaRow} {e : MediaEntry} {job : MediaJob}
    (hadmitted : row.isAdmitted key = true)
    (hfind : rows.items.find? (Postgres.isRequest key.1 row.requestId) = some e)
    (hdecoded : Postgres.jobFromRow py e = .ok job) :
    (Postgres.insertOrFind py submission key row).run rows =
      if job.submissionDigest ≠ submission.digest py then
        (.error (.valueError "idempotency_conflict"), rows)
      else (.ok job, rows) := by
  rw [Postgres.insertOrFind, Proc.run_bind_ok (run_insert_conflict hadmitted hfind)]
  dsimp only
  rw [Proc.run_bind_ok (run_select _ _), hfind]
  dsimp only
  rw [hdecoded, Proc.run_lift_bind]
  dsimp only
  split <;> rfl

theorem agrees_enqueue (hhex : py.HexDigests) (hiso : py.ReadsIsoformat)
    (hfree : CollisionFree py R) (h : Coherent py R s) (hs : Stored s)
    {submission : MediaJobSubmission} {now : Option Datetime}
    (hmem : (submission.receipt.siteId, submission.receipt.requestId) ∈ R)
    (hfits : (Call.enqueue submission now).fits s = true) :
    Agrees py collation s (.enqueue submission now) := by
  simp only [Call.fits, Call.siteId, Bool.and_eq_true] at hfits
  obtain ⟨⟨⟨hlength, hsite⟩, htexts⟩, hrequest, hreceived⟩ := hfits
  obtain ⟨text, hcontract, -, htext⟩ := toContract_ok hiso hreceived
  cases hnow : requireAware now with
  | error e =>
      refine .of_same (.error e) ?_ ?_ hs
      · simp only [machine, perform, enqueue, Proc.run_map, Proc.run_lift_bind, hnow]
        rfl
      · simp only [Postgres.machine, Postgres.perform, Postgres.enqueue, Proc.run_map,
          Proc.run_lift_bind, hnow]
        rfl
  | ok now' =>
      have hstorable := isStorable_newJob hhex hlength hrequest hreceived hiso now'
      have hrow : Postgres.insertedRow py submission (contractOf submission.receipt text) now' =
          encode (newJob py submission now') := by
        have hreceipt : (toContract submission.receipt).toOption.getD .null =
            contractOf submission.receipt text := by
          rw [hcontract]
          rfl
        rw [← hreceipt]
        rfl
      have hpostgres : (Postgres.machine py collation).step s.tableOf (.enqueue submission now) =
          (some <$> Proc.atomically (Postgres.insertOrFind py submission
            (submission.receipt.siteId, (newJob py submission now').jobId)
            (encode (newJob py submission now')))).run s.tableOf := by
        have hparameters : Postgres.parameters
            [jobIdOf py submission.receipt.siteId submission.receipt.requestId,
              submission.receipt.siteId, submission.receipt.requestId, submission.digest py]
            [(Postgres.insertedRow py submission (contractOf submission.receipt text) now').receipt,
              (Postgres.insertedRow py submission (contractOf submission.receipt text)
                now').workSpec] = .ok () := parameters_insert hhex hsite htexts htext
        rw [← hrow]
        simp only [Postgres.machine, Postgres.perform, Postgres.enqueue, Proc.run_map,
          Proc.run_lift_bind, hnow, hcontract, Proc.run_atomically, setSite_ok hlength hsite,
          hparameters]
        rfl
      have hfind := find?_isRequest h.indexed submission.receipt.siteId
        submission.receipt.requestId
      cases hindex : s.requests.get?
          (submission.receipt.siteId, submission.receipt.requestId) with
      | none =>
          rw [hindex, Option.bind_none] at hfind
          have hget : s.tableOf.get? (submission.receipt.siteId,
              (newJob py submission now').jobId) = none := by
            rw [tableOf, Dict.get?_map, h.free hfree hmem hindex now']
            rfl
          have hdecoded := Postgres.jobFromRow_encode hiso rfl hstorable.received
          have hrun : (Postgres.insertOrFind py submission
              (submission.receipt.siteId, (newJob py submission now').jobId)
              (encode (newJob py submission now'))).run s.tableOf =
                (.ok (newJob py submission now'), s.tableOf.set (submission.receipt.siteId,
                  (newJob py submission now').jobId) (encode (newJob py submission now'))) :=
            run_insertOrFind_new hstorable.admitted hfind hget hdecoded
          have hmemory : (machine py).step s (.enqueue submission now) =
              (.ok (some (newJob py submission now')),
                { jobs := s.jobs.set (submission.receipt.siteId,
                    (newJob py submission now').jobId) (newJob py submission now')
                  requests := s.requests.set (submission.receipt.siteId,
                    submission.receipt.requestId) (newJob py submission now').jobId }) := by
            simp only [machine, perform, enqueue, Proc.run_map, Proc.run_lift_bind, hnow,
              Proc.run_get_bind, hindex]
            rfl
          constructor
          · rw [hmemory, hpostgres, Proc.run_map, Proc.run_atomically, hrun, tableOf, tableOf,
              Dict.map_set]
            rfl
          · rw [hmemory]
            exact hs.set hstorable
      | some jobId =>
          obtain ⟨job, hget, -⟩ := h.indexed.request_job _ _ jobId hindex
          obtain ⟨hname, -⟩ := h.indexed.job_request _ job hget
          rw [hindex, Option.bind_some, hget, Option.map_some] at hfind
          have hdecoded := Postgres.jobFromRow_encode hiso hname (hs _ job hget).received
          have hrun : (Postgres.insertOrFind py submission
              (submission.receipt.siteId, (newJob py submission now').jobId)
              (encode (newJob py submission now'))).run s.tableOf =
                if job.submissionDigest ≠ submission.digest py then
                  (.error (.valueError "idempotency_conflict"), s.tableOf)
                else (.ok job, s.tableOf) :=
            run_insertOrFind_conflict hstorable.admitted hfind hdecoded
          by_cases hdigest : job.submissionDigest = submission.digest py
          · rw [if_neg (not_not_intro hdigest)] at hrun
            refine .of_same (.ok (some job)) ?_ ?_ hs
            · simp only [machine, perform, enqueue, Proc.run_map, Proc.run_lift_bind, hnow,
                Proc.run_get_bind, hindex, hget, if_neg (not_not_intro hdigest)]
              rfl
            · rw [hpostgres, Proc.run_map, Proc.run_atomically, hrun]
              rfl
          · rw [if_pos hdigest] at hrun
            refine .of_same (.error (.valueError "idempotency_conflict")) ?_ ?_ hs
            · simp only [machine, perform, enqueue, Proc.run_map, Proc.run_lift_bind, hnow,
                Proc.run_get_bind, hindex, hget, if_pos hdigest]
              rfl
            · rw [hpostgres, Proc.run_map, Proc.run_atomically, hrun]
              rfl

/-- Every call that fits is answered alike. -/
theorem agrees (hhex : py.HexDigests) (hiso : py.ReadsIsoformat)
    (hcollation : OrdersJobIds py collation) (hfree : CollisionFree py R) (h : Coherent py R s)
    (hs : Stored s) {c : Call} (hfits : c.fits s = true)
    (hc : ∀ submission now, c = .enqueue submission now →
      (submission.receipt.siteId, submission.receipt.requestId) ∈ R) :
    Agrees py collation s c := by
  cases c with
  | enqueue submission now => exact agrees_enqueue hhex hiso hfree h hs (hc _ _ rfl) hfits
  | get siteId jobId => exact agrees_get hiso h hs hfits
  | getByRequest siteId requestId => exact agrees_getByRequest hiso h hs hfits
  | claim siteId workerId now leaseDuration => exact agrees_claim hiso hcollation h hs hfits
  | heartbeat siteId jobId workerId fencingToken now leaseDuration =>
      exact agrees_heartbeat hiso h hs hfits
  | complete siteId jobId workerId fencingToken now status reasonCodes transcriptRef
      artifactProof => exact agrees_complete hiso h hs hfits
  | retry siteId jobId workerId fencingToken now retryAt reasonCodes =>
      exact agrees_retry hiso h hs hfits

/-- **Both repositories give the same answers**, in every run of calls that fit and whose requests
have different job identifiers. -/
theorem run_refines (hhex : py.HexDigests) (hiso : py.ReadsIsoformat)
    (hcollation : OrdersJobIds py collation) {calls : List Call}
    (hfree : CollisionFree py (requestsOf calls))
    (hfits : (machine py).Guarded (fun s c => c.fits s = true) {} calls) :
    (Postgres.machine py collation).trace Dict.empty calls = (machine py).trace {} calls := by
  have hguard := hfits.and (guarded_requests py (Set.Subset.refl (requestsOf calls)) {})
  refine hguard.trace_eq (N := Postgres.machine py collation) (f := tableOf)
    (P := fun s => Coherent py (requestsOf calls) s ∧ Stored s) ?_ ?_
    ⟨coherent_empty py _, fun _ _ h => (by cases h)⟩
  · rintro s c ⟨h, hs⟩ ⟨hfit, hc⟩
    exact ⟨h.step hfree hc (perform_move py (fun _ _ hget => h.keys hget) c),
      (agrees hhex hiso hcollation hfree h hs hfit hc).stored⟩
  · rintro s c ⟨h, hs⟩ ⟨hfit, hc⟩
    exact (agrees hhex hiso hcollation hfree h hs hfit hc).step

end Agreement

/-! ## A recording that is completed -/

/-- The recording is leased and completed without a transcript. -/
def completeRecording (py : Stdlib) (status : MediaJobStatus) : List Call :=
  [.enqueue sampleSubmission (some newYear), .claim "acme" "v" (some newYear) 1000000,
    .complete "acme" (jobIdOf py "acme" "q1") "v" 1 (some newYear) status [] none none]

theorem requestsOf_completeRecording (py : Stdlib) (status : MediaJobStatus) :
    requestsOf (completeRecording py status) ⊆ {("acme", "q1")} := by
  rintro _ ⟨submission, now, hmem, rfl⟩
  simp only [completeRecording, List.mem_cons, List.not_mem_nil, or_false, reduceCtorEq,
    Call.enqueue.injEq] at hmem
  rw [hmem.1]
  rfl

/-- It may be quarantined. -/
theorem run_refines_quarantined :
    (Postgres.machine (.sample [] []) codePoints).trace Dict.empty
        (completeRecording (.sample [] []) .quarantined) =
      (machine (.sample [] [])).trace {} (completeRecording (.sample [] []) .quarantined) := by
  refine run_refines (Stdlib.sample_hexDigests [] (by simp)) (Stdlib.sample_readsIsoformat [] [])
    (fun _ _ _ _ => decide_eq_true_iff)
    (collisionFree_of_single (requestsOf_completeRecording _ _) _) ⟨?_, ?_, ?_, trivial⟩
  · decide +kernel
  · decide +kernel
  · decide +kernel

/-- The parameters of a machine that reads one time. -/
def onlyNewYear : Stdlib :=
  { Stdlib.ascii [] with
    sha256 := fun _ => String.ofList (List.replicate 64 '0')
    fromisoformat := fun _ => some (some newYear) }

/-- The table refuses to make it ready. -/
theorem completeRecording_ready_refused : ¬∀ calls, (∀ c ∈ calls, lengthWithin 140 (Call.siteId c)) →
    (Postgres.machine onlyNewYear codePoints).trace Dict.empty calls =
      (machine onlyNewYear).trace {} calls := by
  intro h
  have htrace := h (completeRecording onlyNewYear .ready) (by decide)
  have hpostgres : ((Postgres.machine onlyNewYear codePoints).trace Dict.empty
      (completeRecording onlyNewYear .ready)).map (·.2.isOk) = [true, true, false] := by
    decide +kernel
  have hmemory : ((machine onlyNewYear).trace {} (completeRecording onlyNewYear .ready)).map
      (·.2.isOk) = [true, true, true] := by
    decide +kernel
  rw [htrace, hmemory] at hpostgres
  cases hpostgres

end Memory
end EsanGbos.MediaRuntime
