import Mathlib.Data.List.Sort
import EsanGbos.Lib.Proc
import EsanGbos.MediaRuntime.Models

/-!
# The repository in memory

`InMemoryMediaJobRepository` keeps its jobs in a dictionary and finds the job of a request in a
second one. An exception undoes nothing that was written before it.

## Main definitions

* `Memory` — the two dictionaries.
* `Memory.enqueue`, `Memory.claim`, `Memory.heartbeat`, `Memory.complete`, `Memory.retry` — the
  operations.
* `Memory.machine` — the repository as a machine that answers calls.
-/
namespace EsanGbos.MediaRuntime
open Lib

/-- The two dictionaries of the repository. -/
structure Memory where
  jobs : Dict (String × String) MediaJob := Dict.empty
  requests : Dict (String × String) String := Dict.empty

abbrev MemoryOp := Proc Raise Memory

/-- The call of a repository. -/
inductive Call where
  | enqueue (submission : MediaJobSubmission) (now : Option Datetime)
  | get (siteId jobId : String)
  | getByRequest (siteId requestId : String)
  | claim (siteId workerId : String) (now : Option Datetime) (leaseDuration : Timedelta)
  | heartbeat (siteId jobId workerId : String) (fencingToken : ℤ) (now : Option Datetime)
      (leaseDuration : Timedelta)
  | complete (siteId jobId workerId : String) (fencingToken : ℤ) (now : Option Datetime)
      (status : MediaJobStatus) (reasonCodes : List String) (transcriptRef : Option String)
      (artifactProof : Option MediaArtifactProof)
  | retry (siteId jobId workerId : String) (fencingToken : ℤ) (now retryAt : Option Datetime)
      (reasonCodes : List String)

namespace Memory

/-- The job waits and its time has come, or its lease has ended. -/
def isDue (now : Timestamptz) (job : MediaJob) : Bool :=
  ((job.status = .queued || job.status = .retry) && job.dueAt ≤ now) ||
    (job.status = .leased && job.leaseExpiresAt.any (· ≤ now))

/-- The condition of the candidates of `claim`. -/
def isCandidate (siteId : String) (now : Timestamptz) (e : (String × String) × MediaJob) : Bool :=
  e.1.1 = siteId && e.2.attempt < e.2.maxAttempts && isDue now e.2

/-- The order of `(job.due_at, job.created_at, job.job_id)`. -/
def precedes (job job' : MediaJob) : Prop :=
  job.dueAt < job'.dueAt ∨ job.dueAt = job'.dueAt ∧
    (job.createdAt < job'.createdAt ∨
      job.createdAt = job'.createdAt ∧ job.jobId ≤ job'.jobId)

instance : DecidableRel precedes := fun job job' => by
  unfold precedes
  infer_instance

/-- The candidate that is taken: `min` over the candidates. -/
def candidate (s : Memory) (siteId : String) (now : Timestamptz) : Option MediaJob :=
  (((s.jobs.items.filter (isCandidate siteId now)).map Prod.snd).insertionSort precedes).head?

/-- The condition of `_live_lease`. -/
def isLiveLease (workerId : String) (fencingToken : ℤ) (now : Timestamptz) (job : MediaJob) :
    Bool :=
  job.status = .leased && job.leaseOwner = some workerId && job.fencingToken = fencingToken &&
    job.leaseExpiresAt.any (now < ·)

/-- `_live_lease`. -/
def liveLease (siteId jobId workerId : String) (fencingToken : ℤ) (now : Datetime) :
    MemoryOp MediaJob := do
  match ((← get).jobs.get? (siteId, jobId)).filter
      (isLiveLease workerId fencingToken now.instant) with
  | some job => return job
  | none => throw (.leaseConflict "lease_lost")

/-- `self._jobs[key] = job`. -/
def assign (key : String × String) (job : MediaJob) : MemoryOp Unit :=
  modify fun s => { s with jobs := s.jobs.set key job }

/-- The condition of `_reap_exhausted`. -/
def isExhausted (siteId : String) (now : Timestamptz) (e : (String × String) × MediaJob) : Bool :=
  e.1.1 = siteId && e.2.status = .leased && e.2.leaseExpiresAt.any (· ≤ now) &&
    e.2.maxAttempts ≤ e.2.attempt

/-- `_reap_exhausted`, whose loop assigns to each key once. -/
def reapExhausted (siteId : String) (now : Datetime) : MemoryOp Unit :=
  modify fun s => { s with
    jobs := s.jobs.updateIf (isExhausted siteId now.instant) fun job => job.reaped now }

/-- `enqueue`. -/
def enqueue (py : Stdlib) (submission : MediaJobSubmission) (now : Option Datetime) :
    MemoryOp MediaJob := do
  let now ← requireAware now
  let requestKey := (submission.receipt.siteId, submission.receipt.requestId)
  let s ← get
  match s.requests.get? requestKey with
  | some existingId =>
      match s.jobs.get? (submission.receipt.siteId, existingId) with
      | none => throw .keyError
      | some existing =>
          if existing.submissionDigest ≠ submission.digest py then
            throw (.valueError "idempotency_conflict")
          return existing
  | none =>
      let job := newJob py submission now
      assign (job.siteId, job.jobId) job
      modify fun s => { s with requests := s.requests.set requestKey job.jobId }
      return job

/-- `get_by_request`. -/
def getByRequest (siteId requestId : String) : MemoryOp (Option MediaJob) := do
  let s ← get
  match s.requests.get? (siteId, requestId) with
  | none => return none
  | some jobId =>
      match s.jobs.get? (siteId, jobId) with
      | none => throw .keyError
      | some job => return some job

/-- `claim`. -/
def claim (siteId workerId : String) (now : Option Datetime) (leaseDuration : Timedelta) :
    MemoryOp (Option MediaJob) := do
  let now ← validateLeaseInput siteId workerId now leaseDuration
  reapExhausted siteId now
  match (← get).candidate siteId now.instant with
  | none => return none
  | some current =>
      let expiry ← plus now leaseDuration
      let claimed := current.claimed workerId now expiry
      assign (siteId, claimed.jobId) claimed
      return some claimed

/-- `heartbeat`. -/
def heartbeat (siteId jobId workerId : String) (fencingToken : ℤ) (now : Option Datetime)
    (leaseDuration : Timedelta) : MemoryOp MediaJob := do
  let now ← validateLeaseInput siteId workerId now leaseDuration
  let current ← liveLease siteId jobId workerId fencingToken now
  let expiry ← plus now leaseDuration
  let renewed := current.renewed now expiry
  assign (siteId, jobId) renewed
  return renewed

/-- `complete`. -/
def complete (siteId jobId workerId : String) (fencingToken : ℤ) (now : Option Datetime)
    (status : MediaJobStatus) (reasonCodes : List String) (transcriptRef : Option String)
    (artifactProof : Option MediaArtifactProof) : MemoryOp MediaJob := do
  let now ← validateCompletion now status reasonCodes
  let current ← liveLease siteId jobId workerId fencingToken now
  let completed := current.completed status reasonCodes transcriptRef artifactProof now
  assign (siteId, jobId) completed
  return completed

/-- `retry`. -/
def retry (siteId jobId workerId : String) (fencingToken : ℤ) (now retryAt : Option Datetime)
    (reasonCodes : List String) : MemoryOp MediaJob := do
  let (now, retryAt) ← validateRetry now retryAt reasonCodes
  let current ← liveLease siteId jobId workerId fencingToken now
  let updated := current.retried retryAt reasonCodes now
  assign (siteId, jobId) updated
  return updated

/-- `get`. -/
def get (siteId jobId : String) : MemoryOp (Option MediaJob) :=
  return (← getThe Memory).jobs.get? (siteId, jobId)

/-! ## Runs of the operations -/

section Runs
variable {siteId jobId workerId : String} {fencingToken : ℤ} {s : Memory}

theorem run_liveLease_bind {α : Type} (now : Datetime) (f : MediaJob → MemoryOp α) :
    (liveLease siteId jobId workerId fencingToken now >>= f).run s =
      match (s.jobs.get? (siteId, jobId)).filter (isLiveLease workerId fencingToken now.instant) with
      | some job => (f job).run s
      | none => (.error (.leaseConflict "lease_lost"), s) := by
  rw [Proc.run_bind, liveLease, Proc.run_get_bind]
  cases (s.jobs.get? (siteId, jobId)).filter (isLiveLease workerId fencingToken now.instant) <;> rfl

/-- The state after the reaper. -/
def reaped (s : Memory) (siteId : String) (now : Datetime) : Memory :=
  { s with jobs := s.jobs.updateIf (isExhausted siteId now.instant) fun job => job.reaped now }

theorem run_claim (now : Option Datetime) (leaseDuration : Timedelta) :
    (claim siteId workerId now leaseDuration).run s =
      match validateLeaseInput siteId workerId now leaseDuration with
      | .error e => (.error e, s)
      | .ok now =>
          let s := s.reaped siteId now
          match s.candidate siteId now.instant with
          | none => (.ok none, s)
          | some current =>
              match plus now leaseDuration with
              | .error e => (.error e, s)
              | .ok expiry => (.ok (some (current.claimed workerId now expiry)), { s with
                  jobs := s.jobs.set (siteId, current.jobId)
                    (current.claimed workerId now expiry) }) := by
  rw [claim, Proc.run_lift_bind]
  cases validateLeaseInput siteId workerId now leaseDuration with
  | error e => rfl
  | ok now =>
      dsimp only
      rw [reapExhausted, Proc.run_modify_bind, Proc.run_get_bind]
      change (match (s.reaped siteId now).candidate siteId now.instant with
        | none => _ | some current => _ : MemoryOp (Option MediaJob)).run (s.reaped siteId now) = _
      cases (s.reaped siteId now).candidate siteId now.instant with
      | none => rfl
      | some current =>
          dsimp only
          rw [Proc.run_lift_bind]
          cases plus now leaseDuration <;> rfl

theorem run_heartbeat (now : Option Datetime) (leaseDuration : Timedelta) :
    (heartbeat siteId jobId workerId fencingToken now leaseDuration).run s =
      match validateLeaseInput siteId workerId now leaseDuration with
      | .error e => (.error e, s)
      | .ok now =>
          match (s.jobs.get? (siteId, jobId)).filter
              (isLiveLease workerId fencingToken now.instant) with
          | none => (.error (.leaseConflict "lease_lost"), s)
          | some job =>
              match plus now leaseDuration with
              | .error e => (.error e, s)
              | .ok expiry => (.ok (job.renewed now expiry), { s with
                  jobs := s.jobs.set (siteId, jobId) (job.renewed now expiry) }) := by
  rw [heartbeat, Proc.run_lift_bind]
  cases validateLeaseInput siteId workerId now leaseDuration with
  | error e => rfl
  | ok now =>
      dsimp only
      rw [run_liveLease_bind]
      cases (s.jobs.get? (siteId, jobId)).filter
        (isLiveLease workerId fencingToken now.instant) with
      | none => rfl
      | some job =>
          dsimp only
          rw [Proc.run_lift_bind]
          cases plus now leaseDuration <;> rfl

theorem run_complete (now : Option Datetime) (status : MediaJobStatus) (reasonCodes : List String)
    (transcriptRef : Option String) (artifactProof : Option MediaArtifactProof) :
    (complete siteId jobId workerId fencingToken now status reasonCodes transcriptRef
        artifactProof).run s =
      match validateCompletion now status reasonCodes with
      | .error e => (.error e, s)
      | .ok now =>
          match (s.jobs.get? (siteId, jobId)).filter
              (isLiveLease workerId fencingToken now.instant) with
          | none => (.error (.leaseConflict "lease_lost"), s)
          | some job =>
              let job := job.completed status reasonCodes transcriptRef artifactProof now
              (.ok job, { s with jobs := s.jobs.set (siteId, jobId) job }) := by
  rw [complete, Proc.run_lift_bind]
  cases validateCompletion now status reasonCodes with
  | error e => rfl
  | ok now =>
      dsimp only
      rw [run_liveLease_bind]
      cases (s.jobs.get? (siteId, jobId)).filter
        (isLiveLease workerId fencingToken now.instant) <;> rfl

theorem run_retry (now retryAt : Option Datetime) (reasonCodes : List String) :
    (retry siteId jobId workerId fencingToken now retryAt reasonCodes).run s =
      match validateRetry now retryAt reasonCodes with
      | .error e => (.error e, s)
      | .ok (now, retryAt) =>
          match (s.jobs.get? (siteId, jobId)).filter
              (isLiveLease workerId fencingToken now.instant) with
          | none => (.error (.leaseConflict "lease_lost"), s)
          | some job =>
              let job := job.retried retryAt reasonCodes now
              (.ok job, { s with jobs := s.jobs.set (siteId, jobId) job }) := by
  rw [retry, Proc.run_lift_bind]
  cases validateRetry now retryAt reasonCodes with
  | error e => rfl
  | ok times =>
      dsimp only
      rw [run_liveLease_bind]
      cases (s.jobs.get? (siteId, jobId)).filter
        (isLiveLease workerId fencingToken times.1.instant) <;> rfl

end Runs

/-! ## The repository as a machine -/

def perform (py : Stdlib) : Call → MemoryOp (Option MediaJob)
  | .enqueue submission now => some <$> Memory.enqueue py submission now
  | .get siteId jobId => Memory.get siteId jobId
  | .getByRequest siteId requestId => Memory.getByRequest siteId requestId
  | .claim siteId workerId now leaseDuration => Memory.claim siteId workerId now leaseDuration
  | .heartbeat siteId jobId workerId fencingToken now leaseDuration =>
      some <$> Memory.heartbeat siteId jobId workerId fencingToken now leaseDuration
  | .complete siteId jobId workerId fencingToken now status reasonCodes transcriptRef
      artifactProof =>
      some <$> Memory.complete siteId jobId workerId fencingToken now status reasonCodes
        transcriptRef artifactProof
  | .retry siteId jobId workerId fencingToken now retryAt reasonCodes =>
      some <$> Memory.retry siteId jobId workerId fencingToken now retryAt reasonCodes

/-- Every call answers with a job, or none. -/
def machine (py : Stdlib) : Machine Memory Call (Except Raise (Option MediaJob)) where
  step s c := (perform py c).run s

end Memory
end EsanGbos.MediaRuntime
