import Mathlib.Data.Prod.Lex
import Mathlib.Data.Set.Function
import Mathlib.Data.String.Basic
import Mathlib.Logic.Relation
import EsanGbos.MediaRuntime.Repository

/-!
# The queue of media jobs

A call takes jobs through a few transitions, or enqueues the first job of a request. Fencing
tokens count the attempts, so a worker that has lost its lease holds an old one. Jobs that are
over stay as they are, and every other one is taken up, or buried, by the claims of its site from
some time on.

Job identifiers are truncated digests: two requests of a site that share one would share a job.

## Main definitions

* `MediaJob.IsConsistent`, `Memory.Indexed` — the invariants of a job and of the dictionaries.
* `Memory.Transition`, `Memory.Move` — what a call does.
* `Memory.run_queue` — safety over every run, and progress of every job that is not over.
-/
namespace EsanGbos.MediaRuntime
open Lib

/-- A job that the operations can have written. -/
structure MediaJob.IsConsistent (job : MediaJob) : Prop where
  fencing : job.fencingToken = job.attempt
  attempts : job.attempt ≤ job.maxAttempts
  owner_iff : job.leaseOwner.isSome = true ↔ job.status = .leased
  expiry_iff : job.leaseExpiresAt.isSome = true ↔ job.status = .leased
  waiting : job.status = .queued ∨ job.status = .retry → job.attempt < job.maxAttempts

/-- Two different requests of a site have different job identifiers. -/
def CollisionFree (py : Stdlib) (requests : Set (String × String)) : Prop :=
  requests.InjOn fun request => (request.1, jobIdOf py request.1 request.2)

/-- The requests that the calls enqueue. -/
def requestsOf (calls : List Call) : Set (String × String) :=
  {request | ∃ submission now, Call.enqueue submission now ∈ calls ∧
    request = (submission.receipt.siteId, submission.receipt.requestId)}

/-- The key and the token of a call that is fenced. -/
def Call.fence : Call → Option ((String × String) × ℤ)
  | heartbeat siteId jobId _ fencingToken _ _ => some ((siteId, jobId), fencingToken)
  | complete siteId jobId _ fencingToken _ _ _ _ _ => some ((siteId, jobId), fencingToken)
  | retry siteId jobId _ fencingToken _ _ _ => some ((siteId, jobId), fencingToken)
  | _ => none

namespace Memory

/-! ## Transitions -/

/-- How a call changes a job. -/
inductive Transition : MediaJob → MediaJob → Prop where
  | claim {job : MediaJob} (workerId : String) (now expiry : Datetime)
      (hattempts : job.attempt < job.maxAttempts) (hactive : job.status.isTerminal = false) :
      Transition job (job.claimed workerId now expiry)
  | reap {job : MediaJob} (now : Datetime) (hleased : job.status = .leased) :
      Transition job (job.reaped now)
  | renew {job : MediaJob} (now expiry : Datetime) (hleased : job.status = .leased) :
      Transition job (job.renewed now expiry)
  | complete {job : MediaJob} (status : MediaJobStatus) (reasonCodes : List String)
      (transcriptRef : Option String) (artifactProof : Option MediaArtifactProof) (now : Datetime)
      (hleased : job.status = .leased) (hterminal : status.isTerminal = true) :
      Transition job (job.completed status reasonCodes transcriptRef artifactProof now)
  | retry {job : MediaJob} (retryAt : Datetime) (reasonCodes : List String) (now : Datetime)
      (hleased : job.status = .leased) : Transition job (job.retried retryAt reasonCodes now)

section Transitions
variable {job job' : MediaJob}

theorem Transition.active (h : Transition job job') : job.status.isTerminal = false := by
  cases h with
  | claim _ _ _ _ hactive => exact hactive
  | reap _ hleased | renew _ _ hleased | complete _ _ _ _ _ hleased _ | retry _ _ _ hleased =>
      rw [hleased]
      rfl

/-- What a transition leaves alone. -/
theorem Transition.identity (h : Transition job job') :
    job'.jobId = job.jobId ∧ job'.siteId = job.siteId ∧ job'.requestId = job.requestId := by
  cases h <;> exact ⟨rfl, rfl, rfl⟩

theorem Transition.consistent (h : Transition job job') (hjob : job.IsConsistent) :
    job'.IsConsistent := by
  obtain ⟨hfencing, hattempts, howner, hexpiry, hwaiting⟩ := hjob
  cases h with
  | claim workerId now expiry hless _ =>
      refine ⟨?_, ?_, by simp [MediaJob.claimed], by simp [MediaJob.claimed], ?_⟩
      · change job.fencingToken + 1 = job.attempt + 1
        rw [hfencing]
      · change job.attempt + 1 ≤ job.maxAttempts
        omega
      · simp [MediaJob.claimed]
  | reap now hleased =>
      exact ⟨hfencing, hattempts, by simp [MediaJob.reaped], by simp [MediaJob.reaped],
        by simp [MediaJob.reaped]⟩
  | renew now expiry hleased =>
      exact ⟨hfencing, hattempts, howner, by simp [MediaJob.renewed, hleased], hwaiting⟩
  | complete status _ _ _ _ hleased hterminal =>
      refine ⟨hfencing, hattempts, ?_, ?_, ?_⟩ <;>
        cases status <;> simp_all [MediaJob.completed, MediaJobStatus.isTerminal]
  | retry retryAt reasonCodes now hleased =>
      by_cases hless : job.attempt < job.maxAttempts
      · exact ⟨hfencing, hattempts, by simp [MediaJob.retried, hless],
          by simp [MediaJob.retried, hless], fun _ => hless⟩
      · exact ⟨hfencing, hattempts, by simp [MediaJob.retried, hless],
          by simp [MediaJob.retried, hless], by simp [MediaJob.retried, hless]⟩

end Transitions

/-- Every job has gone through transitions, and there is no new one. -/
structure Evolves (s t : Memory) : Prop where
  requests : t.requests = s.requests
  jobs : ∀ key, (s.jobs.get? key = none ∧ t.jobs.get? key = none) ∨ ∃ job job',
    s.jobs.get? key = some job ∧ t.jobs.get? key = some job' ∧
      Relation.ReflTransGen Transition job job'

/-- The moves of the call `c`. -/
inductive Move (py : Stdlib) (c : Call) (s t : Memory) : Prop where
  | evolve (h : Evolves s t)
  | enqueue (submission : MediaJobSubmission) (now : Option Datetime) (now' : Datetime)
      (hc : c = .enqueue submission now)
      (hfree : s.requests.get? (submission.receipt.siteId, submission.receipt.requestId) = none)
      (hjobs : t.jobs = s.jobs.set (submission.receipt.siteId, (newJob py submission now').jobId)
        (newJob py submission now'))
      (hrequests : t.requests = s.requests.set
        (submission.receipt.siteId, submission.receipt.requestId) (newJob py submission now').jobId)

section Moves
variable {py : Stdlib} {s t u : Memory} {siteId jobId workerId : String}

theorem Evolves.refl (s : Memory) : Evolves s s := by
  refine ⟨rfl, fun key => ?_⟩
  cases hget : s.jobs.get? key with
  | none => exact .inl ⟨rfl, rfl⟩
  | some job => exact .inr ⟨job, job, rfl, rfl, .refl⟩

theorem Evolves.trans (h : Evolves s t) (h' : Evolves t u) : Evolves s u := by
  refine ⟨h'.requests.trans h.requests, fun key => ?_⟩
  rcases h.jobs key with ⟨hs, ht⟩ | ⟨job, job₁, hs, ht, hrun⟩
  all_goals rcases h'.jobs key with ⟨ht', hu⟩ | ⟨job₂, job', ht', hu, hrun'⟩
  · exact .inl ⟨hs, hu⟩
  · cases ht.symm.trans ht'
  · cases ht.symm.trans ht'
  · obtain rfl := Option.some.inj (ht.symm.trans ht')
    exact .inr ⟨job, job', hs, hu, hrun.trans hrun'⟩

theorem identity_of_transitions {job job' : MediaJob}
    (h : Relation.ReflTransGen Transition job job') :
    job'.jobId = job.jobId ∧ job'.siteId = job.siteId ∧ job'.requestId = job.requestId := by
  induction h with
  | refl => exact ⟨rfl, rfl, rfl⟩
  | tail _ hstep ih =>
      obtain ⟨hid, hsite, hrequest⟩ := hstep.identity
      exact ⟨hid.trans ih.1, hsite.trans ih.2.1, hrequest.trans ih.2.2⟩

/-- Where a job comes from. -/
theorem Evolves.origin (h : Evolves s t) {key : String × String} {job' : MediaJob}
    (hget : t.jobs.get? key = some job') : ∃ job, s.jobs.get? key = some job ∧
      Relation.ReflTransGen Transition job job' := by
  rcases h.jobs key with ⟨-, ht⟩ | ⟨job, job₁, hs, ht, hrun⟩
  · cases ht.symm.trans hget
  · exact ⟨job, hs, Option.some.inj (ht.symm.trans hget) ▸ hrun⟩

/-- Where it goes. -/
theorem Evolves.result (h : Evolves s t) {key : String × String} {job : MediaJob}
    (hget : s.jobs.get? key = some job) : ∃ job', t.jobs.get? key = some job' ∧
      Relation.ReflTransGen Transition job job' := by
  rcases h.jobs key with ⟨hs, -⟩ | ⟨job₁, job', hs, ht, hrun⟩
  · cases hs.symm.trans hget
  · exact ⟨job', ht, Option.some.inj (hs.symm.trans hget) ▸ hrun⟩

/-- One job goes through a transition. -/
theorem Evolves.set {key : String × String} {job job' : MediaJob}
    (hget : s.jobs.get? key = some job) (h : Transition job job') :
    Evolves s { s with jobs := s.jobs.set key job' } := by
  refine ⟨rfl, fun key' => ?_⟩
  by_cases hkey : key' = key
  · subst hkey
    exact .inr ⟨job, job', hget, Dict.get?_set_self _ _ _, .single h⟩
  · have hother := Dict.get?_set_of_ne s.jobs job' hkey
    rcases (Evolves.refl s).jobs key' with ⟨hs, -⟩ | ⟨job₁, -, hs, -, -⟩
    · exact .inl ⟨hs, hother.trans hs⟩
    · exact .inr ⟨job₁, job₁, hs, hother.trans hs, .refl⟩

theorem evolves_reaped (s : Memory) (siteId : String) (now : Datetime) :
    Evolves s (s.reaped siteId now) := by
  refine ⟨rfl, fun key => ?_⟩
  have hget' := Dict.get?_updateIf s.jobs (isExhausted siteId now.instant)
    (fun job => job.reaped now) key
  cases hget : s.jobs.get? key with
  | none =>
      rw [hget] at hget'
      exact .inl ⟨rfl, hget'⟩
  | some job =>
      rw [hget, Option.map_some] at hget'
      refine .inr ⟨job, _, rfl, hget', ?_⟩
      split
      next hexhausted =>
        simp only [isExhausted, Bool.and_eq_true, decide_eq_true_eq] at hexhausted
        exact .single (.reap now hexhausted.1.1.2)
      next => exact .refl

theorem candidate_some {now : Timestamptz} {job : MediaJob}
    (h : s.candidate siteId now = some job) :
    ∃ key, s.jobs.get? key = some job ∧ isCandidate siteId now (key, job) = true := by
  obtain ⟨⟨key, job'⟩, hfiltered, rfl⟩ := List.mem_map.mp (mem_of_head?_insertionSort h)
  obtain ⟨hitem, hcandidate⟩ := List.mem_filter.mp hfiltered
  exact ⟨key, Dict.mem_items.mp hitem, hcandidate⟩

theorem isDue_active {now : Timestamptz} {job : MediaJob} (h : isDue now job = true) :
    job.status.isTerminal = false := by
  cases hstatus : job.status <;> simp_all [isDue, MediaJobStatus.isTerminal]

theorem validateCompletion_ok {now : Option Datetime} {status : MediaJobStatus}
    {reasonCodes : List String} {now' : Datetime}
    (h : validateCompletion now status reasonCodes = .ok now') : status.isTerminal = true := by
  unfold validateCompletion at h
  obtain ⟨_, -, h⟩ := Proc.bind_eq_ok.mp h
  cases hterminal : status.isTerminal with
  | true => rfl
  | false =>
      rw [hterminal] at h
      cases h

/-- A job that is leased goes through a transition under its own key. -/
theorem evolves_liveLease {fencingToken : ℤ} {now : Datetime} {job job' : MediaJob}
    (hlive : (s.jobs.get? (siteId, jobId)).filter
      (isLiveLease workerId fencingToken now.instant) = some job)
    (h : job.status = .leased → Transition job job') :
    Evolves s { s with jobs := s.jobs.set (siteId, jobId) job' } := by
  obtain ⟨hget, hlease⟩ := Option.filter_eq_some_iff.mp hlive
  simp only [isLiveLease, Bool.and_eq_true, decide_eq_true_eq] at hlease
  exact .set hget (h hlease.1.1.1)

/-- Every call makes one of the moves, where jobs are kept under their own identifiers. -/
theorem perform_move (py : Stdlib) (hkeys : ∀ key job, s.jobs.get? key = some job →
    key.2 = job.jobId) (c : Call) : Move py c s ((perform py c).run s).2 := by
  cases c with
  | enqueue submission now =>
      rw [perform, Proc.run_map, enqueue, Proc.run_lift_bind]
      cases requireAware now with
      | error e => exact .evolve (.refl s)
      | ok now' =>
          dsimp only
          rw [Proc.run_get_bind]
          cases hrequest : s.requests.get?
              (submission.receipt.siteId, submission.receipt.requestId) with
          | none => exact .enqueue submission now now' rfl hrequest rfl rfl
          | some existingId =>
              dsimp only
              split
              · exact .evolve (.refl s)
              · split <;> exact .evolve (.refl s)
  | get siteId jobId => exact .evolve (.refl s)
  | getByRequest siteId requestId =>
      rw [perform, getByRequest, Proc.run_get_bind]
      split
      · exact .evolve (.refl s)
      · split <;> exact .evolve (.refl s)
  | claim siteId workerId now leaseDuration =>
      rw [perform, run_claim]
      cases validateLeaseInput siteId workerId now leaseDuration with
      | error e => exact .evolve (.refl s)
      | ok now' =>
          have hreaped := evolves_reaped s siteId now'
          dsimp only
          cases hcandidate : (s.reaped siteId now').candidate siteId now'.instant with
          | none => exact .evolve hreaped
          | some current =>
              dsimp only
              cases plus now' leaseDuration with
              | error e => exact .evolve hreaped
              | ok expiry =>
                  obtain ⟨key, hget, hready⟩ := candidate_some hcandidate
                  simp only [isCandidate, Bool.and_eq_true, decide_eq_true_eq] at hready
                  obtain ⟨⟨hsite, hattempts⟩, hdue⟩ := hready
                  have hid : key.2 = current.jobId := by
                    obtain ⟨job, hjob, hrun⟩ := hreaped.origin hget
                    rw [(identity_of_transitions hrun).1, hkeys key job hjob]
                  have hkey : (siteId, current.jobId) = key := by rw [← hsite, ← hid]
                  dsimp only
                  rw [hkey]
                  exact .evolve (hreaped.trans (.set hget
                    (.claim workerId now' expiry hattempts (isDue_active hdue))))
  | heartbeat siteId jobId workerId fencingToken now leaseDuration =>
      rw [perform, Proc.run_map, run_heartbeat]
      cases validateLeaseInput siteId workerId now leaseDuration with
      | error e => exact .evolve (.refl s)
      | ok now' =>
          dsimp only
          cases hlive : (s.jobs.get? (siteId, jobId)).filter
              (isLiveLease workerId fencingToken now'.instant) with
          | none => exact .evolve (.refl s)
          | some job =>
              dsimp only
              cases plus now' leaseDuration with
              | error e => exact .evolve (.refl s)
              | ok expiry => exact .evolve (evolves_liveLease hlive fun h => .renew now' expiry h)
  | complete siteId jobId workerId fencingToken now status reasonCodes transcriptRef
      artifactProof =>
      rw [perform, Proc.run_map, run_complete]
      cases hchecked : validateCompletion now status reasonCodes with
      | error e => exact .evolve (.refl s)
      | ok now' =>
          dsimp only
          cases hlive : (s.jobs.get? (siteId, jobId)).filter
              (isLiveLease workerId fencingToken now'.instant) with
          | none => exact .evolve (.refl s)
          | some job =>
              exact .evolve (evolves_liveLease hlive fun h => .complete status reasonCodes
                transcriptRef artifactProof now' h (validateCompletion_ok hchecked))
  | retry siteId jobId workerId fencingToken now retryAt reasonCodes =>
      rw [perform, Proc.run_map, run_retry]
      cases validateRetry now retryAt reasonCodes with
      | error e => exact .evolve (.refl s)
      | ok times =>
          dsimp only
          cases hlive : (s.jobs.get? (siteId, jobId)).filter
              (isLiveLease workerId fencingToken times.1.instant) with
          | none => exact .evolve (.refl s)
          | some job =>
              exact .evolve (evolves_liveLease hlive fun h =>
                .retry times.2 reasonCodes times.1 h)

end Moves

/-! ## Invariants -/

/-- The two dictionaries name each other's entries. -/
structure Indexed (s : Memory) : Prop where
  job_request : ∀ key job, s.jobs.get? key = some job → key = (job.siteId, job.jobId) ∧
    s.requests.get? (job.siteId, job.requestId) = some job.jobId
  request_job : ∀ siteId requestId jobId, s.requests.get? (siteId, requestId) = some jobId →
    ∃ job, s.jobs.get? (siteId, jobId) = some job ∧ job.siteId = siteId ∧ job.requestId = requestId

/-- The invariant, for jobs of the requests in `R`. -/
structure Coherent (py : Stdlib) (R : Set (String × String)) (s : Memory) : Prop where
  consistent : ∀ key job, s.jobs.get? key = some job → job.IsConsistent
  named : ∀ key job, s.jobs.get? key = some job →
    job.jobId = jobIdOf py job.siteId job.requestId ∧ (job.siteId, job.requestId) ∈ R
  indexed : Indexed s

theorem coherent_empty (py : Stdlib) (R : Set (String × String)) : Coherent py R {} :=
  ⟨fun _ _ h => (by cases h), fun _ _ h => (by cases h),
    ⟨fun _ _ h => (by cases h), fun _ _ _ h => (by cases h)⟩⟩

section Invariants
variable {py : Stdlib} {R : Set (String × String)} {s t : Memory} {c : Call}

theorem Coherent.keys (h : Coherent py R s) {key : String × String} {job : MediaJob}
    (hget : s.jobs.get? key = some job) : key.2 = job.jobId := by
  rw [(h.indexed.job_request key job hget).1]

theorem Coherent.evolve (h : Coherent py R s) (hevolves : Evolves s t) : Coherent py R t := by
  constructor
  · intro key job' hget
    obtain ⟨job, hget', hrun⟩ := hevolves.origin hget
    have hjob := h.consistent key job hget'
    clear hget
    induction hrun with
    | refl => exact hjob
    | tail _ hstep ih => exact hstep.consistent ih
  · intro key job' hget
    obtain ⟨job, hget', hrun⟩ := hevolves.origin hget
    obtain ⟨hid, hsite, hrequest⟩ := identity_of_transitions hrun
    rw [hid, hsite, hrequest]
    exact h.named key job hget'
  · constructor
    · intro key job' hget
      obtain ⟨job, hget', hrun⟩ := hevolves.origin hget
      obtain ⟨hid, hsite, hrequest⟩ := identity_of_transitions hrun
      rw [hid, hsite, hrequest, hevolves.requests]
      exact h.indexed.job_request key job hget'
    · intro siteId requestId jobId hrequest
      rw [hevolves.requests] at hrequest
      obtain ⟨job, hget, hsite, hid⟩ := h.indexed.request_job siteId requestId jobId hrequest
      obtain ⟨job', hget', hrun⟩ := hevolves.result hget
      obtain ⟨-, hsite', hid'⟩ := identity_of_transitions hrun
      exact ⟨job', hget', hsite'.trans hsite, hid'.trans hid⟩

/-- A new request takes a free identifier. -/
theorem Coherent.free (hR : CollisionFree py R) (h : Coherent py R s)
    {submission : MediaJobSubmission}
    (hmem : (submission.receipt.siteId, submission.receipt.requestId) ∈ R)
    (hfree : s.requests.get? (submission.receipt.siteId, submission.receipt.requestId) = none)
    (now : Datetime) :
    s.jobs.get? (submission.receipt.siteId, (newJob py submission now).jobId) = none := by
  by_contra hne
  obtain ⟨job, hget⟩ := Option.ne_none_iff_exists'.mp hne
  obtain ⟨hname, hrequest⟩ := h.indexed.job_request _ job hget
  obtain ⟨hsite, hid⟩ := Prod.mk.inj hname
  obtain ⟨hjob, hjobR⟩ := h.named _ job hget
  have hsame := hR hjobR hmem (Prod.ext hsite.symm (hjob.symm.trans hid.symm))
  rw [hsame, hfree] at hrequest
  cases hrequest

theorem Coherent.step (hR : CollisionFree py R) (h : Coherent py R s)
    (hc : ∀ submission now, c = .enqueue submission now →
      (submission.receipt.siteId, submission.receipt.requestId) ∈ R) (hmove : Move py c s t) :
    Coherent py R t := by
  cases hmove with
  | evolve hevolves => exact h.evolve hevolves
  | enqueue submission now now' hcall hfree hjobs hrequests =>
      have hmem := hc submission now hcall
      have hnone := h.free hR hmem hfree now'
      have hold : ∀ key job, s.jobs.get? key = some job →
          (job.siteId, job.requestId) ≠
            (submission.receipt.siteId, submission.receipt.requestId) := by
        intro key job hget heq
        have hrequest := (h.indexed.job_request key job hget).2
        rw [heq, hfree] at hrequest
        cases hrequest
      have hjob : ∀ key job, t.jobs.get? key = some job →
          (key = (submission.receipt.siteId, (newJob py submission now').jobId) ∧
            job = newJob py submission now') ∨ s.jobs.get? key = some job := by
        intro key job hget
        rw [hjobs, Dict.get?_set] at hget
        split at hget
        next hkey => exact .inl ⟨hkey, (Option.some.inj hget).symm⟩
        next => exact .inr hget
      constructor
      · intro key job hget
        obtain ⟨-, rfl⟩ | hget := hjob key job hget
        · have hmax := submission.maxAttempts_mem
          exact ⟨rfl, by change (0 : ℤ) ≤ submission.maxAttempts; omega, by simp [newJob],
            by simp [newJob], fun _ => by change (0 : ℤ) < submission.maxAttempts; omega⟩
        · exact h.consistent key job hget
      · intro key job hget
        obtain ⟨-, rfl⟩ | hget := hjob key job hget
        · exact ⟨rfl, hmem⟩
        · exact h.named key job hget
      · constructor
        · intro key job hget
          obtain ⟨rfl, rfl⟩ | hget := hjob key job hget
          · exact ⟨rfl, by rw [hrequests]; exact Dict.get?_set_self _ _ _⟩
          · rw [hrequests, Dict.get?_set_of_ne _ _ (hold key job hget)]
            exact h.indexed.job_request key job hget
        · intro siteId requestId jobId hrequest
          rw [hrequests, Dict.get?_set] at hrequest
          split at hrequest
          next heq =>
            obtain ⟨rfl, rfl⟩ := Prod.mk.inj heq
            obtain rfl := Option.some.inj hrequest
            exact ⟨newJob py submission now', by rw [hjobs, Dict.get?_set_self], rfl, rfl⟩
          next =>
            obtain ⟨job, hget, hsite, hid⟩ := h.indexed.request_job siteId requestId jobId hrequest
            refine ⟨job, ?_, hsite, hid⟩
            rw [hjobs, Dict.get?_set_of_ne, hget]
            rintro heq
            rw [heq, hnone] at hget
            cases hget

/-- A job that is over stays as it is. -/
theorem Coherent.final_step (hR : CollisionFree py R) (h : Coherent py R s)
    (hc : ∀ submission now, c = .enqueue submission now →
      (submission.receipt.siteId, submission.receipt.requestId) ∈ R) (hmove : Move py c s t)
    {key : String × String} {job : MediaJob} (hget : s.jobs.get? key = some job)
    (hterminal : job.status.isTerminal = true) : t.jobs.get? key = some job := by
  cases hmove with
  | evolve hevolves =>
      obtain ⟨job', hget', hrun⟩ := hevolves.result hget
      rcases Relation.ReflTransGen.cases_head hrun with rfl | ⟨job₁, hstep, -⟩
      · exact hget'
      · exact absurd (hstep.active.symm.trans hterminal) Bool.false_ne_true
  | enqueue submission now now' hcall hfree hjobs hrequests =>
      have hnone := h.free hR (hc submission now hcall) hfree now'
      rw [hjobs, Dict.get?_set_of_ne, hget]
      rintro rfl
      rw [hnone] at hget
      cases hget

/-- A call with a token that is not the one of the job does nothing. -/
theorem perform_stale (py : Stdlib) {key : String × String} {token : ℤ}
    (hfence : c.fence = some (key, token))
    (hstale : ∀ job, s.jobs.get? key = some job → job.fencingToken ≠ token) :
    ((perform py c).run s).2 = s := by
  have hlost : ∀ siteId jobId workerId fencingToken (now : Datetime),
      key = (siteId, jobId) → token = fencingToken →
      (s.jobs.get? (siteId, jobId)).filter (isLiveLease workerId fencingToken now.instant) =
        none := by
    rintro siteId jobId workerId fencingToken now rfl rfl
    rw [Option.filter_eq_none_iff]
    intro job hget hlive
    simp only [isLiveLease, Bool.and_eq_true, decide_eq_true_eq] at hlive
    exact hstale job hget hlive.1.2
  cases c with
  | enqueue | get | getByRequest | claim => cases hfence
  | heartbeat siteId jobId workerId fencingToken now leaseDuration =>
      obtain ⟨rfl, rfl⟩ := Prod.mk.inj (Option.some.inj hfence)
      rw [perform, Proc.run_map, run_heartbeat]
      cases validateLeaseInput siteId workerId now leaseDuration with
      | error e => rfl
      | ok now' => simp only [hlost _ _ workerId _ now' rfl rfl]
  | complete siteId jobId workerId fencingToken now status reasonCodes transcriptRef
      artifactProof =>
      obtain ⟨rfl, rfl⟩ := Prod.mk.inj (Option.some.inj hfence)
      rw [perform, Proc.run_map, run_complete]
      cases validateCompletion now status reasonCodes with
      | error e => rfl
      | ok now' => simp only [hlost _ _ workerId _ now' rfl rfl]
  | retry siteId jobId workerId fencingToken now retryAt reasonCodes =>
      obtain ⟨rfl, rfl⟩ := Prod.mk.inj (Option.some.inj hfence)
      rw [perform, Proc.run_map, run_retry]
      cases validateRetry now retryAt reasonCodes with
      | error e => rfl
      | ok times => simp only [hlost _ _ workerId _ times.1 rfl rfl]

end Invariants

/-! ## Progress -/

/-- What the candidates are sorted by. -/
def rank (job : MediaJob) : ℤ ×ₗ ℤ ×ₗ String := toLex (job.dueAt, toLex (job.createdAt, job.jobId))

theorem precedes_iff {job job' : MediaJob} : precedes job job' ↔ rank job ≤ rank job' := by
  simp only [precedes, rank, Prod.Lex.toLex_le_toLex]

instance : Std.Total precedes where
  total job job' := by
    rw [precedes_iff, precedes_iff]
    exact le_total _ _

instance : IsTrans MediaJob precedes where
  trans _ _ _ h h' := precedes_iff.mpr (le_trans (precedes_iff.mp h) (precedes_iff.mp h'))

/-- What a claim of its site does for a job: it is leased, or buried, or another job that is due
and comes first is leased. -/
def Progress (s : Memory) (key : String × String) (job : MediaJob) (workerId : String)
    (now expiry : Datetime) (r : Except Raise (Option MediaJob)) (t : Memory) : Prop :=
  (r = .ok (some (job.claimed workerId now expiry)) ∧
    t.jobs.get? key = some (job.claimed workerId now expiry)) ∨
  t.jobs.get? key = some (job.reaped now) ∨
  ∃ key' job', key'.1 = key.1 ∧ key' ≠ key ∧ s.jobs.get? key' = some job' ∧
    isDue now.instant job' = true ∧ precedes job' job ∧
    r = .ok (some (job'.claimed workerId now expiry)) ∧
    t.jobs.get? key' = some (job'.claimed workerId now expiry)

/-- From when on a job that is not over is due. -/
def dueFrom (job : MediaJob) : Timestamptz := job.leaseExpiresAt.getD job.dueAt

section Progress
variable {py : Stdlib} {R : Set (String × String)} {s : Memory} {key : String × String}
  {job : MediaJob} {workerId : String} {now expiry : Datetime} {leaseDuration : Timedelta}

theorem isDue_of_le {t : Timestamptz} (h : job.IsConsistent)
    (hactive : job.status.isTerminal = false) (hle : dueFrom job ≤ t) : isDue t job = true := by
  have hexpiry := h.expiry_iff
  cases hstatus : job.status with
  | queued | retry =>
      rw [hstatus] at hexpiry
      have hnone : job.leaseExpiresAt = none := by simpa using hexpiry
      rw [dueFrom, hnone, Option.getD_none] at hle
      simp [isDue, hstatus, hle]
  | leased =>
      obtain ⟨e, he⟩ := Option.isSome_iff_exists.mp (hexpiry.mpr hstatus)
      rw [dueFrom, he, Option.getD_some] at hle
      simp [isDue, hstatus, he, hle]
  | ready | quarantined | deadLetter =>
      rw [hstatus] at hactive
      cases hactive

/-- The reaper leaves a job alone that has an attempt left, or is over. -/
theorem get?_reaped (hget : s.jobs.get? key = some job) (siteId : String) :
    (s.reaped siteId now).jobs.get? key =
      some (if isExhausted siteId now.instant (key, job) then job.reaped now else job) := by
  rw [reaped, Dict.get?_updateIf, hget, Option.map_some]

theorem get?_of_reaped {siteId : String} (hget : (s.reaped siteId now).jobs.get? key = some job)
    (hactive : job.status.isTerminal = false) : s.jobs.get? key = some job := by
  rw [reaped, Dict.get?_updateIf] at hget
  obtain ⟨job₀, hget₀, heq⟩ := Option.map_eq_some_iff.mp hget
  split at heq
  · rw [← heq] at hactive
    cases hactive
  · rw [hget₀, heq]

/-- The first candidate comes before every job that is due and has an attempt left. -/
theorem exists_candidate {t : Timestamptz} (hget : s.jobs.get? key = some job)
    (hattempts : job.attempt < job.maxAttempts) (hdue : isDue t job = true) :
    ∃ job', s.candidate key.1 t = some job' ∧ precedes job' job := by
  have hmem : job ∈ (s.jobs.items.filter (isCandidate key.1 t)).map Prod.snd := by
    refine List.mem_map.mpr ⟨(key, job), List.mem_filter.mpr ⟨Dict.mem_items.mpr hget, ?_⟩, rfl⟩
    simp [isCandidate, hattempts, hdue]
  obtain ⟨job', hjob'⟩ := exists_head?_insertionSort (r := precedes) hmem
  exact ⟨job', hjob', head?_insertionSort_le hjob' hmem⟩

/-- A claim from then on makes progress. -/
theorem claim_progress (h : Coherent py R s) (hget : s.jobs.get? key = some job)
    (hactive : job.status.isTerminal = false) (hle : dueFrom job ≤ now.instant)
    (hvalid : validateLeaseInput key.1 workerId (some now) leaseDuration = .ok now)
    (hplus : plus now leaseDuration = .ok expiry) :
    Progress s key job workerId now expiry
      ((perform py (.claim key.1 workerId (some now) leaseDuration)).run s).1
      ((perform py (.claim key.1 workerId (some now) leaseDuration)).run s).2 := by
  have hdue := isDue_of_le (h.consistent key job hget) hactive hle
  have hcoherent := h.evolve (evolves_reaped s key.1 now)
  rw [perform, run_claim, hvalid]
  dsimp only
  -- A candidate is not over, so the reaper has not touched it.
  have hcandidates : ∀ current, (s.reaped key.1 now).candidate key.1 now.instant = some current →
      ∃ key', key' = (key.1, current.jobId) ∧ s.jobs.get? key' = some current ∧
        isDue now.instant current = true := by
    intro current hcandidate
    obtain ⟨key', hget', hready⟩ := candidate_some hcandidate
    simp only [isCandidate, Bool.and_eq_true, decide_eq_true_eq] at hready
    refine ⟨key', ?_, get?_of_reaped hget' (isDue_active hready.2), hready.2⟩
    rw [← hcoherent.keys hget', ← hready.1.1]
  by_cases hattempts : job.attempt < job.maxAttempts
  · have hkept : (s.reaped key.1 now).jobs.get? key = some job := by
      rw [get?_reaped hget, if_neg]
      simp only [isExhausted, Bool.and_eq_true, decide_eq_true_eq, not_and, not_le]
      exact fun _ => hattempts
    obtain ⟨current, hcandidate, hfirst⟩ := exists_candidate hkept hattempts hdue
    obtain ⟨key', rfl, hget', hdue'⟩ := hcandidates current hcandidate
    rw [hcandidate]
    dsimp only
    rw [hplus]
    dsimp only
    by_cases hkey : (key.1, current.jobId) = key
    · left
      rw [hkey] at hget' ⊢
      obtain rfl := Option.some.inj (hget'.symm.trans hget)
      exact ⟨rfl, Dict.get?_set_self _ _ _⟩
    · right
      right
      exact ⟨(key.1, current.jobId), current, rfl, hkey, hget', hdue', hfirst, rfl,
        Dict.get?_set_self _ _ _⟩
  · -- The job has used its attempts up, so its lease has ended and it is reaped.
    have hleased : job.status = .leased ∧ job.leaseExpiresAt.any (· ≤ now.instant) = true := by
      rcases Bool.or_eq_true _ _ ▸ hdue with hwaits | hexpired
      · simp only [Bool.and_eq_true, Bool.or_eq_true, decide_eq_true_eq] at hwaits
        exact absurd ((h.consistent key job hget).waiting hwaits.1) hattempts
      · simpa using hexpired
    have hburied : (s.reaped key.1 now).jobs.get? key = some (job.reaped now) := by
      rw [get?_reaped hget, if_pos]
      simp [isExhausted, hleased, not_lt.mp hattempts]
    right
    left
    cases hcandidate : (s.reaped key.1 now).candidate key.1 now.instant with
    | none => exact hburied
    | some current =>
        dsimp only
        rw [hplus]
        dsimp only
        rw [Dict.get?_set_of_ne, hburied]
        rintro hkey
        obtain ⟨key', hget', hready⟩ := candidate_some hcandidate
        simp only [isCandidate, Bool.and_eq_true, decide_eq_true_eq] at hready
        have hkey' : key' = key := by
          rw [hkey, ← hcoherent.keys hget', ← hready.1.1]
        rw [hkey', hburied] at hget'
        obtain rfl := Option.some.inj hget'
        exact absurd (isDue_active hready.2) (by simp [MediaJob.reaped, MediaJobStatus.isTerminal])

end Progress

/-! ## Runs -/

section Runs
variable {py : Stdlib}

theorem mem_requestsOf {calls : List Call} {submission : MediaJobSubmission}
    {now : Option Datetime} (h : Call.enqueue submission now ∈ calls) :
    (submission.receipt.siteId, submission.receipt.requestId) ∈ requestsOf calls :=
  ⟨submission, now, h, rfl⟩

theorem requestsOf_append_left (calls later : List Call) :
    requestsOf calls ⊆ requestsOf (calls ++ later) := by
  rintro _ ⟨submission, now, hmem, rfl⟩
  exact ⟨submission, now, List.mem_append_left later hmem, rfl⟩

/-- The calls enqueue requests of `R`. -/
theorem guarded_requests (py : Stdlib) {R : Set (String × String)} {calls : List Call}
    (hR : requestsOf calls ⊆ R) (s : Memory) :
    (machine py).Guarded (fun _ c => ∀ submission now, c = .enqueue submission now →
      (submission.receipt.siteId, submission.receipt.requestId) ∈ R) s calls := by
  refine Machine.Guarded.of_forall (fun c hc _ submission now heq => ?_) s
  exact hR (mem_requestsOf (heq ▸ hc))

theorem coherent_final {R : Set (String × String)} (hfree : CollisionFree py R) {calls : List Call}
    (hR : requestsOf calls ⊆ R) : Coherent py R ((machine py).final {} calls) := by
  refine (guarded_requests py hR {}).invariant (fun s c hs hc => ?_) (coherent_empty py R)
  exact hs.step hfree hc (perform_move py (fun _ _ h => hs.keys h) c)

theorem run_final {calls later : List Call}
    (hfree : CollisionFree py (requestsOf (calls ++ later))) {key : String × String}
    {job : MediaJob} (hget : ((machine py).final {} calls).jobs.get? key = some job)
    (hterminal : job.status.isTerminal = true) :
    ((machine py).final ((machine py).final {} calls) later).jobs.get? key = some job := by
  have hlater : requestsOf later ⊆ requestsOf (calls ++ later) := by
    rintro _ ⟨submission, now, hmem, rfl⟩
    exact ⟨submission, now, List.mem_append_right calls hmem, rfl⟩
  have hrun := (guarded_requests py hlater ((machine py).final {} calls)).invariant
    (P := fun s => Coherent py (requestsOf (calls ++ later)) s ∧ s.jobs.get? key = some job)
    (fun s c hs hc => ?_) ⟨coherent_final hfree (requestsOf_append_left calls later), hget⟩
  · exact hrun.2
  · have hmove := perform_move py (fun _ _ h => hs.1.keys h) c
    exact ⟨hs.1.step hfree hc hmove, hs.1.final_step hfree hc hmove hs.2 hterminal⟩

/-- **The queue is safe, and every job that is not over makes progress**, after every run whose
requests have different job identifiers: from the time at which a job is due, each claim of its
site with valid arguments, whose lease ends at a representable time, leases the job, buries it
or leases another one that comes first. -/
theorem run_queue (py : Stdlib) {calls : List Call}
    (hfree : CollisionFree py (requestsOf calls)) :
    (∀ key job, ((machine py).final {} calls).jobs.get? key = some job → job.IsConsistent) ∧
    Indexed ((machine py).final {} calls) ∧
    (∀ c key token, Call.fence c = some (key, token) →
      (∀ job, ((machine py).final {} calls).jobs.get? key = some job → job.fencingToken ≠ token) →
      ((machine py).step ((machine py).final {} calls) c).2 = (machine py).final {} calls) ∧
    (∀ later, CollisionFree py (requestsOf (calls ++ later)) → ∀ key job,
      ((machine py).final {} calls).jobs.get? key = some job → job.status.isTerminal = true →
      ((machine py).final ((machine py).final {} calls) later).jobs.get? key = some job) ∧
    (∀ key job, ((machine py).final {} calls).jobs.get? key = some job →
      job.status.isTerminal = false →
      ∃ T, (T = job.dueAt ∨ job.leaseExpiresAt = some T) ∧ ∀ now : Datetime, T ≤ now.instant →
        ∀ workerId leaseDuration expiry,
          validateLeaseInput key.1 workerId (some now) leaseDuration = .ok now →
          plus now leaseDuration = .ok expiry →
          Progress ((machine py).final {} calls) key job workerId now expiry
            ((machine py).step ((machine py).final {} calls)
              (.claim key.1 workerId (some now) leaseDuration)).1
            ((machine py).step ((machine py).final {} calls)
              (.claim key.1 workerId (some now) leaseDuration)).2) := by
  have h := coherent_final hfree (Set.Subset.refl (requestsOf calls))
  refine ⟨h.consistent, h.indexed, ?_, ?_, ?_⟩
  · intro c key token hfence hstale
    exact perform_stale py hfence hstale
  · intro later hlater key job hget hterminal
    exact run_final hlater hget hterminal
  · intro key job hget hactive
    refine ⟨dueFrom job, ?_, fun now hle workerId leaseDuration expiry hvalid hplus => ?_⟩
    · cases hexpiry : job.leaseExpiresAt with
      | none => exact .inl (by rw [dueFrom, hexpiry, Option.getD_none])
      | some e => exact .inr (by rw [dueFrom, hexpiry, Option.getD_some])
    · exact claim_progress h hget hactive hle hvalid hplus

end Runs

/-! ## A recording of a call -/

def sampleReceipt : UploadReceipt where
  receiptId := "r1"
  siteId := "acme"
  purpose := "transcription"
  requestId := "q1"
  sourceKind := .phone
  mediaType := "audio/wav"
  byteSize := 2
  sha256 := String.ofList (List.replicate 64 '0')
  objectRef := "object://media/o1"
  evidenceRef := "evidence://media/e1"
  receivedAt := newYear.instant
  immutableChecksum := String.ofList (List.replicate 64 '1')
  retentionDays := 30
  consentBasis := "pilot_deferred_review"

theorem threeAttempts_mem : (1 : ℤ) ≤ 3 ∧ (3 : ℤ) ≤ 100 := by decide

def sampleSubmission : MediaJobSubmission where
  receipt := sampleReceipt
  durationMs := 1000
  channels := 1
  sampleRate := 8000
  languageHint := none
  maxAttempts := 3
  durationMs_mem := by decide
  channels_mem := by decide
  sampleRate_mem := by decide
  maxAttempts_mem := threeAttempts_mem
  languageHint_mem := by simp

def sampleKey : String × String := ("acme", jobIdOf (.ascii []) "acme" "q1")

/-- The recording is enqueued, and leased twice for a second. -/
def leaseTwice : List Call :=
  [.enqueue sampleSubmission (some newYear), .claim "acme" "v" (some newYear) 1000000,
    .claim "acme" "w" (some (newYearAt 1000000)) 1000000]

theorem collisionFree_of_single {calls : List Call} {request : String × String}
    (h : requestsOf calls ⊆ {request}) (py : Stdlib) : CollisionFree py (requestsOf calls) :=
  (Set.injOn_singleton _ _).mono h

theorem requestsOf_leaseTwice : requestsOf leaseTwice ⊆ {("acme", "q1")} := by
  rintro _ ⟨submission, now, hmem, rfl⟩
  simp only [leaseTwice, List.mem_cons, List.not_mem_nil, or_false, reduceCtorEq,
    Call.enqueue.injEq] at hmem
  rw [hmem.1]
  rfl

/-- The first worker cannot complete the job any more. -/
theorem run_queue_leaseTwice :
    ((machine (.ascii [])).step ((machine (.ascii [])).final {} leaseTwice)
      (.complete "acme" sampleKey.2 "v" 1 (some newYear) .ready [] none none)).2 =
        (machine (.ascii [])).final {} leaseTwice := by
  refine (run_queue (.ascii []) (collisionFree_of_single requestsOf_leaseTwice _)).2.2.1 _
    sampleKey 1 rfl ?_
  intro job hget
  have htoken : (((machine (.ascii [])).final {} leaseTwice).jobs.get? sampleKey).map
      (·.fencingToken) = some 2 := by decide +kernel
  rw [hget] at htoken
  have htwo : job.fencingToken = 2 := Option.some.inj htoken
  omega

/-- The last datetime there is. -/
def latest : Datetime where
  instant := maxWall + microsPerDay - 2
  utcoffset := 1 - microsPerDay
  offset_lt := by decide
  wall_mem := by decide

theorem le_latest (d : Datetime) : d.instant ≤ latest.instant := by
  have hoffset := d.offset_lt
  have hwall := d.wall_mem
  change d.instant ≤ maxWall + microsPerDay - 2
  omega

/-- No lease can begin then. -/
theorem claim_latest_stuck : ¬∀ calls, CollisionFree (.ascii []) (requestsOf calls) →
    ∀ key job, ((machine (.ascii [])).final {} calls).jobs.get? key = some job →
      job.status.isTerminal = false →
      ∃ T : Datetime, ∀ now : Datetime, T.instant ≤ now.instant → ∀ workerId leaseDuration,
        validateLeaseInput key.1 workerId (some now) leaseDuration = .ok now →
        ∃ expiry, Progress ((machine (.ascii [])).final {} calls) key job workerId now expiry
          ((machine (.ascii [])).step ((machine (.ascii [])).final {} calls)
            (.claim key.1 workerId (some now) leaseDuration)).1
          ((machine (.ascii [])).step ((machine (.ascii [])).final {} calls)
            (.claim key.1 workerId (some now) leaseDuration)).2 := by
  intro h
  have hfree : CollisionFree (.ascii []) (requestsOf [.enqueue sampleSubmission (some newYear)]) := by
    refine @collisionFree_of_single _ ("acme", "q1") ?_ _
    exact (requestsOf_append_left _ _).trans requestsOf_leaseTwice
  have hget : ((machine (.ascii [])).final {} [.enqueue sampleSubmission (some newYear)]).jobs.get?
      sampleKey = some (newJob (.ascii []) sampleSubmission newYear) := by decide +kernel
  obtain ⟨T, hT⟩ := h _ hfree sampleKey _ hget rfl
  obtain ⟨expiry, hprogress⟩ := hT latest (le_latest T) "w" 1 (by decide)
  have hraised : ((machine (.ascii [])).step
      ((machine (.ascii [])).final {} [.enqueue sampleSubmission (some newYear)])
      (.claim sampleKey.1 "w" (some latest) 1)).1.isOk = false := by decide +kernel
  rcases hprogress with ⟨hok, -⟩ | hburied | ⟨_, _, _, _, _, _, _, hok, _⟩
  · rw [hok] at hraised
    cases hraised
  · have hqueued : (((machine (.ascii [])).step
        ((machine (.ascii [])).final {} [.enqueue sampleSubmission (some newYear)])
        (.claim sampleKey.1 "w" (some latest) 1)).2.jobs.get? sampleKey).map (·.status) =
          some .queued := by decide +kernel
    rw [hburied] at hqueued
    cases hqueued
  · rw [hok] at hraised
    cases hraised

end Memory
end EsanGbos.MediaRuntime
