import EsanGbos.Observer.Moves

/-!
# Deliveries and jobs agree

The newest job of a delivery says what its status is, and every older job has ended, as long
as no job is enqueued for a delivery that was only received. A delivery that was received
without a job stays `received` when its job comes later, and then the trigger refuses the
transition that the job's claim attempts.

## Main definitions

* `Store.Coherent` — the invariant of the two tables.
* `Store.Agreement` — what is wanted of a state; `Store.FirstEnqueued` — what it takes.
* `Store.run_agreement` — it holds after every run that keeps to the condition.
-/
namespace EsanGbos.Observer
open Lib

/-- The status of a delivery whose newest job has the given status. -/
def JobStatus.agrees : JobStatus → DeliveryStatus → Bool
  | queued, .queued => true
  | processing, .processing | retryWait, .processing => true
  | succeeded, .succeeded => true
  | deadLetter, .failed => true
  | quarantined, .quarantined => true
  | _, _ => false

theorem JobStatus.not_agrees_received (status : JobStatus) : status.agrees .received = false := by
  cases status <;> rfl

/-- The delivery of a job that has not ended is waiting or being processed. -/
theorem JobStatus.agrees_active (status : JobStatus) (delivery : DeliveryStatus)
    (hactive : status.isTerminal = false) (h : status.agrees delivery = true) :
    delivery ∈ [.queued, DeliveryStatus.processing] := by
  revert hactive h
  cases status <;> cases delivery <;> decide

theorem JobStatus.agrees_processing (delivery : DeliveryStatus)
    (h : JobStatus.processing.agrees delivery = true) : delivery ∈ [DeliveryStatus.processing] := by
  revert h
  cases delivery <;> decide

namespace Store

/-! ## The invariant -/

/-- A row that the operations can have written. -/
structure IsWellFormed (job : ProcessingJob) : Prop where
  attempts : 0 ≤ job.attemptCount ∧ job.attemptCount ≤ job.maxAttempts
  waiting : job.status = .queued ∨ job.status = .retryWait → job.attemptCount < job.maxAttempts
  lease_iff : job.lease.isSome = true ↔ job.status = .processing
  not_failed : job.status ≠ .failed

/-- No job of the same delivery has a later generation. -/
def Newest (s : Store) (id : String × String) (job : ProcessingJob) : Prop :=
  ∀ id' job', s.jobs.get? id' = some job' → deliveryOf id'.1 job' = deliveryOf id.1 job →
    job'.generation ≤ job.generation

structure Coherent (s : Store) : Prop where
  wellFormed : ∀ id job, s.jobs.get? id = some job → IsWellFormed job
  referential : Referential s
  unique : ∀ id job id' job', s.jobs.get? id = some job → s.jobs.get? id' = some job' →
    deliveryOf id.1 job = deliveryOf id'.1 job' → job.generation = job'.generation → id = id'
  settled : ∀ id job id' job', s.jobs.get? id = some job → s.jobs.get? id' = some job' →
    deliveryOf id.1 job = deliveryOf id'.1 job' → job.generation < job'.generation →
      job.status.isTerminal = true
  agrees : ∀ id job row, s.jobs.get? id = some job → Newest s id job →
    s.deliveries.get? (deliveryOf id.1 job) = some row →
      job.status.agrees row.processingStatus = true
  enqueued : ∀ k row, s.deliveries.get? k = some row → row.processingStatus ≠ .received →
    0 ∈ s.generations k
  received : ∀ k row, s.deliveries.get? k = some row → row.processingStatus = .received →
    s.generations k = []

theorem coherent_empty : Coherent {} where
  wellFormed id job h := by cases h
  referential id job h := by cases h
  unique id job id' job' h := by cases h
  settled id job id' job' h := by cases h
  agrees id job row h := by cases h
  enqueued k row h := by cases h
  received k row h := by cases h

section Coherence
variable {s s' : Store} {id : String × String} {job : ProcessingJob}

theorem Coherent.congr (h : Coherent s) (hjobs : s'.jobs = s.jobs)
    (hdeliveries : s'.deliveries = s.deliveries) : Coherent s' := by
  have hgenerations : ∀ k, s'.generations k = s.generations k := generations_congr hjobs
  constructor
  · simpa only [hjobs] using h.wellFormed
  · simpa only [Referential, hjobs, hdeliveries] using h.referential
  · simpa only [hjobs] using h.unique
  · simpa only [hjobs] using h.settled
  · simpa only [Newest, hjobs, hdeliveries] using h.agrees
  · simpa only [hgenerations, hdeliveries] using h.enqueued
  · simpa only [hgenerations, hdeliveries] using h.received

/-- A job that has not ended is the newest of its delivery. -/
theorem Coherent.newest_of_active (h : Coherent s) (hget : s.jobs.get? id = some job)
    (hactive : job.status.isTerminal = false) : Newest s id job := by
  intro id' job' hget' hof
  by_contra hlt
  have hterminal := h.settled id job id' job' hget hget' hof.symm (not_le.mp hlt)
  exact Bool.false_ne_true (hactive.symm.trans hterminal)

/-- The delivery of a job that has not ended. -/
theorem Coherent.delivery_of_active (h : Coherent s) (hget : s.jobs.get? id = some job)
    (hactive : job.status.isTerminal = false) :
    ∃ row, s.deliveries.get? (deliveryOf id.1 job) = some row ∧
      job.status.agrees row.processingStatus = true := by
  obtain ⟨row, hrow⟩ := Option.ne_none_iff_exists'.mp (h.referential id job hget)
  exact ⟨row, hrow, h.agrees id job row hget (h.newest_of_active hget hactive) hrow⟩

theorem get?_jobs_set {j : ProcessingJob} (hjobs : s'.jobs = s.jobs.set id j)
    {id' : String × String} {job' : ProcessingJob} (h : s'.jobs.get? id' = some job') :
    (id' = id ∧ job' = j) ∨ (id' ≠ id ∧ s.jobs.get? id' = some job') := by
  rw [hjobs, Dict.get?_set] at h
  split at h
  next heq => exact .inl ⟨heq, (Option.some.inj h).symm⟩
  next hne => exact .inr ⟨hne, h⟩

/-- A step of a job and, with it, of its delivery. -/
structure Works (s s' : Store) (id : String × String) (job job' : ProcessingJob)
    (row row' : InboundDelivery) : Prop where
  job_get : s.jobs.get? id = some job
  active : job.status.isTerminal = false
  jobs : s'.jobs = s.jobs.set id job'
  delivery : deliveryOf id.1 job' = deliveryOf id.1 job
  generation : job'.generation = job.generation
  wellFormed : IsWellFormed job'
  row_get : s.deliveries.get? (deliveryOf id.1 job) = some row
  deliveries : ∀ k, s'.deliveries.get? k =
    if k = deliveryOf id.1 job then some row' else s.deliveries.get? k
  agrees : job'.status.agrees row'.processingStatus = true

/-- Every job after the step has a job before it with its delivery and generation, and is
the same job unless it is the one that was worked on. -/
theorem Works.before {job' : ProcessingJob} {row row' : InboundDelivery}
    (h : Works s s' id job job' row row') {id₁ : String × String} {job₁ : ProcessingJob}
    (hget : s'.jobs.get? id₁ = some job₁) :
    ∃ job₀, s.jobs.get? id₁ = some job₀ ∧ deliveryOf id₁.1 job₀ = deliveryOf id₁.1 job₁ ∧
      job₀.generation = job₁.generation ∧
      ((id₁ = id ∧ job₁ = job' ∧ job₀ = job) ∨ (id₁ ≠ id ∧ job₁ = job₀)) := by
  rcases get?_jobs_set h.jobs hget with ⟨rfl, rfl⟩ | ⟨hne, hget⟩
  · exact ⟨job, h.job_get, h.delivery.symm, h.generation.symm, .inl ⟨rfl, rfl, rfl⟩⟩
  · exact ⟨job₁, hget, rfl, rfl, .inr ⟨hne, rfl⟩⟩

theorem Works.after {job' : ProcessingJob} {row row' : InboundDelivery}
    (h : Works s s' id job job' row row') {id₀ : String × String} {job₀ : ProcessingJob}
    (hget : s.jobs.get? id₀ = some job₀) :
    ∃ job₁, s'.jobs.get? id₀ = some job₁ ∧ deliveryOf id₀.1 job₁ = deliveryOf id₀.1 job₀ ∧
      job₁.generation = job₀.generation := by
  by_cases heq : id₀ = id
  · subst heq
    rw [h.job_get] at hget
    obtain rfl := Option.some.inj hget
    exact ⟨job', by rw [h.jobs, Dict.get?_set_self], h.delivery, h.generation⟩
  · exact ⟨job₀, by rw [h.jobs, Dict.get?_set_of_ne _ _ heq, hget], rfl, rfl⟩

theorem Works.generations {job' : ProcessingJob} {row row' : InboundDelivery}
    (h : Works s s' id job job' row row') (k : Instance × String) (n : ℕ) :
    n ∈ s'.generations k ↔ n ∈ s.generations k := by
  rw [mem_generations, mem_generations]
  constructor
  · rintro ⟨id₁, job₁, hget, hof, hgen⟩
    obtain ⟨job₀, hget₀, hof₀, hgen₀, -⟩ := h.before hget
    exact ⟨id₁, job₀, hget₀, hof₀.trans hof, hgen₀.trans hgen⟩
  · rintro ⟨id₀, job₀, hget, hof, hgen⟩
    obtain ⟨job₁, hget₁, hof₁, hgen₁⟩ := h.after hget
    exact ⟨id₀, job₁, hget₁, hof₁.trans hof, hgen₁.trans hgen⟩

theorem Coherent.works {job' : ProcessingJob} {row row' : InboundDelivery} (hs : Coherent s)
    (h : Works s s' id job job' row row') : Coherent s' := by
  have hnewest := hs.newest_of_active h.job_get h.active
  have hrowAgrees := hs.agrees id job row h.job_get hnewest h.row_get
  constructor
  · intro id₁ job₁ hget
    rcases get?_jobs_set h.jobs hget with ⟨-, rfl⟩ | ⟨-, hget⟩
    · exact h.wellFormed
    · exact hs.wellFormed id₁ job₁ hget
  · intro id₁ job₁ hget
    obtain ⟨job₀, hget₀, hof, -, -⟩ := h.before hget
    rw [← hof, h.deliveries]
    split
    · simp
    · exact hs.referential id₁ job₀ hget₀
  · intro id₁ job₁ id₂ job₂ hget₁ hget₂ hof hgen
    obtain ⟨j₁, hj₁, hof₁, hgen₁, -⟩ := h.before hget₁
    obtain ⟨j₂, hj₂, hof₂, hgen₂, -⟩ := h.before hget₂
    exact hs.unique id₁ j₁ id₂ j₂ hj₁ hj₂ (by rw [hof₁, hof₂, hof]) (by rw [hgen₁, hgen₂, hgen])
  · intro id₁ job₁ id₂ job₂ hget₁ hget₂ hof hgen
    obtain ⟨j₁, hj₁, hof₁, hgen₁, hcase⟩ := h.before hget₁
    obtain ⟨j₂, hj₂, hof₂, hgen₂, -⟩ := h.before hget₂
    have hlt : j₁.generation < j₂.generation := by rw [hgen₁, hgen₂]; exact hgen
    have hof₀ : deliveryOf id₁.1 j₁ = deliveryOf id₂.1 j₂ := by rw [hof₁, hof₂, hof]
    rcases hcase with ⟨rfl, -, rfl⟩ | ⟨-, rfl⟩
    · exact absurd (hnewest id₂ j₂ hj₂ hof₀.symm) (not_le.mpr hlt)
    · exact hs.settled id₁ job₁ id₂ j₂ hj₁ hj₂ hof₀ hlt
  · intro id₁ job₁ row₁ hget hnew hrow
    obtain ⟨j₁, hj₁, hof₁, hgen₁, hcase⟩ := h.before hget
    rw [← hof₁, h.deliveries] at hrow
    rcases hcase with ⟨rfl, rfl, rfl⟩ | ⟨hne, rfl⟩
    · rw [if_pos rfl] at hrow
      obtain rfl := Option.some.inj hrow
      exact h.agrees
    · have hnew₀ : Newest s id₁ job₁ := by
        intro id₂ j₂ hj₂ hof
        obtain ⟨job₂, hget₂, hof₂, hgen₂⟩ := h.after hj₂
        exact hgen₂ ▸ hnew id₂ job₂ hget₂ (hof₂.trans hof)
      by_cases hsame : deliveryOf id₁.1 job₁ = deliveryOf id.1 job
      · -- Two newest jobs of a delivery are one.
        have hgen : job₁.generation = job.generation :=
          le_antisymm (hnewest id₁ job₁ hj₁ hsame) (hnew₀ id job h.job_get hsame.symm)
        exact absurd (hs.unique id₁ job₁ id job hj₁ h.job_get hsame hgen) hne
      · rw [if_neg hsame] at hrow
        exact hs.agrees id₁ job₁ row₁ hj₁ hnew₀ hrow
  · intro k row₁ hrow hreceived
    rw [h.generations]
    rw [h.deliveries] at hrow
    split at hrow
    next heq =>
      apply hs.enqueued k row (heq ▸ h.row_get)
      intro hstatus
      rw [hstatus, JobStatus.not_agrees_received] at hrowAgrees
      cases hrowAgrees
    next => exact hs.enqueued k row₁ hrow hreceived
  · intro k row₁ hrow hreceived
    rw [h.deliveries] at hrow
    split at hrow
    next =>
      obtain rfl := Option.some.inj hrow
      have hagrees := h.agrees
      rw [hreceived, JobStatus.not_agrees_received] at hagrees
      cases hagrees
    next =>
      rw [List.eq_nil_iff_forall_not_mem]
      intro n hn
      rw [h.generations, hs.received k row₁ hrow hreceived] at hn
      cases hn

/-- A new job of a delivery whose other jobs have ended. -/
structure Files (s s' : Store) (id : String × String) (job : ProcessingJob)
    (row : InboundDelivery) : Prop where
  new : IsNew s id job
  later : ∀ n ∈ s.generations (deliveryOf id.1 job), n < job.generation
  first : job.generation = 0 ∨ 0 ∈ s.generations (deliveryOf id.1 job)
  settled : ∀ id' job', s.jobs.get? id' = some job' →
    deliveryOf id'.1 job' = deliveryOf id.1 job → job'.status.isTerminal = true
  jobs : s'.jobs = s.jobs.set id job
  deliveries : s'.deliveries = s.deliveries.set (deliveryOf id.1 job) row
  queued : row.processingStatus = .queued

theorem Files.later_of_get {row : InboundDelivery} (h : Files s s' id job row)
    {id' : String × String} {job' : ProcessingJob} (hget : s.jobs.get? id' = some job')
    (hof : deliveryOf id'.1 job' = deliveryOf id.1 job) : job'.generation < job.generation :=
  h.later _ (mem_generations.mpr ⟨id', job', hget, hof, rfl⟩)

theorem Files.generations {row : InboundDelivery} (h : Files s s' id job row)
    (k : Instance × String) (n : ℕ) :
    n ∈ s'.generations k ↔
      n ∈ s.generations k ∨ (k = deliveryOf id.1 job ∧ n = job.generation) := by
  rw [mem_generations, mem_generations]
  constructor
  · rintro ⟨id₁, job₁, hget, hof, hgen⟩
    rcases get?_jobs_set h.jobs hget with ⟨rfl, rfl⟩ | ⟨-, hget⟩
    · exact .inr ⟨hof.symm, hgen.symm⟩
    · exact .inl ⟨id₁, job₁, hget, hof, hgen⟩
  · rintro (⟨id₁, job₁, hget, hof, hgen⟩ | ⟨rfl, rfl⟩)
    · have hne : id₁ ≠ id := by
        rintro rfl
        rw [h.new.free] at hget
        cases hget
      exact ⟨id₁, job₁, by rw [h.jobs, Dict.get?_set_of_ne _ _ hne, hget], hof, hgen⟩
    · exact ⟨id, job, by rw [h.jobs, Dict.get?_set_self], rfl, rfl⟩

theorem IsNew.wellFormed (h : IsNew s id job) : IsWellFormed job where
  attempts := by have := h.attempts; rw [h.attempt]; omega
  waiting _ := by have := h.attempts; rw [h.attempt]; omega
  lease_iff := by simp [h.lease, h.status]
  not_failed := by simp [h.status]

theorem Coherent.files {row : InboundDelivery} (hs : Coherent s) (h : Files s s' id job row) :
    Coherent s' := by
  constructor
  · intro id₁ job₁ hget
    rcases get?_jobs_set h.jobs hget with ⟨-, rfl⟩ | ⟨-, hget⟩
    · exact h.new.wellFormed
    · exact hs.wellFormed id₁ job₁ hget
  · intro id₁ job₁ hget
    rw [h.deliveries, Dict.get?_set]
    split
    · simp
    next hne =>
      rcases get?_jobs_set h.jobs hget with ⟨rfl, rfl⟩ | ⟨-, hget⟩
      · exact absurd rfl hne
      · exact hs.referential id₁ job₁ hget
  · intro id₁ job₁ id₂ job₂ hget₁ hget₂ hof hgen
    rcases get?_jobs_set h.jobs hget₁ with ⟨rfl, rfl⟩ | ⟨-, hget₁⟩ <;>
      rcases get?_jobs_set h.jobs hget₂ with ⟨rfl, rfl⟩ | ⟨-, hget₂⟩
    · rfl
    · exact absurd hgen (h.later_of_get hget₂ hof.symm).ne'
    · exact absurd hgen (h.later_of_get hget₁ hof).ne
    · exact hs.unique id₁ job₁ id₂ job₂ hget₁ hget₂ hof hgen
  · intro id₁ job₁ id₂ job₂ hget₁ hget₂ hof hgen
    rcases get?_jobs_set h.jobs hget₁ with ⟨rfl, rfl⟩ | ⟨-, hget₁⟩ <;>
      rcases get?_jobs_set h.jobs hget₂ with ⟨rfl, rfl⟩ | ⟨-, hget₂⟩
    · exact absurd hgen (lt_irrefl _)
    · exact absurd hgen (h.later_of_get hget₂ hof.symm).asymm
    · exact h.settled id₁ job₁ hget₁ hof
    · exact hs.settled id₁ job₁ id₂ job₂ hget₁ hget₂ hof hgen
  · intro id₁ job₁ row₁ hget hnew hrow
    rw [h.deliveries, Dict.get?_set] at hrow
    rcases get?_jobs_set h.jobs hget with ⟨rfl, rfl⟩ | ⟨hne, hget⟩
    · rw [if_pos rfl] at hrow
      obtain rfl := Option.some.inj hrow
      rw [h.queued, h.new.status]
      rfl
    · split at hrow
      next hof =>
        have hle := hnew id job (by rw [h.jobs, Dict.get?_set_self]) hof.symm
        exact absurd (h.later_of_get hget hof) (not_lt.mpr hle)
      next =>
        refine hs.agrees id₁ job₁ row₁ hget (fun id₂ job₂ hget₂ hof => ?_) hrow
        refine hnew id₂ job₂ ?_ hof
        have hne₂ : id₂ ≠ id := by
          rintro rfl
          rw [h.new.free] at hget₂
          cases hget₂
        rw [h.jobs, Dict.get?_set_of_ne _ _ hne₂, hget₂]
  · intro k row₁ hrow hreceived
    rw [h.generations]
    rw [h.deliveries, Dict.get?_set] at hrow
    split at hrow
    next heq =>
      rcases h.first with hzero | hmem
      · exact .inr ⟨heq, hzero.symm⟩
      · exact .inl (heq ▸ hmem)
    next => exact .inl (hs.enqueued k row₁ hrow hreceived)
  · intro k row₁ hrow hreceived
    rw [h.deliveries, Dict.get?_set] at hrow
    split at hrow
    next =>
      obtain rfl := Option.some.inj hrow
      rw [h.queued] at hreceived
      cases hreceived
    next hne =>
      rw [List.eq_nil_iff_forall_not_mem]
      intro n hn
      rw [h.generations, hs.received k row₁ hrow hreceived] at hn
      simp [hne] at hn

/-- A delivery that is received on its own. -/
theorem Coherent.receive {k : Instance × String} {row : InboundDelivery} (hs : Coherent s)
    (hnew : s.deliveries.get? k = none) (hstatus : row.processingStatus = .received)
    (hjobs : s'.jobs = s.jobs) (hdeliveries : s'.deliveries = s.deliveries.set k row) :
    Coherent s' := by
  have hgenerations : ∀ k, s'.generations k = s.generations k := generations_congr hjobs
  have hne : ∀ id job, s.jobs.get? id = some job → deliveryOf id.1 job ≠ k := by
    rintro id job hget rfl
    exact hs.referential id job hget hnew
  constructor
  · simpa only [hjobs] using hs.wellFormed
  · intro id job hget
    rw [hjobs] at hget
    rw [hdeliveries, Dict.get?_set_of_ne _ _ (hne id job hget)]
    exact hs.referential id job hget
  · simpa only [hjobs] using hs.unique
  · simpa only [hjobs] using hs.settled
  · intro id job row' hget hnewest hrow
    rw [hjobs] at hget
    rw [hdeliveries, Dict.get?_set_of_ne _ _ (hne id job hget)] at hrow
    exact hs.agrees id job row' hget (by simpa only [Newest, hjobs] using hnewest) hrow
  · intro k' row' hrow hreceived
    rw [hgenerations]
    rw [hdeliveries, Dict.get?_set] at hrow
    split at hrow
    next =>
      obtain rfl := Option.some.inj hrow
      exact absurd hstatus hreceived
    next => exact hs.enqueued k' row' hrow hreceived
  · intro k' row' hrow hreceived
    rw [hgenerations]
    rw [hdeliveries, Dict.get?_set] at hrow
    split at hrow
    next heq =>
      rw [List.eq_nil_iff_forall_not_mem]
      intro n hn
      obtain ⟨id, job, hget, hof, -⟩ := mem_generations.mp hn
      exact hne id job hget (hof.trans heq)
    next => exact hs.received k' row' hrow hreceived

/-! ## The moves keep it -/

/-- A job that is worked on takes its delivery along. -/
theorem Coherent.redelivers {job' : ProcessingJob} {before : List DeliveryStatus}
    {after : DeliveryStatus} (hs : Coherent s) (hget : s.jobs.get? id = some job)
    (hactive : job.status.isTerminal = false)
    (hbefore : ∀ status, job.status.agrees status = true → status ∈ before)
    (hafter : job'.status.agrees after = true) (hjobs : s'.jobs = s.jobs.set id job')
    (hof : deliveryOf id.1 job' = deliveryOf id.1 job) (hgen : job'.generation = job.generation)
    (hwf : IsWellFormed job')
    (hdelivery : Redelivers s s' (deliveryOf id.1 job) before after) : Coherent s' := by
  obtain ⟨row, hrow, hagrees⟩ := hs.delivery_of_active hget hactive
  rcases hdelivery with ⟨row₀, row', hrow₀, -, hstatus, -, hset⟩ | ⟨-, hnone⟩
  · refine hs.works (?_ : Works s s' id job job' row row')
    refine ⟨hget, hactive, hjobs, hof, hgen, hwf, hrow, fun k => ?_, by rw [hstatus]; exact hafter⟩
    rw [hset, Dict.get?_set]
  · exact absurd (hbefore _ hagrees) (hnone row hrow)

theorem isHeld_status {a : LeaseArguments} {now : Timestamptz} (h : isHeld a now job = true) :
    job.status = .processing := by
  simp only [isHeld, Bool.and_eq_true, decide_eq_true_eq] at h
  exact h.1.1.1

theorem isDue_active {now : Timestamptz} (h : isDue now job = true) :
    job.status.isTerminal = false := by
  unfold isDue at h
  split at h
  next hstatus => rw [hstatus]; rfl
  next hstatus => rw [hstatus]; rfl
  next hstatus => rw [hstatus]; rfl
  next => cases h

theorem IsWellFormed.claimed (h : IsWellFormed job) (hattempts : job.attemptCount < job.maxAttempts)
    (workerId : String) (now expiry : Datetime) :
    IsWellFormed (Store.claimed job workerId now expiry) where
  attempts := ⟨by have := h.attempts; change 0 ≤ job.attemptCount + 1; omega, hattempts⟩
  waiting hwaiting := by rcases hwaiting with h | h <;> cases h
  lease_iff := by simp [Store.claimed]
  not_failed := by simp [Store.claimed]

theorem IsWellFormed.ended (h : IsWellFormed job) {status : JobStatus} {after : DeliveryStatus}
    (hends : Ends status after) (errorCode : Option String) (now : Datetime) :
    IsWellFormed (Store.ended job status errorCode now) where
  attempts := h.attempts
  waiting hwaiting := by
    cases hends <;> rcases hwaiting with h | h <;> cases h
  lease_iff := by
    cases hends <;> simp [Store.ended]
  not_failed := by
    cases hends <;> simp [Store.ended]

theorem IsWellFormed.retried (h : IsWellFormed job) (hattempts : job.attemptCount < job.maxAttempts)
    (nextRetryAt : Datetime) (errorCode : String) (now : Datetime) :
    IsWellFormed (Store.retried job nextRetryAt errorCode now) := by
  rw [Store.retried, if_neg (not_le.mpr hattempts)]
  exact ⟨h.attempts, fun _ => hattempts, by simp, by simp⟩

/-- The delivery named by a call that enqueues a first job has not only been received. -/
def FirstEnqueued (s : Store) (c : Call) : Prop :=
  ∀ k row, c.enqueues = some k → s.deliveries.get? k = some row → row.processingStatus ≠ .received

theorem Coherent.step {c : Call} (hs : Coherent s) (hc : FirstEnqueued s c)
    (hmove : Move c s s') : Coherent s' := by
  cases hmove with
  | idle hjobs hdeliveries => exact hs.congr hjobs hdeliveries
  | receive k row _ hnew hstatus hjobs hdeliveries => exact hs.receive hnew hstatus hjobs hdeliveries
  | accept id job row hnew hstatus hjob hgeneration hjobs hdeliveries =>
      have hnone : ∀ id' job', s.jobs.get? id' = some job' →
          deliveryOf id'.1 job' ≠ deliveryOf id.1 job := by
        intro id' job' hget hof
        exact hs.referential id' job' hget (hof ▸ hnew)
      refine hs.files ⟨hjob, fun n hn => ?_, .inl hgeneration, fun id' job' hget hof => ?_, hjobs,
        hdeliveries, hstatus⟩
      · obtain ⟨id', job', hget, hof, -⟩ := mem_generations.mp hn
        exact absurd hof (hnone id' job' hget)
      · exact absurd hof (hnone id' job' hget)
  | enqueue id job row hcall hget hjob hgeneration hjobs hdeliveries =>
      -- A delivery that is past `received` has its first job already.
      have hzero := hs.enqueued _ row hget (hc _ row hcall hget)
      exact absurd (hgeneration ▸ hzero) hjob.generation
  | lease id job workerId now expiry hget hclaim hjobs hdelivery =>
      simp only [isClaimable, Bool.and_eq_true, decide_eq_true_eq] at hclaim
      obtain ⟨⟨-, hattempts⟩, hdue⟩ := hclaim
      have hactive := isDue_active hdue
      exact hs.redelivers hget hactive (fun status => JobStatus.agrees_active _ status hactive) rfl
        hjobs rfl rfl ((hs.wellFormed id job hget).claimed hattempts workerId now expiry) hdelivery
  | extend id job a now expiry updatedAt _ hget hheld hjobs hdeliveries =>
      have hstatus := isHeld_status hheld
      have hactive : job.status.isTerminal = false := by rw [hstatus]; rfl
      obtain ⟨row, hrow, hagrees⟩ := hs.delivery_of_active hget hactive
      have hwf := hs.wellFormed id job hget
      refine hs.works ⟨hget, hactive, hjobs, rfl, rfl,
        ⟨hwf.attempts, hwf.waiting, by simp [hstatus], hwf.not_failed⟩, hrow, fun k => ?_, hagrees⟩
      rw [hdeliveries]
      split
      next heq => rw [heq, hrow]
      next => rfl
  | wait id job a now nextRetryAt errorCode _ hget hheld hattempts hjobs hdelivery =>
      have hstatus := isHeld_status hheld
      have hretried : retried job nextRetryAt errorCode now = { job with
          status := .retryWait, lease := none, nextRetryAt := some nextRetryAt.instant
          lastErrorCode := some errorCode, updatedAt := now.instant } :=
        if_neg (not_le.mpr hattempts)
      refine hs.redelivers hget (by rw [hstatus]; rfl) ?_ ?_ hjobs ?_ ?_
        ((hs.wellFormed id job hget).retried hattempts nextRetryAt errorCode now) hdelivery
      · rw [hstatus]
        exact JobStatus.agrees_processing
      · rw [hretried]
        rfl
      · rw [hretried]
        rfl
      · rw [hretried]
  | finish id job a now status after errorCode _ hget hheld hends hjobs hdelivery =>
      have hstatus := isHeld_status hheld
      refine hs.redelivers hget (by rw [hstatus]; rfl) ?_ ?_ hjobs rfl rfl
        ((hs.wellFormed id job hget).ended hends errorCode now) hdelivery
      · rw [hstatus]
        exact JobStatus.agrees_processing
      · cases hends <;> rfl
  | replay id job row row' hget hfailed hqueued _ hjob hgeneration hjobs hdeliveries =>
      have hzero := hs.enqueued _ row hget (by rw [hfailed]; decide)
      refine hs.files ⟨hjob, fun n hn => ?_, .inr hzero, fun id' job' hget' hof => ?_, hjobs,
        hdeliveries, hqueued⟩
      · rw [hgeneration]
        exact lt_nextGeneration hn
      · -- The newest job of a failed delivery is dead, and so ended.
        by_cases hnewest : Newest s id' job'
        · have hagrees := hs.agrees id' job' row hget' hnewest (hof ▸ hget)
          rw [hfailed] at hagrees
          cases hstatus : job'.status <;> rw [hstatus] at hagrees <;>
            first | rfl | cases hagrees
        · simp only [Newest, not_forall] at hnewest
          obtain ⟨id₂, job₂, hget₂, hof₂, hlt⟩ := hnewest
          exact hs.settled id' job' id₂ job₂ hget' hget₂ hof₂.symm (not_le.mp hlt)

/-! ## Claims -/

/-- The checks of a claim raise no exception of the database. -/
theorem validateClaim_error {workerId : String} {now : Option Datetime} {leaseSeconds : ℤ}
    {e : Raise} (h : validateClaim workerId now leaseSeconds = .error e) : e ≠ .integrityError := by
  rintro rfl
  unfold validateClaim requireIdentifier requireAware requireLeaseSeconds plus at h
  split at h
  · cases now with
    | none => cases h
    | some d =>
        by_cases hlease : 1 ≤ leaseSeconds ∧ leaseSeconds ≤ 86400
        · cases hadd : d.add (seconds leaseSeconds) <;> simp [hlease, hadd, bind, Except.bind] at h
          cases h
        · simp [hlease, bind, Except.bind] at h
  · cases h

/-- A claim leases its candidate, and the trigger lets the delivery follow. -/
theorem run_claimProcessingJob (hs : Coherent s) {collation : Collation} {scope : TenantScope}
    {workerId : String} {now : Option Datetime} {leaseSeconds : ℤ} {now' expiry : Datetime}
    (hchecked : validateClaim workerId now leaseSeconds = .ok (now', expiry))
    (hcandidate : s.candidate collation scope.siteId now'.instant = some (id, job)) :
    ∃ s', (claimProcessingJob collation scope workerId now leaseSeconds).run s =
        (.ok (some (id.2, claimed job workerId now' expiry)), s') ∧
      s'.jobs = s.jobs.set id (claimed job workerId now' expiry) ∧ s'.instances = s.instances := by
  obtain ⟨hget, hclaim⟩ := candidate_some hcandidate
  simp only [isClaimable, Bool.and_eq_true, decide_eq_true_eq] at hclaim
  have hactive := isDue_active hclaim.2
  obtain ⟨row, hrow, hagrees⟩ := hs.delivery_of_active hget hactive
  have hstatus := JobStatus.agrees_active _ _ hactive hagrees
  have hmay : row.processingStatus.mayBecome .processing = true ∧ row.processingStatus ∈
      [.received, .authenticated, .queued, DeliveryStatus.processing] := by
    simp only [List.mem_cons, List.not_mem_nil, or_false] at hstatus
    rcases hstatus with h | h <;> rw [h] <;> decide
  have hof : deliveryOf id.1 (claimed job workerId now' expiry) = deliveryOf id.1 job := rfl
  unfold claimProcessingJob
  rw [hchecked, Proc.run_lift_bind]
  dsimp only
  rw [Proc.run_atomically, Proc.run_get_bind, hcandidate]
  dsimp only
  rw [Proc.run_modify_bind, Proc.run_bind, startDelivery, updateDelivery, Proc.run_get_bind]
  simp only [hof, hrow, Option.filter_some, hmay.2, decide_true, if_true, hmay.1,
    Proc.run_modify_bind, Proc.run_pure]
  exact ⟨_, rfl, rfl, rfl⟩

theorem run_claimProcessingJob_none {collation : Collation} {scope : TenantScope}
    {workerId : String} {now : Option Datetime} {leaseSeconds : ℤ} {now' expiry : Datetime}
    (hchecked : validateClaim workerId now leaseSeconds = .ok (now', expiry))
    (hcandidate : s.candidate collation scope.siteId now'.instant = none) :
    (claimProcessingJob collation scope workerId now leaseSeconds).run s = (.ok none, s) := by
  unfold claimProcessingJob
  rw [hchecked, Proc.run_lift_bind]
  dsimp only
  rw [Proc.run_atomically, Proc.run_get_bind, hcandidate]
  rfl

end Coherence

/-! ## Runs -/

/-- Deliveries and jobs agree, and no claim attempts a transition that the trigger rejects. -/
structure Agreement (collation : Collation) (s : Store) : Prop where
  single : ∀ id job id' job', s.jobs.get? id = some job → s.jobs.get? id' = some job' →
    deliveryOf id.1 job = deliveryOf id'.1 job' → job.status.isTerminal = false →
      job'.status.isTerminal = false → id = id'
  newest : ∀ id job row, s.jobs.get? id = some job → Newest s id job →
    s.deliveries.get? (deliveryOf id.1 job) = some row →
      job.status.agrees row.processingStatus = true
  transitions : ∀ scope workerId now leaseSeconds,
    ((claimProcessingJob collation scope workerId now leaseSeconds).run s).1 ≠
      .error .integrityError

theorem Coherent.agreement {s : Store} (hs : Coherent s) (collation : Collation) :
    Agreement collation s where
  single id job id' job' hget hget' hof hactive hactive' := by
    refine hs.unique id job id' job' hget hget' hof (le_antisymm ?_ ?_)
    · exact hs.newest_of_active hget' hactive' id job hget hof
    · exact hs.newest_of_active hget hactive id' job' hget' hof.symm
  newest := hs.agrees
  transitions scope workerId now leaseSeconds := by
    cases hchecked : validateClaim workerId now leaseSeconds with
    | error e =>
        unfold claimProcessingJob
        rw [hchecked, Proc.run_lift_bind]
        intro h
        exact validateClaim_error hchecked (Except.error.inj h)
    | ok checked =>
        obtain ⟨now', expiry⟩ := checked
        cases hcandidate : s.candidate collation scope.siteId now'.instant with
        | none =>
            rw [run_claimProcessingJob_none hchecked hcandidate]
            intro h
            cases h
        | some e =>
            obtain ⟨s', hrun, -, -⟩ := run_claimProcessingJob hs hchecked hcandidate
            rw [hrun]
            intro h
            cases h

theorem coherent_final (py : Stdlib) (collation : Collation) {calls : List Call}
    (h : (machine py collation).Guarded FirstEnqueued {} calls) :
    Coherent ((machine py collation).final {} calls) :=
  h.invariant (fun _ c hs hc => hs.step hc (perform_move py collation hs.referential c))
    coherent_empty

/-- In every run that enqueues no first job for a delivery that was only received, the two
tables agree. -/
theorem run_agreement (py : Stdlib) (collation : Collation) {calls : List Call}
    (h : (machine py collation).Guarded FirstEnqueued {} calls) :
    Agreement collation ((machine py collation).final {} calls) :=
  (coherent_final py collation h).agreement collation

/-! ## A delivery that was received first -/

def registerMailbox : Call := .registerConnectorInstance acme mailbox (some newYear) 300 none none

/-- A message of the mailbox. -/
def letter : DeliveryArguments :=
  ⟨"d1", String.ofList (List.replicate 64 '0'), "obs:1", 2, "message/rfc822", some newYear, "c1"⟩

def enqueueLetter (maxAttempts : ℤ) : Call :=
  .acceptAndEnqueueDelivery acme mailbox letter "j1" "k1" maxAttempts

/-- The message is enqueued, leased for a minute and completed. -/
def processLetter : List Call :=
  [registerMailbox, enqueueLetter 3, .claimProcessingJob acme "w" (some newYear) 60,
    .completeProcessingJob acme ⟨"j1", "w", 1, 1, some newYear⟩ []]

theorem run_agreement_processLetter :
    Agreement codePoints ((machine (.ascii []) codePoints).final {} processLetter) := by
  refine run_agreement (.ascii []) codePoints ⟨?_, ?_, ?_, ?_, trivial⟩ <;> intro k row hc hget
  · cases hc
  · have hnone : ((machine (.ascii []) codePoints).final {} [registerMailbox]).deliveries.values =
        [] := by decide +kernel
    have hmem := Dict.mem_values.mpr ⟨k, hget⟩
    exact absurd (hnone ▸ hmem) (by simp)
  · cases hc
  · cases hc

/-- A message is received, and its job comes later. -/
def receiveLetter : List Call :=
  [registerMailbox, .acceptInboundDelivery acme mailbox letter, enqueueLetter 3]

/-- The claim of that job runs into the trigger. -/
theorem receiveLetter_disagrees : ¬∀ calls : List Call,
    Agreement codePoints ((machine (.ascii []) codePoints).final {} calls) := by
  intro h
  refine (h receiveLetter).transitions acme "w" (some newYear) 60 ?_
  rw [← raised_eq_some]
  decide +kernel

end Store
end EsanGbos.Observer
