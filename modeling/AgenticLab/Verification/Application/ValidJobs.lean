import AgenticLab.Verification.Application.JobRecord
import AgenticLab.Verification.Application.Methods

/-! # Stored jobs stay valid

The queue service stores copies that nothing validates. They stay valid in every run in which no
job enters its queue with a failure or after its start, and none starts before its own times. -/

namespace AgenticLab

open ApplicationJobQueueService ApplicationJobRecord
open InMemoryApplicationJobRepository (mem_list)
open RepositoryOperation (handle)

variable {casefold : Casefold}

def AllValid (s : ApplicationRepositories casefold) : Prop :=
  ∀ job ∈ s.jobs.records, job.validateRecord = .ok ()

namespace AllValid

variable {s : ApplicationRepositories casefold}

theorem valid (h : AllValid s) {stored : ApplicationJobRecord} {key : String}
    (hget : s.jobs.get key = some stored) : stored.Valid :=
  validateRecord_eq_ok.mp (h stored (KeyedStore.get_eq_some.mp hget).1)

variable {cancellations : InMemoryApplicationCancellationRepository casefold}

theorem replace (h : AllValid s) {copy : ApplicationJobRecord} (hcopy : copy.Valid) :
    AllValid ⟨s.jobs.replace copy, cancellations⟩ := by
  intro job hjob
  rcases KeyedStore.mem_replace hjob with hold | rfl
  · exact h job hold
  · exact validateRecord_eq_ok.mpr hcopy

theorem insert (h : AllValid s) {job : ApplicationJobRecord} (hjob : job.validateRecord = .ok ())
    (hnone : s.jobs.get (job.key casefold) = none) :
    AllValid ⟨s.jobs.insert job hnone, cancellations⟩ := by
  intro other hother
  rcases (KeyedStore.mem_insert (h := hnone)).mp hother with hold | rfl
  · exact h other hold
  · exact hjob

end AllValid

def IsFresh (now : Datetime) (job : ApplicationJobRecord) : Prop :=
  job.status ≠ .retryScheduled ∧ ∀ t ∈ job.startedAt, now ≤ t

def ServiceCall.TakesFreshJobs (s : ApplicationRepositories casefold) : ServiceCall → Prop
  | .enqueue jobId now => ∀ job, s.jobs.getById jobId = some job →
      job.availableForQueueAt now = true → IsFresh now job
  | .enqueueDueJobs now queueName limit =>
    ∀ job ∈ (InMemoryApplicationJobRepository.list s.jobs
      (dueJobsQuery now queueName limit)).items.take limit, IsFresh now job
  | .start jobId workerId now => ∀ job lease, s.jobs.getById jobId = some job →
      HoldsLease casefold job workerId now lease → job.status = .leased →
        job.queuedAt.getD job.createdAt ≤ now
  | _ => True

/-! ## One method -/

variable {s : ApplicationRepositories casefold} {α : Type}

theorem RefusesOr.keeps {p : ServiceProgram α}
    {does : Except Raised α × ApplicationRepositories casefold → Prop} (h : RefusesOr p s does)
    (inv : ApplicationRepositories casefold → Prop) (hs : inv s)
    (hdoes : ∀ outcome, does outcome → inv outcome.2) : inv (p.run handle s).2 := by
  rcases h with ⟨failure, hrun⟩ | hrun
  · rw [hrun]
    exact hs
  · exact hdoes _ hrun

variable {now : Datetime}

theorem enqueue_keeps_valid (h : AllValid s) {jobId : String}
    (hfresh : ∀ job, s.jobs.getById jobId = some job → job.availableForQueueAt now = true →
      IsFresh now job) : AllValid ((enqueue jobId now).run handle s).2 := by
  apply (enqueue_does jobId now).keeps AllValid h
  rintro _ ⟨stored, hget, haware, havailable, rfl⟩
  exact h.replace ((enqueuedJob_valid_iff (h.valid hget) haware havailable).mpr
    (hfresh stored hget havailable))

/-- What the loop of `enqueue_due_jobs` may still meet: a job as it was listed, or one that the
loop has already put into its queue. -/
def Listed (s : ApplicationRepositories casefold) (records : List ApplicationJobRecord) : Prop :=
  ∀ record ∈ records, ∀ job, s.jobs.getById record.jobId = some job →
    job = record ∨ job.status = .queued

variable {records : List ApplicationJobRecord}

theorem enqueue_keeps_listed (h : Listed s records)
    (jobId : String) (now : Datetime) : Listed ((enqueue jobId now).run handle s).2 records := by
  apply (enqueue_does jobId now).keeps (fun t => Listed t records) h
  rintro _ ⟨stored, hget, _, _, rfl⟩ record hrecord job hjob
  have hstored : s.jobs.get ((enqueuedJob stored now).key casefold) ≠ none := by
    have hkey := get_key_of_getById hget
    change s.jobs.get (stored.key casefold) ≠ none
    rw [hkey]
    exact Option.some_ne_none stored
  have hcases := KeyedStore.get_replace hstored (normalizeId casefold record.jobId)
  rw [show (s.jobs.replace (enqueuedJob stored now)).get (normalizeId casefold record.jobId) =
    some job from hjob] at hcases
  split_ifs at hcases
  · exact .inr (by rw [Option.some.inj hcases]; rfl)
  · exact h record hrecord job hcases.symm

theorem enqueueAll_keeps_valid (hfresh : ∀ job ∈ records, IsFresh now job) :
    ∀ {s : ApplicationRepositories casefold}, AllValid s → Listed s records →
      AllValid ((enqueueAll now records).run handle s).2 := by
  induction records with
  | nil => exact fun h _ => h
  | cons record rest ih =>
    intro s h hlisted
    have hvalid : AllValid ((enqueue record.jobId now).run handle s).2 := by
      apply enqueue_keeps_valid h
      intro job hget havailable
      rcases hlisted record List.mem_cons_self job hget with rfl | hqueued
      · exact hfresh _ List.mem_cons_self
      · have hstatus := (mem_queueableStatuses havailable).1
        rw [hqueued] at hstatus
        exact absurd hstatus (by decide)
    have hrest : Listed ((enqueue record.jobId now).run handle s).2 rest :=
      enqueue_keeps_listed (fun other hother => hlisted other (List.mem_cons_of_mem _ hother)) _ _
    rw [enqueueAll]
    apply Program.run_bind_keeps handle hvalid
    intro queued t hrun
    rw [hrun] at hvalid hrest
    have hkeeps := ih (fun job hjob => hfresh job (List.mem_cons_of_mem _ hjob)) hvalid hrest
    apply Program.run_bind_keeps handle hkeeps
    intro others u hothers
    rw [hothers] at hkeeps
    exact hkeeps

theorem enqueueDueJobs_keeps_valid (h : AllValid s) {queueName : Option String}
    {limit : ℕ}
    (hfresh : ∀ job ∈ (InMemoryApplicationJobRepository.list s.jobs
      (dueJobsQuery now queueName limit)).items.take limit, IsFresh now job) :
    AllValid ((enqueueDueJobs casefold now queueName limit).run handle s).2 := by
  have hlisted : Listed s ((InMemoryApplicationJobRepository.list s.jobs
      (dueJobsQuery now queueName limit)).items.take limit) := by
    intro record hrecord job hjob
    have hstored := KeyedStore.get_of_mem (mem_list (List.mem_of_mem_take hrecord)).1
    exact .inl (Option.some.inj (hjob.symm.trans hstored))
  have hdoes : RefusesOr (enqueueDueJobs casefold now queueName limit) s
      fun outcome => AllValid outcome.2 := by
    apply RefusesOr.check
    intro _
    apply RefusesOr.check
    intro _
    apply RefusesOr.check
    intro _
    apply RefusesOr.list
    exact .inr (enqueueAll_keeps_valid hfresh h hlisted)
  exact hdoes.keeps AllValid h fun _ hvalid => hvalid

theorem update_keeps_valid (h : AllValid s) {copy : ApplicationJobRecord} (hcopy : copy.Valid)
    (expectedVersion : ℕ) :
    AllValid ((ApplicationJobRepository.update copy expectedVersion).run handle s).2 := by
  rw [ApplicationJobRepository.run_update]
  rcases InMemoryApplicationJobRepository.update_cases s.jobs copy expectedVersion with
    ⟨_, _, _, _, hupdate⟩ | ⟨failure, hupdate⟩
  · rw [hupdate]
    exact h.replace hcopy
  · rw [hupdate]
    exact h

theorem recoverAll_keeps_valid (hleased : ∀ job ∈ records, job.Valid ∧ job.status = .leased) :
    ∀ {s : ApplicationRepositories casefold}, AllValid s →
      AllValid ((recoverAll now records).run handle s).2 := by
  induction records with
  | nil => exact fun h => h
  | cons stored rest ih =>
    intro s h
    have hrest : ∀ {t : ApplicationRepositories casefold}, AllValid t →
        AllValid ((recoverAll now rest).run handle t).2 :=
      ih fun job hjob => hleased job (List.mem_cons_of_mem _ hjob)
    obtain ⟨hvalid, hstatus⟩ := hleased stored List.mem_cons_self
    rw [recoverAll]
    split_ifs
    · exact hrest h
    · apply Program.run_bind_keeps handle h
      intro _ t hcheck
      obtain rfl : s = t := congrArg Prod.snd hcheck
      have hcopy := update_keeps_valid h (requeuedJob_valid hvalid hstatus) stored.recordVersion.val
      apply Program.run_bind_keeps handle hcopy
      intro recovered t hrecovered
      rw [hrecovered] at hcopy
      apply Program.run_bind_keeps handle (hrest hcopy)
      intro others u hothers
      have hlast := hrest hcopy
      rw [hothers] at hlast
      exact hlast

theorem recoverExpiredLeases_keeps_valid (h : AllValid s) (now : Datetime)
    (queueName : Option String) (limit : ℕ) :
    AllValid ((recoverExpiredLeases casefold now queueName limit).run handle s).2 := by
  have hdoes : RefusesOr (recoverExpiredLeases casefold now queueName limit) s
      fun outcome => AllValid outcome.2 := by
    apply RefusesOr.check
    intro _
    apply RefusesOr.check
    intro _
    apply RefusesOr.list
    refine .inr (recoverAll_keeps_valid ?_ h)
    intro job hjob
    obtain ⟨hstored, hkeeps⟩ := mem_list (List.mem_of_mem_take hjob)
    refine ⟨validateRecord_eq_ok.mp (h job hstored), ?_⟩
    exact status_of_leasedJobsQuery hkeeps
  exact hdoes.keeps AllValid h fun _ hvalid => hvalid

theorem step_keeps_valid (h : AllValid s) {call : ServiceCall} (hfresh : call.TakesFreshJobs s) :
    AllValid (ServiceCall.step s call) := by
  have hdrop : ∀ {β : Type} {p : ServiceProgram β}, AllValid (p.run handle s).2 →
      AllValid ((p >>= fun _ => pure () : ServiceProgram Unit).run handle s).2 := by
    intro β p hp
    apply Program.run_bind_keeps handle hp
    intro _ t hrun
    rw [hrun] at hp
    exact hp
  cases call with
  | enqueue jobId now => exact hdrop (enqueue_keeps_valid h hfresh)
  | enqueueDueJobs now queueName limit => exact hdrop (enqueueDueJobs_keeps_valid h hfresh)
  | acquire queueName workerId now leaseDurationSeconds leaseId =>
    apply hdrop
    apply (acquire_does queueName workerId now leaseDurationSeconds leaseId).keeps AllValid h
    rintro _ (rfl | ⟨stored, lease, hget, hstatus, rfl⟩)
    · exact h
    · exact h.replace (leasedJob_valid (h.valid hget) hstatus lease)
  | start jobId workerId now =>
    apply hdrop
    apply (start_does jobId workerId now).keeps AllValid h
    rintro _ ⟨stored, lease, hget, haware, hlease, hstatus, rfl⟩
    exact h.replace ((startedJob_valid_iff (h.valid hget) haware hstatus).mpr
      (hfresh stored lease hget hlease hstatus))
  | release jobId workerId now =>
    apply hdrop
    apply (release_does jobId workerId now).keeps AllValid h
    rintro _ ⟨stored, lease, hget, _, hstatus, rfl⟩
    exact h.replace (requeuedJob_valid (h.valid hget) hstatus)
  | renewLease jobId workerId now leaseDurationSeconds =>
    apply hdrop
    apply (renewLease_does jobId workerId now leaseDurationSeconds).keeps AllValid h
    rintro _ ⟨stored, lease, renewed, hget, hlease, rfl⟩
    have hsome : stored.lease.isSome := by
      rw [hlease.stored]
      rfl
    exact h.replace (renewedJob_valid (h.valid hget) hsome renewed)
  | recoverExpiredLeases now queueName limit =>
    exact hdrop (recoverExpiredLeases_keeps_valid h now queueName limit)
  | schedule sourceJobId attemptNumber now evaluated jobId schedulingId =>
    apply hdrop
    apply (ApplicationRetrySchedulingService.schedule_does sourceJobId attemptNumber now evaluated
      jobId schedulingId).keeps AllValid h
    rintro outcome (hsame | ⟨job, hnone, hvalid, _, hstore⟩)
    · rw [hsame]
      exact h
    · rw [hstore]
      exact h.insert hvalid hnone
  | request jobId requestedBy reason now force cancellationId =>
    apply hdrop
    apply (ApplicationCancellationService.request_does jobId requestedBy reason now force
      cancellationId).keeps AllValid h
    rintro outcome ⟨job, cancellation, hnone, _, _, houtcome⟩
    split_ifs at houtcome with hvalid
    · rw [houtcome]
      exact h.replace (validateRecord_eq_ok.mp hvalid)
    · obtain ⟨failure, rfl⟩ := houtcome
      exact h
  | acknowledge cancellationRequestId acknowledgedBy now =>
    apply hdrop
    apply (ApplicationCancellationService.acknowledge_does cancellationRequestId acknowledgedBy
      now).keeps AllValid h
    rintro outcome ⟨stored, _, _, hstore⟩
    rw [hstore]
    exact h
  | complete cancellationRequestId completedBy now =>
    apply hdrop
    apply (ApplicationCancellationService.complete_does cancellationRequestId completedBy
      now).keeps AllValid h
    rintro outcome ⟨stored, job, _, houtcome⟩
    split_ifs at houtcome with hvalid
    · rw [houtcome]
      exact h.replace (validateRecord_eq_ok.mp hvalid)
    · obtain ⟨failure, rfl⟩ := houtcome
      exact h

/-- Valid jobs stay valid as long as fresh jobs are taken. -/
theorem storedJobs_valid {start s : ApplicationRepositories casefold}
    (hvalid : ∀ job ∈ start.jobs.records, job.validateRecord = .ok ())
    (h : Runs.Reachable ServiceCall.step (fun s call => call.TakesFreshJobs s) start s) :
    ∀ job ∈ s.jobs.records, job.validateRecord = .ok () :=
  h.invariant AllValid hvalid fun _ _ hs hfresh => step_keeps_valid hs hfresh

theorem getById_storesOf {job : ApplicationJobRecord} {jobId : String}
    (h : job.key asciiCasefold = normalizeId asciiCasefold jobId) :
    (storesOf [job] (List.nodup_singleton _)).jobs.getById jobId = some job := by
  unfold InMemoryApplicationJobRepository.getById
  rw [← h]
  exact KeyedStore.get_of_mem (List.mem_singleton.mpr rfl)

theorem storedJobs_valid_sample : (enqueuedJob sampleJob sampleTime).validateRecord = .ok () := by
  have hvalid : ∀ job ∈ (storesOf [sampleJob] (List.nodup_singleton _)).jobs.records,
      job.validateRecord = .ok () := by
    intro job hjob
    rw [List.mem_singleton.mp hjob]
    exact sampleJob_valid
  have hfresh : (ServiceCall.enqueue "job-001" sampleTime).TakesFreshJobs
      (storesOf [sampleJob] (List.nodup_singleton _)) := by
    intro job hget _
    obtain rfl := Option.some.inj ((getById_storesOf rfl).symm.trans hget)
    exact ⟨by decide, nofun⟩
  have hstored : (ServiceCall.step (storesOf [sampleJob] (List.nodup_singleton _))
      (.enqueue "job-001" sampleTime)).jobs.records = [enqueuedJob sampleJob sampleTime] := rfl
  apply storedJobs_valid hvalid (.step .start hfresh)
  rw [hstored]
  exact List.mem_singleton.mpr rfl

/-- A job that waits for its retry keeps its failure in the queue. -/
theorem enqueue_stores_invalid_job :
    ¬∀ (start : ApplicationRepositories asciiCasefold) (call : ServiceCall),
      (∀ job ∈ start.jobs.records, job.validateRecord = .ok ()) →
        ∀ job ∈ (ServiceCall.step start call).jobs.records, job.validateRecord = .ok () := by
  intro h
  have hstart : ∀ job ∈ (storesOf [sampleRetryJob] (List.nodup_singleton _)).jobs.records,
      job.validateRecord = .ok () := by
    intro job hjob
    rw [List.mem_singleton.mp hjob]
    exact sampleRetryJob_valid
  have hstored : (ServiceCall.step (storesOf [sampleRetryJob] (List.nodup_singleton _))
      (.enqueue "job-001" sampleTime)).jobs.records = [enqueuedJob sampleRetryJob sampleTime] := rfl
  have hinvalid : (enqueuedJob sampleRetryJob sampleTime).validateRecord ≠ .ok () := by
    decide +kernel
  apply hinvalid
  apply h _ (.enqueue "job-001" sampleTime) hstart
  rw [hstored]
  exact List.mem_singleton.mpr rfl

end AgenticLab
