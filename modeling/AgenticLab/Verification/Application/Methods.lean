import AgenticLab.Model.Application.Services
import AgenticLab.Verification.Application.Repositories

/-! # What the service methods do

Each method raises and leaves the repositories alone, or it stores the copy that goes with it. -/

namespace AgenticLab

open RepositoryOperation (handle)

variable {casefold : Casefold} {s : ApplicationRepositories casefold} {α β : Type}

theorem get_key_of_getById {jobId : String} {stored : ApplicationJobRecord}
    (h : s.jobs.getById jobId = some stored) : s.jobs.get (stored.key casefold) = some stored := by
  rw [KeyedStore.key_of_get h]
  exact h

variable {stored : ApplicationJobCancellationRequestRecord}

theorem get_requestKey_of_getById {cancellationRequestId : String}
    (h : s.cancellations.getById cancellationRequestId = some stored) :
    s.cancellations.get (stored.key casefold) = some stored := by
  rw [KeyedStore.key_of_get h]
  exact h

theorem run_updateCancellation (copy : ApplicationJobCancellationRequestRecord)
    (hget : s.cancellations.get (stored.key casefold) = some stored)
    (hid : copy.cancellationRequestId = stored.cancellationRequestId)
    (hversion : copy.recordVersion = stored.nextVersion) :
    (ApplicationCancellationRepository.update copy stored.recordVersion.val).run handle s =
      (.ok copy, { s with cancellations := s.cancellations.replace copy }) := by
  have hkey : copy.key casefold = stored.key casefold := congrArg (normalizeId casefold) hid
  rw [ApplicationCancellationRepository.run_update,
    InMemoryApplicationCancellationRepository.update_of_get (hkey ▸ hget)
      (congrArg Subtype.val hversion)]

theorem run_updateJob {stored : ApplicationJobRecord} (copy : ApplicationJobRecord)
    (hget : s.jobs.get (stored.key casefold) = some stored) (hid : copy.jobId = stored.jobId)
    (hversion : copy.recordVersion = stored.nextVersion) :
    (ApplicationJobRepository.update copy stored.recordVersion.val).run handle s =
      (.ok copy, { s with jobs := s.jobs.replace copy }) := by
  have hkey : copy.key casefold = stored.key casefold := congrArg (normalizeId casefold) hid
  rw [ApplicationJobRepository.run_update, InMemoryApplicationJobRepository.update_of_get
    (hkey ▸ hget) (congrArg Subtype.val hversion)]

/-! ## Methods that refuse or do something

A method that refuses raises and leaves the repositories as they are. -/

def RefusesOr (p : ServiceProgram α) (s : ApplicationRepositories casefold)
    (does : Except Raised α × ApplicationRepositories casefold → Prop) : Prop :=
  (∃ failure, p.run handle s = (.error failure, s)) ∨ does (p.run handle s)

namespace RefusesOr

variable {does : Except Raised α × ApplicationRepositories casefold → Prop}

theorem lift {x : Except Raised β} {f : β → ServiceProgram α}
    (h : ∀ b, x = .ok b → RefusesOr (f b) s does) :
    RefusesOr ((liftM x : ServiceProgram β) >>= f) s does := by
  cases x with
  | ok b => exact h b rfl
  | error failure => exact .inl ⟨failure, rfl⟩

variable {failure : Raised}

theorem check {condition : Prop} [Decidable condition]
    {f : Unit → ServiceProgram α} (h : ¬condition → RefusesOr (f ()) s does) :
    RefusesOr ((liftM (raiseIf condition failure) : ServiceProgram Unit) >>= f) s does :=
  lift fun _ hcheck => h (raiseIf_eq_ok.mp hcheck)

variable {jobId : String}

theorem require {f : ApplicationJobRecord → ServiceProgram α}
    (h : ∀ stored, s.jobs.getById jobId = some stored → RefusesOr (f stored) s does) :
    RefusesOr (ApplicationJobRepository.require jobId >>= f) s does := by
  unfold RefusesOr
  rw [Program.run_bind, ApplicationJobRepository.run_require]
  cases hget : s.jobs.getById jobId with
  | none => exact .inl ⟨_, rfl⟩
  | some stored => exact h stored hget

theorem findAvailable {queueName : String} {now : Datetime} {limit : ℕ}
    {f : List ApplicationJobRecord → ServiceProgram α}
    (h : ∀ records,
      InMemoryApplicationJobRepository.findAvailable s.jobs queueName now limit = .ok records →
        RefusesOr (f records) s does) :
    RefusesOr (ApplicationJobRepository.findAvailable queueName now limit >>= f) s does := by
  unfold RefusesOr
  rw [Program.run_bind, ApplicationJobRepository.run_findAvailable]
  cases hfind : InMemoryApplicationJobRepository.findAvailable s.jobs queueName now limit with
  | error failure => exact .inl ⟨failure, rfl⟩
  | ok records => exact h records hfind

theorem list {query : ApplicationJobQuery} {f : ApplicationJobPage → ServiceProgram α}
    (h : RefusesOr (f (InMemoryApplicationJobRepository.list s.jobs query)) s does) :
    RefusesOr (ApplicationJobRepository.list casefold query >>= f) s does := by
  unfold RefusesOr
  rw [Program.run_bind, ApplicationJobRepository.run_list]
  cases query.validateQuery casefold with
  | error failure => exact .inl ⟨failure, rfl⟩
  | ok _ => exact h

variable {f : ApplicationJobCancellationRequestRecord → ServiceProgram α}

theorem requireCancellation {cancellationRequestId : String}
    (h : ∀ stored, s.cancellations.getById cancellationRequestId = some stored →
      RefusesOr (f stored) s does) :
    RefusesOr (ApplicationCancellationRepository.require cancellationRequestId >>= f) s does := by
  unfold RefusesOr
  rw [Program.run_bind, ApplicationCancellationRepository.run_require]
  cases hget : s.cancellations.getById cancellationRequestId with
  | none => exact .inl ⟨_, rfl⟩
  | some stored => exact h stored hget

theorem findActive
    {f : Option ApplicationJobCancellationRequestRecord → ServiceProgram α}
    (h : RefusesOr (f ((InMemoryApplicationCancellationRepository.findByJobId s.cancellations
      jobId).find? fun record => !record.terminal)) s does) :
    RefusesOr (ApplicationCancellationRepository.findActiveByJobId jobId >>= f) s does := by
  unfold RefusesOr
  rw [Program.run_bind, ApplicationCancellationRepository.run_findActiveByJobId]
  exact h

theorem updateCancellation {stored : ApplicationJobCancellationRequestRecord}
    (copy : ApplicationJobCancellationRequestRecord)
    (hget : s.cancellations.get (stored.key casefold) = some stored)
    (hid : copy.cancellationRequestId = stored.cancellationRequestId)
    (hversion : copy.recordVersion = stored.nextVersion)
    (h : does ((f copy).run handle { s with cancellations := s.cancellations.replace copy })) :
    RefusesOr (ApplicationCancellationRepository.update copy stored.recordVersion.val >>= f) s
      does :=
  .inr (by rwa [Program.run_bind_of_ok handle (run_updateCancellation copy hget hid hversion)])

theorem createJob {record : ApplicationJobRecord} {f : ApplicationJobRecord → ServiceProgram α}
    (h : ∀ hnone : s.jobs.get (record.key casefold) = none,
      does ((f record).run handle { s with jobs := s.jobs.insert record hnone })) :
    RefusesOr (ApplicationJobRepository.create record >>= f) s does := by
  unfold RefusesOr
  rw [Program.run_bind, ApplicationJobRepository.run_create]
  cases hget : s.jobs.get (record.key casefold) with
  | some stored =>
    rw [InMemoryApplicationJobRepository.create_of_some hget]
    exact .inl ⟨_, rfl⟩
  | none =>
    rw [InMemoryApplicationJobRepository.create_of_none hget]
    exact .inr (h hget)

theorem createCancellation {record : ApplicationJobCancellationRequestRecord}
    (h : ∀ hnone : s.cancellations.get (record.key casefold) = none,
      does ((f record).run handle
        { s with cancellations := s.cancellations.insert record hnone })) :
    RefusesOr (ApplicationCancellationRepository.create record >>= f) s does := by
  unfold RefusesOr
  rw [Program.run_bind, ApplicationCancellationRepository.run_create]
  cases hget : s.cancellations.get (record.key casefold) with
  | some stored =>
    rw [InMemoryApplicationCancellationRepository.create_of_some hget]
    exact .inl ⟨_, rfl⟩
  | none =>
    rw [InMemoryApplicationCancellationRepository.create_of_none hget]
    exact .inr (h hget)

theorem raise : RefusesOr (Program.raise failure : ServiceProgram α) s does :=
  .inl ⟨failure, rfl⟩

theorem update {stored : ApplicationJobRecord} (copy : ApplicationJobRecord)
    {does : Except Raised ApplicationJobRecord × ApplicationRepositories casefold → Prop}
    (hget : s.jobs.get (stored.key casefold) = some stored) (hid : copy.jobId = stored.jobId)
    (hversion : copy.recordVersion = stored.nextVersion)
    (h : does (.ok copy, { s with jobs := s.jobs.replace copy })) :
    RefusesOr (ApplicationJobRepository.update copy stored.recordVersion.val) s does :=
  .inr (by rwa [run_updateJob copy hget hid hversion])

end RefusesOr

def StoresJob (s : ApplicationRepositories casefold) (copy : ApplicationJobRecord)
    (outcome : Except Raised ApplicationJobRecord × ApplicationRepositories casefold) : Prop :=
  outcome = (.ok copy, { s with jobs := s.jobs.replace copy })

namespace ApplicationJobQueueService

theorem status_of_leasedJobsQuery {queueName : Option String} {limit : ℕ}
    {job : ApplicationJobRecord}
    (h : (leasedJobsQuery queueName limit).keeps casefold job = true) : job.status = .leased := by
  simp only [ApplicationJobQuery.keeps, Bool.and_eq_true] at h
  simpa [leasedJobsQuery] using h.1.1.1.1.1.1.1.1.2

theorem enqueue_does (jobId : String) (now : Datetime) :
    RefusesOr (enqueue jobId now) s fun outcome =>
      ∃ stored, s.jobs.getById jobId = some stored ∧ now.isNaive = false ∧
        stored.availableForQueueAt now = true ∧ StoresJob s (enqueuedJob stored now) outcome := by
  apply RefusesOr.check
  intro haware
  apply RefusesOr.require
  intro stored hget
  apply RefusesOr.check
  intro havailable
  apply RefusesOr.check
  intro _
  apply RefusesOr.update (enqueuedJob stored now) (get_key_of_getById hget) rfl rfl
  exact ⟨stored, hget, by simpa using haware, by simpa using havailable, rfl⟩

structure HoldsLease (casefold : Casefold) (record : ApplicationJobRecord) (workerId : String)
    (now : Datetime) (lease : ApplicationJobLease) : Prop where
  stored : record.lease = some lease
  worker : normalizeId casefold lease.workerId = normalizeId casefold workerId
  active : lease.activeAt now = true

variable {lease : ApplicationJobLease}

theorem requireActiveLease_eq_ok {record : ApplicationJobRecord} {workerId : String}
    {now : Datetime} :
    requireActiveLease casefold record workerId now = .ok lease ↔
      HoldsLease casefold record workerId now lease := by
  unfold requireActiveLease
  cases hlease : record.lease with
  | none => exact iff_of_false nofun fun h => by cases hlease.symm.trans h.stored
  | some held =>
    dsimp only
    rw [raiseIf_bind_eq_ok, raiseIf_bind_eq_ok]
    constructor
    · rintro ⟨hworker, hactive, hheld⟩
      obtain rfl := Except.ok.inj hheld
      exact ⟨hlease, not_not.mp hworker, by simpa using hactive⟩
    · rintro ⟨hstored, hworker, hactive⟩
      obtain rfl := Option.some.inj (hlease.symm.trans hstored)
      exact ⟨not_not.mpr hworker, by simpa using hactive, rfl⟩

theorem newLease_fields {leaseId workerId : String} {acquiredAt expiresAt : Datetime}
    (h : newLease leaseId workerId acquiredAt expiresAt = .ok lease) :
    lease.leaseId = leaseId ∧ lease.workerId = workerId ∧ lease.acquiredAt = acquiredAt ∧
      lease.expiresAt = expiresAt := by
  unfold newLease at h
  split at h
  · rw [← Except.ok.inj h]
    exact ⟨rfl, rfl, rfl, rfl⟩
  · cases h

theorem start_does (jobId workerId : String) (now : Datetime) :
    RefusesOr (start casefold jobId workerId now) s fun outcome =>
      ∃ stored lease, s.jobs.getById jobId = some stored ∧ now.isNaive = false ∧
        HoldsLease casefold stored workerId now lease ∧ stored.status = .leased ∧
        StoresJob s (startedJob stored now) outcome := by
  apply RefusesOr.check
  intro haware
  apply RefusesOr.require
  intro stored hget
  apply RefusesOr.lift
  intro lease hlease
  apply RefusesOr.check
  intro htransition
  have hstatus : stored.status = .leased := by
    revert htransition
    cases stored.status <;> decide
  apply RefusesOr.update (startedJob stored now) (get_key_of_getById hget) rfl rfl
  exact ⟨stored, lease, hget, by simpa using haware, requireActiveLease_eq_ok.mp hlease, hstatus,
    rfl⟩

theorem release_does (jobId workerId : String) (now : Datetime) :
    RefusesOr (release casefold jobId workerId now) s fun outcome =>
      ∃ stored lease, s.jobs.getById jobId = some stored ∧
        HoldsLease casefold stored workerId now lease ∧ stored.status = .leased ∧
        StoresJob s (requeuedJob stored) outcome := by
  apply RefusesOr.check
  intro _
  apply RefusesOr.require
  intro stored hget
  apply RefusesOr.lift
  intro lease hlease
  apply RefusesOr.check
  intro hstatus
  apply RefusesOr.check
  intro _
  apply RefusesOr.update (requeuedJob stored) (get_key_of_getById hget) rfl rfl
  exact ⟨stored, lease, hget, requireActiveLease_eq_ok.mp hlease, not_not.mp hstatus, rfl⟩

theorem renewLease_does (jobId workerId : String) (now : Datetime) (leaseDurationSeconds : ℚ) :
    RefusesOr (renewLease casefold jobId workerId now leaseDurationSeconds) s fun outcome =>
      ∃ stored lease renewed, s.jobs.getById jobId = some stored ∧
        HoldsLease casefold stored workerId now lease ∧
        StoresJob s (renewedJob stored renewed) outcome := by
  apply RefusesOr.check
  intro _
  apply RefusesOr.check
  intro _
  apply RefusesOr.require
  intro stored hget
  apply RefusesOr.lift
  intro lease hlease
  apply RefusesOr.lift
  intro expiresAt _
  apply RefusesOr.lift
  intro renewed _
  apply RefusesOr.update (renewedJob stored renewed) (get_key_of_getById hget) rfl rfl
  exact ⟨stored, lease, renewed, hget, requireActiveLease_eq_ok.mp hlease, rfl⟩

theorem acquire_does (queueName workerId : String) (now : Datetime) (leaseDurationSeconds : ℚ)
    (leaseId : String) :
    RefusesOr (acquire queueName workerId now leaseDurationSeconds leaseId) s fun outcome =>
      outcome = (.ok none, s) ∨
      ∃ stored lease, s.jobs.get (stored.key casefold) = some stored ∧
        stored.status = .queued ∧
        outcome = (.ok (some (leasedJob stored lease)),
          { s with jobs := s.jobs.replace (leasedJob stored lease) }) := by
  apply RefusesOr.check
  intro _
  apply RefusesOr.check
  intro _
  apply RefusesOr.check
  intro _
  apply RefusesOr.findAvailable
  intro records hrecords
  cases hqueued : records.filter fun record => record.status == .queued with
  | nil => exact .inr (.inl rfl)
  | cons stored rest =>
    obtain ⟨hmem, hstatus⟩ := List.mem_filter.mp (hqueued ▸ List.mem_cons_self (a := stored))
    have hget : s.jobs.get (stored.key casefold) = some stored :=
      KeyedStore.get_of_mem (InMemoryApplicationJobRepository.mem_findAvailable hrecords hmem)
    apply RefusesOr.check
    intro _
    apply RefusesOr.lift
    intro id _
    apply RefusesOr.lift
    intro expiresAt _
    apply RefusesOr.lift
    intro lease _
    unfold RefusesOr
    have hupdate := run_updateJob (s := s) (leasedJob stored lease) hget rfl rfl
    rw [Program.run_bind_of_ok handle hupdate]
    exact .inr (.inr ⟨stored, lease, hget, by simpa using hstatus, rfl⟩)

end ApplicationJobQueueService

theorem modelValidate_eq_ok {record validated : ApplicationJobRecord} :
    record.modelValidate = .ok validated ↔
      record.validateRecord = .ok () ∧ validated = record := by
  unfold ApplicationJobRecord.modelValidate
  rw [bind_eq_ok]
  constructor
  · rintro ⟨_, hvalid, hvalidated⟩
    exact ⟨hvalid, (Except.ok.inj hvalidated).symm⟩
  · rintro ⟨hvalid, rfl⟩
    exact ⟨(), hvalid, rfl⟩

theorem requestValidate_eq_ok {record validated : ApplicationJobCancellationRequestRecord} :
    record.modelValidate = .ok validated ↔
      record.validateRecord = .ok () ∧ validated = record := by
  unfold ApplicationJobCancellationRequestRecord.modelValidate
  rw [bind_eq_ok]
  constructor
  · rintro ⟨_, hvalid, hvalidated⟩
    exact ⟨hvalid, (Except.ok.inj hvalidated).symm⟩
  · rintro ⟨hvalid, rfl⟩
    exact ⟨(), hvalid, rfl⟩

namespace ApplicationRetrySchedulingService

theorem schedule_does (sourceJobId : String) (attemptNumber : PositiveInt) (now : Datetime)
    (evaluated : Except Raised RetryDecision) (jobId schedulingId : String) :
    RefusesOr (schedule casefold sourceJobId attemptNumber now evaluated jobId schedulingId) s
      fun outcome => outcome.2 = s ∨
        ∃ (job : ApplicationJobRecord) (hnone : s.jobs.get (job.key casefold) = none),
          job.validateRecord = .ok () ∧ job.status ∈ ApplicationJobStatus.queueableStatuses ∧
            outcome.2 = { s with jobs := s.jobs.insert job hnone } := by
  apply RefusesOr.check
  intro _
  apply RefusesOr.require
  intro source _
  apply RefusesOr.lift
  intro _ _
  unfold ensureRetryNotAlreadyScheduled
  rw [Program.bind_assoc]
  apply RefusesOr.list
  apply RefusesOr.check
  intro _
  apply RefusesOr.lift
  intro decision _
  by_cases hstop : decision.decision = .stop
  · rw [if_pos hstop]
    apply RefusesOr.lift
    intro id _
    exact .inr (.inl rfl)
  · rw [if_neg hstop]
    split
    · rename_i nextAttempt delaySeconds _ _
      apply RefusesOr.check
      intro _
      apply RefusesOr.lift
      intro newJobId _
      apply RefusesOr.lift
      intro availableAt _
      apply RefusesOr.lift
      intro scheduled hscheduled
      obtain ⟨hvalid, rfl⟩ := modelValidate_eq_ok.mp hscheduled
      apply RefusesOr.createJob
      intro hnone
      refine .inr ⟨_, hnone, hvalid, ?_, ?_⟩
      · unfold retryJob
        dsimp only
        split_ifs <;> decide
      · rw [Program.run_bind, Program.run_lift]
        cases newId "scheduling_id" schedulingId <;> rfl
    · exact .raise

end ApplicationRetrySchedulingService

namespace ApplicationCancellationService

/-- A request passed all checks in front of its first write, where others may have changed the
repositories between reading the job, searching for requests and writing the new one. -/
structure RequestAccepted (atRead atSearch atCreate : ApplicationRepositories casefold)
    (jobId requestedBy reason : String) (now : Datetime) (force : Bool) (cancellationId : String)
    (job : ApplicationJobRecord) : Prop where
  aware : now.isNaive = false
  requestedBy_given : isBlank requestedBy = false
  reason_given : isBlank reason = false
  stored : atRead.jobs.getById jobId = some job
  nonterminal : job.terminal = false
  inactive : (InMemoryApplicationCancellationRepository.findByJobId atSearch.cancellations
    job.jobId).find? (fun record => !record.terminal) = none
  transition : ApplicationJobTransitionPolicy.canTransition job.status .cancellationRequested = true
  id_given : isBlank cancellationId = false
  valid : (requestOf job cancellationId requestedBy reason now force).validateRecord = .ok ()
  fresh : atCreate.cancellations.get (normalizeId casefold cancellationId) = none

theorem exists_newCancellation {requestedBy reason cancellationId : String} {now : Datetime}
    (haware : now.isNaive = false) (hrequestedBy : isBlank requestedBy = false)
    (hreason : isBlank reason = false) (hid : isBlank cancellationId = false) (force : Bool) :
    ∃ cancellation, newCancellation cancellationId now requestedBy reason force =
      .ok cancellation ∧ cancellation.cancellationId = cancellationId := by
  have hvalid : validateCancellation cancellationId requestedBy reason now = .ok () := by
    simp [validateCancellation, requireTexts, Datetime.requireAware, raiseIf, haware,
      hrequestedBy, hreason, hid]
  unfold newCancellation
  split
  · exact ⟨_, rfl, rfl⟩
  · rename_i failure hfailure
    rw [hvalid] at hfailure
    cases hfailure

theorem request_does (jobId requestedBy reason : String) (now : Datetime) (force : Bool)
    (cancellationId : String) :
    RefusesOr (request jobId requestedBy reason now force cancellationId) s fun outcome =>
      ∃ job cancellation,
        ∃ hnone : s.cancellations.get (normalizeId casefold cancellationId) = none,
        RequestAccepted s s s jobId requestedBy reason now force cancellationId job ∧
        cancellation.cancellationId = cancellationId ∧
        if (cancellationRequestedJob job cancellation).validateRecord = .ok () then
          outcome = (.ok (requestOf job cancellationId requestedBy reason now force),
            ⟨s.jobs.replace (cancellationRequestedJob job cancellation),
              s.cancellations.insert
                (requestOf job cancellationId requestedBy reason now force) hnone⟩)
        else
          ∃ failure, outcome = (.error failure, ⟨s.jobs, s.cancellations.insert
            (requestOf job cancellationId requestedBy reason now force) hnone⟩) := by
  apply RefusesOr.check
  intro haware
  apply RefusesOr.check
  intro hrequestedBy
  apply RefusesOr.check
  intro hreason
  apply RefusesOr.require
  intro job hget
  apply RefusesOr.check
  intro hterminal
  apply RefusesOr.findActive
  apply RefusesOr.check
  intro hactive
  apply RefusesOr.check
  intro htransition
  apply RefusesOr.lift
  intro id hid
  obtain ⟨hblank, hid⟩ := raiseIf_bind_eq_ok.mp hid
  obtain rfl := Except.ok.inj hid
  apply RefusesOr.lift
  intro record hrecord
  obtain ⟨hvalid, rfl⟩ := requestValidate_eq_ok.mp hrecord
  apply RefusesOr.createCancellation
  intro hnone
  obtain ⟨cancellation, hcancellation, hcancellationId⟩ := exists_newCancellation
    (by simpa using haware) (by simpa using hrequestedBy) (by simpa using hreason)
    (by simpa using hblank) force
  have haccepted : RequestAccepted s s s jobId requestedBy reason now force cancellationId job :=
    ⟨by simpa using haware, by simpa using hrequestedBy, by simpa using hreason, hget,
      by simpa using hterminal, by simpa using hactive, by simpa using htransition,
      by simpa using hblank, hvalid, hnone⟩
  refine ⟨job, cancellation, hnone, haccepted, hcancellationId, ?_⟩
  rw [Program.run_lift_bind_of_ok handle hcancellation]
  split_ifs with hvalidJob
  · rw [Program.run_lift_bind_of_ok handle (modelValidate_eq_ok.mpr ⟨hvalidJob, rfl⟩)]
    exact Program.run_bind_of_ok handle (run_updateJob _ (get_key_of_getById hget) rfl rfl)
  · cases hvalidate : (cancellationRequestedJob job cancellation).modelValidate with
    | ok validated => exact absurd (modelValidate_eq_ok.mp hvalidate).1 hvalidJob
    | error failure =>
      exact ⟨failure, Program.run_lift_bind_of_error handle rfl⟩

theorem acknowledge_does (cancellationRequestId acknowledgedBy : String) (now : Datetime) :
    RefusesOr (acknowledge cancellationRequestId acknowledgedBy now) s fun outcome =>
      ∃ stored, s.cancellations.getById cancellationRequestId = some stored ∧
        stored.status = .requested ∧
        outcome.2 = ⟨s.jobs,
          s.cancellations.replace (acknowledgedRequest stored acknowledgedBy now)⟩ := by
  apply RefusesOr.check
  intro _
  apply RefusesOr.check
  intro _
  apply RefusesOr.requireCancellation
  intro stored hget
  apply RefusesOr.check
  intro hstatus
  apply RefusesOr.lift
  intro updated hupdated
  obtain ⟨_, rfl⟩ := requestValidate_eq_ok.mp hupdated
  have hupdate := run_updateCancellation (s := s)
    (acknowledgedRequest stored acknowledgedBy now) (get_requestKey_of_getById hget) rfl rfl
  exact .inr ⟨stored, hget, not_not.mp hstatus, congrArg Prod.snd hupdate⟩

/-- A completion passed all checks in front of its first write, and its request is still in the
version that was read. -/
structure CompleteAccepted (atRead atJob atUpdate : ApplicationRepositories casefold)
    (cancellationRequestId completedBy : String) (now : Datetime)
    (stored : ApplicationJobCancellationRequestRecord) (job : ApplicationJobRecord) : Prop where
  aware : now.isNaive = false
  completedBy_given : isBlank completedBy = false
  request_stored : atRead.cancellations.getById cancellationRequestId = some stored
  nonterminal : stored.terminal = false
  job_stored : atJob.jobs.getById stored.jobId = some job
  requested : job.status = .cancellationRequested
  valid : (completedRequest stored completedBy now).validateRecord = .ok ()
  current : ∃ current, atUpdate.cancellations.get (stored.key casefold) = some current ∧
    current.recordVersion = stored.recordVersion

theorem complete_does (cancellationRequestId completedBy : String) (now : Datetime) :
    RefusesOr (complete cancellationRequestId completedBy now) s fun outcome =>
      ∃ stored job, CompleteAccepted s s s cancellationRequestId completedBy now stored job ∧
        if (cancelledJob job now).validateRecord = .ok () then
          outcome = (.ok (completedRequest stored completedBy now),
            ⟨s.jobs.replace (cancelledJob job now),
              s.cancellations.replace (completedRequest stored completedBy now)⟩)
        else
          ∃ failure, outcome = (.error failure, ⟨s.jobs,
            s.cancellations.replace (completedRequest stored completedBy now)⟩) := by
  apply RefusesOr.check
  intro haware
  apply RefusesOr.check
  intro hcompletedBy
  apply RefusesOr.requireCancellation
  intro stored hget
  apply RefusesOr.check
  intro hterminal
  apply RefusesOr.require
  intro job hjob
  apply RefusesOr.check
  intro hstatus
  apply RefusesOr.check
  intro _
  apply RefusesOr.lift
  intro updated hupdated
  obtain ⟨hvalid, rfl⟩ := requestValidate_eq_ok.mp hupdated
  have hkey := get_requestKey_of_getById hget
  apply RefusesOr.updateCancellation (completedRequest stored completedBy now) hkey rfl rfl
  refine ⟨stored, job, ⟨by simpa using haware, by simpa using hcompletedBy, hget,
    by simpa using hterminal, hjob, not_not.mp hstatus, hvalid, stored, hkey, rfl⟩, ?_⟩
  split_ifs with hvalidJob
  · rw [Program.run_lift_bind_of_ok handle (modelValidate_eq_ok.mpr ⟨hvalidJob, rfl⟩)]
    exact Program.run_bind_of_ok handle (run_updateJob _ (get_key_of_getById hjob) rfl rfl)
  · cases hvalidate : (cancelledJob job now).modelValidate with
    | ok validated => exact absurd (modelValidate_eq_ok.mp hvalidate).1 hvalidJob
    | error failure =>
      exact ⟨failure, Program.run_lift_bind_of_error handle rfl⟩

end ApplicationCancellationService

end AgenticLab
