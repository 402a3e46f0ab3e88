import AgenticLab.Model.Application.Repositories

/-! # The cancellation service

`app/application/cancellation_service.py`. The value of the cancellation id factory is an
argument. -/

namespace AgenticLab

namespace ApplicationCancellationService

open ApplicationJobTransitionPolicy

def requireAware (now : Datetime) : Except Raised Unit :=
  raiseIf now.isNaive ⟨.applicationCancellationServiceError, "now must be timezone-aware"⟩

def requireText (fieldName value : String) : Except Raised Unit :=
  raiseIf (isBlank value) ⟨.applicationCancellationServiceError, fieldName ++ " must not be blank"⟩

def newCancellationId (value : String) : Except Raised String := do
  raiseIf (isBlank value)
    ⟨.applicationCancellationServiceError, "cancellation ID factory returned blank value"⟩
  return value

def requestOf (job : ApplicationJobRecord) (cancellationId requestedBy reason : String)
    (now : Datetime) (force : Bool) : ApplicationJobCancellationRequestRecord where
  cancellationRequestId := cancellationId
  jobId := job.jobId
  requestId := job.requestId
  workspaceId := job.workspaceId
  requestedBy := requestedBy
  reason := reason
  force := force
  status := .requested
  requestedAt := now
  acknowledgedAt := none
  acknowledgedBy := none
  completedAt := none
  completedBy := none
  recordVersion := ⟨1, Nat.one_pos⟩
  metadata := []

def cancellationRequestedJob (job : ApplicationJobRecord)
    (cancellation : ApplicationJobCancellation) : ApplicationJobRecord :=
  { job with
    status := .cancellationRequested
    cancellation := some cancellation
    lease := none
    recordVersion := job.nextVersion }

def acknowledgedRequest (stored : ApplicationJobCancellationRequestRecord)
    (acknowledgedBy : String) (now : Datetime) : ApplicationJobCancellationRequestRecord :=
  { stored with
    status := .acknowledged
    acknowledgedAt := some now
    acknowledgedBy := some acknowledgedBy
    recordVersion := stored.nextVersion }

def completedRequest (stored : ApplicationJobCancellationRequestRecord) (completedBy : String)
    (now : Datetime) : ApplicationJobCancellationRequestRecord :=
  { stored with
    status := .completed
    completedAt := some now
    completedBy := some completedBy
    recordVersion := stored.nextVersion }

def cancelledJob (job : ApplicationJobRecord) (now : Datetime) : ApplicationJobRecord :=
  { job with
    status := .cancelled
    finishedAt := some now
    lease := none
    recordVersion := job.nextVersion }

/-! ## The methods

`_replace_job` is `ApplicationJobRecord.modelValidate` of the record with the new values. -/

def request (jobId requestedBy reason : String) (now : Datetime) (force : Bool)
    (cancellationId : String) : ServiceProgram ApplicationJobCancellationRequestRecord := do
  requireAware now
  requireText "requested_by" requestedBy
  requireText "reason" reason
  let job ← ApplicationJobRepository.require jobId
  raiseIf job.terminal
    ⟨.applicationJobCannotBeCancelledError, "terminal application job cannot be cancelled"⟩
  let active ← ApplicationCancellationRepository.findActiveByJobId job.jobId
  raiseIf active.isSome ⟨.applicationCancellationAlreadyActiveError,
    "application job already has an active cancellation request: " ++ job.jobId⟩
  requireTransition job.status .cancellationRequested
  let cancellationId ← newCancellationId cancellationId
  let record ← (requestOf job cancellationId requestedBy reason now force).modelValidate
  let persisted ← ApplicationCancellationRepository.create record
  let cancellation ← newCancellation cancellationId now requestedBy reason force
  let updatedJob ← (cancellationRequestedJob job cancellation).modelValidate
  let _ ← ApplicationJobRepository.update updatedJob job.recordVersion.val
  return persisted

def acknowledge (cancellationRequestId acknowledgedBy : String) (now : Datetime) :
    ServiceProgram ApplicationJobCancellationRequestRecord := do
  requireAware now
  requireText "acknowledged_by" acknowledgedBy
  let stored ← ApplicationCancellationRepository.require cancellationRequestId
  raiseIf (stored.status ≠ .requested) ⟨.applicationCancellationStateError,
    "only requested cancellation may be acknowledged"⟩
  let updated ← (acknowledgedRequest stored acknowledgedBy now).modelValidate
  ApplicationCancellationRepository.update updated stored.recordVersion.val

def complete (cancellationRequestId completedBy : String) (now : Datetime) :
    ServiceProgram ApplicationJobCancellationRequestRecord := do
  requireAware now
  requireText "completed_by" completedBy
  let stored ← ApplicationCancellationRepository.require cancellationRequestId
  raiseIf stored.terminal ⟨.applicationCancellationStateError,
    "completed cancellation cannot be completed again"⟩
  let job ← ApplicationJobRepository.require stored.jobId
  raiseIf (job.status ≠ .cancellationRequested) ⟨.applicationCancellationStateError,
    "job must be cancellation_requested before completion"⟩
  requireTransition job.status .cancelled
  let updatedRequest ← (completedRequest stored completedBy now).modelValidate
  let persisted ← ApplicationCancellationRepository.update updatedRequest stored.recordVersion.val
  let updatedJob ← (cancelledJob job now).modelValidate
  let _ ← ApplicationJobRepository.update updatedJob job.recordVersion.val
  return persisted

end ApplicationCancellationService

end AgenticLab

/-! # The job queue service

`app/application/job_queue_service.py`. The value of the lease id factory is an argument. -/

namespace AgenticLab

namespace ApplicationJobQueueService

open ApplicationJobTransitionPolicy

variable (casefold : Casefold)

def requireAware (now : Datetime) : Except Raised Unit :=
  raiseIf now.isNaive ⟨.applicationJobQueueServiceError, "now must be timezone-aware"⟩

def requireActiveLease (record : ApplicationJobRecord) (workerId : String) (now : Datetime) :
    Except Raised ApplicationJobLease :=
  match record.lease with
  | none => .error ⟨.applicationJobLeaseOwnershipError, "application job has no active lease"⟩
  | some lease => do
      raiseIf (normalizeId casefold lease.workerId ≠ normalizeId casefold workerId)
        ⟨.applicationJobLeaseOwnershipError, "application job lease is owned by another worker"⟩
      raiseIf (lease.activeAt now = false)
        ⟨.applicationJobLeaseExpiredError, "application job lease has expired"⟩
      return lease

def newLeaseId (value : String) : Except Raised String := do
  raiseIf (isBlank value)
    ⟨.applicationJobQueueServiceError, "lease_id factory returned blank value"⟩
  return value

def enqueuedJob (stored : ApplicationJobRecord) (now : Datetime) : ApplicationJobRecord :=
  { stored with
    status := .queued
    queuedAt := some now
    recordVersion := stored.nextVersion }

def leasedJob (stored : ApplicationJobRecord) (lease : ApplicationJobLease) :
    ApplicationJobRecord :=
  { stored with
    status := .leased
    lease := some lease
    recordVersion := stored.nextVersion }

def startedJob (stored : ApplicationJobRecord) (now : Datetime) : ApplicationJobRecord :=
  { stored with
    status := .running
    startedAt := some now
    recordVersion := stored.nextVersion }

/-- The copy with which `release` and `recover_expired_leases` put a job back into its queue. -/
def requeuedJob (stored : ApplicationJobRecord) : ApplicationJobRecord :=
  { stored with
    status := .queued
    lease := none
    recordVersion := stored.nextVersion }

def renewedJob (stored : ApplicationJobRecord) (lease : ApplicationJobLease) :
    ApplicationJobRecord :=
  { stored with
    lease := some lease
    recordVersion := stored.nextVersion }

/-! ## The methods -/

def enqueue (jobId : String) (now : Datetime) : ServiceProgram ApplicationJobRecord := do
  requireAware now
  let stored ← ApplicationJobRepository.require jobId
  raiseIf (stored.availableForQueueAt now = false)
    ⟨.applicationJobNotQueueableError,
      "application job is not available for queueing: " ++ stored.jobId⟩
  requireTransition stored.status .queued
  ApplicationJobRepository.update (enqueuedJob stored now) stored.recordVersion.val

/-- `[queue_name] if queue_name is not None else []` -/
def queueNames (queueName : Option String) : List String := queueName.toList

def dueJobsQuery (now : Datetime) (queueName : Option String) (limit : ℕ) : ApplicationJobQuery where
  queueNames := queueNames queueName
  statuses := ApplicationJobStatus.queueableStatuses
  availableTo := some now
  pageSize := min limit 200

/-- The loop of `enqueue_due_jobs`. -/
def enqueueAll (now : Datetime) :
    List ApplicationJobRecord → ServiceProgram (List ApplicationJobRecord)
  | [] => return []
  | record :: rest => do
      let queued ← enqueue record.jobId now
      let others ← enqueueAll now rest
      return queued :: others

def enqueueDueJobs (now : Datetime) (queueName : Option String) (limit : ℕ) :
    ServiceProgram (List ApplicationJobRecord) := do
  requireAware now
  raiseIf (limit < 1) ⟨.applicationJobQueueServiceError, "limit must be at least 1"⟩
  raiseIf (queueName.any isBlank)
    ⟨.applicationJobQueueServiceError, "queue_name must not be blank when provided"⟩
  let page ← ApplicationJobRepository.list casefold (dueJobsQuery now queueName limit)
  enqueueAll now (page.items.take limit)

def acquire (queueName workerId : String) (now : Datetime) (leaseDurationSeconds : ℚ)
    (leaseId : String) : ServiceProgram (Option ApplicationJobRecord) := do
  requireAware now
  raiseIf (isBlank workerId) ⟨.applicationJobQueueServiceError, "worker_id must not be blank"⟩
  raiseIf (leaseDurationSeconds ≤ 0)
    ⟨.applicationJobQueueServiceError, "lease_duration_seconds must be greater than 0"⟩
  let candidates ← ApplicationJobRepository.findAvailable queueName now 1
  match candidates.filter fun record => record.status == .queued with
  | [] => return none
  | stored :: _ => do
      requireTransition stored.status .leased
      let lease ← newLease (← newLeaseId leaseId) workerId now
        (← now.addSeconds leaseDurationSeconds)
      return some (← ApplicationJobRepository.update (leasedJob stored lease)
        stored.recordVersion.val)

def start (jobId workerId : String) (now : Datetime) : ServiceProgram ApplicationJobRecord := do
  requireAware now
  let stored ← ApplicationJobRepository.require jobId
  let _ ← requireActiveLease casefold stored workerId now
  requireTransition stored.status .running
  ApplicationJobRepository.update (startedJob stored now) stored.recordVersion.val

def release (jobId workerId : String) (now : Datetime) : ServiceProgram ApplicationJobRecord := do
  requireAware now
  let stored ← ApplicationJobRepository.require jobId
  let _ ← requireActiveLease casefold stored workerId now
  raiseIf (stored.status ≠ .leased)
    ⟨.applicationJobQueueServiceError, "only a leased job may be released"⟩
  requireTransition stored.status .queued
  ApplicationJobRepository.update (requeuedJob stored) stored.recordVersion.val

def renewLease (jobId workerId : String) (now : Datetime) (leaseDurationSeconds : ℚ) :
    ServiceProgram ApplicationJobRecord := do
  requireAware now
  raiseIf (leaseDurationSeconds ≤ 0)
    ⟨.applicationJobQueueServiceError, "lease_duration_seconds must be greater than 0"⟩
  let stored ← ApplicationJobRepository.require jobId
  let lease ← requireActiveLease casefold stored workerId now
  let renewed ← newLease lease.leaseId lease.workerId lease.acquiredAt
    (← now.addSeconds leaseDurationSeconds)
  ApplicationJobRepository.update (renewedJob stored renewed) stored.recordVersion.val

def leasedJobsQuery (queueName : Option String) (limit : ℕ) : ApplicationJobQuery where
  queueNames := queueNames queueName
  statuses := [.leased]
  leasedOnly := some true
  pageSize := min limit 200

/-- The loop of `recover_expired_leases`. -/
def recoverAll (now : Datetime) :
    List ApplicationJobRecord → ServiceProgram (List ApplicationJobRecord)
  | [] => return []
  | stored :: rest =>
    if stored.lease.all fun lease => lease.activeAt now then recoverAll now rest
    else do
      requireTransition stored.status .queued
      let recovered ← ApplicationJobRepository.update (requeuedJob stored) stored.recordVersion.val
      let others ← recoverAll now rest
      return recovered :: others

def recoverExpiredLeases (now : Datetime) (queueName : Option String) (limit : ℕ) :
    ServiceProgram (List ApplicationJobRecord) := do
  requireAware now
  raiseIf (limit < 1) ⟨.applicationJobQueueServiceError, "limit must be at least 1"⟩
  let page ← ApplicationJobRepository.list casefold (leasedJobsQuery queueName limit)
  recoverAll now (page.items.take limit)

end ApplicationJobQueueService

end AgenticLab

/-! # The retry scheduling service

`app/application/retry_scheduling_service.py`. What the retry policy evaluator decides and the
values of the id factories are arguments. -/

namespace AgenticLab

inductive RetryDecisionType where
  | retry
  | stop
  deriving DecidableEq, Repr

/-- What scheduling reads of a `RetryDecision`. -/
structure RetryDecision where
  decisionId : String
  decision : RetryDecisionType
  nextAttempt : Option PositiveInt
  delaySeconds : Option ℚ

inductive ApplicationRetrySchedulingStatus where
  | scheduled
  | stopped
  deriving DecidableEq, Repr

/-- A result without its summary, which is never blank. -/
structure ApplicationRetrySchedulingResult where
  schedulingId : String
  sourceJobId : String
  status : ApplicationRetrySchedulingStatus
  retryDecision : RetryDecision
  scheduledJob : Option ApplicationJobRecord
  metadata : List (String × String)

namespace ApplicationRetrySchedulingResult

def validateResult (result : ApplicationRetrySchedulingResult) : Except Raised Unit := do
  requireTexts [("scheduling_id", result.schedulingId), ("source_job_id", result.sourceJobId)]
  raiseIf (result.status = .scheduled ∧ result.retryDecision.decision ≠ .retry)
    ⟨.validationError, "scheduled result requires retry decision"⟩
  raiseIf (result.status = .scheduled ∧ result.scheduledJob.isNone)
    ⟨.validationError, "scheduled result requires scheduled_job"⟩
  raiseIf (result.status = .scheduled ∧
      result.scheduledJob.any fun job => job.previousAttemptJobId != some result.sourceJobId)
    ⟨.validationError, "scheduled job must reference source job"⟩
  raiseIf (result.status = .stopped ∧ result.retryDecision.decision ≠ .stop)
    ⟨.validationError, "stopped result requires stop decision"⟩
  raiseIf (result.status = .stopped ∧ result.scheduledJob.isSome)
    ⟨.validationError, "stopped result must not include scheduled_job"⟩
  validateMetadata result.metadata

def modelValidate (result : ApplicationRetrySchedulingResult) :
    Except Raised ApplicationRetrySchedulingResult := do
  result.validateResult
  return result

end ApplicationRetrySchedulingResult

namespace ApplicationRetrySchedulingService

variable (casefold : Casefold)

def requireAware (now : Datetime) : Except Raised Unit :=
  raiseIf now.isNaive ⟨.applicationRetrySchedulingServiceError, "now must be timezone-aware"⟩

/-- `_new_job_id` and `_new_scheduling_id` -/
def newId (factory value : String) : Except Raised String := do
  raiseIf (isBlank value)
    ⟨.applicationRetrySchedulingServiceError, factory ++ " factory returned blank value"⟩
  return value

def validateSourceJob (source : ApplicationJobRecord) (attemptNumber : PositiveInt) :
    Except Raised Unit := do
  raiseIf (source.status ≠ .failed)
    ⟨.applicationJobNotRetryableError, "retry scheduling requires a failed job"⟩
  raiseIf source.failure.isNone
    ⟨.applicationJobNotRetryableError, "failed source job requires failure information"⟩
  raiseIf (source.failure.all fun failure => !failure.retryable)
    ⟨.applicationJobNotRetryableError, "source job failure is not retryable"⟩
  raiseIf (attemptNumber ≠ source.attemptNumber) ⟨.applicationRetrySchedulingServiceError,
    "retry failure attempt_number does not match the source job"⟩

def retriesQuery (source : ApplicationJobRecord) : ApplicationJobQuery where
  previousAttemptJobId := some source.jobId
  pageSize := 1

def ensureRetryNotAlreadyScheduled (source : ApplicationJobRecord) : ServiceProgram Unit := do
  let existing ← ApplicationJobRepository.list casefold (retriesQuery source)
  raiseIf (0 < existing.totalItems) ⟨.applicationRetryAlreadyScheduledError,
    "retry attempt already exists for source job: " ++ source.jobId⟩

/-- `_build_retry_job`, up to its validation. -/
def retryJob (source : ApplicationJobRecord) (jobId : String) (nextAttempt : PositiveInt)
    (delaySeconds : ℚ) (retryDecisionId : String) (now availableAt : Datetime) :
    ApplicationJobRecord where
  jobId := jobId
  rootJobId := source.rootJobId
  parentJobId := source.parentJobId
  previousAttemptJobId := some source.jobId
  requestId := source.requestId
  workspaceId := source.workspaceId
  executionId := source.executionId
  jobType := .retryExecution
  queueName := source.queueName
  priority := source.priority
  status := if delaySeconds = 0 then .pending else .scheduled
  payload := source.payload
  attemptNumber := nextAttempt
  maximumAttempts := source.maximumAttempts
  availableAt := availableAt
  createdAt := now
  queuedAt := none
  startedAt := none
  finishedAt := none
  lease := none
  failure := none
  cancellation := none
  recordVersion := ⟨1, Nat.one_pos⟩
  metadata := dictSet (dictSet source.metadata "retry_decision_id" retryDecisionId)
    "source_job_id" source.jobId

def stoppedResult (source : ApplicationJobRecord) (decision : RetryDecision)
    (schedulingId : String) : ApplicationRetrySchedulingResult where
  schedulingId := schedulingId
  sourceJobId := source.jobId
  status := .stopped
  retryDecision := decision
  scheduledJob := none
  metadata := [("root_job_id", source.rootJobId),
    ("attempt_number", toString source.attemptNumber.val)]

def scheduledResult (source persisted : ApplicationJobRecord) (decision : RetryDecision)
    (schedulingId : String) : ApplicationRetrySchedulingResult where
  schedulingId := schedulingId
  sourceJobId := source.jobId
  status := .scheduled
  retryDecision := decision
  scheduledJob := some persisted
  metadata := [("root_job_id", source.rootJobId), ("new_job_id", persisted.jobId)]

/-- `evaluated` is what `evaluate(failure)` returns or raises, for a failure of the attempt
`attemptNumber`. -/
def schedule (sourceJobId : String) (attemptNumber : PositiveInt) (now : Datetime)
    (evaluated : Except Raised RetryDecision) (jobId schedulingId : String) :
    ServiceProgram ApplicationRetrySchedulingResult := do
  requireAware now
  let source ← ApplicationJobRepository.require sourceJobId
  validateSourceJob source attemptNumber
  ensureRetryNotAlreadyScheduled casefold source
  let decision ← evaluated
  if decision.decision = .stop then
    (stoppedResult source decision (← newId "scheduling_id" schedulingId)).modelValidate
  else
    match decision.nextAttempt, decision.delaySeconds with
    | some nextAttempt, some delaySeconds => do
        raiseIf (nextAttempt.val ≠ source.attemptNumber.val + 1)
          ⟨.applicationRetrySchedulingServiceError,
            "retry decision next_attempt does not match the source job"⟩
        let jobId ← newId "job_id" jobId
        let availableAt ← now.addSeconds delaySeconds
        let scheduled ← (retryJob source jobId nextAttempt delaySeconds decision.decisionId now
          availableAt).modelValidate
        let persisted ← ApplicationJobRepository.create scheduled
        (scheduledResult source persisted decision
          (← newId "scheduling_id" schedulingId)).modelValidate
    | _, _ => Program.raise ⟨.applicationRetrySchedulingServiceError,
        "retry decision is missing scheduling data"⟩

end ApplicationRetrySchedulingService

end AgenticLab

/-! # The job services as one system

Every method that changes a job, called one after another on the same repositories. -/

namespace AgenticLab

inductive ServiceCall where
  | enqueue (jobId : String) (now : Datetime)
  | enqueueDueJobs (now : Datetime) (queueName : Option String) (limit : ℕ)
  | acquire (queueName workerId : String) (now : Datetime) (leaseDurationSeconds : ℚ)
      (leaseId : String)
  | start (jobId workerId : String) (now : Datetime)
  | release (jobId workerId : String) (now : Datetime)
  | renewLease (jobId workerId : String) (now : Datetime) (leaseDurationSeconds : ℚ)
  | recoverExpiredLeases (now : Datetime) (queueName : Option String) (limit : ℕ)
  | schedule (sourceJobId : String) (attemptNumber : PositiveInt) (now : Datetime)
      (evaluated : Except Raised RetryDecision) (jobId schedulingId : String)
  | request (jobId requestedBy reason : String) (now : Datetime) (force : Bool)
      (cancellationId : String)
  | acknowledge (cancellationRequestId acknowledgedBy : String) (now : Datetime)
  | complete (cancellationRequestId completedBy : String) (now : Datetime)

namespace ServiceCall

variable (casefold : Casefold)

def program : ServiceCall → ServiceProgram Unit
  | enqueue jobId now => do
      let _ ← ApplicationJobQueueService.enqueue jobId now
  | enqueueDueJobs now queueName limit => do
      let _ ← ApplicationJobQueueService.enqueueDueJobs casefold now queueName limit
  | acquire queueName workerId now leaseDurationSeconds leaseId => do
      let _ ← ApplicationJobQueueService.acquire queueName workerId now leaseDurationSeconds leaseId
  | start jobId workerId now => do
      let _ ← ApplicationJobQueueService.start casefold jobId workerId now
  | release jobId workerId now => do
      let _ ← ApplicationJobQueueService.release casefold jobId workerId now
  | renewLease jobId workerId now leaseDurationSeconds => do
      let _ ← ApplicationJobQueueService.renewLease casefold jobId workerId now leaseDurationSeconds
  | recoverExpiredLeases now queueName limit => do
      let _ ← ApplicationJobQueueService.recoverExpiredLeases casefold now queueName limit
  | schedule sourceJobId attemptNumber now evaluated jobId schedulingId => do
      let _ ← ApplicationRetrySchedulingService.schedule casefold sourceJobId attemptNumber now
        evaluated jobId schedulingId
  | request jobId requestedBy reason now force cancellationId => do
      let _ ← ApplicationCancellationService.request jobId requestedBy reason now force
        cancellationId
  | acknowledge cancellationRequestId acknowledgedBy now => do
      let _ ← ApplicationCancellationService.acknowledge cancellationRequestId acknowledgedBy now
  | complete cancellationRequestId completedBy now => do
      let _ ← ApplicationCancellationService.complete cancellationRequestId completedBy now

variable {casefold}

def step (s : ApplicationRepositories casefold) (call : ServiceCall) :
    ApplicationRepositories casefold :=
  ((call.program casefold).run RepositoryOperation.handle s).2

end ServiceCall

end AgenticLab
