import AgenticLab.Model.Application.Values
import AgenticLab.Model.Fields

/-! # Background jobs

`app/application/job_record.py` and `app/application/job_transition.py`. A lease, a failure and a
cancellation come only from their validating constructors, so each carries its validity; a job
record may also come from `model_copy`, which validates nothing. -/

namespace AgenticLab

inductive ApplicationJobType where
  | researchExecution
  | agentExecution
  | toolExecution
  | workflowExecution
  | evaluation
  | retryExecution
  | reliabilityAggregation
  | cleanup
  | custom
  deriving DecidableEq, Repr

inductive ApplicationJobStatus where
  | pending
  | scheduled
  | queued
  | leased
  | running
  | succeeded
  | failed
  | retryScheduled
  | cancellationRequested
  | cancelled
  | deadLettered
  deriving DecidableEq, Repr

def ApplicationJobStatus.value : ApplicationJobStatus → String
  | .pending => "pending"
  | .scheduled => "scheduled"
  | .queued => "queued"
  | .leased => "leased"
  | .running => "running"
  | .succeeded => "succeeded"
  | .failed => "failed"
  | .retryScheduled => "retry_scheduled"
  | .cancellationRequested => "cancellation_requested"
  | .cancelled => "cancelled"
  | .deadLettered => "dead_lettered"

inductive ApplicationJobPriority where
  | low
  | normal
  | high
  | critical
  deriving DecidableEq, Repr

def ApplicationJobPriority.value : ApplicationJobPriority → ℤ
  | .low => 10
  | .normal => 50
  | .high => 80
  | .critical => 100

inductive ApplicationJobFailureCategory where
  | timeout
  | rateLimit
  | network
  | execution
  | validation
  | permission
  | policy
  | conflict
  | internal
  | cancelled
  | unknown
  deriving DecidableEq, Repr

/-! ## Failure, cancellation and lease -/

def validateFailure (code message : String) (retryable : Bool) (retryReason : Option String) :
    Except Raised Unit := do
  raiseIf (isBlank code) ⟨.validationError, "code must not be blank"⟩
  raiseIf (isBlank message) ⟨.validationError, "message must not be blank"⟩
  raiseIf (retryable = true ∧ retryReason.all isBlank)
    ⟨.validationError, "retryable failure requires retry_reason"⟩
  raiseIf (retryable = false ∧ retryReason.isSome)
    ⟨.validationError, "nonretryable failure must not include retry_reason"⟩

structure ApplicationJobFailure where
  category : ApplicationJobFailureCategory
  code : String
  message : String
  retryable : Bool
  retryReason : Option String
  details : Fields
  valid : validateFailure code message retryable retryReason = .ok ()

def validateCancellation (cancellationId requestedBy reason : String) (requestedAt : Datetime) :
    Except Raised Unit := do
  requireTexts [("cancellation_id", cancellationId), ("requested_by", requestedBy),
    ("reason", reason)]
  Datetime.requireAware [("requested_at", some requestedAt)]

structure ApplicationJobCancellation where
  cancellationId : String
  requestedAt : Datetime
  requestedBy : String
  reason : String
  force : Bool
  valid : validateCancellation cancellationId requestedBy reason requestedAt = .ok ()

def newCancellation (cancellationId : String) (requestedAt : Datetime)
    (requestedBy reason : String) (force : Bool) : Except Raised ApplicationJobCancellation :=
  match h : validateCancellation cancellationId requestedBy reason requestedAt with
  | .ok () => .ok ⟨cancellationId, requestedAt, requestedBy, reason, force, h⟩
  | .error failure => .error failure

def validateLease (leaseId workerId : String) (acquiredAt expiresAt : Datetime) :
    Except Raised Unit := do
  requireTexts [("lease_id", leaseId), ("worker_id", workerId)]
  Datetime.requireAware [("acquired_at", some acquiredAt), ("expires_at", some expiresAt)]
  raiseIf (expiresAt ≤ acquiredAt) ⟨.validationError, "expires_at must be later than acquired_at"⟩

structure ApplicationJobLease where
  leaseId : String
  workerId : String
  acquiredAt : Datetime
  expiresAt : Datetime
  valid : validateLease leaseId workerId acquiredAt expiresAt = .ok ()

def newLease (leaseId workerId : String) (acquiredAt expiresAt : Datetime) :
    Except Raised ApplicationJobLease :=
  match h : validateLease leaseId workerId acquiredAt expiresAt with
  | .ok () => .ok ⟨leaseId, workerId, acquiredAt, expiresAt, h⟩
  | .error failure => .error failure

/-- `active_at`, for an aware time. -/
def ApplicationJobLease.activeAt (lease : ApplicationJobLease) (now : Datetime) : Bool :=
  decide (lease.acquiredAt ≤ now ∧ now < lease.expiresAt)

/-! ## The record -/

structure ApplicationJobRecord where
  jobId : String
  rootJobId : String
  parentJobId : Option String
  previousAttemptJobId : Option String
  requestId : String
  workspaceId : String
  executionId : Option String
  jobType : ApplicationJobType
  queueName : String
  priority : ApplicationJobPriority
  status : ApplicationJobStatus
  payload : Fields
  attemptNumber : PositiveInt
  maximumAttempts : PositiveInt
  availableAt : Datetime
  createdAt : Datetime
  queuedAt : Option Datetime
  startedAt : Option Datetime
  finishedAt : Option Datetime
  lease : Option ApplicationJobLease
  failure : Option ApplicationJobFailure
  cancellation : Option ApplicationJobCancellation
  recordVersion : PositiveInt
  metadata : List (String × String)

namespace ApplicationJobStatus

def terminalStatuses : List ApplicationJobStatus := [succeeded, failed, cancelled, deadLettered]

def leasedStatuses : List ApplicationJobStatus := [leased, running]

def failureStatuses : List ApplicationJobStatus := [failed, retryScheduled, deadLettered]

def cancellationStatuses : List ApplicationJobStatus := [cancellationRequested, cancelled]

def queueableStatuses : List ApplicationJobStatus := [pending, scheduled, retryScheduled]

end ApplicationJobStatus

open ApplicationJobStatus

namespace ApplicationJobRecord

/-- The checks of identifiers and attempts, with which `validate_record` begins. -/
def validateIdentity (record : ApplicationJobRecord) : Except Raised Unit := do
  requireTexts [("job_id", record.jobId), ("root_job_id", record.rootJobId),
    ("request_id", record.requestId), ("workspace_id", record.workspaceId),
    ("queue_name", record.queueName)]
  requireOptionalTexts [("parent_job_id", record.parentJobId),
    ("previous_attempt_job_id", record.previousAttemptJobId),
    ("execution_id", record.executionId)]
  raiseIf (record.maximumAttempts < record.attemptNumber)
    ⟨.validationError, "attempt_number must not exceed maximum_attempts"⟩
  raiseIf (record.attemptNumber.val = 1 ∧ record.previousAttemptJobId.isSome)
    ⟨.validationError, "first attempt must not include previous_attempt_job_id"⟩
  raiseIf (1 < record.attemptNumber.val ∧ record.previousAttemptJobId.all isBlank)
    ⟨.validationError, "retry attempt requires previous_attempt_job_id"⟩

/-- The loop over the times that are given, each not before the one ahead of it. -/
def requireOrdered (previous : Datetime) : List (Option Datetime) → Except Raised Unit
  | [] => .ok ()
  | none :: rest => requireOrdered previous rest
  | some value :: rest => do
      raiseIf (value < previous)
        ⟨.validationError, "job timestamps must be chronologically ordered"⟩
      requireOrdered value rest

def validateTimestamps (record : ApplicationJobRecord) : Except Raised Unit := do
  Datetime.requireAware [("available_at", some record.availableAt),
    ("created_at", some record.createdAt), ("queued_at", record.queuedAt),
    ("started_at", record.startedAt), ("finished_at", record.finishedAt)]
  raiseIf (record.availableAt < record.createdAt)
    ⟨.validationError, "available_at must not precede created_at"⟩
  requireOrdered record.createdAt [record.queuedAt, record.startedAt, record.finishedAt]

def validateStatusContract (record : ApplicationJobRecord) : Except Raised Unit := do
  raiseIf (record.status ∈ terminalStatuses ∧ record.finishedAt.isNone)
    ⟨.validationError, "terminal job requires finished_at"⟩
  raiseIf (record.status ∉ terminalStatuses ∧ record.finishedAt.isSome)
    ⟨.validationError, "nonterminal job must not include finished_at"⟩
  raiseIf (record.status = .running ∧ record.startedAt.isNone)
    ⟨.validationError, "running job requires started_at"⟩
  raiseIf (record.status ∈ leasedStatuses ∧ record.lease.isNone)
    ⟨.validationError, "leased or running job requires lease"⟩
  raiseIf (record.status ∉ leasedStatuses ∧ record.lease.isSome)
    ⟨.validationError, "lease is only valid for leased or running job"⟩
  raiseIf (record.status ∈ failureStatuses ∧ record.failure.isNone)
    ⟨.validationError, "failure status requires failure information"⟩
  raiseIf (record.status ∉ failureStatuses ∧ record.failure.isSome)
    ⟨.validationError, "failure information is only valid for failure status"⟩
  raiseIf (record.status ∈ cancellationStatuses ∧ record.cancellation.isNone)
    ⟨.validationError, "cancellation status requires cancellation information"⟩
  raiseIf (record.status ∉ cancellationStatuses ∧ record.cancellation.isSome)
    ⟨.validationError, "cancellation information is only valid for cancellation status"⟩
  raiseIf (record.status = .retryScheduled ∧ record.maximumAttempts ≤ record.attemptNumber)
    ⟨.validationError, "retry_scheduled job requires another available attempt"⟩

def validateRecord (record : ApplicationJobRecord) : Except Raised Unit := do
  record.validateIdentity
  record.validateTimestamps
  record.validateStatusContract
  validateMetadata record.metadata

/-- The constructor, and `model_validate`. -/
def modelValidate (record : ApplicationJobRecord) : Except Raised ApplicationJobRecord := do
  record.validateRecord
  return record

def terminal (record : ApplicationJobRecord) : Bool := record.status ∈ terminalStatuses

/-- `available_for_queue_at`, for an aware time. -/
def availableForQueueAt (record : ApplicationJobRecord) (now : Datetime) : Bool :=
  record.status ∈ queueableStatuses ∧ record.availableAt ≤ now

/-- `record.record_version + 1` -/
def nextVersion (record : ApplicationJobRecord) : PositiveInt :=
  ⟨record.recordVersion.val + 1, Nat.le_add_left 1 _⟩

end ApplicationJobRecord

namespace ApplicationJobTransitionPolicy

def allowedTransitions : ApplicationJobStatus → List ApplicationJobStatus
  | pending => [scheduled, queued, cancellationRequested, cancelled]
  | scheduled => [queued, cancellationRequested, cancelled]
  | queued => [leased, cancellationRequested, cancelled]
  | leased => [running, queued, failed, cancellationRequested, cancelled]
  | running => [succeeded, failed, retryScheduled, cancellationRequested, cancelled, deadLettered]
  | retryScheduled => [queued, cancellationRequested, cancelled]
  | cancellationRequested => [cancelled, succeeded, failed, deadLettered]
  | succeeded => []
  | failed => []
  | cancelled => []
  | deadLettered => []

def canTransition (current target : ApplicationJobStatus) : Bool :=
  target ∈ allowedTransitions current

def requireTransition (current target : ApplicationJobStatus) : Except Raised Unit :=
  raiseIf (canTransition current target = false)
    ⟨.valueError, "job status transition is not allowed: " ++ current.value ++ " -> " ++
      target.value⟩

end ApplicationJobTransitionPolicy

end AgenticLab
