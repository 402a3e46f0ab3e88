import AgenticLab.Library.KeyedStore
import AgenticLab.Model.Application.Values
import AgenticLab.Model.Fields

/-! # Execution records

`app/application/execution_record.py`, `app/application/execution_transition.py` and
`app/application/in_memory_execution_repository.py`. A record may also come from `model_copy`,
which validates nothing. -/

namespace AgenticLab

inductive ApplicationExecutionSubjectType where
  | agent
  | tool
  | assignment
  | workflow
  | evaluation
  | backgroundJob
  deriving DecidableEq, Repr

inductive ApplicationExecutionStatus where
  | pending
  | queued
  | running
  | succeeded
  | failed
  | cancellationRequested
  | cancelled
  | timedOut
  deriving DecidableEq, Repr

namespace ApplicationExecutionStatus

def value : ApplicationExecutionStatus → String
  | pending => "pending"
  | queued => "queued"
  | running => "running"
  | succeeded => "succeeded"
  | failed => "failed"
  | cancellationRequested => "cancellation_requested"
  | cancelled => "cancelled"
  | timedOut => "timed_out"

def terminalStatuses : List ApplicationExecutionStatus := [succeeded, failed, cancelled, timedOut]

def failureStatuses : List ApplicationExecutionStatus := [failed, timedOut]

def cancellationStatuses : List ApplicationExecutionStatus := [cancellationRequested, cancelled]

end ApplicationExecutionStatus

inductive ApplicationExecutionFailureCategory where
  | timeout
  | rateLimit
  | network
  | tool
  | validation
  | permission
  | policy
  | authentication
  | conflict
  | internal
  | cancelled
  | unknown
  deriving DecidableEq, Repr

/-! ## References, failures and cancellations -/

def validateReference (name referenceType referenceId : String)
    (metadata : List (String × String)) : Except Raised Unit := do
  requireTexts [("name", name), ("reference_type", referenceType), ("reference_id", referenceId)]
  validateMetadata metadata

structure ApplicationExecutionReference where
  name : String
  referenceType : String
  referenceId : String
  primary : Bool
  metadata : List (String × String)
  valid : validateReference name referenceType referenceId metadata = .ok ()

def validateExecutionFailure (code message : String) (retryable : Bool)
    (retryReason : Option String) : Except Raised Unit := do
  raiseIf (isBlank code) ⟨.validationError, "code must not be blank"⟩
  raiseIf (isBlank message) ⟨.validationError, "message must not be blank"⟩
  raiseIf (retryable = true ∧ retryReason.all isBlank)
    ⟨.validationError, "retryable failure requires retry_reason"⟩
  raiseIf (retryable = false ∧ retryReason.isSome)
    ⟨.validationError, "nonretryable failure must not include retry_reason"⟩

structure ApplicationExecutionFailure where
  category : ApplicationExecutionFailureCategory
  code : String
  message : String
  retryable : Bool
  retryReason : Option String
  details : Fields
  valid : validateExecutionFailure code message retryable retryReason = .ok ()

def newExecutionFailure (category : ApplicationExecutionFailureCategory) (code message : String)
    (retryable : Bool) : Except Raised ApplicationExecutionFailure :=
  match h : validateExecutionFailure code message retryable none with
  | .ok () => .ok ⟨category, code, message, retryable, none, [], h⟩
  | .error failure => .error failure

def validateCancellationRecord (cancellationId requestedBy reason : String)
    (requestedAt : Datetime) : Except Raised Unit := do
  requireTexts [("cancellation_id", cancellationId), ("requested_by", requestedBy),
    ("reason", reason)]
  Datetime.requireAware [("requested_at", some requestedAt)]

structure ApplicationCancellationRecord where
  cancellationId : String
  requestedAt : Datetime
  requestedBy : String
  reason : String
  force : Bool
  valid : validateCancellationRecord cancellationId requestedBy reason requestedAt = .ok ()

/-! ## The record -/

structure ApplicationExecutionRecord where
  executionId : String
  rootExecutionId : String
  parentExecutionId : Option String
  requestId : String
  workspaceId : String
  subjectType : ApplicationExecutionSubjectType
  subjectId : String
  status : ApplicationExecutionStatus
  attemptNumber : PositiveInt
  maximumAttempts : PositiveInt
  previousAttemptExecutionId : Option String
  inputs : List ApplicationExecutionReference
  outputs : List ApplicationExecutionReference
  guardrailEvaluationIds : List String
  retryDecisionIds : List String
  recoveryDecisionId : Option String
  failure : Option ApplicationExecutionFailure
  cancellation : Option ApplicationCancellationRecord
  createdAt : Datetime
  queuedAt : Option Datetime
  startedAt : Option Datetime
  finishedAt : Option Datetime
  deadlineAt : Option Datetime
  recordVersion : PositiveInt
  metadata : List (String × String)

def validateUniqueText (casefold : Casefold) (fieldName : String) (values : List String) :
    Except Raised Unit := do
  raiseIf (values.any isBlank) ⟨.validationError, fieldName ++ " must not contain blank values"⟩
  raiseIf (¬(values.map (normalizeId casefold)).Nodup)
    ⟨.validationError, fieldName ++ " must not contain duplicates"⟩

def validateReferenceUniqueness (casefold : Casefold) (fieldName : String)
    (references : List ApplicationExecutionReference) : Except Raised Unit := do
  raiseIf (¬(references.map fun reference => normalizeId casefold reference.referenceId).Nodup)
    ⟨.validationError, fieldName ++ " must have unique reference IDs"⟩
  raiseIf (1 < references.countP (·.primary))
    ⟨.validationError, fieldName ++ " must not contain multiple primary references"⟩

namespace ApplicationExecutionRecord

open ApplicationExecutionStatus

def validateContent (casefold : Casefold) (record : ApplicationExecutionRecord) :
    Except Raised Unit := do
  requireTexts [("execution_id", record.executionId),
    ("root_execution_id", record.rootExecutionId), ("request_id", record.requestId),
    ("workspace_id", record.workspaceId), ("subject_id", record.subjectId)]
  requireOptionalTexts [("parent_execution_id", record.parentExecutionId)]
  raiseIf (record.maximumAttempts < record.attemptNumber)
    ⟨.validationError, "attempt_number must not exceed maximum_attempts"⟩
  raiseIf (record.attemptNumber.val = 1 ∧ record.previousAttemptExecutionId.isSome)
    ⟨.validationError, "first attempt must not include previous_attempt_execution_id"⟩
  raiseIf (1 < record.attemptNumber.val ∧ record.previousAttemptExecutionId.all isBlank)
    ⟨.validationError, "retry attempt requires previous_attempt_execution_id"⟩
  validateReferenceUniqueness casefold "inputs" record.inputs
  validateReferenceUniqueness casefold "outputs" record.outputs
  validateUniqueText casefold "guardrail_evaluation_ids" record.guardrailEvaluationIds
  validateUniqueText casefold "retry_decision_ids" record.retryDecisionIds
  requireOptionalTexts [("recovery_decision_id", record.recoveryDecisionId)]

/-- The loop over the times that are given, each not before the one ahead of it. -/
def requireOrdered (previous : Datetime) : List (Option Datetime) → Except Raised Unit
  | [] => .ok ()
  | none :: rest => requireOrdered previous rest
  | some value :: rest => do
      raiseIf (value < previous)
        ⟨.validationError, "execution timestamps must be chronologically ordered"⟩
      requireOrdered value rest

def validateTimestamps (record : ApplicationExecutionRecord) : Except Raised Unit := do
  Datetime.requireAware [("created_at", some record.createdAt), ("queued_at", record.queuedAt),
    ("started_at", record.startedAt), ("finished_at", record.finishedAt),
    ("deadline_at", record.deadlineAt)]
  requireOrdered record.createdAt [record.queuedAt, record.startedAt, record.finishedAt]

def validateStatusContract (record : ApplicationExecutionRecord) : Except Raised Unit := do
  raiseIf (record.status ∈ terminalStatuses ∧ record.finishedAt.isNone)
    ⟨.validationError, "terminal execution requires finished_at"⟩
  raiseIf (record.status ∉ terminalStatuses ∧ record.finishedAt.isSome)
    ⟨.validationError, "nonterminal execution must not include finished_at"⟩
  raiseIf (record.status = .running ∧ record.startedAt.isNone)
    ⟨.validationError, "running execution requires started_at"⟩
  raiseIf (record.status ∈ terminalStatuses ∧ record.startedAt.isNone)
    ⟨.validationError, "terminal execution requires started_at"⟩
  raiseIf (record.status = .succeeded ∧ record.failure.isSome)
    ⟨.validationError, "successful execution must not include failure"⟩
  raiseIf (record.status ∈ failureStatuses ∧ record.failure.isNone)
    ⟨.validationError, "failed or timed-out execution requires failure"⟩
  raiseIf (record.status ∉ failureStatuses ∧ record.failure.isSome)
    ⟨.validationError, "failure is only valid for failed or timed-out execution"⟩
  raiseIf (record.status ∈ cancellationStatuses ∧ record.cancellation.isNone)
    ⟨.validationError, "cancellation status requires cancellation record"⟩
  raiseIf (record.status ∉ cancellationStatuses ∧ record.cancellation.isSome)
    ⟨.validationError, "cancellation record is only valid for cancellation status"⟩

def validateRecord (casefold : Casefold) (record : ApplicationExecutionRecord) :
    Except Raised Unit := do
  record.validateContent casefold
  record.validateTimestamps
  record.validateStatusContract
  validateMetadata record.metadata

def modelValidate (casefold : Casefold) (record : ApplicationExecutionRecord) :
    Except Raised ApplicationExecutionRecord := do
  record.validateRecord casefold
  return record

def terminal (record : ApplicationExecutionRecord) : Bool := record.status ∈ terminalStatuses

/-- `record.record_version + 1` -/
def nextVersion (record : ApplicationExecutionRecord) : PositiveInt :=
  ⟨record.recordVersion.val + 1, Nat.le_add_left 1 _⟩

def key (casefold : Casefold) (record : ApplicationExecutionRecord) : String :=
  normalizeId casefold record.executionId

end ApplicationExecutionRecord

namespace ApplicationExecutionTransitionPolicy

def allowedTransitions : ApplicationExecutionStatus → List ApplicationExecutionStatus
  | .pending => [.queued, .running, .cancellationRequested, .cancelled]
  | .queued => [.running, .cancellationRequested, .cancelled, .timedOut]
  | .running => [.succeeded, .failed, .cancellationRequested, .cancelled, .timedOut]
  | .cancellationRequested => [.cancelled, .succeeded, .failed, .timedOut]
  | .succeeded => []
  | .failed => []
  | .cancelled => []
  | .timedOut => []

def canTransition (current target : ApplicationExecutionStatus) : Bool :=
  target ∈ allowedTransitions current

def requireTransition (current target : ApplicationExecutionStatus) : Except Raised Unit :=
  raiseIf (canTransition current target = false)
    ⟨.valueError, "execution status transition is not allowed: " ++ current.value ++ " -> " ++
      target.value⟩

end ApplicationExecutionTransitionPolicy

abbrev InMemoryApplicationExecutionRepository (casefold : Casefold) :=
  KeyedStore String ApplicationExecutionRecord (ApplicationExecutionRecord.key casefold)

namespace InMemoryApplicationExecutionRepository

variable {casefold : Casefold}

def create (repository : InMemoryApplicationExecutionRepository casefold)
    (record : ApplicationExecutionRecord) :
    Except Raised ApplicationExecutionRecord × InMemoryApplicationExecutionRepository casefold :=
  match h : repository.get (record.key casefold) with
  | some _ => (.error ⟨.applicationExecutionAlreadyExistsError,
      "application execution already exists: " ++ record.executionId⟩, repository)
  | none => (.ok record, repository.insert record h)

/-- `get`, by an identifier as it is given. -/
def getById (repository : InMemoryApplicationExecutionRepository casefold)
    (executionId : String) : Option ApplicationExecutionRecord :=
  repository.get (normalizeId casefold executionId)

def update (repository : InMemoryApplicationExecutionRepository casefold)
    (record : ApplicationExecutionRecord) (expectedVersion : ℕ) :
    Except Raised ApplicationExecutionRecord × InMemoryApplicationExecutionRepository casefold :=
  if expectedVersion < 1 then
    (.error ⟨.applicationExecutionVersionConflictError, "expected_version must be at least 1"⟩,
      repository)
  else
    match repository.get (record.key casefold) with
    | none => (.error ⟨.applicationExecutionNotFoundError,
        "application execution was not found: " ++ record.executionId⟩, repository)
    | some stored =>
      if stored.recordVersion.val ≠ expectedVersion then
        (.error ⟨.applicationExecutionVersionConflictError,
          "application execution version conflict: expected " ++ toString expectedVersion ++
            ", stored " ++ toString stored.recordVersion.val⟩, repository)
      else if record.recordVersion.val ≠ expectedVersion + 1 then
        (.error ⟨.applicationExecutionVersionConflictError,
          "updated execution record_version must equal " ++ toString (expectedVersion + 1)⟩,
          repository)
      else (.ok record, repository.replace record)

end InMemoryApplicationExecutionRepository

end AgenticLab
