import AgenticLab.Library.KeyedStore
import AgenticLab.Library.Program
import AgenticLab.Model.Application.JobQuery
import Mathlib.Data.Prod.Lex

/-! # Cancellation requests

`app/application/cancellation_record.py`, `app/application/cancellation_repository.py` and
`app/application/in_memory_cancellation_repository.py`. -/

namespace AgenticLab

inductive ApplicationCancellationStatus where
  | requested
  | acknowledged
  | completed
  deriving DecidableEq, Repr

structure ApplicationJobCancellationRequestRecord where
  cancellationRequestId : String
  jobId : String
  requestId : String
  workspaceId : String
  requestedBy : String
  reason : String
  force : Bool
  status : ApplicationCancellationStatus
  requestedAt : Datetime
  acknowledgedAt : Option Datetime
  acknowledgedBy : Option String
  completedAt : Option Datetime
  completedBy : Option String
  recordVersion : PositiveInt
  metadata : List (String × String)

namespace ApplicationJobCancellationRequestRecord

def validateRecord (record : ApplicationJobCancellationRequestRecord) : Except Raised Unit := do
  requireTexts [("cancellation_request_id", record.cancellationRequestId),
    ("job_id", record.jobId), ("request_id", record.requestId),
    ("workspace_id", record.workspaceId), ("requested_by", record.requestedBy),
    ("reason", record.reason)]
  requireOptionalTexts [("acknowledged_by", record.acknowledgedBy),
    ("completed_by", record.completedBy)]
  Datetime.requireAware [("requested_at", some record.requestedAt),
    ("acknowledged_at", record.acknowledgedAt), ("completed_at", record.completedAt)]
  raiseIf (record.acknowledgedAt.any (· < record.requestedAt))
    ⟨.validationError, "acknowledged_at must not precede requested_at"⟩
  raiseIf (record.completedAt.any (· < record.acknowledgedAt.getD record.requestedAt))
    ⟨.validationError, "completed_at must not precede prior cancellation timestamps"⟩
  raiseIf (record.status = .requested ∧ (record.acknowledgedAt.isSome ∨
      record.acknowledgedBy.isSome ∨ record.completedAt.isSome ∨ record.completedBy.isSome))
    ⟨.validationError, "requested cancellation must not include acknowledgement or completion"⟩
  raiseIf (record.status = .acknowledged ∧
      (record.acknowledgedAt.isNone ∨ record.acknowledgedBy.isNone))
    ⟨.validationError, "acknowledged cancellation requires acknowledgement details"⟩
  raiseIf (record.status = .acknowledged ∧ (record.completedAt.isSome ∨ record.completedBy.isSome))
    ⟨.validationError, "acknowledged cancellation must not include completion details"⟩
  raiseIf (record.status = .completed ∧ (record.completedAt.isNone ∨ record.completedBy.isNone))
    ⟨.validationError, "completed cancellation requires completion details"⟩
  validateMetadata record.metadata

def modelValidate (record : ApplicationJobCancellationRequestRecord) :
    Except Raised ApplicationJobCancellationRequestRecord := do
  record.validateRecord
  return record

def terminal (record : ApplicationJobCancellationRequestRecord) : Bool :=
  record.status == .completed

def nextVersion (record : ApplicationJobCancellationRequestRecord) : PositiveInt :=
  ⟨record.recordVersion.val + 1, Nat.le_add_left 1 _⟩

def key (casefold : Casefold) (record : ApplicationJobCancellationRequestRecord) : String :=
  normalizeId casefold record.cancellationRequestId

end ApplicationJobCancellationRequestRecord

abbrev InMemoryApplicationCancellationRepository (casefold : Casefold) :=
  KeyedStore String ApplicationJobCancellationRequestRecord
    (ApplicationJobCancellationRequestRecord.key casefold)

namespace InMemoryApplicationCancellationRepository

variable {casefold : Casefold}

def create (repository : InMemoryApplicationCancellationRepository casefold)
    (record : ApplicationJobCancellationRequestRecord) :
    Except Raised ApplicationJobCancellationRequestRecord ×
      InMemoryApplicationCancellationRepository casefold :=
  match h : repository.get (record.key casefold) with
  | some _ => (.error ⟨.applicationCancellationAlreadyExistsError,
      "application cancellation request already exists: " ++ record.cancellationRequestId⟩,
      repository)
  | none => (.ok record, repository.insert record h)

/-- `get`, by an identifier as it is given. -/
def getById (repository : InMemoryApplicationCancellationRepository casefold)
    (cancellationRequestId : String) : Option ApplicationJobCancellationRequestRecord :=
  repository.get (normalizeId casefold cancellationRequestId)

def update (repository : InMemoryApplicationCancellationRepository casefold)
    (record : ApplicationJobCancellationRequestRecord) (expectedVersion : ℕ) :
    Except Raised ApplicationJobCancellationRequestRecord ×
      InMemoryApplicationCancellationRepository casefold :=
  if expectedVersion < 1 then
    (.error ⟨.applicationCancellationVersionConflictError,
      "expected_version must be at least 1"⟩, repository)
  else
    match repository.get (record.key casefold) with
    | none => (.error ⟨.applicationCancellationNotFoundError,
        "application cancellation request was not found: " ++ record.cancellationRequestId⟩,
        repository)
    | some stored =>
      if stored.recordVersion.val ≠ expectedVersion then
        (.error ⟨.applicationCancellationVersionConflictError,
          "application cancellation version conflict: expected " ++ toString expectedVersion ++
            ", stored " ++ toString stored.recordVersion.val⟩, repository)
      else if record.recordVersion.val ≠ expectedVersion + 1 then
        (.error ⟨.applicationCancellationVersionConflictError,
          "updated cancellation record_version must equal " ++
            toString (expectedVersion + 1)⟩, repository)
      else (.ok record, repository.replace record)

/-- Whether `find_by_job_id` lists one record ahead of the other. -/
def listsBefore (casefold : Casefold) (a b : ApplicationJobCancellationRequestRecord) : Bool :=
  decide (b.requestedAt.instant < a.requestedAt.instant ∨
    (b.requestedAt.instant = a.requestedAt.instant ∧ b.key casefold ≤ a.key casefold))

def findByJobId (repository : InMemoryApplicationCancellationRepository casefold)
    (jobId : String) : List ApplicationJobCancellationRequestRecord :=
  (repository.records.filter fun record =>
    normalizeId casefold record.jobId == normalizeId casefold jobId).mergeSort
      (listsBefore casefold)

end InMemoryApplicationCancellationRepository

end AgenticLab

/-! # The job repository

`app/application/in_memory_job_repository.py`. The dictionary holds each record under its
normalized `job_id`. -/

namespace AgenticLab

variable (casefold : Casefold)

def ApplicationJobRecord.key (record : ApplicationJobRecord) : String :=
  normalizeId casefold record.jobId

abbrev InMemoryApplicationJobRepository :=
  KeyedStore String ApplicationJobRecord (ApplicationJobRecord.key casefold)

namespace InMemoryApplicationJobRepository

variable {casefold}

def create (repository : InMemoryApplicationJobRepository casefold)
    (record : ApplicationJobRecord) :
    Except Raised ApplicationJobRecord × InMemoryApplicationJobRepository casefold :=
  match h : repository.get (record.key casefold) with
  | some _ => (.error ⟨.applicationJobAlreadyExistsError,
      "application job already exists: " ++ record.jobId⟩, repository)
  | none => (.ok record, repository.insert record h)

/-- `get`, by an identifier as it is given. -/
def getById (repository : InMemoryApplicationJobRepository casefold) (jobId : String) :
    Option ApplicationJobRecord := repository.get (normalizeId casefold jobId)

def update (repository : InMemoryApplicationJobRepository casefold)
    (record : ApplicationJobRecord) (expectedVersion : ℕ) :
    Except Raised ApplicationJobRecord × InMemoryApplicationJobRepository casefold :=
  if expectedVersion < 1 then
    (.error ⟨.applicationJobVersionConflictError, "expected_version must be at least 1"⟩,
      repository)
  else
    match repository.get (record.key casefold) with
    | none => (.error ⟨.applicationJobNotFoundError,
        "application job was not found: " ++ record.jobId⟩, repository)
    | some stored =>
      if stored.recordVersion.val ≠ expectedVersion then
        (.error ⟨.applicationJobVersionConflictError,
          "application job version conflict: expected " ++ toString expectedVersion ++
            ", stored " ++ toString stored.recordVersion.val⟩, repository)
      else if record.recordVersion.val ≠ expectedVersion + 1 then
        (.error ⟨.applicationJobVersionConflictError,
          "updated job record_version must equal " ++ toString (expectedVersion + 1)⟩, repository)
      else (.ok record, repository.replace record)

def list (repository : InMemoryApplicationJobRepository casefold) (query : ApplicationJobQuery) :
    ApplicationJobPage :=
  let filtered := repository.records.filter (query.keeps casefold)
  let ordered := query.sortRecords casefold filtered
  { items := (ordered.drop query.offset).take query.pageSize
    totalItems := ordered.length
    page := query.page
    pageSize := query.pageSize }

open ApplicationJobStatus in
/-- The statuses `find_available` looks for. -/
def executableStatuses : List ApplicationJobStatus := [pending, scheduled, queued, retryScheduled]

variable (casefold) in
/-- The key `find_available` sorts by. Times stand for their place on the time line. -/
def pickupKey (record : ApplicationJobRecord) : ℤ ×ₗ ℤ ×ₗ ℤ ×ₗ String :=
  toLex (-record.priority.value, toLex (record.availableAt.instant,
    toLex (record.createdAt.instant, record.key casefold)))

variable (casefold) in
def picksBefore (a b : ApplicationJobRecord) : Bool :=
  decide (pickupKey casefold a ≤ pickupKey casefold b)

/-- The records among which `find_available` picks. -/
def candidates (repository : InMemoryApplicationJobRepository casefold) (queueName : String)
    (now : Datetime) : List ApplicationJobRecord :=
  repository.records.filter fun record =>
    normalizeId casefold record.queueName == normalizeId casefold queueName &&
      decide (record.status ∈ executableStatuses) && decide (record.availableAt ≤ now)

def findAvailable (repository : InMemoryApplicationJobRepository casefold) (queueName : String)
    (now : Datetime) (limit : ℕ) : Except Raised (List ApplicationJobRecord) := do
  raiseIf (isBlank queueName) ⟨.valueError, "queue_name must not be blank"⟩
  raiseIf now.isNaive ⟨.valueError, "now must be timezone-aware"⟩
  raiseIf (limit < 1) ⟨.valueError, "limit must be at least 1"⟩
  return ((repository.candidates queueName now).mergeSort (picksBefore casefold)).take limit

end InMemoryApplicationJobRepository

end AgenticLab

/-! # The repositories as the services use them

Each repository operation holds the repository's lock from its beginning to its end, so the
services are programs over the operations. -/

namespace AgenticLab

structure ApplicationRepositories (casefold : Casefold) where
  jobs : InMemoryApplicationJobRepository casefold
  cancellations : InMemoryApplicationCancellationRepository casefold

inductive RepositoryOperation where
  | getJob (jobId : String)
  | createJob (record : ApplicationJobRecord)
  | updateJob (record : ApplicationJobRecord) (expectedVersion : ℕ)
  | listJobs (query : ApplicationJobQuery)
  | findAvailable (queueName : String) (now : Datetime) (limit : ℕ)
  | getCancellation (cancellationRequestId : String)
  | createCancellation (record : ApplicationJobCancellationRequestRecord)
  | updateCancellation (record : ApplicationJobCancellationRequestRecord) (expectedVersion : ℕ)
  | findByJobId (jobId : String)

namespace RepositoryOperation

abbrev Reply : RepositoryOperation → Type
  | getJob _ => Option ApplicationJobRecord
  | createJob _ => Except Raised ApplicationJobRecord
  | updateJob _ _ => Except Raised ApplicationJobRecord
  | listJobs _ => ApplicationJobPage
  | findAvailable _ _ _ => Except Raised (List ApplicationJobRecord)
  | getCancellation _ => Option ApplicationJobCancellationRequestRecord
  | createCancellation _ => Except Raised ApplicationJobCancellationRequestRecord
  | updateCancellation _ _ => Except Raised ApplicationJobCancellationRequestRecord
  | findByJobId _ => List ApplicationJobCancellationRequestRecord

variable {casefold : Casefold}

def handle : (op : RepositoryOperation) → ApplicationRepositories casefold →
    op.Reply × ApplicationRepositories casefold
  | getJob jobId, s => (s.jobs.getById jobId, s)
  | createJob record, s =>
    let answer := InMemoryApplicationJobRepository.create s.jobs record
    (answer.1, { s with jobs := answer.2 })
  | updateJob record expectedVersion, s =>
    let answer := InMemoryApplicationJobRepository.update s.jobs record expectedVersion
    (answer.1, { s with jobs := answer.2 })
  | listJobs query, s => (InMemoryApplicationJobRepository.list s.jobs query, s)
  | findAvailable queueName now limit, s =>
    (InMemoryApplicationJobRepository.findAvailable s.jobs queueName now limit, s)
  | getCancellation cancellationRequestId, s =>
    (InMemoryApplicationCancellationRepository.getById s.cancellations cancellationRequestId, s)
  | createCancellation record, s =>
    let answer := InMemoryApplicationCancellationRepository.create s.cancellations record
    (answer.1, { s with cancellations := answer.2 })
  | updateCancellation record expectedVersion, s =>
    let answer :=
      InMemoryApplicationCancellationRepository.update s.cancellations record expectedVersion
    (answer.1, { s with cancellations := answer.2 })
  | findByJobId jobId, s =>
    (InMemoryApplicationCancellationRepository.findByJobId s.cancellations jobId, s)

end RepositoryOperation

/-- What a service method does with the repositories. -/
abbrev ServiceProgram := Program RepositoryOperation RepositoryOperation.Reply Raised

open RepositoryOperation

namespace ApplicationJobRepository

def require (jobId : String) : ServiceProgram ApplicationJobRecord := do
  match ← Program.perform (getJob jobId) with
  | some record => return record
  | none =>
    Program.raise ⟨.applicationJobNotFoundError, "application job was not found: " ++ jobId⟩

def create (record : ApplicationJobRecord) : ServiceProgram ApplicationJobRecord := do
  liftM (← Program.perform (createJob record))

def update (record : ApplicationJobRecord) (expectedVersion : ℕ) :
    ServiceProgram ApplicationJobRecord := do
  liftM (← Program.perform (updateJob record expectedVersion))

def findAvailable (queueName : String) (now : Datetime) (limit : ℕ) :
    ServiceProgram (List ApplicationJobRecord) := do
  liftM (← Program.perform (RepositoryOperation.findAvailable queueName now limit))

def list (casefold : Casefold) (query : ApplicationJobQuery) :
    ServiceProgram ApplicationJobPage := do
  query.validateQuery casefold
  Program.perform (listJobs query)

end ApplicationJobRepository

namespace ApplicationCancellationRepository

def require (cancellationRequestId : String) :
    ServiceProgram ApplicationJobCancellationRequestRecord := do
  match ← Program.perform (getCancellation cancellationRequestId) with
  | some record => return record
  | none => Program.raise ⟨.applicationCancellationNotFoundError,
      "application cancellation request was not found: " ++ cancellationRequestId⟩

def create (record : ApplicationJobCancellationRequestRecord) :
    ServiceProgram ApplicationJobCancellationRequestRecord := do
  liftM (← Program.perform (createCancellation record))

def update (record : ApplicationJobCancellationRequestRecord) (expectedVersion : ℕ) :
    ServiceProgram ApplicationJobCancellationRequestRecord := do
  liftM (← Program.perform (updateCancellation record expectedVersion))

def findActiveByJobId (jobId : String) :
    ServiceProgram (Option ApplicationJobCancellationRequestRecord) := do
  let records ← Program.perform (findByJobId jobId)
  return records.find? fun record => !record.terminal

end ApplicationCancellationRepository

end AgenticLab
