import AgenticLab.Model.Application.JobRecord
import Mathlib.Data.String.Basic

/-! # Job queries

`app/application/job_repository_query.py`, with the filters and the sort keys of
`app/application/in_memory_job_repository.py`. -/

namespace AgenticLab

inductive ApplicationJobSortField where
  | createdAt
  | availableAt
  | priority
  | attemptNumber
  | recordVersion
  deriving DecidableEq, Repr

inductive ApplicationJobSortDirection where
  | ascending
  | descending
  deriving DecidableEq, Repr

structure ApplicationJobQuery where
  jobIds : List String := []
  rootJobId : Option String := none
  parentJobId : Option String := none
  previousAttemptJobId : Option String := none
  requestId : Option String := none
  workspaceId : Option String := none
  executionId : Option String := none
  jobTypes : List ApplicationJobType := []
  queueNames : List String := []
  priorities : List ApplicationJobPriority := []
  statuses : List ApplicationJobStatus := []
  minimumAttemptNumber : Option PositiveInt := none
  maximumAttemptNumber : Option PositiveInt := none
  availableFrom : Option Datetime := none
  availableTo : Option Datetime := none
  createdFrom : Option Datetime := none
  createdTo : Option Datetime := none
  terminalOnly : Option Bool := none
  leasedOnly : Option Bool := none
  sortField : ApplicationJobSortField := .createdAt
  sortDirection : ApplicationJobSortDirection := .descending
  page : ℕ := 1
  pageSize : ℕ := 50

namespace ApplicationJobQuery

variable (casefold : Casefold)

def validateUniqueText (values : List String) (fieldName : String) : Except Raised Unit := do
  raiseIf (values.any isBlank) ⟨.validationError, fieldName ++ " must not contain blank values"⟩
  raiseIf (¬(values.map (normalizeId casefold)).Nodup)
    ⟨.validationError, fieldName ++ " must not contain duplicates"⟩

def validateDatetimeRange (start stop : Option Datetime) (startName stopName : String) :
    Except Raised Unit := do
  Datetime.requireAware [(startName, start), (stopName, stop)]
  match start, stop with
  | some first, some last =>
    raiseIf (last < first) ⟨.validationError, startName ++ " must not exceed " ++ stopName⟩
  | _, _ => return ()

/-- The field bounds of `page` and `page_size`, and `validate_query`. -/
def validateQuery (query : ApplicationJobQuery) : Except Raised Unit := do
  raiseIf (query.page < 1) ⟨.validationError, "page: Input should be greater than or equal to 1"⟩
  raiseIf (query.pageSize < 1)
    ⟨.validationError, "page_size: Input should be greater than or equal to 1"⟩
  raiseIf (200 < query.pageSize)
    ⟨.validationError, "page_size: Input should be less than or equal to 200"⟩
  validateUniqueText casefold query.jobIds "job_ids"
  validateUniqueText casefold query.queueNames "queue_names"
  raiseIf (¬query.jobTypes.Nodup) ⟨.validationError, "job_types must not contain duplicates"⟩
  raiseIf (¬query.priorities.Nodup) ⟨.validationError, "priorities must not contain duplicates"⟩
  raiseIf (¬query.statuses.Nodup) ⟨.validationError, "statuses must not contain duplicates"⟩
  requireOptionalTexts [("root_job_id", query.rootJobId), ("parent_job_id", query.parentJobId),
    ("previous_attempt_job_id", query.previousAttemptJobId), ("request_id", query.requestId),
    ("workspace_id", query.workspaceId), ("execution_id", query.executionId)]
  match query.minimumAttemptNumber, query.maximumAttemptNumber with
  | some minimum, some maximum =>
    raiseIf (maximum < minimum) ⟨.validationError,
      "minimum_attempt_number must not exceed maximum_attempt_number"⟩
  | _, _ => return ()
  validateDatetimeRange query.availableFrom query.availableTo "available_from" "available_to"
  validateDatetimeRange query.createdFrom query.createdTo "created_from" "created_to"

def offset (query : ApplicationJobQuery) : ℕ := (query.page - 1) * query.pageSize

def matchesOptionalId (actual expected : Option String) : Bool :=
  match expected, actual with
  | none, _ => true
  | some _, none => false
  | some expected, some actual => normalizeId casefold actual == normalizeId casefold expected

/-- Whether `_filter_records` keeps a record. -/
def keeps (query : ApplicationJobQuery) (record : ApplicationJobRecord) : Bool :=
  (query.jobIds.isEmpty ||
    (query.jobIds.map (normalizeId casefold)).contains (normalizeId casefold record.jobId)) &&
  matchesOptionalId casefold (some record.rootJobId) query.rootJobId &&
  matchesOptionalId casefold record.parentJobId query.parentJobId &&
  matchesOptionalId casefold record.previousAttemptJobId query.previousAttemptJobId &&
  matchesOptionalId casefold (some record.requestId) query.requestId &&
  matchesOptionalId casefold (some record.workspaceId) query.workspaceId &&
  matchesOptionalId casefold record.executionId query.executionId &&
  (query.jobTypes.isEmpty || query.jobTypes.contains record.jobType) &&
  (query.queueNames.isEmpty ||
    (query.queueNames.map (normalizeId casefold)).contains
      (normalizeId casefold record.queueName)) &&
  (query.priorities.isEmpty || query.priorities.contains record.priority) &&
  (query.statuses.isEmpty || query.statuses.contains record.status) &&
  query.minimumAttemptNumber.all (fun minimum => decide (minimum ≤ record.attemptNumber)) &&
  query.maximumAttemptNumber.all (fun maximum => decide (record.attemptNumber ≤ maximum)) &&
  query.availableFrom.all (fun start => decide (start ≤ record.availableAt)) &&
  query.availableTo.all (fun stop => decide (record.availableAt ≤ stop)) &&
  query.createdFrom.all (fun start => decide (start ≤ record.createdAt)) &&
  query.createdTo.all (fun stop => decide (record.createdAt ≤ stop)) &&
  query.terminalOnly.all (fun terminal => record.terminal == terminal) &&
  query.leasedOnly.all (fun leased => record.lease.isSome == leased)

/-- `_sort_value`. Times stand for their place on the time line. -/
def sortValue (record : ApplicationJobRecord) : ApplicationJobSortField → ℤ
  | .createdAt => record.createdAt.instant
  | .availableAt => record.availableAt.instant
  | .priority => record.priority.value
  | .attemptNumber => record.attemptNumber.val
  | .recordVersion => record.recordVersion.val

/-- Whether the key of one record is not above that of the other. -/
def sortsBefore (query : ApplicationJobQuery) (a b : ApplicationJobRecord) : Bool :=
  let left := sortValue a query.sortField
  let right := sortValue b query.sortField
  decide (left < right ∨
    (left = right ∧ normalizeId casefold a.jobId ≤ normalizeId casefold b.jobId))

/-- `_sort_records`. Keys of stored records never agree, so `reverse=True` turns the order round. -/
def sortRecords (query : ApplicationJobQuery) (records : List ApplicationJobRecord) :
    List ApplicationJobRecord :=
  match query.sortDirection with
  | .ascending => records.mergeSort (query.sortsBefore casefold)
  | .descending => records.mergeSort fun a b => query.sortsBefore casefold b a

end ApplicationJobQuery

structure ApplicationJobPage where
  items : List ApplicationJobRecord
  totalItems : ℕ
  page : ℕ
  pageSize : ℕ

end AgenticLab
