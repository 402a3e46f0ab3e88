import AgenticLab.Model.Application.ExecutionRepository
import AgenticLab.Model.Application.Repositories

/-! # Reliability snapshots

`app/application/reliability_query_service.py`, `reliability_query.py` and `reliability_snapshot.py`,
with what the service reads of the evaluation and guardrail records and of the repositories'
`list` and `count`. A query of the service sets two filters and the page size. Rates and averages
are exact quotients. -/

namespace AgenticLab

/-! ## Evaluations and guardrails -/

inductive ApplicationEvaluationStatus where
  | passed
  | failed
  | error
  | skipped
  deriving DecidableEq, Repr

inductive ApplicationGuardrailDecision where
  | allowed
  | warned
  | blocked
  deriving DecidableEq, Repr

structure ApplicationEvaluationViolation where
  violationId : String
  blocking : Bool

structure ApplicationEvaluationRecord where
  evaluationId : String
  requestId : String
  workspaceId : String
  status : ApplicationEvaluationStatus
  overallScore : Option ℚ
  violations : List ApplicationEvaluationViolation
  finishedAt : Datetime

def ApplicationEvaluationRecord.blockingViolations (record : ApplicationEvaluationRecord) :
    List ApplicationEvaluationViolation := record.violations.filter (·.blocking)

structure ApplicationGuardrailViolationRecord where
  violationId : String
  blocking : Bool

/-- What `validate_record` asks of the counts and of the decision. -/
def validateGuardrailCounts (decision : ApplicationGuardrailDecision)
    (violations : List ApplicationGuardrailViolationRecord) (total blocking warning : ℕ) :
    Except Raised Unit := do
  let actualBlocking := violations.countP (·.blocking)
  raiseIf (total ≠ violations.length)
    ⟨.validationError, "total_violation_count must equal the number of violations"⟩
  raiseIf (blocking ≠ actualBlocking)
    ⟨.validationError, "blocking_violation_count must equal the number of blocking violations"⟩
  raiseIf (warning ≠ violations.length - actualBlocking)
    ⟨.validationError, "warning_violation_count must equal the number of nonblocking violations"⟩
  raiseIf (decision = .allowed ∧ violations.length ≠ 0)
    ⟨.validationError, "allowed decision must not include violations"⟩
  raiseIf (decision = .warned ∧ (violations.length = 0 ∨ 0 < blocking))
    ⟨.validationError, "warned decision requires only nonblocking violations"⟩
  raiseIf (decision = .blocked ∧ blocking = 0)
    ⟨.validationError, "blocked decision requires a blocking violation"⟩

structure ApplicationGuardrailRecord where
  guardrailEvaluationId : String
  requestId : String
  workspaceId : String
  decision : ApplicationGuardrailDecision
  violations : List ApplicationGuardrailViolationRecord
  totalViolationCount : ℕ
  blockingViolationCount : ℕ
  warningViolationCount : ℕ
  evaluatedAt : Datetime
  valid : validateGuardrailCounts decision violations totalViolationCount blockingViolationCount
    warningViolationCount = .ok ()

variable (casefold : Casefold)

abbrev InMemoryApplicationEvaluationRepository :=
  KeyedStore String ApplicationEvaluationRecord fun record => normalizeId casefold record.evaluationId

abbrev InMemoryApplicationGuardrailRepository :=
  KeyedStore String ApplicationGuardrailRecord fun record =>
    normalizeId casefold record.guardrailEvaluationId

/-! ## Queries -/

structure ApplicationReliabilityQuery where
  requestId : Option String
  workspaceId : Option String
  valid : requireOptionalTexts [("request_id", requestId), ("workspace_id", workspaceId)] = .ok ()

def snapshotPageSize : ℕ := 200

namespace ApplicationReliabilityQuery

variable (query : ApplicationReliabilityQuery)

/-- Whether the repositories' `_filter_records` keeps a record with these identifiers. A repository's
`count` is the number of the records that it keeps. -/
def keepsIds (requestId workspaceId : String) : Bool :=
  ApplicationJobQuery.matchesOptionalId casefold (some requestId) query.requestId &&
    ApplicationJobQuery.matchesOptionalId casefold (some workspaceId) query.workspaceId

/-- `_sort_records` by a time and the identifier, with `reverse=True`. -/
def newestFirst {ρ : Type} (time : ρ → Datetime) (id : ρ → String) (a b : ρ) : Bool :=
  decide ((time b).instant < (time a).instant ∨
    ((time b).instant = (time a).instant ∧
      normalizeId casefold (id b) ≤ normalizeId casefold (id a)))

variable {casefold}

def matchingExecutions (repository : InMemoryApplicationExecutionRepository casefold) :
    List ApplicationExecutionRecord :=
  repository.records.filter fun record =>
    query.keepsIds casefold record.requestId record.workspaceId

def listExecutions (repository : InMemoryApplicationExecutionRepository casefold) :
    List ApplicationExecutionRecord :=
  ((query.matchingExecutions repository).mergeSort
    (newestFirst casefold (·.createdAt) (·.executionId))).take snapshotPageSize

def matchingEvaluations (repository : InMemoryApplicationEvaluationRepository casefold) :
    List ApplicationEvaluationRecord :=
  repository.records.filter fun record =>
    query.keepsIds casefold record.requestId record.workspaceId

def listEvaluations (repository : InMemoryApplicationEvaluationRepository casefold) :
    List ApplicationEvaluationRecord :=
  ((query.matchingEvaluations repository).mergeSort
    (newestFirst casefold (·.finishedAt) (·.evaluationId))).take snapshotPageSize

def matchingGuardrails (repository : InMemoryApplicationGuardrailRepository casefold) :
    List ApplicationGuardrailRecord :=
  repository.records.filter fun record =>
    query.keepsIds casefold record.requestId record.workspaceId

def listGuardrails (repository : InMemoryApplicationGuardrailRepository casefold) :
    List ApplicationGuardrailRecord :=
  ((query.matchingGuardrails repository).mergeSort
    (newestFirst casefold (·.evaluatedAt) (·.guardrailEvaluationId))).take snapshotPageSize

def jobQuery : ApplicationJobQuery :=
  { requestId := query.requestId
    workspaceId := query.workspaceId
    pageSize := snapshotPageSize }

def matchingJobs (repository : InMemoryApplicationJobRepository casefold) :
    List ApplicationJobRecord :=
  repository.records.filter (query.jobQuery.keeps casefold)

end ApplicationReliabilityQuery

/-! ## Metrics -/

structure ApplicationExecutionReliabilityMetrics where
  total : ℕ
  pending : ℕ
  queued : ℕ
  running : ℕ
  succeeded : ℕ
  failed : ℕ
  cancellationRequested : ℕ
  cancelled : ℕ
  timedOut : ℕ
  retryAttempts : ℕ
  successRate : ℚ
  failureRate : ℚ
  cancellationRate : ℚ
  timeoutRate : ℚ
  retryRate : ℚ

structure ApplicationEvaluationReliabilityMetrics where
  total : ℕ
  passed : ℕ
  failed : ℕ
  error : ℕ
  skipped : ℕ
  blockingResults : ℕ
  passRate : ℚ
  errorRate : ℚ
  blockingRate : ℚ
  averageScore : Option ℚ

structure ApplicationGuardrailReliabilityMetrics where
  total : ℕ
  allowed : ℕ
  warned : ℕ
  blocked : ℕ
  totalViolations : ℕ
  blockingViolations : ℕ
  warningViolations : ℕ
  allowRate : ℚ
  warningRate : ℚ
  blockingRate : ℚ

structure ApplicationJobReliabilityMetrics where
  total : ℕ
  pending : ℕ
  scheduled : ℕ
  queued : ℕ
  leased : ℕ
  running : ℕ
  succeeded : ℕ
  failed : ℕ
  retryScheduled : ℕ
  cancellationRequested : ℕ
  cancelled : ℕ
  deadLettered : ℕ
  retryAttempts : ℕ
  completionRate : ℚ
  successRate : ℚ
  failureRate : ℚ
  deadLetterRate : ℚ
  retryRate : ℚ

structure ApplicationReliabilitySnapshot where
  snapshotId : String
  generatedAt : Datetime
  requestId : Option String
  workspaceId : Option String
  executions : ApplicationExecutionReliabilityMetrics
  evaluations : ApplicationEvaluationReliabilityMetrics
  guardrails : ApplicationGuardrailReliabilityMetrics
  jobs : ApplicationJobReliabilityMetrics

structure ReliabilityRepositories where
  executions : InMemoryApplicationExecutionRepository casefold
  evaluations : InMemoryApplicationEvaluationRepository casefold
  guardrails : InMemoryApplicationGuardrailRepository casefold
  jobs : InMemoryApplicationJobRepository casefold

namespace ApplicationReliabilityQueryService

def rate (numerator denominator : ℕ) : ℚ :=
  if denominator = 0 then 0 else numerator / denominator

/-- `Counter(...)[value]` -/
def counts {ρ σ : Type} [DecidableEq σ] (status : ρ → σ) (records : List ρ) (value : σ) : ℕ :=
  records.countP fun record => status record = value

/-- `_execution_metrics`, of the records on the page. -/
def executionMetrics (records : List ApplicationExecutionRecord) :
    ApplicationExecutionReliabilityMetrics :=
  let count := counts (·.status) records
  let total := records.length
  let retryAttempts := records.countP fun record => 1 < record.attemptNumber.val
  { total := total
    pending := count .pending
    queued := count .queued
    running := count .running
    succeeded := count .succeeded
    failed := count .failed
    cancellationRequested := count .cancellationRequested
    cancelled := count .cancelled
    timedOut := count .timedOut
    retryAttempts := retryAttempts
    successRate := rate (count .succeeded) total
    failureRate := rate (count .failed) total
    cancellationRate := rate (count .cancelled) total
    timeoutRate := rate (count .timedOut) total
    retryRate := rate retryAttempts total }

def evaluationMetrics (records : List ApplicationEvaluationRecord) :
    ApplicationEvaluationReliabilityMetrics :=
  let count := counts (·.status) records
  let total := records.length
  let blockingResults := records.countP fun record => !record.blockingViolations.isEmpty
  let scores := records.filterMap (·.overallScore)
  { total := total
    passed := count .passed
    failed := count .failed
    error := count .error
    skipped := count .skipped
    blockingResults := blockingResults
    passRate := rate (count .passed) total
    errorRate := rate (count .error) total
    blockingRate := rate blockingResults total
    averageScore := if scores = [] then none else some (scores.sum / scores.length) }

def guardrailMetrics (records : List ApplicationGuardrailRecord) :
    ApplicationGuardrailReliabilityMetrics :=
  let count := counts (·.decision) records
  let total := records.length
  { total := total
    allowed := count .allowed
    warned := count .warned
    blocked := count .blocked
    totalViolations := (records.map (·.totalViolationCount)).sum
    blockingViolations := (records.map (·.blockingViolationCount)).sum
    warningViolations := (records.map (·.warningViolationCount)).sum
    allowRate := rate (count .allowed) total
    warningRate := rate (count .warned) total
    blockingRate := rate (count .blocked) total }

def jobMetrics (records : List ApplicationJobRecord) : ApplicationJobReliabilityMetrics :=
  let count := counts (·.status) records
  let total := records.length
  let completed := count .succeeded + count .failed + count .cancelled + count .deadLettered
  let retryAttempts := records.countP fun record => 1 < record.attemptNumber.val
  { total := total
    pending := count .pending
    scheduled := count .scheduled
    queued := count .queued
    leased := count .leased
    running := count .running
    succeeded := count .succeeded
    failed := count .failed
    retryScheduled := count .retryScheduled
    cancellationRequested := count .cancellationRequested
    cancelled := count .cancelled
    deadLettered := count .deadLettered
    retryAttempts := retryAttempts
    completionRate := rate completed total
    successRate := rate (count .succeeded) total
    failureRate := rate (count .failed) total
    deadLetterRate := rate (count .deadLettered) total
    retryRate := rate retryAttempts total }

def serviceError : ExceptionClass :=
  .external "ApplicationReliabilityQueryServiceError" .runtimeOrValueError

variable {casefold}

/-- The snapshot of `query`, whose checks and those of its metrics always hold. -/
def snapshotOf (repositories : ReliabilityRepositories casefold)
    (query : ApplicationReliabilityQuery) (snapshotId : String) (now : Datetime) :
    ApplicationReliabilitySnapshot where
  snapshotId := snapshotId
  generatedAt := now
  requestId := query.requestId
  workspaceId := query.workspaceId
  executions := executionMetrics (query.listExecutions repositories.executions)
  evaluations := evaluationMetrics (query.listEvaluations repositories.evaluations)
  guardrails := guardrailMetrics (query.listGuardrails repositories.guardrails)
  jobs := jobMetrics (repositories.jobs.list query.jobQuery).items

/-- `query`, when the factory returns `snapshotId` and the clock `now`. -/
def query (repositories : ReliabilityRepositories casefold) (query : ApplicationReliabilityQuery)
    (snapshotId : String) (now : Datetime) : Except Raised ApplicationReliabilitySnapshot := do
  raiseIf (isBlank snapshotId) ⟨serviceError, "snapshot ID factory returned blank value"⟩
  raiseIf now.isNaive ⟨serviceError, "clock must return timezone-aware datetime"⟩
  return snapshotOf repositories query snapshotId now

end ApplicationReliabilityQueryService

end AgenticLab
