import AgenticLab.Model.Application.IdempotencyService
import AgenticLab.Model.Application.Transaction

/-! # Idempotent research

`app/application/research_execution.py`, `app/application/research_execution_service.py`,
`app/application/research_application_flow.py` and
`app/application/research_application_flow_service.py`. What the clocks and the id factories
return and what the runner does are arguments of a call. -/

namespace AgenticLab

variable (casefold : Casefold)

/-! ## Requests and results -/

/-- The fields of an `ApplicationResearchExecutionRequest`. -/
structure ResearchExecutionContent where
  requestId : String
  workspaceId : String
  agentId : String
  query : String
  rootExecutionId : Option String
  parentExecutionId : Option String
  previousAttemptExecutionId : Option String
  attemptNumber : PositiveInt
  maximumAttempts : PositiveInt
  context : Fields
  metadata : List (String × String)

namespace ResearchExecutionContent

def validateRequest (request : ResearchExecutionContent) : Except Raised Unit := do
  requireTexts [("request_id", request.requestId), ("workspace_id", request.workspaceId),
    ("agent_id", request.agentId), ("query", request.query)]
  requireOptionalTexts [("root_execution_id", request.rootExecutionId),
    ("parent_execution_id", request.parentExecutionId),
    ("previous_attempt_execution_id", request.previousAttemptExecutionId)]
  raiseIf (request.maximumAttempts < request.attemptNumber)
    ⟨.validationError, "attempt_number must not exceed maximum_attempts"⟩
  raiseIf (request.attemptNumber.val = 1 ∧ request.previousAttemptExecutionId.isSome)
    ⟨.validationError, "first attempt must not include previous_attempt_execution_id"⟩
  raiseIf (1 < request.attemptNumber.val ∧ request.previousAttemptExecutionId.isNone)
    ⟨.validationError, "retry attempt requires previous_attempt_execution_id"⟩
  validateMetadata request.metadata

end ResearchExecutionContent

abbrev ApplicationResearchExecutionRequest :=
  {request : ResearchExecutionContent // request.validateRequest = .ok ()}

def validateResearchOutput (summary : String) (artifactIds citationIds : List String) :
    Except Raised Unit := do
  raiseIf (isBlank summary) ⟨.validationError, "summary must not be blank"⟩
  validateUniqueText casefold "artifact_ids" artifactIds
  validateUniqueText casefold "citation_ids" citationIds

structure ApplicationResearchExecutionOutput where
  summary : String
  result : Fields
  artifactIds : List String
  citationIds : List String
  valid : validateResearchOutput casefold summary artifactIds citationIds = .ok ()

structure ApplicationResearchExecutionResult where
  execution : ApplicationExecutionRecord
  output : ApplicationResearchExecutionOutput casefold

/-- `validate_result` -/
def newResearchResult {casefold : Casefold} (execution : ApplicationExecutionRecord)
    (output : ApplicationResearchExecutionOutput casefold) :
    Except Raised (ApplicationResearchExecutionResult casefold) := do
  raiseIf (execution.terminal = false)
    ⟨.validationError, "research execution result requires terminal execution"⟩
  return ⟨execution, output⟩

def validateFlowRequest (idempotencyKey : String) (metadata : List (String × String)) :
    Except Raised Unit := do
  raiseIf (isBlank idempotencyKey) ⟨.validationError, "idempotency_key must not be blank"⟩
  validateMetadata metadata

structure ApplicationResearchFlowRequest where
  idempotencyKey : String
  research : ApplicationResearchExecutionRequest
  metadata : List (String × String)
  valid : validateFlowRequest idempotencyKey metadata = .ok ()

structure ApplicationResearchFlowStoredResult where
  executionId : String
  output : ApplicationResearchExecutionOutput casefold
  valid : isBlank executionId = false

structure ApplicationResearchFlowResult where
  idempotencyRecordId : String
  reused : Bool
  researchResult : ApplicationResearchExecutionResult casefold

variable {casefold}

def newStoredResult (executionId : String)
    (output : ApplicationResearchExecutionOutput casefold) :
    Except Raised (ApplicationResearchFlowStoredResult casefold) :=
  if h : isBlank executionId = false then .ok ⟨executionId, output, h⟩
  else .error ⟨.validationError, "execution_id must not be blank"⟩

/-- `validate_result` -/
def newFlowResult (idempotencyRecordId : String) (reused : Bool)
    (researchResult : ApplicationResearchExecutionResult casefold) :
    Except Raised (ApplicationResearchFlowResult casefold) := do
  raiseIf (isBlank idempotencyRecordId)
    ⟨.validationError, "idempotency_record_id must not be blank"⟩
  return ⟨idempotencyRecordId, reused, researchResult⟩

/-! ## JSON -/

def optionalText : Option String → Json.Value
  | none => .atom .null
  | some text => .atom (.str text)

def textList (values : List String) : Json.Value := .arr (values.map fun value => .atom (.str value))

/-- `model_dump(mode="json")` -/
def ResearchExecutionContent.toJson (request : ResearchExecutionContent) : Json.Value :=
  .obj [("request_id", .atom (.str request.requestId)),
    ("workspace_id", .atom (.str request.workspaceId)),
    ("agent_id", .atom (.str request.agentId)),
    ("query", .atom (.str request.query)),
    ("root_execution_id", optionalText request.rootExecutionId),
    ("parent_execution_id", optionalText request.parentExecutionId),
    ("previous_attempt_execution_id", optionalText request.previousAttemptExecutionId),
    ("attempt_number", .atom (.int request.attemptNumber.val)),
    ("maximum_attempts", .atom (.int request.maximumAttempts.val)),
    ("context", .obj request.context),
    ("metadata", .obj (request.metadata.map fun member => (member.1, .atom (.str member.2))))]

def ApplicationResearchExecutionOutput.toJson
    (output : ApplicationResearchExecutionOutput casefold) : Json.Value :=
  .obj [("summary", .atom (.str output.summary)), ("result", .obj output.result),
    ("artifact_ids", textList output.artifactIds), ("citation_ids", textList output.citationIds)]

def ApplicationResearchFlowStoredResult.toJson
    (stored : ApplicationResearchFlowStoredResult casefold) : Json.Value :=
  .obj [("execution_id", .atom (.str stored.executionId)), ("output", stored.output.toJson)]

/-- A `dict[str, JsonValue]` field with an empty default. -/
def fieldsOrEmpty? (fields : Fields) (name : String) : Option Fields :=
  match fields.lookup name with
  | none => some []
  | some (.obj members) => some members
  | some _ => none

/-- A `list[str]` field with an empty default. -/
def textsOrEmpty? (fields : Fields) (name : String) : Option (List String) :=
  match fields.lookup name with
  | none => some []
  | some (.arr items) => items.mapM jsonStr?
  | some _ => none

def fieldsWithin? (names : List String) : Json.Value → Option Fields
  | .obj members => if (members.map Prod.fst).all names.contains then some members else none
  | _ => none

variable (casefold) in
def researchOutputFromJson? (value : Json.Value) :
    Option (ApplicationResearchExecutionOutput casefold) := do
  let fields ← fieldsWithin? ["summary", "result", "artifact_ids", "citation_ids"] value
  let summary ← fields.str? "summary"
  let result ← fieldsOrEmpty? fields "result"
  let artifactIds ← textsOrEmpty? fields "artifact_ids"
  let citationIds ← textsOrEmpty? fields "citation_ids"
  if h : validateResearchOutput casefold summary artifactIds citationIds = .ok () then
    some ⟨summary, result, artifactIds, citationIds, h⟩
  else none

variable (casefold) in
/-- `ApplicationResearchFlowStoredResult.model_validate` -/
def storedResultFromJson? (value : Json.Value) :
    Option (ApplicationResearchFlowStoredResult casefold) := do
  let fields ← fieldsWithin? ["execution_id", "output"] value
  let executionId ← fields.str? "execution_id"
  let output ← (fields.lookup "output").bind (researchOutputFromJson? casefold)
  if h : isBlank executionId = false then some ⟨executionId, output, h⟩ else none

/-! ## A call -/

structure RunnerError where
  name : String
  message : String
  kind : ExternalKind
  named : isBlank name = false

variable (casefold) in
inductive RunnerOutcome where
  | returns (output : ApplicationResearchExecutionOutput casefold)
  | raises (error : RunnerError)

variable (casefold) in
structure FlowCall where
  request : ApplicationResearchFlowRequest
  recordId : String
  executionId : String
  begun : Datetime
  created : Datetime
  started : Datetime
  finished : Datetime
  completed : Datetime
  outcome : RunnerOutcome casefold

inductive FlowResource where
  | executions
  | idempotency
  | runner
  deriving DecidableEq

variable (casefold) in
def FlowState : FlowResource → Type
  | .executions => InMemoryApplicationExecutionRepository casefold
  | .idempotency => InMemoryApplicationIdempotencyRepository casefold
  | .runner => List (RunnerOutcome casefold)

variable (casefold) in
abbrev FlowStates := ∀ resource, FlowState casefold resource

namespace FlowStates

def executions (states : FlowStates casefold) : InMemoryApplicationExecutionRepository casefold :=
  states .executions

def idempotency (states : FlowStates casefold) :
    InMemoryApplicationIdempotencyRepository casefold := states .idempotency

def invocations (states : FlowStates casefold) : List (RunnerOutcome casefold) := states .runner

end FlowStates

variable (casefold) in
abbrev FlowProgram := Stateful (FlowStates casefold) Raised

namespace FlowProgram

def onExecutions {α : Type} (f : InMemoryApplicationExecutionRepository casefold →
    Except Raised α × InMemoryApplicationExecutionRepository casefold) :
    FlowProgram casefold α := fun states =>
  let answer := f (FlowStates.executions states)
  (answer.1, Function.update states .executions answer.2)

def onIdempotency {α : Type} (program : IdempotencyProgram α) : FlowProgram casefold α :=
  fun states =>
    let answer := program.run IdempotencyOperation.handle (FlowStates.idempotency states)
    (answer.1, Function.update states .idempotency answer.2)

/-- `self._runner.execute(request)` -/
def runner (outcome : RunnerOutcome casefold) : FlowProgram casefold (RunnerOutcome casefold) :=
  fun states =>
    (.ok outcome, Function.update states .runner (FlowStates.invocations states ++ [outcome]))

end FlowProgram

open FlowProgram

/-! ## The research execution service -/

namespace ApplicationResearchExecutionService

/-- `_now`, when the clock returns `value`. -/
def now (value : Datetime) : Except Raised Datetime := do
  raiseIf value.isNaive
    ⟨.applicationResearchExecutionServiceError, "clock must return timezone-aware datetime"⟩
  return value

/-- `_new_execution_id`, when the factory returns `value`. -/
def newExecutionId (value : String) : Except Raised String := do
  raiseIf (isBlank value)
    ⟨.applicationResearchExecutionServiceError, "execution ID factory returned blank value"⟩
  return value

def pendingExecution (request : ResearchExecutionContent) (executionId : String)
    (createdAt : Datetime) : ApplicationExecutionRecord where
  executionId := executionId
  rootExecutionId := request.rootExecutionId.getD executionId
  parentExecutionId := request.parentExecutionId
  requestId := request.requestId
  workspaceId := request.workspaceId
  subjectType := .agent
  subjectId := request.agentId
  status := .pending
  attemptNumber := request.attemptNumber
  maximumAttempts := request.maximumAttempts
  previousAttemptExecutionId := request.previousAttemptExecutionId
  inputs := []
  outputs := []
  guardrailEvaluationIds := []
  retryDecisionIds := []
  recoveryDecisionId := none
  failure := none
  cancellation := none
  createdAt := createdAt
  queuedAt := none
  startedAt := none
  finishedAt := none
  deadlineAt := none
  recordVersion := ⟨1, Nat.one_pos⟩
  metadata := []

def runningExecution (stored : ApplicationExecutionRecord) (startedAt : Datetime) :
    ApplicationExecutionRecord :=
  { stored with
    status := .running
    startedAt := some startedAt
    recordVersion := stored.nextVersion }

def succeededExecution (running : ApplicationExecutionRecord) (finishedAt : Datetime) :
    ApplicationExecutionRecord :=
  { running with
    status := .succeeded
    finishedAt := some finishedAt
    recordVersion := running.nextVersion }

def failedExecution (running : ApplicationExecutionRecord) (finishedAt : Datetime)
    (failure : ApplicationExecutionFailure) : ApplicationExecutionRecord :=
  { running with
    status := .failed
    finishedAt := some finishedAt
    failure := some failure
    recordVersion := running.nextVersion }

def create (record : ApplicationExecutionRecord) : FlowProgram casefold ApplicationExecutionRecord :=
  onExecutions fun repository => InMemoryApplicationExecutionRepository.create repository record

def update (record : ApplicationExecutionRecord) (expectedVersion : ℕ) :
    FlowProgram casefold ApplicationExecutionRecord :=
  onExecutions fun repository =>
    InMemoryApplicationExecutionRepository.update repository record expectedVersion

open ApplicationExecutionTransitionPolicy

def markRunning (stored : ApplicationExecutionRecord) (clock : Datetime) :
    FlowProgram casefold ApplicationExecutionRecord := do
  requireTransition stored.status .running
  let startedAt ← now clock
  update (runningExecution stored startedAt) stored.recordVersion.val

def markSucceeded (running : ApplicationExecutionRecord) (clock : Datetime) :
    FlowProgram casefold ApplicationExecutionRecord := do
  requireTransition running.status .succeeded
  let finishedAt ← now clock
  update (succeededExecution running finishedAt) running.recordVersion.val

/-- `str(error) or "Research execution failed."` -/
def failureMessage (message : String) : String :=
  if message = "" then "Research execution failed." else message

def markFailed (running : ApplicationExecutionRecord) (error : RunnerError) (clock : Datetime) :
    FlowProgram casefold ApplicationExecutionRecord := do
  requireTransition running.status .failed
  let failure ← newExecutionFailure .internal error.name (failureMessage error.message) false
  let finishedAt ← now clock
  update (failedExecution running finishedAt failure) running.recordVersion.val

/-- `ApplicationResearchExecutionFailedError` -/
structure ExecutionFailed where
  executionId : String
  failureMessage : String

def ExecutionFailed.raised (error : ExecutionFailed) : Raised :=
  ⟨.applicationResearchExecutionFailedError,
    "research execution failed: " ++ error.executionId ++ ": " ++ error.failureMessage⟩

def execute (request : ApplicationResearchExecutionRequest) (call : FlowCall casefold) :
    FlowProgram casefold
      (Except ExecutionFailed (ApplicationResearchExecutionResult casefold)) := do
  let executionId ← newExecutionId call.executionId
  let createdAt ← now call.created
  let pending ← (pendingExecution request.val executionId createdAt).modelValidate casefold
  let stored ← create pending
  let running ← markRunning stored call.started
  match ← runner call.outcome with
  | .raises error =>
    if error.kind = .runtimeOrValueError then do
      let failed ← markFailed running error call.finished
      return .error ⟨failed.executionId, error.message⟩
    else Stateful.raise ⟨.external error.name error.kind, error.message⟩
  | .returns output => do
      let succeeded ← markSucceeded running call.finished
      let result ← newResearchResult succeeded output
      return .ok result

end ApplicationResearchExecutionService

namespace ApplicationResearchFlowService

open ApplicationResearchExecutionService (ExecutionFailed)

variable (sha256 : Sha256)

def operation : String := "research.execute"

def restoreReusedResult (idempotencyRecordId : String) (reusedResult : Json.Value) :
    FlowProgram casefold (ApplicationResearchFlowResult casefold) := do
  match storedResultFromJson? casefold reusedResult with
  | none => Stateful.raise ⟨.applicationResearchFlowStateError,
      "stored idempotency result is invalid"⟩
  | some stored => do
      let execution ← onExecutions fun repository =>
        (.ok (InMemoryApplicationExecutionRepository.getById repository stored.executionId),
          repository)
      match execution with
      | none => Stateful.raise ⟨.applicationResearchFlowStateError,
          "stored idempotency execution was not found"⟩
      | some execution => do
          let result ← newResearchResult execution stored.output
          newFlowResult idempotencyRecordId true result

/-- The constructor of `ApplicationIdempotencyStartRequest`. -/
def newStartRequest (request : ApplicationResearchFlowRequest) :
    Except Raised ApplicationIdempotencyStartRequest :=
  match h : requireTexts [("workspace_id", request.research.val.workspaceId),
      ("operation", operation), ("idempotency_key", request.idempotencyKey)] with
  | .ok () => .ok ⟨request.research.val.workspaceId, operation, request.idempotencyKey,
      request.research.val.toJson, request.metadata, h⟩
  | .error failure => .error failure

def body (call : FlowCall casefold) :
    FlowProgram casefold (Except ExecutionFailed (ApplicationResearchFlowResult casefold)) := do
  let start ← newStartRequest call.request
  let started ← onIdempotency
    (ApplicationIdempotencyService.begin sha256 start true call.begun call.recordId)
  let recordId := started.record.val.idempotencyRecordId
  if started.executeOperation = false then do
    let result ← restoreReusedResult recordId started.reusedResult
    return .ok result
  else do
    match ← ApplicationResearchExecutionService.execute call.request.research call with
    | .error error => do
        let _ ← onIdempotency (ApplicationIdempotencyService.fail recordId
          "ApplicationResearchExecutionFailedError" error.failureMessage false call.completed)
        return .error error
    | .ok researchResult => do
        let stored ← newStoredResult researchResult.execution.executionId researchResult.output
        let _ ← onIdempotency (ApplicationIdempotencyService.succeed recordId stored.toJson
          call.completed)
        let result ← newFlowResult recordId false researchResult
        return .ok result

variable (casefold) in
def transactionManager : InMemoryApplicationTransactionManager FlowResource (FlowState casefold)
    where
  resource resource := repositoryResource (FlowState casefold resource)
  resources := [.executions, .idempotency]
  nonempty := by decide
  unique := by decide

def execute (call : FlowCall casefold) (s : TransactionState (FlowState casefold)) :
    Except Raised (ApplicationResearchFlowResult casefold) ×
      TransactionState (FlowState casefold) :=
  match (transactionManager casefold).transaction (body sha256 call) s with
  | (.ok (.ok result), t) => (.ok result, t)
  | (.ok (.error error), t) => (.error error.raised, t)
  | (.error failure, t) => (.error failure, t)

end ApplicationResearchFlowService

end AgenticLab
