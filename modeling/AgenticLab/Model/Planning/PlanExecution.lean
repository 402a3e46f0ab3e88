import AgenticLab.Model.Planning.PlanLifecycle

/-! # Execution of scheduled steps

`app/schemas/plan_schedule.py`, `app/schemas/tool_execution.py`,
`app/schemas/plan_step_execution.py` and `app/schemas/plan_execution.py` with
`app/planning/plan_scheduler.py`, `app/planning/plan_step_executor.py` and
`app/planning/plan_execution_service.py`. Nothing is traced. -/

namespace AgenticLab

/-! ## Schedules -/

inductive PlanScheduleReason where
  | stepsSelected
  | planNotInProgress
  | activeStepExists
  | noReadySteps
  | planInvalid
  deriving DecidableEq, Repr

structure PlanScheduleRequest where
  allowParallelSteps : Bool
  maximumSelectedSteps : ℕ
  allowNewStepsWhileActive : Bool
  positive : 1 ≤ maximumSelectedSteps
  bounded : maximumSelectedSteps ≤ 100

structure PlanScheduleResult where
  selectedStepIds : List String
  readyStepIds : List String
  activeStepIds : List String
  reason : PlanScheduleReason

def validateUniqueIds (values : List String) (fieldName : String) : Except Raised Unit := do
  raiseIf (values.any isBlank) ⟨.validationError, fieldName ++ " must not contain blanks"⟩
  raiseIf (¬values.Nodup) ⟨.validationError, fieldName ++ " must be unique"⟩

/-- The constructor of `PlanScheduleResult`, with `validate_result`. -/
def newScheduleResult (selectedStepIds readyStepIds activeStepIds : List String)
    (reason : PlanScheduleReason) : Except Raised PlanScheduleResult := do
  validateUniqueIds selectedStepIds "selected step IDs"
  validateUniqueIds readyStepIds "ready step IDs"
  validateUniqueIds activeStepIds "active step IDs"
  raiseIf (¬selectedStepIds ⊆ readyStepIds) ⟨.validationError, "selected step IDs must be ready"⟩
  raiseIf (reason = .stepsSelected ∧ selectedStepIds = [])
    ⟨.validationError, "steps_selected requires selected steps"⟩
  raiseIf (reason ≠ .stepsSelected ∧ selectedStepIds ≠ [])
    ⟨.validationError, "non-selection reason must not contain selected steps"⟩
  return ⟨selectedStepIds, readyStepIds, activeStepIds, reason⟩

namespace PlanScheduler

open PlanValidator (validate)

def stepIdsWith (plan : Plan) (status : PlanStepStatus) : List String :=
  (plan.steps.filter (·.status = status)).map (·.stepId)

def schedule (plan : Plan) (options : PlanScheduleRequest) :
    Except Raised PlanScheduleResult := do
  let readyStepIds := stepIdsWith plan .ready
  let activeStepIds := stepIdsWith plan .inProgress
  if plan.status ≠ .inProgress then
    newScheduleResult [] readyStepIds activeStepIds .planNotInProgress
  else do
    let validation ← validate plan
    if validation.valid = false then
      newScheduleResult [] readyStepIds activeStepIds .planInvalid
    else if activeStepIds ≠ [] ∧ options.allowNewStepsWhileActive = false then
      newScheduleResult [] readyStepIds activeStepIds .activeStepExists
    else if readyStepIds = [] then newScheduleResult [] [] activeStepIds .noReadySteps
    else
      let orderedReadyStepIds := validation.executionOrder.filter (· ∈ readyStepIds)
      let selectionLimit := if options.allowParallelSteps then options.maximumSelectedSteps else 1
      newScheduleResult (orderedReadyStepIds.take selectionLimit) orderedReadyStepIds activeStepIds
        .stepsSelected

end PlanScheduler

/-! ## The execution of one step -/

inductive ToolExecutionStatus where
  | succeeded
  | failed
  deriving DecidableEq, Repr

structure ToolExecutionResult where
  toolName : String
  status : ToolExecutionStatus
  errorMessage : Option String
  /-- `validate_result` -/
  valid : isBlank toolName = false ∧ errorMessage.any isBlank = false ∧
    (status = .succeeded ↔ errorMessage = none)

inductive ToolAnswer where
  | returns (result : ToolExecutionResult)
  /-- A `ToolExecutionError` or one of its subclasses. -/
  | raises (name message : String)

inductive PlanStepExecutionStatus where
  | succeeded
  | failed
  | toolNotFound
  | stepNotExecutable
  deriving DecidableEq, Repr

structure PlanStepExecutionResult where
  stepId : String
  toolName : Option String
  status : PlanStepExecutionStatus
  toolResult : Option ToolExecutionResult
  errorMessage : Option String

def PlanStepExecutionResult.validateResult (result : PlanStepExecutionResult) :
    Except Raised Unit := do
  requireTexts [("step_id", result.stepId)]
  requireOptionalText "tool_name" result.toolName
  requireOptionalText "error_message" result.errorMessage
  raiseIf (result.status = .succeeded ∧ result.toolResult.isNone)
    ⟨.validationError, "successful step execution requires a tool result"⟩
  raiseIf (result.status = .succeeded ∧ result.errorMessage.isSome)
    ⟨.validationError, "successful step execution must not have an error message"⟩
  raiseIf (result.status ≠ .succeeded ∧ result.errorMessage.isNone)
    ⟨.validationError, "unsuccessful step execution requires an error message"⟩
  raiseIf (∃ tool ∈ result.toolResult, result.toolName ≠ some tool.toolName)
    ⟨.validationError, "step tool name must match tool result"⟩

namespace PlanStepExecutor

-- the registry holds the tools by their names
variable (registry : String → Option ToolAnswer) (step : PlanStep)

/-- The result that `execute` makes. -/
def answer : PlanStepExecutionResult :=
  if step.status ∉ PlanValidator.activeStatuses then
    ⟨step.stepId, step.toolName, .stepNotExecutable, none,
      some ("step " ++ step.stepId ++ " is not executable from status " ++ step.status.value)⟩
  else
    match step.toolName with
    | none => ⟨step.stepId, none, .toolNotFound, none, some ("step " ++ step.stepId ++
        " has no tool")⟩
    | some toolName =>
      match registry toolName with
      | none => ⟨step.stepId, some toolName, .toolNotFound, none,
          some ("tool is not registered: " ++ toolName)⟩
      | some (.raises name message) => ⟨step.stepId, some toolName, .failed, none,
          some ("tool execution raised " ++ name ++ ": " ++ message)⟩
      | some (.returns result) =>
        if result.toolName ≠ toolName then
          ⟨step.stepId, some toolName, .failed, none, some "tool returned a mismatched tool name"⟩
        else if result.status = .failed then
          ⟨step.stepId, some toolName, .failed, some result, result.errorMessage⟩
        else ⟨step.stepId, some toolName, .succeeded, some result, none⟩

def execute : Except Raised PlanStepExecutionResult := do
  (answer registry step).validateResult
  return answer registry step

end PlanStepExecutor

/-! ## One cycle -/

inductive PlanExecutionStatus where
  | stepSucceeded
  | stepFailed
  | nothingScheduled
  deriving DecidableEq, Repr

structure PlanExecutionResult where
  plan : Plan
  validation : PlanValidationResult
  schedule : PlanScheduleResult
  stepResults : List PlanStepExecutionResult
  status : PlanExecutionStatus

/-- The constructor of `PlanExecutionResult`, with `validate_result`. -/
def newExecutionResult (plan : Plan) (validation : PlanValidationResult)
    (schedule : PlanScheduleResult) (stepResults : List PlanStepExecutionResult)
    (status : PlanExecutionStatus) : Except Raised PlanExecutionResult := do
  raiseIf (¬(stepResults.map (·.stepId)).Nodup)
    ⟨.validationError, "step execution results must have unique step IDs"⟩
  raiseIf (status = .nothingScheduled ∧ stepResults ≠ [])
    ⟨.validationError, "nothing_scheduled must not contain step results"⟩
  raiseIf (status ≠ .nothingScheduled ∧ stepResults = [])
    ⟨.validationError, "step execution status requires step results"⟩
  return ⟨plan, validation, schedule, stepResults, status⟩

structure StepTurn where
  started : Datetime
  registry : String → Option ToolAnswer
  ended : Datetime

structure ExecutorCall where
  plan : Plan
  step : PlanStep

abbrev PlanProgram := Stateful (List ExecutorCall) Raised

namespace PlanExecutionService

open PlanLifecycleService (startStep completeStep failStep)

-- the turns of the executor, by the number of calls before
variable (turns : ℕ → StepTurn)

def getStep (plan : Plan) (stepId : String) : Except Raised PlanStep :=
  match plan.steps.find? fun step => step.stepId = stepId with
  | some step => .ok step
  | none => .error ⟨.runtimeError, "scheduled step not found: " ++ stepId⟩

def nextTurn : PlanProgram StepTurn := fun calls => (.ok (turns calls.length), calls)

/-- `self._step_executor.execute(step)` -/
def callExecutor (plan : Plan) (step : PlanStep) (turn : StepTurn) :
    PlanProgram PlanStepExecutionResult := fun calls =>
  (PlanStepExecutor.execute turn.registry step, calls ++ [⟨plan, step⟩])

/-- The loop over the selected steps: the plan, the results and whether no step has failed. -/
def executeSteps (plan : Plan) :
    List String → PlanProgram (Plan × List PlanStepExecutionResult × PlanExecutionStatus)
  | [] => return (plan, [], .stepSucceeded)
  | stepId :: rest => do
      let _ ← getStep plan stepId
      let turn ← nextTurn turns
      let started ← startStep plan stepId turn.started
      let step ← getStep started.plan stepId
      let execution ← callExecutor started.plan step turn
      if execution.status = .succeeded then do
        let completed ← completeStep started.plan stepId turn.ended
        let (plan, results, status) ← executeSteps completed.plan rest
        return (plan, execution :: results, status)
      else do
        let failed ← failStep started.plan stepId turn.ended
        return (failed.plan, [execution], .stepFailed)

def executeNext (plan : Plan) (options : PlanScheduleRequest) :
    PlanProgram PlanExecutionResult := do
  let schedule ← PlanScheduler.schedule plan options
  if schedule.selectedStepIds = [] then do
    let validation ← PlanValidator.validate plan
    newExecutionResult plan validation schedule [] .nothingScheduled
  else do
    let (plan, stepResults, status) ← executeSteps turns plan schedule.selectedStepIds
    let validation ← PlanValidator.validate plan
    newExecutionResult plan validation schedule stepResults status

end PlanExecutionService

end AgenticLab
