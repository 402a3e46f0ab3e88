import AgenticLab.Model.Planning.PlanExecution

/-! # Creation and runs of plans

`app/schemas/plan_request.py`, `app/schemas/created_plan.py` and `app/schemas/plan_run.py` with
`app/planning/plan_factory.py` and `app/planning/plan_runner.py`. -/

namespace AgenticLab

/-! ## Runs -/

inductive PlanRunStatus where
  | completed
  | failed
  | cancelled
  | blocked
  | cycleLimitReached
  deriving DecidableEq, Repr

structure PlanRunRequest where
  maximumCycles : ℕ
  scheduleRequest : PlanScheduleRequest
  stopOnNoProgress : Bool
  positive : 1 ≤ maximumCycles
  bounded : maximumCycles ≤ 10000

structure PlanRunResult where
  plan : Plan
  validation : PlanValidationResult
  cycles : List PlanExecutionResult
  status : PlanRunStatus
  message : String
  executedStepIds : List String

def addKey (keys : List String) (key : String) : List String :=
  if key ∈ keys then keys else keys ++ [key]

/-- `list(dict.fromkeys(keys))` -/
def fromKeys (keys : List String) : List String := keys.foldl addKey []

def PlanExecutionResult.stepIds (cycle : PlanExecutionResult) : List String :=
  cycle.stepResults.map (·.stepId)

/-- The constructor of `PlanRunResult`, with `validate_result`. -/
def newRunResult (plan : Plan) (validation : PlanValidationResult)
    (cycles : List PlanExecutionResult) (status : PlanRunStatus) (message : String)
    (executedStepIds : List String) : Except Raised PlanRunResult := do
  raiseIf (isBlank message) ⟨.validationError, "plan run message must not be blank"⟩
  raiseIf (¬executedStepIds.Nodup) ⟨.validationError, "executed step IDs must be unique"⟩
  raiseIf (¬executedStepIds ⊆ plan.stepIds)
    ⟨.validationError, "executed step IDs must reference plan steps"⟩
  raiseIf (executedStepIds ≠ fromKeys (cycles.flatMap (·.stepIds)))
    ⟨.validationError, "executed step IDs must match cycle results"⟩
  return ⟨plan, validation, cycles, status, message, executedStepIds⟩

namespace PlanRunner

open PlanExecutionService (executeNext)

def result (plan : Plan) (cycles : List PlanExecutionResult) (executedStepIds : List String)
    (status : PlanRunStatus) (message : String) : Except Raised PlanRunResult := do
  let validation ← PlanValidator.validate plan
  newRunResult plan validation cycles status message executedStepIds

/-- `_TERMINAL_STATUS_MAP` with `messages` -/
def terminalStatus : PlanStatus → Option (PlanRunStatus × String)
  | .completed => some (.completed, "Plan execution completed successfully.")
  | .failed => some (.failed, "Plan execution stopped after a failure.")
  | .cancelled => some (.cancelled, "Plan execution was cancelled.")
  | .draft | .ready | .inProgress => none

def planSignature (plan : Plan) : String × List (String × String) :=
  (plan.status.value, plan.steps.map fun step => (step.stepId, step.status.value))

variable (turns : ℕ → StepTurn) (options : PlanRunRequest)

def runCycles : ℕ → Plan → List PlanExecutionResult → List String → PlanProgram PlanRunResult
  | 0, plan, cycles, executedStepIds => result plan cycles executedStepIds .cycleLimitReached
      "Plan execution reached the maximum number of cycles."
  | remaining + 1, plan, cycles, executedStepIds => do
      let cycle ← executeNext turns plan options.scheduleRequest
      let cycles := cycles ++ [cycle]
      let executedStepIds := cycle.stepIds.foldl addKey executedStepIds
      match terminalStatus cycle.plan.status with
      | some (status, message) => result cycle.plan cycles executedStepIds status message
      | none =>
        if cycle.status = .nothingScheduled then
          result cycle.plan cycles executedStepIds .blocked "No executable plan step was scheduled."
        else if options.stopOnNoProgress ∧ planSignature cycle.plan = planSignature plan then
          result cycle.plan cycles executedStepIds .blocked
            "Plan execution made no observable progress."
        else runCycles remaining cycle.plan cycles executedStepIds

def run (plan : Plan) : PlanProgram PlanRunResult :=
  match terminalStatus plan.status with
  | some (status, message) => result plan [] [] status message
  | none => runCycles turns options options.maximumCycles plan [] []

end PlanRunner

/-! ## Creation -/

def validateUniqueTextValues (casefold : Casefold) (values : List String) (fieldName : String) :
    Except Raised Unit := do
  raiseIf (values.any isBlank) ⟨.validationError, fieldName ++ " must not contain blank values"⟩
  raiseIf (¬(values.map (normalizeId casefold)).Nodup)
    ⟨.validationError, fieldName ++ " must be unique"⟩

/-- `metadata` is left out. -/
structure PlanCreationRequest (casefold : Casefold) where
  goal : String
  constraints : List String
  availableTools : List String
  maximumSteps : ℕ
  requireToolForEachStep : Bool
  allowParallelSteps : Bool
  positive : 1 ≤ maximumSteps
  bounded : maximumSteps ≤ 100
  goal_not_blank : isBlank goal = false
  constraints_valid : validateUniqueTextValues casefold constraints "constraints" = .ok ()
  availableTools_valid :
    validateUniqueTextValues casefold availableTools "available_tools" = .ok ()

structure CreatedPlan where
  plan : Plan
  validation : PlanValidationResult

/-- The constructor of `CreatedPlan`, with `validate_created_plan`. -/
def newCreatedPlan (plan : Plan) (validation : PlanValidationResult) :
    Except Raised CreatedPlan := do
  raiseIf (validation.valid ∧ ¬(validation.executionOrder ⊆ plan.stepIds ∧
      plan.stepIds ⊆ validation.executionOrder))
    ⟨.validationError, "valid plan execution order must contain all plan steps"⟩
  raiseIf (validation.valid = false ∧ ¬validation.executionOrder ⊆ plan.stepIds)
    ⟨.validationError, "execution order contains unknown plan steps"⟩
  return ⟨plan, validation⟩

namespace PlanFactory

variable {casefold : Casefold}

/-- `_validated_now`, when the clock returns `value`. -/
def validatedNow (value : Datetime) : Except Raised Datetime := do
  raiseIf value.isNaive ⟨.planFactoryError, "clock must return a timezone-aware datetime"⟩
  raiseIf (value.usesUtc = false) ⟨.planFactoryError, "clock must return UTC"⟩
  return value

def validateDrafts (request : PlanCreationRequest casefold) (stepIds : List String) :
    List PlanStepDraft → Except Raised Unit
  | [] => .ok ()
  | draft :: rest => do
      let unknown := draft.dependencies.filter (· ∉ stepIds)
      raiseIf (unknown ≠ []) ⟨.planFactoryError, "step dependencies reference unknown steps: " ++
        ", ".intercalate (unknown.insertionSort (· ≤ ·))⟩
      raiseIf (request.requireToolForEachStep ∧ draft.toolName = none)
        ⟨.planFactoryError, "step " ++ draft.stepId ++ " requires a tool"⟩
      raiseIf (∃ toolName ∈ draft.toolName, toolName ∉ request.availableTools)
        ⟨.planFactoryError, "step " ++ draft.stepId ++ " uses unavailable tool: " ++
          draft.toolName.getD ""⟩
      validateDrafts request stepIds rest

def materializeSteps (drafts : List PlanStepDraft) : List PlanStep :=
  drafts.map fun draft => ⟨draft, if draft.dependencies = [] then .ready else .pending⟩

/-- The clock returns `clock` and the id generator `planId`. -/
def create (request : PlanCreationRequest casefold) (drafts : List PlanStepDraft)
    (clock : Datetime) (planId : String) : Except Raised CreatedPlan := do
  raiseIf (drafts = []) ⟨.planFactoryError, "a plan requires at least one step"⟩
  raiseIf (request.maximumSteps < drafts.length) ⟨.planFactoryError, "plan exceeds maximum_steps"⟩
  let stepIds := drafts.map (·.stepId)
  raiseIf (¬stepIds.Nodup) ⟨.planFactoryError, "plan step IDs must be unique"⟩
  validateDrafts request stepIds drafts
  let now ← validatedNow clock
  raiseIf (isBlank planId) ⟨.planFactoryError, "plan ID generator returned a blank ID"⟩
  let plan ← newPlan planId request.goal .draft (materializeSteps drafts) now now
  let validation ← PlanValidator.validate plan
  newCreatedPlan plan validation

end PlanFactory

end AgenticLab
