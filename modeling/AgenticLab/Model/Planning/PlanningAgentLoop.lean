import AgenticLab.Model.Planning.PlanRunner

/-! # The planning loop

`app/planning/planner_output_validator.py`, `planning_service.py`, `replanning_service.py`,
`plan_evaluator.py`, `replan_context_service.py`, `planning_agent_pipeline.py` and
`planning_agent_loop.py`. Prompts, traces and the texts of evaluations are left out. -/

namespace AgenticLab

/-! ## Planner output -/

def PlanStepDraft.link (draft : PlanStepDraft) : String × List String :=
  (draft.stepId, draft.dependencies)

/-- `PlanDraftOutput`, without its texts. -/
structure PlanDraftOutput where
  steps : List PlanStepDraft
  nonempty : steps ≠ []
  ids_nodup : (steps.map (·.stepId)).Nodup
  known : ∀ step ∈ steps, step.dependencies ⊆ steps.map (·.stepId)

def PlanDraftOutput.links (output : PlanDraftOutput) : PlanLinks :=
  output.steps.map PlanStepDraft.link

inductive PlannerOutputValidationCode where
  | tooManySteps
  | toolRequired
  | toolNotAvailable
  | circularDependency
  | parallelStepsNotAllowed
  deriving DecidableEq

def PlannerOutputValidationCode.value : PlannerOutputValidationCode → String
  | .tooManySteps => "too_many_steps"
  | .toolRequired => "tool_required"
  | .toolNotAvailable => "tool_not_available"
  | .circularDependency => "circular_dependency"
  | .parallelStepsNotAllowed => "parallel_steps_not_allowed"

variable {casefold : Casefold}

namespace PlannerOutputValidator

def readySteps (links : PlanLinks) (completed : List String) : List String :=
  (links.filter fun link => link.1 ∉ completed ∧ link.2 ⊆ completed).map Prod.fst

/-- The loop of `_has_parallel_steps`, for the steps that are not completed. -/
def hasParallelFrom (links : PlanLinks) : ℕ → List String → Bool
  | 0, _ => false
  | remaining + 1, completed =>
    match readySteps links completed with
    | [] => false
    | [stepId] => hasParallelFrom links remaining (completed ++ [stepId])
    | _ :: _ :: _ => true

def hasParallelSteps (links : PlanLinks) : Bool := hasParallelFrom links links.length []

def codeIf (condition : Prop) [Decidable condition] (code : PlannerOutputValidationCode) :
    List PlannerOutputValidationCode :=
  if condition then [code] else []

/-- The codes of the issues that `validate` finds; the output is valid if there are none. -/
def issueCodes (request : PlanCreationRequest casefold) (output : PlanDraftOutput) :
    List PlannerOutputValidationCode :=
  codeIf (request.maximumSteps < output.steps.length) .tooManySteps ++
    output.steps.flatMap (fun step =>
      codeIf (request.requireToolForEachStep = true ∧ step.toolName = none) .toolRequired ++
        codeIf (∃ toolName ∈ step.toolName, toolName ∉ request.availableTools) .toolNotAvailable) ++
    codeIf (PlanValidator.topologicalOrder output.links = none) .circularDependency ++
    codeIf (request.allowParallelSteps = false ∧ hasParallelSteps output.links = true)
      .parallelStepsNotAllowed

end PlannerOutputValidator

/-! ## Creation of plans -/

/-- The entries of a plan's metadata that are read again. -/
structure PlanMetadata where
  constraints : List String
  availableTools : List String
  allowParallelSteps : Bool
  deriving DecidableEq

structure RecordedPlan where
  output : PlanDraftOutput
  plan : Plan
  metadata : PlanMetadata

/-- What an attempt meets: whether the prompt can be composed, which fails for an output of a tool
that `json` cannot encode, the planner's answer to the request it is handed, the clock and the id
that the factory is given, the clock of the start, and the turns of the run. -/
structure PlanningTurn (casefold : Casefold) where
  composed : Except Raised Unit
  planner : PlanCreationRequest casefold → Except Raised PlanDraftOutput
  created : Datetime
  planId : String
  started : Datetime
  steps : ℕ → StepTurn

def plannerClientError : ExceptionClass := .external "PlannerClientError" .runtimeOrValueError

/-- `except cls as exc: raise raised from exc` -/
def replaceRaised {α : Type} (cls : ExceptionClass) (raised : Raised) :
    Except Raised α → Except Raised α
  | .error failure => .error (if failure.cls = cls then raised else failure)
  | .ok value => .ok value

/-- What distinguishes `PlanningService` from `ReplanningService`: the errors they raise. -/
structure PlanningErrors where
  cls : ExceptionClass
  clientFailed : String
  policyFailed : String
  notMaterialized : String
  planInvalid : String

def planningErrors : PlanningErrors where
  cls := .external "PlanningServiceError" .runtimeOrValueError
  clientFailed := "planner client failed to create output"
  policyFailed := "planner output failed policy validation: "
  notMaterialized := "validated planner output could not be materialized"
  planInvalid := "materialized plan failed validation: "

def replanningErrors : PlanningErrors where
  cls := .external "ReplanningServiceError" .runtimeOrValueError
  clientFailed := "planner client failed during replanning"
  policyFailed := "replanner output failed policy validation: "
  notMaterialized := "replanner output could not be materialized"
  planInvalid := "replacement plan failed validation"

/-- `create_plan` of both services. The text for an invalid plan leaves the codes out. -/
def createPlan (errors : PlanningErrors) (turn : PlanningTurn casefold)
    (request : PlanCreationRequest casefold) : Except Raised RecordedPlan := do
  turn.composed
  let output ← replaceRaised plannerClientError ⟨errors.cls, errors.clientFailed⟩
    (turn.planner request)
  let codes := PlannerOutputValidator.issueCodes request output
  raiseIf (codes ≠ []) ⟨errors.cls, errors.policyFailed ++ ", ".intercalate (codes.map (·.value))⟩
  let created ← replaceRaised .planFactoryError ⟨errors.cls, errors.notMaterialized⟩
    (PlanFactory.create request output.steps turn.created turn.planId)
  raiseIf (created.validation.valid = false) ⟨errors.cls, errors.planInvalid⟩
  return ⟨output, created.plan,
    ⟨request.constraints, request.availableTools, request.allowParallelSteps⟩⟩

inductive PlanEvaluationDecision where
  | goalAchieved
  | keepGoing
  | replanRequired
  | humanReviewRequired
  | terminalFailure
  | cancelled
  deriving DecidableEq

namespace PlanEvaluator

def failedStepIds (run : PlanRunResult) : List String :=
  let failed := (run.cycles.flatMap (·.stepResults)).filter (·.status = .failed)
  let steps := run.plan.steps.filter (·.status = .failed)
  fromKeys (failed.map (·.stepId) ++ steps.map (·.stepId))

def incompleteStepIds (run : PlanRunResult) : List String :=
  (run.plan.steps.filter (·.status ∉ PlanValidator.satisfiedStatuses)).map (·.stepId)

/-- The decision of `evaluate`; `PlanEvaluationDecision.CONTINUE` is `keepGoing`. -/
def evaluate (run : PlanRunResult) : PlanEvaluationDecision :=
  if run.status = .completed ∧ run.plan.status = .completed ∧ run.validation.valid = true ∧
      failedStepIds run = [] ∧ incompleteStepIds run = [] then .goalAchieved
  else if run.status = .cancelled ∨ run.plan.status = .cancelled then .cancelled
  else if run.validation.valid = false then .humanReviewRequired
  else if failedStepIds run ≠ [] then .replanRequired
  else if run.status = .cycleLimitReached then .replanRequired
  else if run.status = .blocked then .replanRequired
  else if run.plan.status = .failed ∧ failedStepIds run = [] then .terminalFailure
  else .keepGoing

end PlanEvaluator

namespace PlanningAgentLoop

/-- `PlanningAgentAttempt`, with the plan that was handed to the runner. -/
structure PlanningAgentAttempt where
  planning : RecordedPlan
  run : PlanRunResult
  decision : PlanEvaluationDecision

/-- The plans that were handed to the runner, and how the call ends. -/
structure LoopRun (α : Type) where
  executed : List RecordedPlan
  result : Except Raised α

def performAttempt (errors : PlanningErrors) (turn : PlanningTurn casefold)
    (options : PlanRunRequest) (request : PlanCreationRequest casefold) :
    LoopRun PlanningAgentAttempt :=
  match createPlan errors turn request with
  | .error failure => ⟨[], .error failure⟩
  | .ok created =>
    match PlanLifecycleService.startPlan created.plan turn.started with
    | .error failure => ⟨[], .error failure⟩
    | .ok started =>
      let executed := { created with plan := started.plan }
      match (PlanRunner.run turn.steps options started.plan []).1 with
      | .error failure => ⟨[executed], .error failure⟩
      | .ok run => ⟨[executed], .ok ⟨executed, run, PlanEvaluator.evaluate run⟩⟩

/-- What `_policy_request` reads of a `ReplanRequest`. -/
structure ReplanRequest where
  goal : String
  constraints : List String
  availableTools : List String
  maximumSteps : ℕ

def stringList (values : List String) : List String := values.filter fun value => !isBlank value

def validationFailure (model : String) : Raised :=
  ⟨.validationError, "validation error for " ++ model⟩

/-- The fields that `ReplanContextService.build` takes over; the model's checks of them. -/
def buildReplanRequest (casefold : Casefold) (attempt : PlanningAgentAttempt) :
    Except Raised ReplanRequest := do
  let constraints := stringList attempt.planning.metadata.constraints
  let availableTools := stringList attempt.planning.metadata.availableTools
  let maximumSteps := max attempt.run.plan.steps.length 1
  raiseIf (100 < maximumSteps ∨ isBlank attempt.run.plan.goal) (validationFailure "ReplanRequest")
  validateUniqueTextValues casefold constraints "constraints"
  validateUniqueTextValues casefold availableTools "available_tools"
  return ⟨attempt.run.plan.goal, constraints, availableTools, maximumSteps⟩

def policyRequest (casefold : Casefold) (request : ReplanRequest) :
    Except Raised (PlanCreationRequest casefold) :=
  if h : 1 ≤ request.maximumSteps ∧ request.maximumSteps ≤ 100 ∧ isBlank request.goal = false ∧
      validateUniqueTextValues casefold request.constraints "constraints" = .ok () ∧
      validateUniqueTextValues casefold request.availableTools "available_tools" = .ok () then
    .ok {
      goal := request.goal
      constraints := request.constraints
      availableTools := request.availableTools
      maximumSteps := request.maximumSteps
      requireToolForEachStep := false
      allowParallelSteps := true
      positive := h.1
      bounded := h.2.1
      goal_not_blank := h.2.2.1
      constraints_valid := h.2.2.2.1
      availableTools_valid := h.2.2.2.2 }
  else .error (validationFailure "PlanCreationRequest")

/-! ## The loop -/

inductive PlanningAgentLoopStatus where
  | goalAchieved
  | failed
  | cancelled
  | humanReviewRequired
  | replanLimitReached
  deriving DecidableEq

/-- `_terminal_status` -/
def terminalLoopStatus : PlanEvaluationDecision → Option PlanningAgentLoopStatus
  | .goalAchieved => some .goalAchieved
  | .cancelled => some .cancelled
  | .humanReviewRequired => some .humanReviewRequired
  | .terminalFailure => some .failed
  | .keepGoing | .replanRequired => none

structure PlanningAgentLoopResult where
  attempts : List PlanningAgentAttempt
  status : PlanningAgentLoopStatus

/-- The constructor of `PlanningAgentLoopResult`; the other checks of `validate_result` and those of
`PlanningAgentAttempt` always hold. -/
def newLoopResult (attempts : List PlanningAgentAttempt) (status : PlanningAgentLoopStatus) :
    Except Raised PlanningAgentLoopResult := do
  raiseIf (¬(attempts.map (·.run.plan.planId)).Nodup)
    ⟨.validationError, "every attempt must use a new plan ID"⟩
  return ⟨attempts, status⟩

structure PlanningAgentLoopRequest (casefold : Casefold) where
  planning : PlanCreationRequest casefold
  execution : PlanRunRequest
  maximumReplans : ℕ
  bounded : maximumReplans ≤ 10

def loopError : ExceptionClass := .external "PlanningAgentLoopError" .runtimeOrValueError

variable (turns : ℕ → PlanningTurn casefold) (options : PlanRunRequest)

def performReplan (number : ℕ) (previous : PlanningAgentAttempt) :
    LoopRun PlanningAgentAttempt :=
  match buildReplanRequest casefold previous with
  | .error failure => ⟨[], .error failure⟩
  | .ok replan =>
    match policyRequest casefold replan with
    | .error failure => ⟨[], .error failure⟩
    | .ok request =>
      let attempt := performAttempt replanningErrors (turns number) options request
      { attempt with
        result := replaceRaised replanningErrors.cls
          ⟨loopError, "replacement planning failed"⟩ attempt.result }

def replanLoop : ℕ → List PlanningAgentAttempt → PlanningAgentAttempt →
    LoopRun PlanningAgentLoopResult
  | 0, attempts, previous => ⟨[], newLoopResult (attempts ++ [previous]) .replanLimitReached⟩
  | remaining + 1, attempts, previous =>
    if previous.decision ≠ .replanRequired then
      ⟨[], newLoopResult (attempts ++ [previous]) .replanLimitReached⟩
    else
      let attempt := performReplan turns options (attempts.length + 1) previous
      match attempt.result with
      | .error failure => ⟨attempt.executed, .error failure⟩
      | .ok next =>
        match terminalLoopStatus next.decision with
        | some status =>
          ⟨attempt.executed, newLoopResult (attempts ++ [previous, next]) status⟩
        | none =>
          let rest := replanLoop remaining (attempts ++ [previous]) next
          { rest with executed := attempt.executed ++ rest.executed }

def run (turns : ℕ → PlanningTurn casefold) (request : PlanningAgentLoopRequest casefold) :
    LoopRun PlanningAgentLoopResult :=
  let attempt := performAttempt planningErrors (turns 0) request.execution request.planning
  match replaceRaised planningErrors.cls
      ⟨loopError, "initial planning pipeline failed"⟩ attempt.result with
  | .error failure => ⟨attempt.executed, .error failure⟩
  | .ok first =>
    match terminalLoopStatus first.decision with
    | some status => ⟨attempt.executed, newLoopResult [first] status⟩
    | none =>
      let rest := replanLoop turns request.execution request.maximumReplans [] first
      { rest with executed := attempt.executed ++ rest.executed }

end PlanningAgentLoop

end AgenticLab
