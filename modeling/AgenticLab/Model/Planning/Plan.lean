import AgenticLab.Model.Application.Values

/-! # Structured plans

`app/schemas/plan.py` and `app/schemas/plan_validation.py`. -/

namespace AgenticLab

inductive PlanStatus where
  | draft
  | ready
  | inProgress
  | completed
  | failed
  | cancelled
  deriving DecidableEq, Repr

inductive PlanStepStatus where
  | pending
  | ready
  | inProgress
  | completed
  | failed
  | skipped
  deriving DecidableEq, Repr

def PlanStatus.value : PlanStatus → String
  | draft => "draft"
  | ready => "ready"
  | inProgress => "in_progress"
  | completed => "completed"
  | failed => "failed"
  | cancelled => "cancelled"

def PlanStepStatus.value : PlanStepStatus → String
  | pending => "pending"
  | ready => "ready"
  | inProgress => "in_progress"
  | completed => "completed"
  | failed => "failed"
  | skipped => "skipped"

/-! ## Steps -/

/-- The fields that are set when a step is drafted. -/
structure PlanStepContent where
  stepId : String
  title : String
  description : String
  dependencies : List String
  toolName : Option String
  expectedOutput : Option String

def requireOptionalText (name : String) (value : Option String) : Except Raised Unit :=
  raiseIf (value.any isBlank) ⟨.validationError, name ++ " must not be blank"⟩

/-- `validate_step`, which `validate_draft` repeats. -/
def PlanStepContent.validateStep (content : PlanStepContent) : Except Raised Unit := do
  requireTexts [("step_id", content.stepId), ("title", content.title),
    ("description", content.description)]
  requireOptionalText "tool_name" content.toolName
  requireOptionalText "expected_output" content.expectedOutput
  raiseIf (content.dependencies.any isBlank)
    ⟨.validationError, "dependencies must not contain blank IDs"⟩
  raiseIf (¬content.dependencies.Nodup) ⟨.validationError, "dependencies must be unique"⟩
  raiseIf (content.stepId ∈ content.dependencies)
    ⟨.validationError, "a step must not depend on itself"⟩

structure PlanStepDraft extends PlanStepContent where
  valid : toPlanStepContent.validateStep = .ok ()

structure PlanStep extends PlanStepDraft where
  status : PlanStepStatus

namespace PlanStep

/-- `model_copy(update={"status": status})` -/
def withStatus (step : PlanStep) (status : PlanStepStatus) : PlanStep :=
  { step with status := status }

def link (step : PlanStep) : String × List String := (step.stepId, step.dependencies)

@[simp] theorem withStatus_stepId (step : PlanStep) (status : PlanStepStatus) :
    (step.withStatus status).stepId = step.stepId := rfl

@[simp] theorem withStatus_dependencies (step : PlanStep) (status : PlanStepStatus) :
    (step.withStatus status).dependencies = step.dependencies := rfl

@[simp] theorem withStatus_status (step : PlanStep) (status : PlanStepStatus) :
    (step.withStatus status).status = status := rfl

@[simp] theorem withStatus_link (step : PlanStep) (status : PlanStepStatus) :
    (step.withStatus status).link = step.link := rfl

end PlanStep

/-! ## Plans -/

/-- The steps of a plan with what they depend on. -/
abbrev PlanLinks := List (String × List String)

def PlanLinks.stepIds (links : PlanLinks) : List String := links.map Prod.fst

def PlanLinks.validateLinks (links : PlanLinks) : Except Raised Unit := do
  raiseIf (¬links.stepIds.Nodup) ⟨.validationError, "plan step IDs must be unique"⟩
  raiseIf (∃ link ∈ links, ∃ dependency ∈ link.2, dependency ∉ links.stepIds)
    ⟨.validationError, "step dependencies must reference steps in the same plan"⟩

/-- `metadata` is left out. What `validate_plan` says of the times is not kept by `model_copy`. -/
structure Plan where
  planId : String
  goal : String
  status : PlanStatus
  steps : List PlanStep
  createdAt : Datetime
  updatedAt : Datetime
  nonempty : steps ≠ []
  linked : PlanLinks.validateLinks (steps.map PlanStep.link) = .ok ()

namespace Plan

def links (plan : Plan) : PlanLinks := plan.steps.map PlanStep.link

def stepIds (plan : Plan) : List String := plan.steps.map (·.stepId)

/-- `model_copy(update={"status": ..., "steps": ..., "updated_at": ...})` -/
def withSteps (plan : Plan) (status : PlanStatus) (steps : List PlanStep) (updatedAt : Datetime)
    (h : steps.map PlanStep.link = plan.links) : Plan where
  planId := plan.planId
  goal := plan.goal
  status := status
  steps := steps
  createdAt := plan.createdAt
  updatedAt := updatedAt
  nonempty := by
    rintro rfl
    exact plan.nonempty (List.map_eq_nil_iff.mp h.symm)
  linked := h ▸ plan.linked

end Plan

/-- `value.utcoffset() != UTC.utcoffset(value)` -/
def Datetime.usesUtc (value : Datetime) : Bool := value.utcoffset.getD 0 == 0

def requireUtc : List (String × Datetime) → Except Raised Unit
  | [] => .ok ()
  | (name, value) :: rest => do
      raiseIf value.isNaive ⟨.validationError, name ++ " must be timezone-aware"⟩
      raiseIf (value.usesUtc = false) ⟨.validationError, name ++ " must use UTC"⟩
      requireUtc rest

/-- The constructor of `Plan`. -/
def newPlan (planId goal : String) (status : PlanStatus) (steps : List PlanStep)
    (createdAt updatedAt : Datetime) : Except Raised Plan := do
  if hnonempty : steps = [] then
    .error ⟨.validationError, "steps should have at least 1 item"⟩
  else
    raiseIf (isBlank planId) ⟨.validationError, "plan_id must not be blank"⟩
    raiseIf (isBlank goal) ⟨.validationError, "plan goal must not be blank"⟩
    requireUtc [("created_at", createdAt), ("updated_at", updatedAt)]
    raiseIf (updatedAt < createdAt)
      ⟨.validationError, "updated_at must not be earlier than created_at"⟩
    match hlinked : PlanLinks.validateLinks (steps.map PlanStep.link) with
    | .ok () => .ok ⟨planId, goal, status, steps, createdAt, updatedAt, hnonempty, hlinked⟩
    | .error failure => .error failure

/-! ## Findings -/

inductive PlanValidationSeverity where
  | error
  | warning
  deriving DecidableEq, Repr

inductive PlanValidationCode where
  | circularDependency
  | dependencyOrderViolation
  | readyWithIncompleteDependency
  | pendingWithCompletedDependencies
  | dependsOnFailedStep
  | terminalPlanHasActiveSteps
  | completedPlanHasIncompleteSteps
  | failedPlanHasNoFailedStep
  deriving DecidableEq, Repr

def PlanValidationCode.value : PlanValidationCode → String
  | circularDependency => "circular_dependency"
  | dependencyOrderViolation => "dependency_order_violation"
  | readyWithIncompleteDependency => "ready_with_incomplete_dependency"
  | pendingWithCompletedDependencies => "pending_with_completed_dependencies"
  | dependsOnFailedStep => "depends_on_failed_step"
  | terminalPlanHasActiveSteps => "terminal_plan_has_active_steps"
  | completedPlanHasIncompleteSteps => "completed_plan_has_incomplete_steps"
  | failedPlanHasNoFailedStep => "failed_plan_has_no_failed_step"

structure PlanValidationIssue where
  code : PlanValidationCode
  severity : PlanValidationSeverity
  message : String
  stepId : Option String
  relatedStepIds : List String

/-- The constructor of `PlanValidationIssue`, with `validate_issue`. -/
def newIssue (code : PlanValidationCode) (severity : PlanValidationSeverity) (message : String)
    (stepId : Option String) (relatedStepIds : List String) :
    Except Raised PlanValidationIssue := do
  raiseIf (isBlank message) ⟨.validationError, "validation issue message must not be blank"⟩
  raiseIf (stepId.any isBlank) ⟨.validationError, "validation issue step_id must not be blank"⟩
  raiseIf (relatedStepIds.any isBlank) ⟨.validationError, "related step IDs must not be blank"⟩
  raiseIf (¬relatedStepIds.Nodup) ⟨.validationError, "related step IDs must be unique"⟩
  return ⟨code, severity, message, stepId, relatedStepIds⟩

structure PlanValidationResult where
  valid : Bool
  issues : List PlanValidationIssue
  executionOrder : List String

def hasErrors (issues : List PlanValidationIssue) : Bool := issues.any (·.severity = .error)

/-- The constructor of `PlanValidationResult`, with `validate_result`. -/
def newValidationResult (valid : Bool) (issues : List PlanValidationIssue)
    (executionOrder : List String) : Except Raised PlanValidationResult := do
  raiseIf (valid = hasErrors issues) ⟨.validationError, "valid flag is inconsistent with issues"⟩
  raiseIf (¬executionOrder.Nodup) ⟨.validationError, "execution order must contain unique step IDs"⟩
  return ⟨valid, issues, executionOrder⟩

end AgenticLab
