import AgenticLab.Model.Planning.Plan
import Mathlib.Data.List.Sort

/-! # Validation of plans

`app/planning/plan_validator.py`. A dictionary over the step ids of a plan is a function; step ids
are unique, and every dependency is one of them. -/

namespace AgenticLab

namespace PlanLinks

variable (links : PlanLinks)

def dependencies (stepId : String) : List String := (links.lookup stepId).getD []

/-- `sort(key=original_index.__getitem__)` -/
def sortByIndex (values : List String) : List String :=
  values.insertionSort fun a b => links.stepIds.idxOf a ≤ links.stepIds.idxOf b

/-- `dependents[step_id]` -/
def dependents (stepId : String) : List String :=
  links.sortByIndex ((links.filter fun link => stepId ∈ link.2).map Prod.fst)

end PlanLinks

namespace PlanValidator

section

variable (links : PlanLinks)

/-- The body of `for dependent in dependents[step_id]`, on `indegree` and `newly_ready`. -/
def release (state : (String → ℤ) × List String) (dependent : String) :
    (String → ℤ) × List String :=
  let indegree := Function.update state.1 dependent (state.1 dependent - 1)
  (indegree, if indegree dependent = 0 then state.2 ++ [dependent] else state.2)

/-- `while ready`, for at most `fuel` turns. -/
def drain : ℕ → List String → List String → (String → ℤ) → Option (List String)
  | _, [], order, _ => some order
  | 0, _ :: _, _, _ => none
  | fuel + 1, stepId :: ready, order, indegree =>
    let released := (links.dependents stepId).foldl release (indegree, [])
    drain fuel (ready ++ links.sortByIndex released.2) (order ++ [stepId]) released.1

def indegree (stepId : String) : ℤ := (links.dependencies stepId).length

def topologicalOrder : Option (List String) :=
  let ready := links.stepIds.filter fun stepId => indegree links stepId = 0
  match drain links links.length ready [] (indegree links) with
  | some order => if order.length ≠ links.length then none else some order
  | none => none

end

/-! ## Findings -/

def issueIf (condition : Prop) [Decidable condition] (code : PlanValidationCode)
    (severity : PlanValidationSeverity) (message : String) (stepId : Option String)
    (relatedStepIds : List String) : Except Raised (List PlanValidationIssue) :=
  if condition then do return [← newIssue code severity message stepId relatedStepIds]
  else .ok []

def dependencyOrderIssue (links : PlanLinks) (executionOrder : List String)
    (stepId dependency : String) : Except Raised (List PlanValidationIssue) := do
  let found ← issueIf (links.stepIds.idxOf stepId < links.stepIds.idxOf dependency)
    .dependencyOrderViolation .warning ("Step " ++ stepId ++ " appears before dependency " ++
      dependency ++ " in the plan step list.") (some stepId) [dependency]
  raiseIf (executionOrder.idxOf stepId ≤ executionOrder.idxOf dependency)
    ⟨.runtimeError, "invalid topological order"⟩
  return found

def dependencyOrderIssues (links : PlanLinks) (executionOrder : List String) :
    Except Raised (List PlanValidationIssue) := do
  let found ← links.mapM fun link => do
    let found ← link.2.mapM (dependencyOrderIssue links executionOrder link.1)
    return found.flatten
  return found.flatten

def satisfiedStatuses : List PlanStepStatus := [.completed, .skipped]

def activeStatuses : List PlanStepStatus := [.ready, .inProgress]

/-- `step_by_id[step_id].status` -/
def statusOf (steps : List PlanStep) (stepId : String) : Option PlanStepStatus :=
  (steps.find? fun step => step.stepId = stepId).map (·.status)

def incompleteDependencies (steps : List PlanStep) (step : PlanStep) : List String :=
  step.dependencies.filter fun dependency =>
    ¬(statusOf steps dependency).any (· ∈ satisfiedStatuses)

def failedDependencies (steps : List PlanStep) (step : PlanStep) : List String :=
  step.dependencies.filter fun dependency => statusOf steps dependency = some .failed

def stepStatusIssue (steps : List PlanStep) (step : PlanStep) :
    Except Raised (List PlanValidationIssue) := do
  let ready ← issueIf (step.status = .ready ∧ incompleteDependencies steps step ≠ [])
    .readyWithIncompleteDependency .error
    ("Step " ++ step.stepId ++ " is ready but has incomplete dependencies.") (some step.stepId)
    (incompleteDependencies steps step)
  let pending ← issueIf (step.status = .pending ∧ step.dependencies ≠ [] ∧
      incompleteDependencies steps step = [])
    .pendingWithCompletedDependencies .warning
    ("Step " ++ step.stepId ++ " is pending although all dependencies are complete.")
    (some step.stepId) step.dependencies
  let failed ← issueIf (failedDependencies steps step ≠ [] ∧ step.status ∈ activeStatuses)
    .dependsOnFailedStep .error ("Step " ++ step.stepId ++ " depends on a failed step.")
    (some step.stepId) (failedDependencies steps step)
  return ready ++ pending ++ failed

def stepStatusIssues (steps : List PlanStep) : Except Raised (List PlanValidationIssue) := do
  let found ← steps.mapM (stepStatusIssue steps)
  return found.flatten

def terminalStatuses : List PlanStatus := [.completed, .failed, .cancelled]

def planStatusIssues (plan : Plan) : Except Raised (List PlanValidationIssue) := do
  let terminal ← issueIf (plan.status ∈ terminalStatuses ∧
      ∃ step ∈ plan.steps, step.status ∈ activeStatuses)
    .terminalPlanHasActiveSteps .error
    "A terminal plan must not contain ready or in-progress steps." none []
  let completed ← issueIf (plan.status = .completed ∧
      ∃ step ∈ plan.steps, step.status ∉ satisfiedStatuses)
    .completedPlanHasIncompleteSteps .error "A completed plan contains incomplete steps." none []
  let failed ← issueIf (plan.status = .failed ∧ ¬∃ step ∈ plan.steps, step.status = .failed)
    .failedPlanHasNoFailedStep .warning "The plan is failed but no step is marked as failed." none
    []
  return terminal ++ completed ++ failed

def dependencyIssues (links : PlanLinks) :
    Except Raised (List PlanValidationIssue × List String) :=
  match topologicalOrder links with
  | none => do
      let circular ← newIssue .circularDependency .error
        "The plan contains a circular step dependency." none links.stepIds
      return ([circular], [])
  | some executionOrder => do
      let found ← dependencyOrderIssues links executionOrder
      return (found, executionOrder)

def validate (plan : Plan) : Except Raised PlanValidationResult := do
  let (dependency, executionOrder) ← dependencyIssues plan.links
  let step ← stepStatusIssues plan.steps
  let status ← planStatusIssues plan
  let issues := dependency ++ step ++ status
  newValidationResult (!hasErrors issues) issues executionOrder

end PlanValidator

end AgenticLab
