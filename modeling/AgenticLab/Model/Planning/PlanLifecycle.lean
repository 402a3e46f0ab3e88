import AgenticLab.Model.Planning.PlanValidator

/-! # Lifecycle transitions of plans

`app/schemas/plan_lifecycle.py` and `app/planning/plan_lifecycle_service.py`. What the clock
returns is an argument of a transition. -/

namespace AgenticLab

structure PlanLifecycleResult where
  plan : Plan
  validation : PlanValidationResult
  changedStepIds : List String

/-- The constructor of `PlanLifecycleResult`, with `validate_result`. -/
def newLifecycleResult (plan : Plan) (validation : PlanValidationResult)
    (changedStepIds : List String) : Except Raised PlanLifecycleResult := do
  raiseIf (¬changedStepIds.Nodup) ⟨.validationError, "changed step IDs must be unique"⟩
  raiseIf (¬changedStepIds ⊆ plan.stepIds)
    ⟨.validationError, "changed step IDs must reference steps in the plan"⟩
  return ⟨plan, validation, changedStepIds⟩

namespace PlanLifecycleService

open PlanValidator (validate satisfiedStatuses statusOf terminalStatuses)

/-- `_validated_now`, when the clock returns `value`. -/
def validatedNow (value : Datetime) : Except Raised Datetime := do
  raiseIf value.isNaive ⟨.planLifecycleError, "clock must return a timezone-aware datetime"⟩
  raiseIf (value.usesUtc = false) ⟨.planLifecycleError, "clock must return UTC"⟩
  return value

def getStep (plan : Plan) (stepId : String) : Except Raised PlanStep := do
  raiseIf (isBlank stepId) ⟨.planLifecycleError, "step_id must not be blank"⟩
  match plan.steps.find? fun step => step.stepId = stepId with
  | some step => return step
  | none => .error ⟨.planLifecycleError, "unknown plan step: " ++ stepId⟩

def requireActivePlan (plan : Plan) : Except Raised Unit :=
  raiseIf (plan.status ∈ terminalStatuses)
    ⟨.planLifecycleError, "plan is already terminal: " ++ plan.status.value⟩

def replaceStatus (steps : List PlanStep) (stepId : String) (status : PlanStepStatus) :
    List PlanStep :=
  steps.map fun step => if step.stepId = stepId then step.withStatus status else step

variable {steps : List PlanStep} {stepId : String}

theorem link_replaceStatus {status : PlanStepStatus} :
    (replaceStatus steps stepId status).map PlanStep.link = steps.map PlanStep.link := by
  simp only [replaceStatus, List.map_map, List.map_inj_left, Function.comp_apply]
  intro step _
  split <;> simp

def replaceStepStatus (plan : Plan) (stepId : String) (status : PlanStepStatus)
    (planStatus : PlanStatus) (now : Datetime) : Plan :=
  plan.withSteps planStatus (replaceStatus plan.steps stepId status) now link_replaceStatus

/-- A pending step whose `dependencies_satisfied` is true. -/
def Eligible (stepById : String → Option PlanStepStatus) (step : PlanStep) : Prop :=
  step.status = .pending ∧ ∀ dependency ∈ step.dependencies,
    (stepById dependency).any (· ∈ satisfiedStatuses)

instance {stepById : String → Option PlanStepStatus} {step : PlanStep} :
    Decidable (Eligible stepById step) :=
  inferInstanceAs (Decidable (_ ∧ _))

/-- The loop of `_activate_eligible_steps`, where `stepById` gives the statuses of
`step_by_id`: the steps, and the ids of those that are now ready. -/
def activate (stepById : String → Option PlanStepStatus) :
    List PlanStep → List PlanStep × List String
  | [] => ([], [])
  | step :: rest =>
    if Eligible stepById step then
      let activated := activate (Function.update stepById step.stepId (some .ready)) rest
      (step.withStatus .ready :: activated.1, step.stepId :: activated.2)
    else
      let activated := activate stepById rest
      (step :: activated.1, activated.2)

def activateEligibleSteps (steps : List PlanStep) : List PlanStep × List String :=
  activate (statusOf steps) steps

theorem link_activate {stepById : String → Option PlanStepStatus} :
    (activate stepById steps).1.map PlanStep.link = steps.map PlanStep.link := by
  induction steps generalizing stepById with
  | nil => rfl
  | cons step rest ih =>
    unfold activate
    split
    · simp [ih]
    · simp [ih]

def allStepsFinished (steps : List PlanStep) : Bool :=
  steps.all fun step => step.status ∈ satisfiedStatuses

def result (plan : Plan) (changedStepIds : List String) : Except Raised PlanLifecycleResult := do
  let validation ← validate plan
  let errorCodes := (validation.issues.filter (·.severity = .error)).map (·.code.value)
  raiseIf (validation.valid = false) ⟨.planLifecycleError,
    "lifecycle transition produced an invalid plan: " ++ ", ".intercalate errorCodes⟩
  newLifecycleResult plan validation changedStepIds

def startPlan (plan : Plan) (clock : Datetime) : Except Raised PlanLifecycleResult := do
  raiseIf (plan.status ∉ [PlanStatus.draft, .ready])
    ⟨.planLifecycleError, "only a draft or ready plan can be started"⟩
  let now ← validatedNow clock
  result (plan.withSteps .inProgress plan.steps now rfl) []

def startStep (plan : Plan) (stepId : String) (clock : Datetime) :
    Except Raised PlanLifecycleResult := do
  requireActivePlan plan
  raiseIf (plan.status ≠ .inProgress)
    ⟨.planLifecycleError, "the plan must be in progress before starting a step"⟩
  let target ← getStep plan stepId
  raiseIf (target.status ≠ .ready)
    ⟨.planLifecycleError, "step " ++ stepId ++ " must be ready before it can start"⟩
  let now ← validatedNow clock
  result (replaceStepStatus plan stepId .inProgress .inProgress now) [stepId]

/-- The steps behind the completion of one, with the ids of those that are now ready. -/
def completedSteps (plan : Plan) (stepId : String) : List PlanStep × List String :=
  activateEligibleSteps (replaceStatus plan.steps stepId .completed)

theorem link_completedSteps {plan : Plan} :
    (completedSteps plan stepId).1.map PlanStep.link = plan.links :=
  link_activate.trans link_replaceStatus

def completeStep (plan : Plan) (stepId : String) (clock : Datetime) :
    Except Raised PlanLifecycleResult := do
  requireActivePlan plan
  let target ← getStep plan stepId
  raiseIf (target.status ≠ .inProgress)
    ⟨.planLifecycleError, "step " ++ stepId ++ " must be in progress before it can complete"⟩
  let completed := completedSteps plan stepId
  let planStatus := if allStepsFinished completed.1 then .completed else .inProgress
  let now ← validatedNow clock
  result (plan.withSteps planStatus completed.1 now link_completedSteps) (stepId :: completed.2)

def failStep (plan : Plan) (stepId : String) (clock : Datetime) :
    Except Raised PlanLifecycleResult := do
  requireActivePlan plan
  let target ← getStep plan stepId
  raiseIf (target.status ≠ .inProgress)
    ⟨.planLifecycleError, "step " ++ stepId ++ " must be in progress before it can fail"⟩
  let now ← validatedNow clock
  result (replaceStepStatus plan stepId .failed .failed now) [stepId]

/-- The steps behind the skipping of one, with the ids of those that are now ready. -/
def skippedSteps (plan : Plan) (stepId : String) : List PlanStep × List String :=
  activateEligibleSteps (replaceStatus plan.steps stepId .skipped)

theorem link_skippedSteps {plan : Plan} :
    (skippedSteps plan stepId).1.map PlanStep.link = plan.links :=
  link_activate.trans link_replaceStatus

def skipStep (plan : Plan) (stepId : String) (clock : Datetime) :
    Except Raised PlanLifecycleResult := do
  requireActivePlan plan
  let target ← getStep plan stepId
  raiseIf (target.status ∉ [PlanStepStatus.pending, .ready])
    ⟨.planLifecycleError, "step " ++ stepId ++ " must be pending or ready before it can be skipped"⟩
  let skipped := skippedSteps plan stepId
  let planStatus := if allStepsFinished skipped.1 then .completed else plan.status
  let now ← validatedNow clock
  result (plan.withSteps planStatus skipped.1 now link_skippedSteps) (stepId :: skipped.2)

/-- The statuses that `cancel_plan` replaces. -/
def unfinishedStatuses : List PlanStepStatus := [.pending, .ready, .inProgress]

/-- The loop of `cancel_plan`. -/
def cancelledSteps (steps : List PlanStep) : List PlanStep :=
  steps.map fun step => if step.status ∈ unfinishedStatuses then step.withStatus .skipped else step

theorem link_cancelledSteps :
    (cancelledSteps steps).map PlanStep.link = steps.map PlanStep.link := by
  simp only [cancelledSteps, List.map_map, List.map_inj_left, Function.comp_apply]
  intro step _
  split <;> simp

def cancelPlan (plan : Plan) (clock : Datetime) : Except Raised PlanLifecycleResult := do
  requireActivePlan plan
  let changed := plan.steps.filter fun step => step.status ∈ unfinishedStatuses
  let now ← validatedNow clock
  result (plan.withSteps .cancelled (cancelledSteps plan.steps) now link_cancelledSteps)
    (changed.map (·.stepId))

inductive PlanOperation where
  | startPlan
  | startStep (stepId : String)
  | completeStep (stepId : String)
  | failStep (stepId : String)
  | skipStep (stepId : String)
  | cancelPlan
  deriving DecidableEq

def PlanOperation.apply (operation : PlanOperation) (plan : Plan) (clock : Datetime) :
    Except Raised PlanLifecycleResult :=
  match operation with
  | .startPlan => PlanLifecycleService.startPlan plan clock
  | .startStep stepId => PlanLifecycleService.startStep plan stepId clock
  | .completeStep stepId => PlanLifecycleService.completeStep plan stepId clock
  | .failStep stepId => PlanLifecycleService.failStep plan stepId clock
  | .skipStep stepId => PlanLifecycleService.skipStep plan stepId clock
  | .cancelPlan => PlanLifecycleService.cancelPlan plan clock

/-- The plan behind some calls, each with what the clock returns. A call that raises yields no new
plan. -/
def planAfter (plan : Plan) : List (PlanOperation × Datetime) → Plan
  | [] => plan
  | (operation, clock) :: calls =>
    match operation.apply plan clock with
    | .ok result => planAfter result.plan calls
    | .error _ => planAfter plan calls

end PlanLifecycleService

end AgenticLab
