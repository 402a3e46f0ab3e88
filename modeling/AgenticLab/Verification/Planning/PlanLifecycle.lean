import AgenticLab.Model.Planning.PlanLifecycle
import AgenticLab.Verification.Planning.PlanValidator

/-! # What a transition does to the statuses -/

namespace AgenticLab

open Precedence (Acyclic)
open PlanValidator (statusOf statusOf_of_mem statusOf_eq_some Satisfied Accepted Accepts
  validate_spec satisfiedStatuses activeStatuses exists_statusOf)

def Plan.drafts (plan : Plan) : List PlanStepDraft := plan.steps.map (·.toPlanStepDraft)

/-- What `_validated_now` lets through. -/
structure Datetime.IsUtc (clock : Datetime) : Prop where
  aware : clock.isNaive = false
  utc : clock.usesUtc = true

variable {plan : Plan} {status : PlanStatus} {steps : List PlanStep} {now : Datetime}
  {h : steps.map PlanStep.link = plan.links}

@[simp] theorem Plan.links_withSteps
    :
    (plan.withSteps status steps now h).links = plan.links := h

theorem PlanValidator.accepts_withSteps :
    Accepts (plan.withSteps status steps now h) ↔
      Accepted plan.links status (statusOf steps) := by
  rw [Accepts, Plan.links_withSteps]
  rfl

theorem Plan.stepIds_of_links {plan other : Plan} (h : other.links = plan.links) :
    other.stepIds = plan.stepIds := by
  rw [← stepIds_eq, h, stepIds_eq]

variable {status : PlanStepStatus} {planStatus : PlanStatus} {stepId : String}

@[simp] theorem PlanLifecycleService.links_replaceStepStatus
    :
    (replaceStepStatus plan stepId status planStatus now).links = plan.links :=
  link_replaceStatus

@[simp] theorem PlanLifecycleService.stepIds_replaceStepStatus
    :
    (replaceStepStatus plan stepId status planStatus now).stepIds = plan.stepIds :=
  Plan.stepIds_of_links links_replaceStepStatus

namespace PlanLifecycleService

variable {plan : Plan} {stepId : String} {clock : Datetime}

theorem validatedNow_of_utc (h : clock.IsUtc) : validatedNow clock = .ok clock :=
  raiseIf_bind_eq_ok.mpr ⟨by simp [h.aware], raiseIf_bind_eq_ok.mpr ⟨by simp [h.utc], rfl⟩⟩

variable {status : PlanStepStatus}

theorem getStep_of_status (h : statusOf plan.steps stepId = some status) :
    ∃ step, getStep plan stepId = .ok step ∧ step.status = status := by
  obtain ⟨step, hfind, hstatus⟩ := Option.map_eq_some_iff.mp h
  have hid : step.stepId = stepId := by simpa using List.find?_some hfind
  refine ⟨step, raiseIf_bind_eq_ok.mpr ⟨?_, ?_⟩, hstatus⟩
  · rw [← hid, step.isBlank_stepId]
    decide
  · rw [hfind]
    rfl

variable {steps : List PlanStep} {f : PlanStep → PlanStep}

theorem statusOf_map (hf : ∀ step, (f step).stepId = step.stepId) (stepId : String) :
    statusOf (steps.map f) stepId =
      (steps.find? fun step => step.stepId = stepId).map fun step => (f step).status := by
  rw [statusOf, List.find?_map, Option.map_map]
  have hsame : (fun step : PlanStep => decide (step.stepId = stepId)) ∘ f =
      fun step => decide (step.stepId = stepId) := by
    funext step
    simp [hf]
  rw [hsame]
  rfl

theorem statusOf_replaceStatus (hstep : stepId ∈ plan.stepIds) :
    statusOf (replaceStatus plan.steps stepId status) =
      Function.update (statusOf plan.steps) stepId (some status) := by
  funext other
  rw [replaceStatus, statusOf_map (by intro step; split <;> rfl)]
  by_cases heq : other = stepId
  · subst heq
    obtain ⟨old, hold⟩ := exists_statusOf hstep
    obtain ⟨step, hfind, _⟩ := Option.map_eq_some_iff.mp hold
    have hid : step.stepId = other := by simpa using List.find?_some hfind
    simp [hfind, hid]
  · rw [Function.update_of_ne heq, statusOf]
    cases hfind : plan.steps.find? fun step => step.stepId = other with
    | none => rfl
    | some step =>
      have hid : step.stepId = other := by simpa using List.find?_some hfind
      have hne : step.stepId ≠ stepId := by
        rw [hid]
        exact heq
      simp [hne]

theorem drafts_map (hf : ∀ step, (f step).toPlanStepDraft = step.toPlanStepDraft) :
    (steps.map f).map (·.toPlanStepDraft) = steps.map (·.toPlanStepDraft) := by
  simp [hf]

theorem drafts_replaceStatus :
    (replaceStatus steps stepId status).map (·.toPlanStepDraft) = steps.map (·.toPlanStepDraft) :=
  drafts_map (by intro step; split <;> rfl)

theorem eligible_update {status : String → Option PlanStepStatus} {step : PlanStep}
    (hpending : status stepId = some .pending) :
    Eligible (Function.update status stepId (some .ready)) step ↔ Eligible status step := by
  refine and_congr_right fun _ => forall_congr' fun dependency => forall_congr' fun _ => ?_
  by_cases heq : dependency = stepId
  · subst heq
    rw [Function.update_self, hpending]
    decide
  · rw [Function.update_of_ne heq]

theorem activate_eq {status : String → Option PlanStepStatus}
    (hnodup : (steps.map (·.stepId)).Nodup)
    (hstatus : ∀ step ∈ steps, status step.stepId = some step.status) :
    activate status steps =
      (steps.map fun step => if Eligible status step then step.withStatus .ready else step,
        (steps.filter fun step => Eligible status step).map (·.stepId)) := by
  induction steps generalizing status with
  | nil => rfl
  | cons first rest ih =>
    obtain ⟨hfirst, hrest⟩ := List.nodup_cons.mp hnodup
    obtain ⟨hhead, hlater⟩ := List.forall_mem_cons.mp hstatus
    by_cases heligible : Eligible status first
    · have hpending : status first.stepId = some .pending := by
        rw [hhead, heligible.1]
      have hothers : ∀ step ∈ rest, Function.update status first.stepId (some .ready)
          step.stepId = some step.status := by
        intro step hmem
        have hne : step.stepId ≠ first.stepId := by
          intro heq
          exact hfirst (List.mem_map.mpr ⟨step, hmem, heq⟩)
        rw [Function.update_of_ne hne]
        exact hlater step hmem
      rw [activate, if_pos heligible, ih hrest hothers]
      simp [heligible, eligible_update hpending]
    · rw [activate, if_neg heligible, ih hrest hlater]
      simp [heligible]

def activated (links : PlanLinks) (status : String → Option PlanStepStatus) (stepId : String) :
    Option PlanStepStatus :=
  if status stepId = some .pending ∧ ∀ dependency ∈ links.dependencies stepId,
      (status dependency).any (· ∈ satisfiedStatuses) then some .ready
  else status stepId

variable (plan) in
theorem activateEligibleSteps_eq :
    activateEligibleSteps plan.steps =
      (plan.steps.map fun step =>
        if Eligible (statusOf plan.steps) step then step.withStatus .ready else step,
      (plan.steps.filter fun step => Eligible (statusOf plan.steps) step).map (·.stepId)) :=
  activate_eq plan.stepIds_nodup fun _ hmem => statusOf_of_mem hmem

variable (plan) in
theorem statusOf_activateEligibleSteps :
    statusOf (activateEligibleSteps plan.steps).1 = activated plan.links (statusOf plan.steps) := by
  funext stepId
  rw [activateEligibleSteps_eq plan]
  dsimp only
  rw [statusOf_map (by intro step; split <;> rfl), activated]
  cases hfind : plan.steps.find? fun step => step.stepId = stepId with
  | none => simp [statusOf, hfind]
  | some step =>
    have hmem := List.mem_of_find?_eq_some hfind
    have hid : step.stepId = stepId := by simpa using List.find?_some hfind
    subst hid
    rw [Plan.dependencies_eq hmem, statusOf_of_mem hmem, Option.map_some]
    by_cases heligible : Eligible (statusOf plan.steps) step
    · rw [if_pos heligible, if_pos ⟨congrArg some heligible.1, heligible.2⟩]
      rfl
    · rw [if_neg heligible, if_neg fun h => heligible ⟨Option.some.inj h.1, h.2⟩]

section

variable {links : PlanLinks} {status : String → Option PlanStepStatus} {dependency : String}

theorem satisfied_update {target : Option PlanStepStatus}
    (h : Satisfied (status dependency)) (hready : ¬Satisfied (status stepId)) :
    Satisfied (Function.update status stepId target dependency) := by
  have hne : dependency ≠ stepId := by
    rintro rfl
    exact hready h
  rwa [Function.update_of_ne hne]

theorem accepted_start (h : Accepted links .inProgress status)
    (hready : status stepId = some .ready) :
    Accepted links .inProgress (Function.update status stepId (some .inProgress)) := by
  refine ⟨h.acyclic, fun other hother dependency hneeds => ?_,
    fun other s hother hactive dependency hneeds => ?_, fun hterminal => ?_, nofun⟩
  · have hne : other ≠ stepId := by
      rintro rfl
      simp at hother
    rw [Function.update_of_ne hne] at hother
    exact satisfied_update (h.ready other hother dependency hneeds) (by rw [hready]; decide)
  · have hkept : status dependency ≠ some .failed := by
      by_cases heq : other = stepId
      · exact h.notFailed stepId .ready hready (by decide) dependency (heq ▸ hneeds)
      · rw [Function.update_of_ne heq] at hother
        exact h.notFailed other s hother hactive dependency hneeds
    by_cases heq : dependency = stepId
    · simp [heq]
    · rwa [Function.update_of_ne heq]
  · exact absurd hterminal (by decide)

theorem activated_eq_of_satisfied (h : Satisfied (status dependency)) :
    activated links status dependency = status dependency := by
  refine if_neg fun hpending => ?_
  rw [hpending.1] at h
  exact absurd h (by decide)

variable (links status) in
theorem activated_cases (other : String) :
    (activated links status other = some .ready ∧
      ∀ dependency ∈ links.dependencies other, Satisfied (status dependency)) ∨
    activated links status other = status other := by
  unfold activated
  split
  · rename_i heligible
    exact .inl ⟨rfl, heligible.2⟩
  · exact .inr rfl

theorem accepted_activated (h : Accepted links .inProgress status) {planStatus : PlanStatus}
    (hplan : planStatus = .inProgress ∨ planStatus = .completed ∧
      ∀ other s, activated links status other = some s → s ∈ satisfiedStatuses) :
    Accepted links planStatus (activated links status) := by
  have hsatisfied : ∀ dependency, Satisfied (status dependency) →
      Satisfied (activated links status dependency) := by
    intro dependency hdependency
    rwa [activated_eq_of_satisfied hdependency]
  refine ⟨h.acyclic, fun other hother dependency hneeds => hsatisfied dependency ?_,
    fun other s hother hactive dependency hneeds => ?_, fun hterminal other s hother => ?_,
    fun hcompleted other s hother => ?_⟩
  · rcases activated_cases links status other with ⟨_, hdependencies⟩ | hsame
    · exact hdependencies dependency hneeds
    · exact h.ready other (hsame ▸ hother) dependency hneeds
  · have hkept : status dependency ≠ some .failed := by
      rcases activated_cases links status other with ⟨_, hdependencies⟩ | hsame
      · intro hfailed
        have hdependency := hdependencies dependency hneeds
        rw [hfailed] at hdependency
        exact absurd hdependency (by decide)
      · exact h.notFailed other s (hsame ▸ hother) hactive dependency hneeds
    rcases activated_cases links status dependency with ⟨hready, _⟩ | hsame
    · rw [hready]
      decide
    · rwa [hsame]
  · rcases hplan with rfl | ⟨_, hfinished⟩
    · exact absurd hterminal (by decide)
    · have hdone := hfinished other s hother
      revert hdone
      cases s <;> decide
  · rcases hplan with rfl | ⟨_, hfinished⟩
    · cases hcompleted
    · exact hfinished other s hother

theorem accepted_completed (h : Accepted links .inProgress status)
    (hactive : status stepId = some .inProgress) :
    Accepted links .inProgress (Function.update status stepId (some .completed)) := by
  refine ⟨h.acyclic, fun other hother dependency hneeds => ?_,
    fun other s hother hactive' dependency hneeds => ?_, fun hterminal => ?_, nofun⟩
  · have hne : other ≠ stepId := by
      rintro rfl
      simp at hother
    rw [Function.update_of_ne hne] at hother
    exact satisfied_update (h.ready other hother dependency hneeds) (by rw [hactive]; decide)
  · have hne : other ≠ stepId := by
      rintro rfl
      rw [Function.update_self] at hother
      cases hother
      exact absurd hactive' (by decide)
    rw [Function.update_of_ne hne] at hother
    by_cases heq : dependency = stepId
    · simp [heq]
    · rw [Function.update_of_ne heq]
      exact h.notFailed other s hother hactive' dependency hneeds
  · exact absurd hterminal (by decide)

theorem accepted_failed_iff (h : Accepted links .inProgress status) :
    Accepted links .failed (Function.update status stepId (some .failed)) ↔
      ∀ other s, other ≠ stepId → status other = some s → s ∉ activeStatuses := by
  constructor
  · intro hfailed other s hne hother
    exact hfailed.inactive (by decide) other s (by rwa [Function.update_of_ne hne])
  · intro hinactive
    have hnone : ∀ other s, Function.update status stepId (some .failed) other = some s →
        s ∉ activeStatuses := by
      intro other s hother
      by_cases heq : other = stepId
      · rw [heq, Function.update_self] at hother
        cases hother
        decide
      · rw [Function.update_of_ne heq] at hother
        exact hinactive other s heq hother
    exact ⟨h.acyclic, fun other hother => absurd (by decide) (hnone other .ready hother),
      fun other s hother hactive => absurd hactive (hnone other s hother), fun _ => hnone, nofun⟩

end

/-! ## The transitions -/

variable {changedStepIds : List String}

theorem result_of_accepts (h : Accepts plan)
    (hnodup : changedStepIds.Nodup) (hknown : changedStepIds ⊆ plan.stepIds) :
    ∃ validation, validation.valid = true ∧
      result plan changedStepIds = .ok ⟨plan, validation, changedStepIds⟩ := by
  obtain ⟨validation, hvalidate, hvalid, _⟩ := validate_spec plan
  refine ⟨validation, hvalid.mpr h, ?_⟩
  rw [result, hvalidate, ok_bind]
  simp [hvalid.mpr h, newLifecycleResult, raiseIf, hnodup, hknown]

theorem result_of_not_accepts (h : ¬Accepts plan) :
    ∃ message, result plan changedStepIds = .error ⟨.planLifecycleError, message⟩ := by
  obtain ⟨validation, hvalidate, hvalid, _⟩ := validate_spec plan
  have hinvalid : validation.valid = false := by simpa using mt hvalid.mp h
  simp only [result, hvalidate, ok_bind, raiseIf, if_pos hinvalid, error_bind]
  exact ⟨_, rfl⟩

theorem mem_stepIds_of_status
    (h : statusOf plan.steps stepId = some status) : stepId ∈ plan.stepIds := by
  obtain ⟨step, hmem, rfl, _⟩ := statusOf_eq_some.mp h
  exact Plan.mem_stepIds hmem

theorem requireActivePlan_of_inProgress (h : plan.status = .inProgress) :
    requireActivePlan plan = .ok () :=
  raiseIf_eq_ok.mpr (by rw [h]; decide)

theorem accepted_of_inProgress (h : Accepts plan) (hplan : plan.status = .inProgress) :
    Accepted plan.links .inProgress (statusOf plan.steps) := by
  rw [← hplan]
  exact h

/-- What `start_step` gives. -/
structure StartedFrom (plan : Plan) (stepId : String) (started : Plan) : Prop where
  links : started.links = plan.links
  status : started.status = .inProgress
  steps : statusOf started.steps = Function.update (statusOf plan.steps) stepId (some .inProgress)
  drafts : started.drafts = plan.drafts
  accepts : Accepts started

theorem startStep_spec (h : Accepts plan) (hplan : plan.status = .inProgress)
    (hready : statusOf plan.steps stepId = some .ready) (hclock : clock.IsUtc) :
    ∃ result, startStep plan stepId clock = .ok result ∧
      StartedFrom plan stepId result.plan := by
  obtain ⟨target, htarget, hstatus⟩ := getStep_of_status hready
  have hmem := mem_stepIds_of_status hready
  have hsteps : statusOf (replaceStepStatus plan stepId .inProgress .inProgress clock).steps =
      Function.update (statusOf plan.steps) stepId (some .inProgress) :=
    statusOf_replaceStatus hmem
  have haccepts : Accepts (replaceStepStatus plan stepId .inProgress .inProgress clock) := by
    refine PlanValidator.accepts_withSteps.mpr ?_
    rw [statusOf_replaceStatus hmem]
    exact accepted_start (accepted_of_inProgress h hplan) hready
  obtain ⟨validation, _, hresult⟩ := result_of_accepts haccepts (List.nodup_singleton stepId)
    (by simpa using hmem)
  refine ⟨⟨replaceStepStatus plan stepId .inProgress .inProgress clock, validation, [stepId]⟩, ?_,
    links_replaceStepStatus, rfl, hsteps, drafts_replaceStatus, haccepts⟩
  rw [startStep, requireActivePlan_of_inProgress hplan, ok_bind, raiseIf,
    if_neg (not_not.mpr hplan), ok_bind, htarget, ok_bind, raiseIf, if_neg (not_not.mpr hstatus),
    ok_bind, validatedNow_of_utc hclock, ok_bind, hresult]

/-- The statuses behind `complete_step`. -/
def completedStatuses (plan : Plan) (stepId : String) : String → Option PlanStepStatus :=
  activated plan.links (Function.update (statusOf plan.steps) stepId (some .completed))

/-- What `complete_step` gives. -/
structure CompletedFrom (plan : Plan) (stepId : String) (completed : Plan) : Prop where
  links : completed.links = plan.links
  steps : statusOf completed.steps = completedStatuses plan stepId
  drafts : completed.drafts = plan.drafts
  status : completed.status = .inProgress ∨ completed.status = .completed
  finished : completed.status = .completed ↔
    ∀ other s, completedStatuses plan stepId other = some s → s ∈ satisfiedStatuses
  accepts : Accepts completed

def afterCompletion (plan : Plan) (stepId : String) (clock : Datetime) : Plan :=
  replaceStepStatus plan stepId .completed .inProgress clock

theorem statusOf_completedSteps (clock : Datetime) (hmem : stepId ∈ plan.stepIds) :
    statusOf (completedSteps plan stepId).1 = completedStatuses plan stepId := by
  have hactivated := statusOf_activateEligibleSteps (afterCompletion plan stepId clock)
  rw [afterCompletion, links_replaceStepStatus] at hactivated
  refine hactivated.trans ?_
  rw [completedStatuses, ← statusOf_replaceStatus hmem]
  rfl

theorem drafts_completedSteps (clock : Datetime) :
    (completedSteps plan stepId).1.map (·.toPlanStepDraft) = plan.drafts := by
  have hsteps := congrArg Prod.fst (activateEligibleSteps_eq (afterCompletion plan stepId clock))
  change (completedSteps plan stepId).1 = _ at hsteps
  rw [hsteps, drafts_map (by intro step; split <;> rfl)]
  exact drafts_replaceStatus

theorem newlyReady_spec (clock : Datetime) (hactive : statusOf plan.steps stepId = some .inProgress) :
    (stepId :: (completedSteps plan stepId).2).Nodup ∧
      (stepId :: (completedSteps plan stepId).2) ⊆ plan.stepIds := by
  have hmem := mem_stepIds_of_status hactive
  have hready : (completedSteps plan stepId).2 =
      ((afterCompletion plan stepId clock).steps.filter fun step =>
        Eligible (statusOf (afterCompletion plan stepId clock).steps) step).map (·.stepId) :=
    congrArg Prod.snd (activateEligibleSteps_eq (afterCompletion plan stepId clock))
  have hids : (afterCompletion plan stepId clock).stepIds = plan.stepIds :=
    stepIds_replaceStepStatus
  have hsublist : (completedSteps plan stepId).2.Sublist plan.stepIds := by
    rw [hready, ← hids]
    exact List.filter_sublist.map _
  have hnew : stepId ∉ (completedSteps plan stepId).2 := by
    intro hin
    rw [hready] at hin
    obtain ⟨step, hstep, hid⟩ := List.mem_map.mp hin
    obtain ⟨hstep, heligible⟩ := List.mem_filter.mp hstep
    have hpending : step.status = .pending := (of_decide_eq_true heligible).1
    have hstatus := statusOf_of_mem hstep
    rw [afterCompletion, hid, hpending] at hstatus
    have hcompleted : statusOf (replaceStatus plan.steps stepId .completed) stepId =
        some .completed := by
      rw [statusOf_replaceStatus hmem, Function.update_self]
    cases hcompleted.symm.trans hstatus
  exact ⟨List.nodup_cons.mpr ⟨hnew, hsublist.nodup plan.stepIds_nodup⟩,
    List.cons_subset.mpr ⟨hmem, hsublist.subset⟩⟩

theorem allStepsFinished_iff (plan : Plan) :
    allStepsFinished plan.steps = true ↔
      ∀ other s, statusOf plan.steps other = some s → s ∈ satisfiedStatuses := by
  rw [allStepsFinished, List.all_eq_true]
  constructor
  · intro hall other s hstatus
    obtain ⟨step, hmem, _, rfl⟩ := statusOf_eq_some.mp hstatus
    simpa using hall step hmem
  · intro hall step hmem
    simpa using hall step.stepId step.status (statusOf_of_mem hmem)

theorem completeStep_spec (h : Accepts plan) (hplan : plan.status = .inProgress)
    (hactive : statusOf plan.steps stepId = some .inProgress) (hclock : clock.IsUtc) :
    ∃ result, completeStep plan stepId clock = .ok result ∧
      CompletedFrom plan stepId result.plan := by
  obtain ⟨target, htarget, hstatus⟩ := getStep_of_status hactive
  have hmem := mem_stepIds_of_status hactive
  have hsteps := statusOf_completedSteps clock hmem
  have hfinished := allStepsFinished_iff
    (plan.withSteps .inProgress (completedSteps plan stepId).1 clock link_completedSteps)
  change allStepsFinished (completedSteps plan stepId).1 = true ↔
    ∀ other s, statusOf (completedSteps plan stepId).1 other = some s → _ at hfinished
  rw [hsteps] at hfinished
  have hbefore := accepted_completed (accepted_of_inProgress h hplan) hactive
  obtain ⟨hnodup, hknown⟩ := newlyReady_spec clock hactive
  have hresult : ∀ planStatus : PlanStatus,
      (planStatus = .inProgress ∨ planStatus = .completed ∧
        ∀ other s, completedStatuses plan stepId other = some s → s ∈ satisfiedStatuses) →
      Accepts (plan.withSteps planStatus (completedSteps plan stepId).1 clock
        link_completedSteps) := by
    intro planStatus hplanStatus
    refine PlanValidator.accepts_withSteps.mpr ?_
    rw [hsteps]
    exact accepted_activated hbefore hplanStatus
  have hrun : ∀ planStatus, (if allStepsFinished (completedSteps plan stepId).1 then
      PlanStatus.completed else .inProgress) = planStatus →
      completeStep plan stepId clock = result (plan.withSteps planStatus
        (completedSteps plan stepId).1 clock link_completedSteps)
          (stepId :: (completedSteps plan stepId).2) := by
    rintro planStatus rfl
    rw [completeStep, requireActivePlan_of_inProgress hplan, ok_bind, htarget, ok_bind, raiseIf,
      if_neg (not_not.mpr hstatus), ok_bind, validatedNow_of_utc hclock, ok_bind]
  have hids : ∀ planStatus : PlanStatus, (plan.withSteps planStatus (completedSteps plan stepId).1
      clock link_completedSteps).stepIds = plan.stepIds :=
    fun planStatus => Plan.stepIds_of_links link_completedSteps
  by_cases hall : allStepsFinished (completedSteps plan stepId).1 = true
  · have haccepts := hresult .completed (.inr ⟨rfl, hfinished.mp hall⟩)
    obtain ⟨validation, _, hok⟩ := result_of_accepts haccepts hnodup (by rw [hids]; exact hknown)
    refine ⟨_, (hrun .completed (if_pos hall)).trans hok, link_completedSteps, hsteps,
      drafts_completedSteps clock, .inr rfl,
      ⟨fun _ => hfinished.mp hall, fun _ => rfl⟩, haccepts⟩
  · have haccepts := hresult .inProgress (.inl rfl)
    obtain ⟨validation, _, hok⟩ := result_of_accepts haccepts hnodup (by rw [hids]; exact hknown)
    refine ⟨_, (hrun .inProgress (if_neg hall)).trans hok, link_completedSteps, hsteps,
      drafts_completedSteps clock, .inl rfl,
      ⟨fun h => absurd (show PlanStatus.inProgress = .completed from h) (by decide),
        fun hdone => absurd (hfinished.mpr hdone) hall⟩, haccepts⟩

theorem failStep_spec (h : Accepts plan) (hplan : plan.status = .inProgress)
    (hactive : statusOf plan.steps stepId = some .inProgress) (hclock : clock.IsUtc) :
    if ∀ step ∈ plan.steps, step.stepId ≠ stepId → step.status ∉ activeStatuses then
      ∃ result, failStep plan stepId clock = .ok result ∧ result.plan.status = .failed ∧
        result.plan.links = plan.links ∧ Accepts result.plan
    else ∃ message, failStep plan stepId clock = .error ⟨.planLifecycleError, message⟩ := by
  obtain ⟨target, htarget, hstatus⟩ := getStep_of_status hactive
  have hmem := mem_stepIds_of_status hactive
  have hrun : failStep plan stepId clock =
      result (replaceStepStatus plan stepId .failed .failed clock) [stepId] := by
    rw [failStep, requireActivePlan_of_inProgress hplan, ok_bind, htarget, ok_bind, raiseIf,
      if_neg (not_not.mpr hstatus), ok_bind, validatedNow_of_utc hclock, ok_bind]
  have hiff : Accepts (replaceStepStatus plan stepId .failed .failed clock) ↔
      ∀ step ∈ plan.steps, step.stepId ≠ stepId → step.status ∉ activeStatuses := by
    refine PlanValidator.accepts_withSteps.trans ?_
    rw [statusOf_replaceStatus hmem, accepted_failed_iff (accepted_of_inProgress h hplan)]
    constructor
    · intro hinactive step hstep hne
      exact hinactive step.stepId step.status hne (statusOf_of_mem hstep)
    · intro hinactive other s hne hother
      obtain ⟨step, hstep, rfl, rfl⟩ := statusOf_eq_some.mp hother
      exact hinactive step hstep hne
  split
  · rename_i halone
    obtain ⟨validation, _, hok⟩ := result_of_accepts (hiff.mpr halone)
      (List.nodup_singleton stepId) (by simpa using hmem)
    exact ⟨_, hrun.trans hok, rfl, links_replaceStepStatus, hiff.mpr halone⟩
  · rename_i hothers
    obtain ⟨message, hraised⟩ := result_of_not_accepts (mt hiff.mp hothers)
    exact ⟨message, hrun.trans hraised⟩

end PlanLifecycleService

end AgenticLab
