import AgenticLab.Verification.Planning.PlanCompletion

/-! # Plans over whole sequences of transitions -/

namespace AgenticLab

open PlanValidator (statusOf statusOf_of_mem statusOf_eq_some Satisfied Accepts satisfiedStatuses
  terminalStatuses exists_statusOf)

namespace PlanLifecycleService

variable {plan : Plan} {stepId : String} {clock : Datetime}

/-! ## What a call that returns has done -/

variable {changedStepIds : List String} {answer : PlanLifecycleResult}

theorem result_eq_ok
    (h : result plan changedStepIds = .ok answer) : answer.plan = plan ∧ Accepts plan := by
  obtain ⟨validation, hvalidate, h⟩ := bind_eq_ok.mp h
  obtain ⟨hvalid, h⟩ := raiseIf_bind_eq_ok.mp h
  obtain ⟨_, h⟩ := raiseIf_bind_eq_ok.mp h
  obtain ⟨_, h⟩ := raiseIf_bind_eq_ok.mp h
  cases h
  exact ⟨rfl, PlanRunner.valid_iff.mp ⟨validation, hvalidate, by simpa using hvalid⟩⟩

theorem validatedNow_eq_ok {now : Datetime} (h : validatedNow clock = .ok now) : now = clock := by
  obtain ⟨_, h⟩ := raiseIf_bind_eq_ok.mp h
  obtain ⟨_, h⟩ := raiseIf_bind_eq_ok.mp h
  exact (Except.ok.inj h).symm

theorem getStep_eq_ok {target : PlanStep} (h : getStep plan stepId = .ok target) :
    statusOf plan.steps stepId = some target.status := by
  obtain ⟨_, h⟩ := raiseIf_bind_eq_ok.mp h
  rw [statusOf]
  split at h
  next step hfind =>
    cases h
    rw [hfind, Option.map_some]
  next => cases h

/-- The status of a step behind `cancel_plan`. -/
def cancelledStatus (status : PlanStepStatus) : PlanStepStatus :=
  if status ∈ unfinishedStatuses then .skipped else status

theorem statusOf_cancelledSteps (steps : List PlanStep) (stepId : String) :
    statusOf (cancelledSteps steps) stepId = (statusOf steps stepId).map cancelledStatus := by
  rw [cancelledSteps, statusOf_map (by intro step; split <;> rfl), statusOf, Option.map_map]
  congr 1
  funext step
  simp only [Function.comp_apply, cancelledStatus]
  split <;> rfl

theorem drafts_cancelledSteps (steps : List PlanStep) :
    (cancelledSteps steps).map (·.toPlanStepDraft) = steps.map (·.toPlanStepDraft) :=
  drafts_map (by intro step; split <;> rfl)

def settledStatuses (plan : Plan) (stepId : String) (status : PlanStepStatus) :
    String → Option PlanStepStatus :=
  activated plan.links (Function.update (statusOf plan.steps) stepId (some status))

variable {status : PlanStepStatus}

theorem statusOf_settled (hmem : stepId ∈ plan.stepIds) :
    statusOf (activateEligibleSteps (replaceStatus plan.steps stepId status)).1 =
      settledStatuses plan stepId status := by
  have hactivated := statusOf_activateEligibleSteps
    (replaceStepStatus plan stepId status plan.status plan.updatedAt)
  rw [links_replaceStepStatus] at hactivated
  refine hactivated.trans ?_
  rw [settledStatuses, ← statusOf_replaceStatus hmem]
  rfl

theorem drafts_settled :
    (activateEligibleSteps (replaceStatus plan.steps stepId status)).1.map (·.toPlanStepDraft) =
      plan.drafts := by
  have hsteps := congrArg Prod.fst (activateEligibleSteps_eq
    (replaceStepStatus plan stepId status plan.status plan.updatedAt))
  change (activateEligibleSteps (replaceStatus plan.steps stepId status)).1 = _ at hsteps
  rw [hsteps, drafts_map (by intro step; split <;> rfl)]
  exact drafts_replaceStatus

theorem allStepsFinished_settled (hmem : stepId ∈ plan.stepIds)
    (hlinks : (activateEligibleSteps (replaceStatus plan.steps stepId status)).1.map PlanStep.link =
      plan.links) :
    allStepsFinished (activateEligibleSteps (replaceStatus plan.steps stepId status)).1 = true ↔
      ∀ other s, settledStatuses plan stepId status other = some s → s ∈ satisfiedStatuses := by
  rw [← statusOf_settled hmem]
  exact allStepsFinished_iff (plan.withSteps plan.status _ plan.updatedAt hlinks)

inductive Transition (plan : Plan) :
    PlanOperation → PlanStatus → (String → Option PlanStepStatus) → Prop where
  | planStarted (h : plan.status ∈ [PlanStatus.draft, .ready]) :
      Transition plan .startPlan .inProgress (statusOf plan.steps)
  | stepStarted (stepId : String) (hplan : plan.status = .inProgress)
      (h : statusOf plan.steps stepId = some .ready) :
      Transition plan (.startStep stepId) .inProgress
        (Function.update (statusOf plan.steps) stepId (some .inProgress))
  | stepCompleted (stepId : String) (status : PlanStatus) (hplan : plan.status ∉ terminalStatuses)
      (h : statusOf plan.steps stepId = some .inProgress)
      (hstatus : status = .completed ∧ (∀ other s, settledStatuses plan stepId .completed other =
          some s → s ∈ satisfiedStatuses) ∨
        status = .inProgress ∧ ∃ other s, settledStatuses plan stepId .completed other = some s ∧
          s ∉ satisfiedStatuses) :
      Transition plan (.completeStep stepId) status (settledStatuses plan stepId .completed)
  | stepFailed (stepId : String) (hplan : plan.status ∉ terminalStatuses)
      (h : statusOf plan.steps stepId = some .inProgress) :
      Transition plan (.failStep stepId) .failed
        (Function.update (statusOf plan.steps) stepId (some .failed))
  | stepSkipped (stepId : String) (status : PlanStatus) (old : PlanStepStatus)
      (hplan : plan.status ∉ terminalStatuses) (h : statusOf plan.steps stepId = some old)
      (hold : old ∈ [PlanStepStatus.pending, .ready])
      (hstatus : status = .completed ∧ (∀ other s, settledStatuses plan stepId .skipped other =
          some s → s ∈ satisfiedStatuses) ∨
        status = plan.status ∧ ∃ other s, settledStatuses plan stepId .skipped other = some s ∧
          s ∉ satisfiedStatuses) :
      Transition plan (.skipStep stepId) status (settledStatuses plan stepId .skipped)
  | planCancelled (hplan : plan.status ∉ terminalStatuses) :
      Transition plan .cancelPlan .cancelled
        fun stepId => (statusOf plan.steps stepId).map cancelledStatus

structure Changed (plan : Plan) (operation : PlanOperation) (clock : Datetime) (next : Plan) :
    Prop where
  planId : next.planId = plan.planId
  goal : next.goal = plan.goal
  createdAt : next.createdAt = plan.createdAt
  updatedAt : next.updatedAt = clock
  drafts : next.drafts = plan.drafts
  links : next.links = plan.links
  accepts : Accepts next
  transition : Transition plan operation next.status (statusOf next.steps)

variable {operation : PlanOperation}

theorem Changed.withSteps {status : PlanStatus} {steps : List PlanStep} {now : Datetime}
    {hlinks : steps.map PlanStep.link = plan.links} (hnow : validatedNow clock = .ok now)
    (h : result (plan.withSteps status steps now hlinks) changedStepIds = .ok answer)
    (hdrafts : steps.map (·.toPlanStepDraft) = plan.drafts)
    (htransition : Transition plan operation status (statusOf steps)) :
    Changed plan operation clock answer.plan := by
  obtain ⟨hplan, haccepts⟩ := result_eq_ok h
  rw [hplan]
  exact ⟨rfl, rfl, rfl, validatedNow_eq_ok hnow, hdrafts, hlinks, haccepts, htransition⟩

variable {planStatus : PlanStatus}

theorem settled_cases (other : PlanStatus)
    (hmem : stepId ∈ plan.stepIds)
    (hlinks : (activateEligibleSteps (replaceStatus plan.steps stepId status)).1.map PlanStep.link =
      plan.links)
    (hstatus : (if allStepsFinished (activateEligibleSteps
      (replaceStatus plan.steps stepId status)).1 then .completed else other) = planStatus) :
    planStatus = .completed ∧ (∀ other s, settledStatuses plan stepId status other =
        some s → s ∈ satisfiedStatuses) ∨
      planStatus = other ∧ ∃ other s, settledStatuses plan stepId status other = some s ∧
        s ∉ satisfiedStatuses := by
  have hfinished := allStepsFinished_settled hmem hlinks
  split at hstatus
  next hall => exact .inl ⟨hstatus.symm, hfinished.mp hall⟩
  next hall =>
    rw [hfinished] at hall
    push Not at hall
    exact .inr ⟨hstatus.symm, hall⟩

theorem changed_of_apply
    (h : operation.apply plan clock = .ok answer) : Changed plan operation clock answer.plan := by
  cases operation with
  | startPlan =>
    obtain ⟨hdraft, h⟩ := raiseIf_bind_eq_ok.mp h
    obtain ⟨now, hnow, h⟩ := bind_eq_ok.mp h
    exact .withSteps hnow h rfl (.planStarted (not_not.mp hdraft))
  | startStep stepId =>
    obtain ⟨_, _, h⟩ := bind_eq_ok.mp h
    obtain ⟨hplan, h⟩ := raiseIf_bind_eq_ok.mp h
    obtain ⟨target, htarget, h⟩ := bind_eq_ok.mp h
    obtain ⟨hready, h⟩ := raiseIf_bind_eq_ok.mp h
    obtain ⟨now, hnow, h⟩ := bind_eq_ok.mp h
    have hstatus := getStep_eq_ok htarget
    rw [not_not.mp hready] at hstatus
    refine .withSteps hnow h drafts_replaceStatus ?_
    rw [statusOf_replaceStatus (mem_stepIds_of_status hstatus)]
    exact .stepStarted stepId (not_not.mp hplan) hstatus
  | completeStep stepId =>
    obtain ⟨_, hactive, h⟩ := bind_eq_ok.mp h
    obtain ⟨target, htarget, h⟩ := bind_eq_ok.mp h
    obtain ⟨hprogress, h⟩ := raiseIf_bind_eq_ok.mp h
    obtain ⟨now, hnow, h⟩ := bind_eq_ok.mp h
    have hstatus := getStep_eq_ok htarget
    rw [not_not.mp hprogress] at hstatus
    have hmem := mem_stepIds_of_status hstatus
    refine .withSteps hnow h drafts_settled ?_
    rw [completedSteps, statusOf_settled hmem]
    exact .stepCompleted stepId _ (raiseIf_eq_ok.mp hactive) hstatus
      (settled_cases .inProgress hmem link_completedSteps rfl)
  | failStep stepId =>
    obtain ⟨_, hactive, h⟩ := bind_eq_ok.mp h
    obtain ⟨target, htarget, h⟩ := bind_eq_ok.mp h
    obtain ⟨hprogress, h⟩ := raiseIf_bind_eq_ok.mp h
    obtain ⟨now, hnow, h⟩ := bind_eq_ok.mp h
    have hstatus := getStep_eq_ok htarget
    rw [not_not.mp hprogress] at hstatus
    refine .withSteps hnow h drafts_replaceStatus ?_
    rw [statusOf_replaceStatus (mem_stepIds_of_status hstatus)]
    exact .stepFailed stepId (raiseIf_eq_ok.mp hactive) hstatus
  | skipStep stepId =>
    obtain ⟨_, hactive, h⟩ := bind_eq_ok.mp h
    obtain ⟨target, htarget, h⟩ := bind_eq_ok.mp h
    obtain ⟨hold, h⟩ := raiseIf_bind_eq_ok.mp h
    obtain ⟨now, hnow, h⟩ := bind_eq_ok.mp h
    have hstatus := getStep_eq_ok htarget
    have hmem := mem_stepIds_of_status hstatus
    refine .withSteps hnow h drafts_settled ?_
    rw [skippedSteps, statusOf_settled hmem]
    exact .stepSkipped stepId _ _ (raiseIf_eq_ok.mp hactive) hstatus (not_not.mp hold)
      (settled_cases plan.status hmem link_skippedSteps rfl)
  | cancelPlan =>
    obtain ⟨_, hactive, h⟩ := bind_eq_ok.mp h
    obtain ⟨now, hnow, h⟩ := bind_eq_ok.mp h
    refine .withSteps hnow h (drafts_cancelledSteps plan.steps) ?_
    have hsteps : statusOf (cancelledSteps plan.steps) =
        fun stepId => (statusOf plan.steps stepId).map cancelledStatus :=
      funext (statusOf_cancelledSteps plan.steps)
    rw [hsteps]
    exact .planCancelled (raiseIf_eq_ok.mp hactive)

/-! ## The invariant -/

def Moves (old new : PlanStepStatus) : Prop :=
  old = new ∨ (old, new) ∈ [(PlanStepStatus.pending, PlanStepStatus.ready), (.ready, .inProgress),
    (.inProgress, .completed), (.inProgress, .failed), (.pending, .skipped), (.ready, .skipped),
    (.inProgress, .skipped)]

instance : DecidableRel Moves := fun _ _ => inferInstanceAs (Decidable (_ ∨ _))

def releasedStatuses : List PlanStepStatus := [.ready, .inProgress, .completed, .failed]

/-- Steps come behind their dependencies, and while the plan is not terminal no step is left
behind. -/
structure Coherent (links : PlanLinks) (planStatus : PlanStatus)
    (status : String → Option PlanStepStatus) : Prop where
  behind : ∀ stepId s, status stepId = some s → s ∈ releasedStatuses →
    ∀ dependency ∈ links.dependencies stepId, Satisfied (status dependency)
  waiting : planStatus ∉ terminalStatuses → ∀ stepId, status stepId = some .pending →
    ∃ dependency ∈ links.dependencies stepId, ¬Satisfied (status dependency)
  unfinished : planStatus ∉ terminalStatuses →
    ∃ stepId s, status stepId = some s ∧ s ∉ satisfiedStatuses

section

variable {links : PlanLinks} {status : String → Option PlanStepStatus} {dependency : String}

theorem satisfied_update_of_satisfied {s : PlanStepStatus}
    (hs : s ∈ satisfiedStatuses) (h : Satisfied (status dependency)) :
    Satisfied (Function.update status stepId (some s) dependency) := by
  by_cases heq : dependency = stepId
  · rw [heq, Function.update_self]
    simpa [Satisfied] using hs
  · rwa [Function.update_of_ne heq]

theorem not_satisfied_activated (h : ¬Satisfied (status dependency)) :
    ¬Satisfied (activated links status dependency) := by
  rcases activated_cases links status dependency with ⟨hready, _⟩ | hsame
  · rw [hready]
    decide
  · rwa [hsame]

variable {planStatus : PlanStatus} {old s : PlanStepStatus}

theorem Coherent.settled (h : Coherent links planStatus status)
    (hold : status stepId = some old) (hs : s ∈ satisfiedStatuses)
    (hreleased : s ∈ releasedStatuses → old ∈ releasedStatuses) {planStatus' : PlanStatus}
    (hunfinished : planStatus' ∉ terminalStatuses →
      ∃ other t, activated links (Function.update status stepId (some s)) other = some t ∧
        t ∉ satisfiedStatuses) :
    Coherent links planStatus' (activated links (Function.update status stepId (some s))) := by
  refine ⟨fun other t hother ht dependency hneeds => ?_, fun _ other hpending => ?_, hunfinished⟩
  · have hsatisfied : Satisfied (Function.update status stepId (some s) dependency) := by
      rcases activated_cases links (Function.update status stepId (some s)) other with
        ⟨_, hdependencies⟩ | hsame
      · exact hdependencies dependency hneeds
      · rw [hsame] at hother
        refine satisfied_update_of_satisfied hs ?_
        by_cases heq : other = stepId
        · subst heq
          rw [Function.update_self, Option.some.injEq] at hother
          subst hother
          exact h.behind other old hold (hreleased ht) dependency hneeds
        · rw [Function.update_of_ne heq] at hother
          exact h.behind other t hother ht dependency hneeds
    rwa [activated_eq_of_satisfied hsatisfied]
  · have heligible : ¬(Function.update status stepId (some s) other = some .pending ∧
        ∀ dependency ∈ links.dependencies other,
          (Function.update status stepId (some s) dependency).any (· ∈ satisfiedStatuses)) := by
      intro heligible
      rw [activated, if_pos heligible] at hpending
      cases hpending
    rw [activated, if_neg heligible] at hpending
    rw [not_and] at heligible
    have hnot := heligible hpending
    push Not at hnot
    obtain ⟨dependency, hneeds, hdependency⟩ := hnot
    exact ⟨dependency, hneeds, not_satisfied_activated hdependency⟩

theorem moves_activated (other : String) {s t : PlanStepStatus} (hs : status other = some s)
    (ht : activated links status other = some t) : Moves s t := by
  rw [activated] at ht
  split at ht
  next heligible =>
    rw [hs] at heligible
    cases ht
    cases heligible.1
    decide
  next =>
    rw [hs] at ht
    cases ht
    exact .inl rfl

variable {before after : PlanStepStatus}

theorem moves_settled (hold : status stepId = some old) (hmoves : Moves old s) (hs : s ≠ .pending)
    (other : String) (hbefore : status other = some before)
    (hafter : activated links (Function.update status stepId (some s)) other = some after) :
    Moves before after := by
  by_cases heq : other = stepId
  · subst heq
    rw [hold] at hbefore
    cases hbefore
    have hnot : ¬(Function.update status other (some s) other = some .pending ∧
        ∀ dependency ∈ links.dependencies other,
          (Function.update status other (some s) dependency).any (· ∈ satisfiedStatuses)) := by
      rw [Function.update_self, Option.some.injEq]
      exact fun h => hs h.1
    rw [activated, if_neg hnot, Function.update_self, Option.some.injEq] at hafter
    rwa [← hafter]
  · have hkept : Function.update status stepId (some s) other = some before := by
      rwa [Function.update_of_ne heq]
    exact moves_activated other hkept hafter

theorem moves_update (hold : status stepId = some old) (hmoves : Moves old s) (other : String)
    (hbefore : status other = some before)
    (hafter : Function.update status stepId (some s) other = some after) : Moves before after := by
  by_cases heq : other = stepId
  · subst heq
    rw [hold] at hbefore
    rw [Function.update_self] at hafter
    cases hbefore
    cases hafter
    exact hmoves
  · rw [Function.update_of_ne heq, hbefore] at hafter
    cases hafter
    exact .inl rfl

theorem Coherent.started (h : Coherent links .inProgress status)
    (hready : status stepId = some .ready) :
    Coherent links .inProgress (Function.update status stepId (some .inProgress)) := by
  refine ⟨fun other s hother hs dependency hneeds => ?_, fun hplan other hpending => ?_,
    fun _ => ⟨stepId, .inProgress, Function.update_self .., by decide⟩⟩
  · refine satisfied_update ?_ (by rw [hready]; decide)
    by_cases heq : other = stepId
    · subst heq
      exact h.behind other .ready hready (by decide) dependency hneeds
    · rw [Function.update_of_ne heq] at hother
      exact h.behind other s hother hs dependency hneeds
  · have hne : other ≠ stepId := by
      rintro rfl
      rw [Function.update_self] at hpending
      cases hpending
    rw [Function.update_of_ne hne] at hpending
    obtain ⟨dependency, hneeds, hdependency⟩ := h.waiting hplan other hpending
    refine ⟨dependency, hneeds, ?_⟩
    by_cases heq : dependency = stepId
    · rw [heq, Function.update_self]
      decide
    · rwa [Function.update_of_ne heq]

theorem Coherent.failed (h : Coherent links planStatus status)
    (hactive : status stepId = some .inProgress) :
    Coherent links .failed (Function.update status stepId (some .failed)) := by
  refine ⟨fun other s hother hs dependency hneeds => ?_, fun hplan => absurd (by decide) hplan,
    fun hplan => absurd (by decide) hplan⟩
  refine satisfied_update ?_ (by rw [hactive]; decide)
  by_cases heq : other = stepId
  · subst heq
    exact h.behind other .inProgress hactive (by decide) dependency hneeds
  · rw [Function.update_of_ne heq] at hother
    exact h.behind other s hother hs dependency hneeds

theorem satisfied_cancelled (h : Satisfied (status dependency)) :
    Satisfied ((status dependency).map cancelledStatus) := by
  cases hs : status dependency with
  | none => rwa [hs] at h
  | some s =>
    rw [hs] at h
    revert h
    cases s <;> decide

theorem Coherent.cancelled (h : Coherent links planStatus status) :
    Coherent links .cancelled fun stepId => (status stepId).map cancelledStatus := by
  refine ⟨fun other s hother hs dependency hneeds => ?_, fun hplan => absurd (by decide) hplan,
    fun hplan => absurd (by decide) hplan⟩
  obtain ⟨old, hold, rfl⟩ := Option.map_eq_some_iff.mp hother
  refine satisfied_cancelled (h.behind other old hold ?_ dependency hneeds)
  revert hs
  cases old <;> decide

end

variable {status : String → Option PlanStepStatus}

theorem Coherent.step (h : Coherent plan.links plan.status (statusOf plan.steps))
    (htransition : Transition plan operation planStatus status) :
    Coherent plan.links planStatus status := by
  cases htransition with
  | planStarted hdraft =>
    have hplan : plan.status ∉ terminalStatuses := by
      revert hdraft
      cases plan.status <;> decide
    exact ⟨h.behind, fun _ => h.waiting hplan, fun _ => h.unfinished hplan⟩
  | stepStarted stepId hplan hready => exact (hplan ▸ h : Coherent _ .inProgress _).started hready
  | stepCompleted stepId _ _ hactive hstatus =>
    refine h.settled hactive (by decide) (by decide) fun hplan => ?_
    rcases hstatus with ⟨rfl, _⟩ | ⟨_, hunfinished⟩
    · exact absurd (by decide) hplan
    · exact hunfinished
  | stepFailed stepId _ hactive => exact h.failed hactive
  | stepSkipped stepId _ old _ hold _ hstatus =>
    refine h.settled hold (by decide) (fun hreleased => absurd hreleased (by decide))
      fun hplan => ?_
    rcases hstatus with ⟨rfl, _⟩ | ⟨_, hunfinished⟩
    · exact absurd (by decide) hplan
    · exact hunfinished
  | planCancelled _ => exact h.cancelled

theorem Transition.active
    (h : Transition plan operation planStatus status) : plan.status ∉ terminalStatuses := by
  cases h with
  | planStarted hdraft =>
    revert hdraft
    cases plan.status <;> decide
  | stepStarted _ hplan _ => rw [hplan]; decide
  | stepCompleted _ _ hplan _ _ => exact hplan
  | stepFailed _ hplan _ => exact hplan
  | stepSkipped _ _ _ hplan _ _ _ => exact hplan
  | planCancelled hplan => exact hplan

theorem Transition.not_failed (h : Transition plan operation planStatus status)
    (hnone : ∀ stepId, statusOf plan.steps stepId ≠ some .failed)
    (hplan : planStatus ∉ terminalStatuses) (other : String) : status other ≠ some .failed := by
  have hupdate : ∀ {stepId s}, s ≠ PlanStepStatus.failed →
      Function.update (statusOf plan.steps) stepId (some s) other ≠ some .failed := by
    intro stepId s hs
    by_cases heq : other = stepId
    · rwa [heq, Function.update_self, Ne, Option.some.injEq]
    · rw [Function.update_of_ne heq]
      exact hnone other
  have hsettled : ∀ {stepId s}, s ≠ PlanStepStatus.failed →
      settledStatuses plan stepId s other ≠ some .failed := by
    intro stepId s hs
    rcases activated_cases plan.links
      (Function.update (statusOf plan.steps) stepId (some s)) other with ⟨hready, _⟩ | hsame
    · rw [settledStatuses, hready]
      decide
    · rw [settledStatuses, hsame]
      exact hupdate hs
  cases h with
  | planStarted _ => exact hnone other
  | stepStarted _ _ _ => exact hupdate (by decide)
  | stepCompleted _ _ _ _ _ => exact hsettled (by decide)
  | stepFailed _ _ _ => exact absurd (by decide) hplan
  | stepSkipped _ _ _ _ _ _ _ => exact hsettled (by decide)
  | planCancelled _ => exact absurd (by decide) hplan

theorem Transition.moves (h : Transition plan operation planStatus status) (other : String)
    {before after : PlanStepStatus} (hbefore : statusOf plan.steps other = some before)
    (hafter : status other = some after) : Moves before after := by
  cases h with
  | planStarted _ =>
    rw [hbefore] at hafter
    cases hafter
    exact .inl rfl
  | stepStarted _ _ hready => exact moves_update hready (by decide) other hbefore hafter
  | stepCompleted _ _ _ hactive _ =>
    exact moves_settled hactive (by decide) (by decide) other hbefore hafter
  | stepFailed _ _ hactive => exact moves_update hactive (by decide) other hbefore hafter
  | stepSkipped _ _ old _ hstatus hold _ =>
    refine moves_settled hstatus ?_ (by decide) other hbefore hafter
    revert hold
    cases old <;> decide
  | planCancelled _ =>
    change (statusOf plan.steps other).map cancelledStatus = some after at hafter
    rw [hbefore, Option.map_some, Option.some.injEq] at hafter
    rw [← hafter]
    cases before <;> decide

theorem Transition.completed_iff (h : Transition plan operation planStatus status)
    (hcoherent : Coherent plan.links plan.status (statusOf plan.steps)) :
    planStatus = .completed ↔ operation ≠ .cancelPlan ∧
      ∀ stepId s, status stepId = some s → s ∈ satisfiedStatuses := by
  cases h with
  | planStarted hdraft =>
    refine iff_of_false (by decide) fun hall => ?_
    obtain ⟨stepId, s, hs, hunfinished⟩ := hcoherent.unfinished
      (by revert hdraft; cases plan.status <;> decide)
    exact hunfinished (hall.2 stepId s hs)
  | stepStarted stepId _ _ =>
    refine iff_of_false (by decide) fun hall => ?_
    exact absurd (hall.2 stepId .inProgress (Function.update_self ..)) (by decide)
  | stepCompleted _ _ _ _ hstatus =>
    rcases hstatus with ⟨rfl, hall⟩ | ⟨rfl, other, s, hs, hunfinished⟩
    · exact iff_of_true rfl ⟨by simp, hall⟩
    · exact iff_of_false (by decide) fun hall => hunfinished (hall.2 other s hs)
  | stepFailed stepId _ _ =>
    refine iff_of_false (by decide) fun hall => ?_
    exact absurd (hall.2 stepId .failed (Function.update_self ..)) (by decide)
  | stepSkipped _ _ _ hplan _ _ hstatus =>
    rcases hstatus with ⟨rfl, hall⟩ | ⟨rfl, other, s, hs, hunfinished⟩
    · exact iff_of_true rfl ⟨by simp, hall⟩
    · refine iff_of_false (fun hcompleted => hplan ?_) fun hall => hunfinished (hall.2 other s hs)
      rw [hcompleted]
      decide
  | planCancelled _ => exact iff_of_false (by decide) fun hall => hall.1 rfl

end PlanLifecycleService

namespace PlanFactory

open PlanLifecycleService

variable {casefold : Casefold} {request : PlanCreationRequest casefold}
  {drafts : List PlanStepDraft} {clock : Datetime} {planId : String} {created : CreatedPlan}

theorem coherent_created (h : create request drafts clock planId = .ok created) :
    Coherent created.plan.links created.plan.status (statusOf created.plan.steps) := by
  refine ⟨fun stepId s hs hreleased dependency hneeds => ?_, fun _ stepId hpending => ?_,
    fun _ => ?_⟩
  · have hstatus := statusOf_materialized h hs
    by_cases hnone : created.plan.links.dependencies stepId = []
    · rw [hnone] at hneeds
      exact absurd hneeds List.not_mem_nil
    · rw [hstatus, if_neg hnone] at hreleased
      exact absurd hreleased (by decide)
  · have hstatus := statusOf_materialized h hpending
    by_cases hnone : created.plan.links.dependencies stepId = []
    · simp [hnone] at hstatus
    · obtain ⟨dependency, hmem⟩ := List.exists_mem_of_ne_nil _ hnone
      refine ⟨dependency, hmem, fun hsatisfied => ?_⟩
      cases hs : statusOf created.plan.steps dependency with
      | none =>
        rw [hs] at hsatisfied
        exact absurd hsatisfied (by decide)
      | some s =>
        rw [hs, statusOf_materialized h hs] at hsatisfied
        split at hsatisfied <;> exact absurd hsatisfied (by decide)
  · obtain ⟨step, hstep⟩ := List.exists_mem_of_ne_nil _ created.plan.nonempty
    refine ⟨step.stepId, step.status, statusOf_of_mem hstep, ?_⟩
    rw [statusOf_materialized h (statusOf_of_mem hstep)]
    split <;> decide

structure Reached (created : Plan) (drafts : List PlanStepDraft) (plan : Plan) : Prop where
  planId : plan.planId = created.planId
  createdAt : plan.createdAt = created.createdAt
  drafts : plan.drafts = drafts
  coherent : Coherent plan.links plan.status (statusOf plan.steps)

variable {start plan : Plan}

theorem Reached.step {operation : PlanOperation} {now : Datetime}
    {next : Plan} (h : Reached start drafts plan) (hchanged : Changed plan operation now next) :
    Reached start drafts next where
  planId := hchanged.planId.trans h.planId
  createdAt := hchanged.createdAt.trans h.createdAt
  drafts := hchanged.drafts.trans h.drafts
  coherent := by
    rw [hchanged.links]
    exact h.coherent.step hchanged.transition

theorem Reached.planAfter (h : Reached start drafts plan)
    (calls : List (PlanOperation × Datetime)) : Reached start drafts (planAfter plan calls) := by
  induction calls generalizing plan with
  | nil => exact h
  | cons call calls ih =>
    rw [PlanLifecycleService.planAfter]
    cases hcall : call.1.apply plan call.2 with
    | ok answer => exact ih (h.step (changed_of_apply hcall))
    | error failure => exact ih h

theorem reached_created (h : create request drafts clock planId = .ok created) :
    Reached created.plan drafts created.plan where
  planId := rfl
  createdAt := rfl
  drafts := by
    rw [Plan.drafts, (create_eq_ok h).1, materializeSteps, List.map_map]
    exact List.map_id _
  coherent := coherent_created h

/-- Every call that returns, behind any calls on a new plan, takes one step of the lifecycle. -/
theorem lifecycle_step (h : create request drafts clock planId = .ok created)
    (calls : List (PlanOperation × Datetime)) (operation : PlanOperation) (now : Datetime)
    (hclock : (clock :: (calls.map Prod.snd ++ [now])).Pairwise fun a b => ¬b < a)
    {answer : PlanLifecycleResult}
    (hanswer : operation.apply (planAfter created.plan calls) now = .ok answer) :
    PlanRunner.Valid answer.plan ∧ ¬answer.plan.updatedAt < answer.plan.createdAt ∧
      answer.plan.drafts = drafts ∧
      (planAfter created.plan calls).status ∉ terminalStatuses ∧
      (∀ stepId before after, statusOf (planAfter created.plan calls).steps stepId = some before →
        statusOf answer.plan.steps stepId = some after → Moves before after) ∧
      Coherent answer.plan.links answer.plan.status (statusOf answer.plan.steps) ∧
      (answer.plan.status = .completed ↔ operation ≠ .cancelPlan ∧
        ∀ step ∈ answer.plan.steps, step.status ∈ satisfiedStatuses) := by
  have hbefore := (reached_created h).planAfter calls
  have hchanged := changed_of_apply hanswer
  have hafter := hbefore.step hchanged
  refine ⟨PlanRunner.valid_iff.mpr hchanged.accepts, ?_, hafter.drafts,
    hchanged.transition.active, fun stepId before after => hchanged.transition.moves stepId,
    hafter.coherent, ?_⟩
  · rw [hchanged.updatedAt, hafter.createdAt, (create_eq_ok h).2.2.2]
    exact (List.pairwise_cons.mp hclock).1 now (by simp)
  · rw [hchanged.transition.completed_iff hbefore.coherent]
    refine and_congr_right fun _ => ⟨fun hall step hstep => ?_, fun hall stepId s hs => ?_⟩
    · exact hall step.stepId step.status (statusOf_of_mem hstep)
    · obtain ⟨step, hstep, _, rfl⟩ := statusOf_eq_some.mp hs
      exact hall step hstep

def sampleCalls : List (PlanOperation × Datetime) :=
  [(.startPlan, PlanRunner.sampleClock), (.startStep "step-001", PlanRunner.sampleClock)]

theorem lifecycle_step_of_first : ∃ created answer,
    create sampleRequest [sampleFirst, sampleSecond] PlanRunner.sampleClock "plan-001" =
      .ok created ∧
    (PlanOperation.completeStep "step-001").apply (planAfter created.plan sampleCalls)
      PlanRunner.sampleClock = .ok answer ∧
    Coherent answer.plan.links answer.plan.status (statusOf answer.plan.steps) := by
  have hanswered : ((create sampleRequest [sampleFirst, sampleSecond] PlanRunner.sampleClock
      "plan-001").toOption.bind fun created => ((PlanOperation.completeStep "step-001").apply
        (planAfter created.plan sampleCalls) PlanRunner.sampleClock).toOption).isSome = true := by
    decide +kernel
  cases hcreate : create sampleRequest [sampleFirst, sampleSecond] PlanRunner.sampleClock
      "plan-001" with
  | error failure =>
    rw [hcreate] at hanswered
    cases hanswered
  | ok created =>
    cases hanswer : (PlanOperation.completeStep "step-001").apply
        (planAfter created.plan sampleCalls) PlanRunner.sampleClock with
    | error failure =>
      rw [hcreate] at hanswered
      simp only [Except.toOption, Option.bind_some, hanswer] at hanswered
      cases hanswered
    | ok answer =>
      have hstep := lifecycle_step hcreate sampleCalls (.completeStep "step-001")
        PlanRunner.sampleClock (by decide +kernel) hanswer
      exact ⟨created, answer, rfl, hanswer, hstep.2.2.2.2.2.1⟩

/-- A plan that is under way is accepted, and none of its steps has failed. -/
structure Sound (plan : Plan) : Prop where
  accepts : plan.status = .inProgress → Accepts plan
  noFailure : plan.status ∉ terminalStatuses → ∀ stepId, statusOf plan.steps stepId ≠ some .failed

theorem Sound.planAfter (h : Sound plan) (calls : List (PlanOperation × Datetime)) :
    Sound (planAfter plan calls) := by
  induction calls generalizing plan with
  | nil => exact h
  | cons call calls ih =>
    rw [PlanLifecycleService.planAfter]
    cases hcall : call.1.apply plan call.2 with
    | ok answer =>
      have hchanged := changed_of_apply hcall
      exact ih ⟨fun _ => hchanged.accepts,
        hchanged.transition.not_failed (h.noFailure hchanged.transition.active)⟩
    | error failure => exact ih h

theorem sound_created (h : create request drafts clock planId = .ok created) :
    Sound created.plan := by
  refine ⟨fun hplan => ?_, fun _ stepId hfailed => ?_⟩
  · rw [(create_eq_ok h).2.1] at hplan
    cases hplan
  · have hstatus := statusOf_materialized h hfailed
    split at hstatus <;> cases hstatus

end PlanFactory

end AgenticLab
