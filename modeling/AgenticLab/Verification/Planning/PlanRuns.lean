import AgenticLab.Model.Planning.PlanRunner
import AgenticLab.Verification.Planning.PlanLifecycle

/-! # Runs of plans

A run of an accepted plan gives a result exactly when no step fails next to another active one. -/

namespace AgenticLab

open PlanValidator (statusOf statusOf_eq_some Accepts validate validate_spec activeStatuses)
open PlanLifecycleService (completeStep failStep startStep_spec completeStep_spec failStep_spec
  StartedFrom CompletedFrom mem_stepIds_of_status)

namespace PlanStepExecutor

variable (registry : String → Option ToolAnswer) (step : PlanStep)

@[simp] theorem answer_stepId : (answer registry step).stepId = step.stepId := by
  unfold answer
  split
  · rfl
  · split
    · rfl
    · split
      · rfl
      · rfl
      · split
        · rfl
        · split <;> rfl

theorem validateResult_of {result : PlanStepExecutionResult}
    (hstep : isBlank result.stepId = false) (htool : result.toolName.any isBlank = false)
    (herror : result.errorMessage.any isBlank = false)
    (hstatus : if result.status = .succeeded then
      result.toolResult.isSome = true ∧ result.errorMessage = none
      else result.errorMessage.isSome = true)
    (hname : ∀ tool ∈ result.toolResult, result.toolName = some tool.toolName) :
    result.validateResult = .ok () := by
  have hstep' : requireTexts [("step_id", result.stepId)] = .ok () := by
    simp [requireTexts, raiseIf, hstep]
  have htool' : requireOptionalText "tool_name" result.toolName = .ok () :=
    raiseIf_eq_ok.mpr (by simp [htool])
  have herror' : requireOptionalText "error_message" result.errorMessage = .ok () :=
    raiseIf_eq_ok.mpr (by simp [herror])
  rw [PlanStepExecutionResult.validateResult, hstep', ok_bind, htool', ok_bind, herror', ok_bind]
  refine raiseIf_bind_eq_ok.mpr ⟨?_, raiseIf_bind_eq_ok.mpr ⟨?_, raiseIf_bind_eq_ok.mpr ⟨?_,
    raiseIf_eq_ok.mpr ?_⟩⟩⟩
  · rintro ⟨hsucceeded, hnone⟩
    rw [if_pos hsucceeded, Option.isNone_iff_eq_none.mp hnone] at hstatus
    exact absurd hstatus.1 (by decide)
  · rintro ⟨hsucceeded, hsome⟩
    rw [if_pos hsucceeded] at hstatus
    simp [hstatus.2] at hsome
  · rintro ⟨hfailed, hnone⟩
    rw [if_neg hfailed, Option.isNone_iff_eq_none.mp hnone] at hstatus
    exact absurd hstatus (by decide)
  · rintro ⟨tool, hmem, hne⟩
    exact hne (hname tool hmem)

theorem execute_eq_ok : execute registry step = .ok (answer registry step) := by
  obtain ⟨_, _, hrest⟩ := bind_eq_ok.mp step.valid
  obtain ⟨_, htool, _⟩ := bind_eq_ok.mp hrest
  have htool' : step.toolName.any isBlank = false := by
    simpa [requireOptionalText] using htool
  suffices hvalid : (answer registry step).validateResult = .ok () by
    rw [execute, hvalid]
    rfl
  have hnone : ∀ {toolName : Option String}, ∀ tool ∈ (none : Option ToolExecutionResult),
      toolName = some tool.toolName := fun _ h => absurd h (Option.not_mem_none _)
  unfold answer
  split
  · refine validateResult_of step.isBlank_stepId htool' ?_ rfl hnone
    exact isBlank_append (isBlank_append (isBlank_append (by decide +kernel)))
  · cases htoolName : step.toolName with
    | none =>
      refine validateResult_of step.isBlank_stepId rfl ?_ rfl hnone
      exact isBlank_append (isBlank_append (by decide +kernel))
    | some toolName =>
      rw [htoolName] at htool'
      dsimp only
      cases hregistry : registry toolName with
      | none =>
        dsimp only
        exact validateResult_of step.isBlank_stepId htool'
          (isBlank_append (by decide +kernel)) rfl hnone
      | some toolAnswer =>
        cases toolAnswer with
        | raises name message =>
          dsimp only
          refine validateResult_of step.isBlank_stepId htool' ?_ rfl hnone
          exact isBlank_append (isBlank_append (isBlank_append (by decide +kernel)))
        | returns result =>
          obtain ⟨_, herror, hstatus⟩ := result.valid
          dsimp only
          by_cases hname : result.toolName = toolName
          · rw [if_neg (not_not.mpr hname)]
            have hsame : ∀ tool ∈ some result, some toolName = some tool.toolName := by
              simp [hname]
            by_cases hfailed : result.status = .failed
            · rw [if_pos hfailed]
              have hsome : result.errorMessage.isSome = true := by
                rw [Option.isSome_iff_ne_none]
                intro hnone
                cases hfailed.symm.trans (hstatus.mpr hnone)
              exact validateResult_of step.isBlank_stepId htool' herror hsome hsame
            · rw [if_neg hfailed]
              exact validateResult_of step.isBlank_stepId htool' rfl ⟨rfl, rfl⟩ hsame
          · rw [if_pos hname]
            have htext : isBlank "tool returned a mismatched tool name" = false := by
              decide +kernel
            exact validateResult_of step.isBlank_stepId htool' htext rfl hnone

end PlanStepExecutor

/-! ## One cycle -/

def ExecutorCall.Alone (call : ExecutorCall) : Prop :=
  ∀ step ∈ call.plan.steps, step.stepId ≠ call.step.stepId → step.status ∉ activeStatuses

def ExecutorCall.Fails (call : ExecutorCall) (turn : StepTurn) : Prop :=
  (PlanStepExecutor.answer turn.registry call.step).status ≠ .succeeded

def FailuresAlone (turns : ℕ → StepTurn) (calls : List ExecutorCall) : Prop :=
  ∀ (index : ℕ) (call : ExecutorCall), calls[index]? = some call → call.Fails (turns index) →
    call.Alone

theorem failuresAlone_concat {turns : ℕ → StepTurn} {calls : List ExecutorCall}
    {call : ExecutorCall} :
    FailuresAlone turns (calls ++ [call]) ↔
      FailuresAlone turns calls ∧ (call.Fails (turns calls.length) → call.Alone) := by
  constructor
  · intro h
    refine ⟨fun index other hother => h index other ?_, h calls.length call (by simp)⟩
    rw [List.getElem?_append_left (List.getElem?_eq_some_iff.mp hother).1]
    exact hother
  · rintro ⟨hcalls, hcall⟩ index other hother
    by_cases hlt : index < calls.length
    · rw [List.getElem?_append_left hlt] at hother
      exact hcalls index other hother
    · rw [List.getElem?_append_right (not_lt.mp hlt), List.getElem?_singleton] at hother
      split at hother
      · rename_i hzero
        cases hother
        rwa [show index = calls.length by omega]
      · cases hother

def UtcTurns (turns : ℕ → StepTurn) : Prop :=
  ∀ index, (turns index).started.IsUtc ∧ (turns index).ended.IsUtc

namespace PlanExecutionService

variable {turns : ℕ → StepTurn} {plan : Plan} {stepId : String} {calls : List ExecutorCall}

theorem getStep_of_statusOf {status : PlanStepStatus}
    (h : statusOf plan.steps stepId = some status) :
    ∃ step, getStep plan stepId = .ok step ∧ step.stepId = stepId ∧ step.status = status ∧
      step ∈ plan.steps := by
  obtain ⟨step, hfind, hstatus⟩ := Option.map_eq_some_iff.mp h
  refine ⟨step, ?_, by simpa using List.find?_some hfind, hstatus, List.mem_of_find?_eq_some hfind⟩
  rw [getStep, hfind]

variable (turns) in
def settle (plan : Plan) (stepId : String) (rest : List String) (turn : StepTurn)
    (execution : PlanStepExecutionResult) :
    PlanProgram (Plan × List PlanStepExecutionResult × PlanExecutionStatus) :=
  if execution.status = .succeeded then do
    let completed ← completeStep plan stepId turn.ended
    let (plan, results, status) ← executeSteps turns completed.plan rest
    return (plan, execution :: results, status)
  else do
    let failed ← failStep plan stepId turn.ended
    return (failed.plan, [execution], .stepFailed)

theorem executeSteps_cons (rest : List String) (calls : List ExecutorCall) (h : Accepts plan)
    (hplan : plan.status = .inProgress)
    (hready : statusOf plan.steps stepId = some .ready) (hturns : UtcTurns turns) :
    ∃ started step, StartedFrom plan stepId started ∧ step.stepId = stepId ∧
      step.status = .inProgress ∧ step ∈ started.steps ∧
      executeSteps turns plan (stepId :: rest) calls =
        settle turns started stepId rest (turns calls.length)
          (PlanStepExecutor.answer (turns calls.length).registry step)
          (calls ++ [⟨started, step⟩]) := by
  obtain ⟨_, hget, _⟩ := getStep_of_statusOf hready
  obtain ⟨started, hstart, hstarted⟩ := startStep_spec h hplan hready (hturns calls.length).1
  have hactive : statusOf started.plan.steps stepId = some .inProgress := by
    rw [hstarted.steps, Function.update_self]
  obtain ⟨step, hstep, hid, hstatus, hmem⟩ := getStep_of_statusOf hactive
  refine ⟨started.plan, step, hstarted, hid, hstatus, hmem, ?_⟩
  have hcall : callExecutor started.plan step (turns calls.length) calls =
      (.ok (PlanStepExecutor.answer (turns calls.length).registry step),
        calls ++ [⟨started.plan, step⟩]) := by
    rw [callExecutor, PlanStepExecutor.execute_eq_ok]
  have hturn : nextTurn turns calls = (.ok (turns calls.length), calls) := rfl
  rw [executeSteps, Stateful.run_lift_bind_of_ok hget, Stateful.run_bind_of_ok hturn,
    Stateful.run_lift_bind_of_ok hstart, Stateful.run_lift_bind_of_ok hstep,
    Stateful.run_bind_of_ok hcall]
  rfl

structure Cycle (plan : Plan) (selected : List String)
    (answer : Plan × List PlanStepExecutionResult × PlanExecutionStatus) : Prop where
  links : answer.1.links = plan.links
  accepts : Accepts answer.1
  status : answer.1.status ∈ [PlanStatus.inProgress, .completed, .failed]
  results : (answer.2.1.map (·.stepId)) <+: selected
  nonempty : selected ≠ [] → answer.2.1 ≠ []
  scheduled : answer.2.2 ≠ .nothingScheduled

/-- A loop over ready steps returns while failing steps are alone, and raises when one is not. -/
def Settles (turns : ℕ → StepTurn) {α : Type} (good : α → Prop)
    (out : Except Raised α × List ExecutorCall) : Prop :=
  (∃ a, out.1 = .ok a ∧ good a ∧ FailuresAlone turns out.2) ∨
    (∃ message, out.1 = .error ⟨.planLifecycleError, message⟩ ∧ ¬FailuresAlone turns out.2)

theorem Settles.bind {α β : Type} {good : α → Prop} {good' : β → Prop} {x : PlanProgram α}
    {f : α → PlanProgram β} (h : Settles turns good (x calls))
    (hf : ∀ a later, good a → FailuresAlone turns later → Settles turns good' (f a later)) :
    Settles turns good' ((x >>= f) calls) := by
  rcases h with ⟨a, hok, hgood, halone⟩ | ⟨message, herror, hnot⟩
  · rw [Stateful.run_bind_of_ok (Prod.ext hok rfl)]
    exact hf a _ hgood halone
  · rw [Stateful.run_bind_of_error (Prod.ext herror rfl)]
    exact .inr ⟨message, rfl, hnot⟩

theorem ready_of_completed {started completed : Plan} {other : String}
    (hstarted : StartedFrom plan stepId started)
    (hcompleted : CompletedFrom started stepId completed) (hne : other ≠ stepId)
    (hready : statusOf plan.steps other = some .ready) :
    statusOf completed.steps other = some .ready ∧ completed.status = .inProgress := by
  have hother : PlanLifecycleService.completedStatuses started stepId other = some .ready := by
    have hbefore : Function.update (statusOf started.steps) stepId (some .completed) other =
        some .ready := by
      rw [Function.update_of_ne hne, hstarted.steps, Function.update_of_ne hne, hready]
    rcases PlanLifecycleService.activated_cases started.links
      (Function.update (statusOf started.steps) stepId (some .completed)) other with
      ⟨hactivated, _⟩ | hsame
    · exact hactivated
    · exact hsame.trans hbefore
  refine ⟨hcompleted.steps ▸ hother, hcompleted.status.resolve_right fun hfinished => ?_⟩
  exact absurd (hcompleted.finished.mp hfinished other .ready hother) (by decide)

theorem executeSteps_spec (h : Accepts plan) {selected : List String}
    (hplan : selected ≠ [] → plan.status = .inProgress)
    (hstatus : plan.status ∈ [PlanStatus.inProgress, .completed, .failed]) (hnodup : selected.Nodup)
    (hready : ∀ stepId ∈ selected, statusOf plan.steps stepId = some .ready)
    (hturns : UtcTurns turns) (hcalls : FailuresAlone turns calls) :
    Settles turns (Cycle plan selected) (executeSteps turns plan selected calls) := by
  induction selected generalizing plan calls with
  | nil =>
    exact .inl ⟨_, rfl, ⟨rfl, h, hstatus, List.prefix_rfl, fun hne => absurd rfl hne, nofun⟩,
      hcalls⟩
  | cons stepId rest ih =>
    obtain ⟨hnew, hrest⟩ := List.nodup_cons.mp hnodup
    obtain ⟨hfirst, hlater⟩ := List.forall_mem_cons.mp hready
    have hprogress := hplan (List.cons_ne_nil stepId rest)
    obtain ⟨started, step, hstarted, hid, hstep, hmem, hrun⟩ :=
      executeSteps_cons rest calls h hprogress hfirst hturns
    have hactive : statusOf started.steps stepId = some .inProgress := by
      rw [hstarted.steps, Function.update_self]
    have hended := (hturns calls.length).2
    rw [hrun, settle]
    by_cases hsucceeded :
        (PlanStepExecutor.answer (turns calls.length).registry step).status = .succeeded
    · rw [if_pos hsucceeded]
      obtain ⟨completed, hcomplete, hcompleted⟩ :=
        completeStep_spec hstarted.accepts hstarted.status hactive hended
      have hothers : ∀ other ∈ rest, statusOf completed.plan.steps other = some .ready ∧
          completed.plan.status = .inProgress := fun other hother =>
        ready_of_completed hstarted hcompleted (fun heq => hnew (heq ▸ hother))
          (hlater other hother)
      have hnext : FailuresAlone turns (calls ++ [⟨started, step⟩]) :=
        failuresAlone_concat.mpr ⟨hcalls, fun hfails => absurd hsucceeded hfails⟩
      have hih := ih hcompleted.accepts
        (fun hne => by
          obtain ⟨other, hother⟩ := List.exists_mem_of_ne_nil rest hne
          exact (hothers other hother).2)
        (by rcases hcompleted.status with hs | hs <;> simp [hs]) hrest
        (fun other hother => (hothers other hother).1) hnext
      rw [Stateful.run_lift_bind_of_ok hcomplete]
      refine hih.bind fun answer later hcycle halone => ?_
      obtain ⟨after, results, status⟩ := answer
      refine .inl ⟨_, rfl, ⟨?_, hcycle.accepts, hcycle.status, ?_,
        fun _ => List.cons_ne_nil _ _, hcycle.scheduled⟩, halone⟩
      · rw [hcycle.links, hcompleted.links, hstarted.links]
      · simpa [hid] using hcycle.results
    · rw [if_neg hsucceeded]
      have hfails : (ExecutorCall.mk started step).Fails (turns calls.length) := hsucceeded
      have hspec := failStep_spec hstarted.accepts hstarted.status hactive hended
      by_cases halone : (ExecutorCall.mk started step).Alone
      · have halone' := halone
        unfold ExecutorCall.Alone at halone'
        rw [hid] at halone'
        rw [if_pos halone'] at hspec
        obtain ⟨failed, hfail, hfailed, hlinks, haccepts⟩ := hspec
        rw [Stateful.run_lift_bind_of_ok hfail]
        refine .inl ⟨_, rfl, ⟨hlinks.trans hstarted.links, haccepts, by simp [hfailed], ?_,
          fun _ => List.cons_ne_nil _ _, nofun⟩,
          failuresAlone_concat.mpr ⟨hcalls, fun _ => halone⟩⟩
        simp [hid]
      · have halone' := halone
        unfold ExecutorCall.Alone at halone'
        rw [hid] at halone'
        rw [if_neg halone'] at hspec
        obtain ⟨message, hfail⟩ := hspec
        rw [Stateful.run_lift_bind_of_error hfail]
        exact .inr ⟨message, rfl, fun hall => halone ((failuresAlone_concat.mp hall).2 hfails)⟩

end PlanExecutionService

namespace PlanScheduler

variable {plan : Plan}

variable (plan) in
theorem stepIdsWith_sublist (status : PlanStepStatus) :
    (stepIdsWith plan status).Sublist plan.stepIds := List.filter_sublist.map _

theorem mem_stepIdsWith {status : PlanStepStatus} {stepId : String} :
    stepId ∈ stepIdsWith plan status ↔ statusOf plan.steps stepId = some status := by
  rw [statusOf_eq_some, stepIdsWith, List.mem_map]
  simp only [List.mem_filter, decide_eq_true_eq]
  constructor
  · rintro ⟨step, ⟨hmem, hstatus⟩, hid⟩
    exact ⟨step, hmem, hid, hstatus⟩
  · rintro ⟨step, hmem, hid, hstatus⟩
    exact ⟨step, ⟨hmem, hstatus⟩, hid⟩

theorem isBlank_of_mem {stepId : String} (h : stepId ∈ plan.stepIds) : isBlank stepId = false := by
  obtain ⟨step, _, rfl⟩ := List.mem_map.mp h
  exact step.isBlank_stepId

theorem validateUniqueIds_of {values : List String} {fieldName : String} (hnodup : values.Nodup)
    (hsubset : values ⊆ plan.stepIds) : validateUniqueIds values fieldName = .ok () := by
  have hblank : ¬values.any isBlank = true := by
    simpa using fun stepId hmem => isBlank_of_mem (hsubset hmem)
  exact raiseIf_bind_eq_ok.mpr ⟨hblank, raiseIf_eq_ok.mpr (not_not.mpr hnodup)⟩

structure Selects (plan : Plan) (selected : List String) : Prop where
  nodup : selected.Nodup
  ready : ∀ stepId ∈ selected, statusOf plan.steps stepId = some .ready

theorem newScheduleResult_of {selected ready active : List String} {reason : PlanScheduleReason}
    (hselected : selected <+: ready) (hready : ready.Nodup) (hknown : ready ⊆ plan.stepIds)
    (hactive : active.Sublist plan.stepIds) (hreason : reason = .stepsSelected ↔ selected ≠ []) :
    newScheduleResult selected ready active reason = .ok ⟨selected, ready, active, reason⟩ := by
  have hsub := hselected.sublist
  rw [newScheduleResult, validateUniqueIds_of (hready.sublist hsub)
      (List.Subset.trans hsub.subset hknown),
    ok_bind, validateUniqueIds_of hready hknown, ok_bind,
    validateUniqueIds_of (plan.stepIds_nodup.sublist hactive) hactive.subset, ok_bind, raiseIf,
    if_neg (not_not.mpr hsub.subset), ok_bind, raiseIf, if_neg fun h => hreason.mp h.1 h.2,
    ok_bind, raiseIf, if_neg fun h => h.1 (hreason.mpr h.2), ok_bind]
  rfl

theorem schedule_spec (options : PlanScheduleRequest) (h : Accepts plan) (hplan : plan.status = .inProgress) :
    ∃ schedule, PlanScheduler.schedule plan options = .ok schedule ∧
      Selects plan schedule.selectedStepIds ∧
      (stepIdsWith plan .inProgress = [] → stepIdsWith plan .ready ≠ [] →
        schedule.selectedStepIds ≠ []) := by
  obtain ⟨validation, hvalidate, hvalid, horder⟩ := validate_spec plan
  have hperm := horder h.acyclic
  have hready := stepIdsWith_sublist plan .ready
  have hactive := stepIdsWith_sublist plan .inProgress
  have hnone : Selects plan [] := ⟨List.nodup_nil, fun _ hmem => absurd hmem List.not_mem_nil⟩
  have hempty : ∀ reason, reason ≠ .stepsSelected →
      newScheduleResult [] (stepIdsWith plan .ready) (stepIdsWith plan .inProgress) reason =
        .ok ⟨[], stepIdsWith plan .ready, stepIdsWith plan .inProgress, reason⟩ :=
    fun reason hne => newScheduleResult_of List.nil_prefix (plan.stepIds_nodup.sublist hready)
      hready.subset hactive (by simp [hne])
  rw [schedule, if_neg (not_not.mpr hplan), hvalidate, ok_bind, if_neg (by simp [hvalid.mpr h])]
  by_cases hbusy : stepIdsWith plan .inProgress ≠ [] ∧ options.allowNewStepsWhileActive = false
  · rw [if_pos hbusy, hempty .activeStepExists (by decide)]
    exact ⟨_, rfl, hnone, fun hidle => absurd hidle hbusy.1⟩
  · rw [if_neg hbusy]
    by_cases hno : stepIdsWith plan .ready = []
    · have hidle := hempty .noReadySteps (by decide)
      rw [hno] at hidle
      rw [if_pos hno, hidle]
      exact ⟨_, rfl, hnone, fun _ hsome => absurd hno hsome⟩
    · rw [if_neg hno]
      have hordered : ∀ stepId, stepId ∈ validation.executionOrder.filter
          (· ∈ stepIdsWith plan .ready) ↔ stepId ∈ stepIdsWith plan .ready := by
        intro stepId
        simp only [List.mem_filter, decide_eq_true_eq, and_iff_right_iff_imp]
        exact fun hmem => hperm.mem_iff.mpr (hready.subset hmem)
      have hnodup : (validation.executionOrder.filter (· ∈ stepIdsWith plan .ready)).Nodup :=
        (hperm.nodup_iff.mpr plan.stepIds_nodup).filter _
      have hlimit : 0 < (if options.allowParallelSteps then options.maximumSelectedSteps else 1) := by
        split
        · exact options.positive
        · exact Nat.one_pos
      obtain ⟨first, hfirst⟩ := List.exists_mem_of_ne_nil _ hno
      have htaken : (validation.executionOrder.filter (· ∈ stepIdsWith plan .ready)).take
          (if options.allowParallelSteps then options.maximumSelectedSteps else 1) ≠ [] := by
        rw [Ne, List.take_eq_nil_iff, not_or]
        exact ⟨hlimit.ne', List.ne_nil_of_mem ((hordered first).mpr hfirst)⟩
      refine ⟨_, newScheduleResult_of (List.take_prefix _ _) hnodup ?_ hactive
        (iff_of_true rfl htaken), ⟨hnodup.sublist (List.take_sublist _ _), ?_⟩, fun _ _ => htaken⟩
      · exact fun stepId hmem => hready.subset ((hordered stepId).mp hmem)
      · exact fun stepId hmem =>
          mem_stepIdsWith.mp ((hordered stepId).mp (List.mem_of_mem_take hmem))

end PlanScheduler

/-! ## Runs -/

variable {keys : List String}

theorem mem_addKey {key other : String} : other ∈ addKey keys key ↔ other ∈ keys ∨ other = key := by
  unfold addKey
  split
  · rename_i hmem
    exact ⟨.inl, fun h => h.elim id fun heq => heq ▸ hmem⟩
  · simp

theorem nodup_foldl_addKey (more : List String) (h : keys.Nodup) :
    (more.foldl addKey keys).Nodup := by
  induction more generalizing keys with
  | nil => exact h
  | cons key rest ih =>
    refine ih ?_
    unfold addKey
    split
    · exact h
    · rename_i hnew
      exact List.nodup_append'.mpr ⟨h, List.nodup_singleton key, by simpa using hnew⟩

theorem foldl_addKey_subset {keys more known : List String} (hkeys : keys ⊆ known)
    (hmore : more ⊆ known) : more.foldl addKey keys ⊆ known := by
  induction more generalizing keys with
  | nil => exact hkeys
  | cons key rest ih =>
    obtain ⟨hkey, hrest⟩ := List.cons_subset.mp hmore
    refine ih (fun other hother => ?_) hrest
    rcases mem_addKey.mp hother with hmem | rfl
    · exact hkeys hmem
    · exact hkey

namespace PlanRunner

open PlanExecutionService (executeNext executeSteps_spec Settles)

variable {turns : ℕ → StepTurn} {options : PlanRunRequest} {plan : Plan}
  {calls : List ExecutorCall}

structure Turned (plan : Plan) (cycle : PlanExecutionResult) : Prop where
  links : cycle.plan.links = plan.links
  accepts : Accepts cycle.plan
  status : cycle.plan.status ∈ [PlanStatus.inProgress, .completed, .failed]
  known : cycle.stepIds ⊆ plan.stepIds

theorem executeNext_spec (request : PlanScheduleRequest) (h : Accepts plan)
    (hplan : plan.status = .inProgress) (hturns : UtcTurns turns)
    (hcalls : FailuresAlone turns calls) :
    Settles turns (Turned plan) (executeNext turns plan request calls) := by
  obtain ⟨schedule, hschedule, hselects, _⟩ :=
    PlanScheduler.schedule_spec request h hplan
  rw [executeNext, Stateful.run_lift_bind_of_ok hschedule]
  by_cases hnothing : schedule.selectedStepIds = []
  · obtain ⟨validation, hvalidate, _⟩ := validate_spec plan
    rw [if_pos hnothing, Stateful.run_lift_bind_of_ok hvalidate]
    refine .inl ⟨⟨plan, validation, schedule, [], .nothingScheduled⟩, ?_,
      ⟨rfl, h, by simp [hplan], List.nil_subset _⟩, hcalls⟩
    simp [newExecutionResult, raiseIf]
  · rw [if_neg hnothing]
    refine (executeSteps_spec h (fun _ => hplan) (by simp [hplan]) hselects.nodup hselects.ready
      hturns hcalls).bind fun answer later hcycle halone => ?_
    obtain ⟨after, results, status⟩ := answer
    obtain ⟨validation, hvalidate, _⟩ := validate_spec after
    dsimp only
    rw [Stateful.run_lift_bind_of_ok hvalidate]
    have hids := hcycle.results.sublist
    refine .inl ⟨⟨after, validation, schedule, results, status⟩, ?_,
      ⟨hcycle.links, hcycle.accepts, hcycle.status, fun stepId hmem => ?_⟩, halone⟩
    · have hresults : results ≠ [] := hcycle.nonempty hnothing
      have hscheduled : status ≠ .nothingScheduled := hcycle.scheduled
      simp [newExecutionResult, raiseIf, hselects.nodup.sublist hids, hresults, hscheduled]
    · exact mem_stepIds_of_status (hselects.ready stepId (hids.subset hmem))

theorem result_spec {cycles : List PlanExecutionResult} (status : PlanRunStatus) {message : String}
    (hmessage : isBlank message = false) (hknown : ∀ cycle ∈ cycles, cycle.stepIds ⊆ plan.stepIds) :
    ∃ validation, result plan cycles (fromKeys (cycles.flatMap (·.stepIds))) status message =
      .ok ⟨plan, validation, cycles, status, message, fromKeys (cycles.flatMap (·.stepIds))⟩ := by
  obtain ⟨validation, hvalidate, _⟩ := validate_spec plan
  have hsubset : fromKeys (cycles.flatMap (·.stepIds)) ⊆ plan.stepIds := by
    refine foldl_addKey_subset (List.nil_subset _) fun stepId hmem => ?_
    obtain ⟨cycle, hcycle, hstep⟩ := List.mem_flatMap.mp hmem
    exact hknown cycle hcycle hstep
  refine ⟨validation, ?_⟩
  rw [result, hvalidate, ok_bind]
  have hnodup : (fromKeys (cycles.flatMap (·.stepIds))).Nodup :=
    nodup_foldl_addKey _ List.nodup_nil
  simp [newRunResult, raiseIf, hmessage, hsubset, hnodup]

structure Ended (plan : Plan) (result : PlanRunResult) : Prop where
  links : result.plan.links = plan.links
  accepts : Accepts result.plan
  status : result.status ≠ .cancelled

theorem terminalStatus_spec {status : PlanStatus}
    (h : status ∈ [PlanStatus.inProgress, .completed, .failed]) :
    (terminalStatus status = none ∧ status = .inProgress) ∨
      ∃ runStatus message, terminalStatus status = some (runStatus, message) ∧
        runStatus ≠ .cancelled ∧ isBlank message = false := by
  simp only [List.mem_cons, List.not_mem_nil, or_false] at h
  rcases h with rfl | rfl | rfl
  · exact .inl ⟨rfl, rfl⟩
  · exact .inr ⟨_, _, rfl, nofun, by decide +kernel⟩
  · exact .inr ⟨_, _, rfl, nofun, by decide +kernel⟩

theorem runCycles_spec (remaining : ℕ) (cycles : List PlanExecutionResult) (h : Accepts plan)
    (hplan : plan.status = .inProgress) (hturns : UtcTurns turns)
    (hcalls : FailuresAlone turns calls) (hknown : ∀ cycle ∈ cycles, cycle.stepIds ⊆ plan.stepIds) :
    Settles turns (Ended plan) (runCycles turns options remaining plan cycles
      (fromKeys (cycles.flatMap (·.stepIds))) calls) := by
  induction remaining generalizing plan cycles calls with
  | zero =>
    have hmessage : isBlank "Plan execution reached the maximum number of cycles." = false := by
      decide +kernel
    obtain ⟨validation, hresult⟩ := result_spec .cycleLimitReached hmessage hknown
    exact .inl ⟨_, hresult, ⟨rfl, h, nofun⟩, hcalls⟩
  | succ remaining ih =>
    rw [runCycles]
    refine (executeNext_spec options.scheduleRequest h hplan hturns hcalls).bind
      fun cycle later hturned halone => ?_
    have hids : cycle.plan.stepIds = plan.stepIds := Plan.stepIds_of_links hturned.links
    have hkeys : cycle.stepIds.foldl addKey (fromKeys (cycles.flatMap (·.stepIds))) =
        fromKeys ((cycles ++ [cycle]).flatMap (·.stepIds)) := by
      simp [fromKeys]
    have hknown' : ∀ other ∈ cycles ++ [cycle], other.stepIds ⊆ cycle.plan.stepIds := by
      rw [hids]
      intro other hother
      rcases List.mem_append.mp hother with hmem | hmem
      · exact hknown other hmem
      · rw [List.mem_singleton.mp hmem]
        exact hturned.known
    have hend : ∀ status message, status ≠ .cancelled → isBlank message = false →
        Settles turns (Ended plan) ((liftM (result cycle.plan (cycles ++ [cycle])
          (fromKeys ((cycles ++ [cycle]).flatMap (·.stepIds))) status message) :
            PlanProgram PlanRunResult) later) := by
      intro status message hstatus hmessage
      obtain ⟨validation, hresult⟩ := result_spec status hmessage hknown'
      exact .inl ⟨_, hresult, ⟨hturned.links, hturned.accepts, hstatus⟩, halone⟩
    rw [hkeys]
    rcases terminalStatus_spec hturned.status with ⟨hnone, hprogress⟩ |
      ⟨status, message, hsome, hstatus, hmessage⟩
    · rw [hnone]
      dsimp only
      split
      · exact hend .blocked _ nofun (by decide +kernel)
      · split
        · exact hend .blocked _ nofun (by decide +kernel)
        · rcases ih (cycles ++ [cycle]) hturned.accepts hprogress halone hknown' with
            ⟨answer, hok, hended, halone'⟩ | herror
          · exact .inl ⟨answer, hok, ⟨hended.links.trans hturned.links, hended.accepts,
              hended.status⟩, halone'⟩
          · exact .inr herror
    · rw [hsome]
      exact hend status message hstatus hmessage

/-- Whatever the tools do, a run of a started plan gives a result exactly when every step that fails
is the only active one. -/
theorem run_spec (h : Accepts plan) (hplan : plan.status = .inProgress)
    (hturns : UtcTurns turns) : Settles turns (Ended plan) (run turns options plan []) := by
  have hnone : FailuresAlone turns [] := fun index call hcall => by simp at hcall
  rw [run, hplan]
  exact runCycles_spec options.maximumCycles [] h hplan hturns hnone
    fun _ hmem => absurd hmem List.not_mem_nil

/-- A plan that `validate` finds valid. -/
def Valid (plan : Plan) : Prop := ∃ result, validate plan = .ok result ∧ result.valid = true

theorem valid_iff : Valid plan ↔ Accepts plan := by
  obtain ⟨result, hvalidate, hvalid, _⟩ := validate_spec plan
  constructor
  · rintro ⟨other, hother, htrue⟩
    cases hvalidate.symm.trans hother
    exact hvalid.mp htrue
  · exact fun h => ⟨result, hvalidate, hvalid.mpr h⟩

theorem sampleClock_lt : 63921499200000000 < maxWall := by decide

def sampleClock : Datetime := ⟨63921499200000000, some 0, sampleClock_lt⟩

def sampleDraft (stepId : String)
    (h : (PlanStepContent.mk stepId "title" "description" [] none none).validateStep = .ok ()) :
    PlanStepDraft := ⟨_, h⟩

def sampleTwoSteps : Plan where
  planId := "plan-001"
  goal := "goal"
  status := .inProgress
  steps := [⟨sampleDraft "step-001" (by decide +kernel), .inProgress⟩,
    ⟨sampleDraft "step-002" (by decide +kernel), .ready⟩]
  createdAt := sampleClock
  updatedAt := sampleClock
  nonempty := List.cons_ne_nil _ _
  linked := by decide +kernel

theorem valid_sampleTwoSteps : Valid sampleTwoSteps := by
  have hcheck : (validate sampleTwoSteps).toOption.any (·.valid) = true := by decide +kernel
  cases hvalidate : validate sampleTwoSteps with
  | ok result =>
    rw [hvalidate] at hcheck
    exact ⟨result, hvalidate, hcheck⟩
  | error failure =>
    rw [hvalidate] at hcheck
    cases hcheck

example : (failStep sampleTwoSteps "step-002" sampleClock).toOption.isNone = true := by
  decide +kernel

end PlanRunner

end AgenticLab
