import AgenticLab.Model.Planning.PlanningAgentLoop
import AgenticLab.Verification.Planning.PlanTransitions

/-! # Replanning and the options of the request -/

namespace AgenticLab

open PlanLifecycleService (changed_of_apply)
open PlannerOutputValidator (readySteps hasParallelFrom hasParallelSteps codeIf issueCodes)

/-! ## Steps that may be executed at the same time -/

namespace PlanLinks

variable {links : PlanLinks} {completed : List String}

variable (links) in
def Executable (completed : List String) (stepId : String) : Prop :=
  stepId ∈ links.stepIds ∧ stepId ∉ completed ∧ links.dependencies stepId ⊆ completed

variable (links) in
def Completes (completed next : List String) : Prop :=
  ∃ stepId, links.Executable completed stepId ∧ next = completed ++ [stepId]

variable (links) in
/-- From here on, no two steps are ever executable at the same time. -/
def SequentialFrom (completed : List String) : Prop :=
  ∀ later, Relation.ReflTransGen links.Completes completed later →
    ∀ a b, links.Executable later a → links.Executable later b → a = b

variable (links) in
/-- No two steps are ever executable at the same time. -/
def Sequential : Prop := links.SequentialFrom []

theorem sequentialFrom_of_none (h : ∀ stepId, ¬links.Executable completed stepId) :
    links.SequentialFrom completed := by
  intro later hreach a b ha _
  rcases hreach.cases_head with rfl | ⟨_, ⟨stepId, hstep, _⟩, _⟩
  · exact absurd ha (h a)
  · exact absurd hstep (h stepId)

theorem sequentialFrom_of_only {first : String}
    (h : ∀ stepId, links.Executable completed stepId ↔ stepId = first) :
    links.SequentialFrom completed ↔ links.SequentialFrom (completed ++ [first]) := by
  constructor
  · intro hcompleted later hreach
    exact hcompleted later (.head ⟨first, (h first).mpr rfl, rfl⟩ hreach)
  · intro hnext later hreach a b ha hb
    rcases hreach.cases_head with rfl | ⟨_, ⟨stepId, hstep, rfl⟩, hrest⟩
    · exact ((h a).mp ha).trans ((h b).mp hb).symm
    · rw [(h stepId).mp hstep] at hrest
      exact hnext later hrest a b ha hb

end PlanLinks

namespace PlannerOutputValidator

variable {links : PlanLinks} {completed : List String}

theorem mem_readySteps (hnodup : links.stepIds.Nodup) {stepId : String} :
    stepId ∈ readySteps links completed ↔ links.Executable completed stepId := by
  simp only [readySteps, List.mem_map, List.mem_filter, decide_eq_true_eq]
  constructor
  · rintro ⟨link, ⟨hlink, hnew, hneeds⟩, rfl⟩
    refine ⟨List.mem_map_of_mem hlink, hnew, ?_⟩
    rwa [PlanLinks.dependencies_of_mem hnodup hlink]
  · rintro ⟨hknown, hnew, hneeds⟩
    obtain ⟨link, hlink, rfl⟩ := PlanLinks.exists_link hknown
    rw [PlanLinks.dependencies_of_mem hnodup hlink] at hneeds
    exact ⟨link, ⟨hlink, hnew, hneeds⟩, rfl⟩

theorem nodup_readySteps (hnodup : links.stepIds.Nodup) : (readySteps links completed).Nodup :=
  hnodup.sublist (List.filter_sublist.map Prod.fst)

theorem hasParallelFrom_eq_false (hnodup : links.stepIds.Nodup) {remaining : ℕ}
    (hcompleted : completed.Nodup) (hknown : completed ⊆ links.stepIds)
    (hlength : links.length ≤ completed.length + remaining) :
    hasParallelFrom links remaining completed = false ↔ links.SequentialFrom completed := by
  induction remaining generalizing completed with
  | zero =>
    have hlength : links.stepIds.length ≤ completed.length := by
      rw [PlanLinks.stepIds, List.length_map]
      exact hlength
    have hall := (hcompleted.subperm hknown).perm_of_length_le hlength
    refine iff_of_true rfl (PlanLinks.sequentialFrom_of_none fun stepId hstep => ?_)
    exact hstep.2.1 (hall.mem_iff.mpr hstep.1)
  | succ remaining ih =>
    have hexecutable : ∀ stepId, links.Executable completed stepId ↔
        stepId ∈ readySteps links completed := fun _ => (mem_readySteps hnodup).symm
    rw [hasParallelFrom]
    cases hready : readySteps links completed with
    | nil =>
      refine iff_of_true rfl (PlanLinks.sequentialFrom_of_none fun stepId => ?_)
      rw [hexecutable, hready]
      exact List.not_mem_nil
    | cons first others =>
      have hfirst : links.Executable completed first := by
        rw [hexecutable, hready]
        exact List.mem_cons_self
      cases others with
      | nil =>
        have honly : ∀ stepId, links.Executable completed stepId ↔ stepId = first := by
          intro stepId
          rw [hexecutable, hready, List.mem_singleton]
        rw [PlanLinks.sequentialFrom_of_only honly]
        refine ih ?_ ?_ ?_
        · exact hcompleted.append (List.nodup_singleton first) (by simpa using hfirst.2.1)
        · exact List.append_subset.mpr ⟨hknown, by simpa using hfirst.1⟩
        · rw [List.length_append, List.length_singleton]
          omega
      | cons second more =>
        have hsecond : links.Executable completed second := by
          rw [hexecutable, hready]
          exact List.mem_cons_of_mem _ List.mem_cons_self
        refine iff_of_false (by simp) fun hsequential => ?_
        have hdistinct : (readySteps links completed).Nodup := nodup_readySteps hnodup
        rw [hready, hsequential completed .refl first second hfirst hsecond] at hdistinct
        exact (List.nodup_cons.mp hdistinct).1 List.mem_cons_self

theorem hasParallelSteps_eq_false (hnodup : links.stepIds.Nodup) :
    hasParallelSteps links = false ↔ links.Sequential :=
  hasParallelFrom_eq_false hnodup List.nodup_nil (List.nil_subset _) (by simp)

theorem mem_codeIf {condition : Prop} [Decidable condition]
    {code other : PlannerOutputValidationCode} :
    other ∈ codeIf condition code ↔ condition ∧ other = code := by
  rw [codeIf]
  split
  next h => simp [h]
  next h => simp [h]

variable {casefold : Casefold} {request : PlanCreationRequest casefold} {output : PlanDraftOutput}

theorem tooManySteps_mem :
    .tooManySteps ∈ issueCodes request output ↔ request.maximumSteps < output.steps.length := by
  simp [issueCodes, mem_codeIf]

theorem toolRequired_mem :
    .toolRequired ∈ issueCodes request output ↔
      request.requireToolForEachStep = true ∧ ∃ step ∈ output.steps, step.toolName = none := by
  simp [issueCodes, mem_codeIf]
  tauto

theorem toolNotAvailable_mem :
    .toolNotAvailable ∈ issueCodes request output ↔
      ∃ step ∈ output.steps, ∃ toolName ∈ step.toolName, toolName ∉ request.availableTools := by
  simp [issueCodes, mem_codeIf]

theorem parallelStepsNotAllowed_mem :
    .parallelStepsNotAllowed ∈ issueCodes request output ↔
      request.allowParallelSteps = false ∧ ¬output.links.Sequential := by
  have hlinks : output.links.stepIds = output.steps.map (·.stepId) := by
    rw [PlanDraftOutput.links, PlanLinks.stepIds, List.map_map]
    rfl
  rw [← hasParallelSteps_eq_false (hlinks ▸ output.ids_nodup)]
  simp [issueCodes, mem_codeIf]

end PlannerOutputValidator

namespace PlanningAgentLoop

/-! ## What a run leaves of a plan -/

/-- What the execution of a plan does not change. -/
structure Kept (plan next : Plan) : Prop where
  goal : next.goal = plan.goal
  drafts : next.drafts = plan.drafts

theorem Kept.refl (plan : Plan) : Kept plan plan := ⟨rfl, rfl⟩

theorem Kept.trans {first second third : Plan} (h : Kept first second) (h' : Kept second third) :
    Kept first third :=
  ⟨h'.goal.trans h.goal, h'.drafts.trans h.drafts⟩

theorem Kept.of_apply {plan : Plan} {clock : Datetime} {answer : PlanLifecycleResult}
    (operation : PlanLifecycleService.PlanOperation)
    (h : operation.apply plan clock = .ok answer) : Kept plan answer.plan :=
  ⟨(changed_of_apply h).goal, (changed_of_apply h).drafts⟩

section Runs

variable {turns : ℕ → StepTurn} {options : PlanRunRequest}

open PlanExecutionService (executeSteps executeNext)
open PlanRunner (runCycles)

theorem executeSteps_kept (plan : Plan) (selected : List String) (calls : List ExecutorCall) :
    (executeSteps turns plan selected).Post calls fun result _ =>
      ∀ answer, result = .ok answer → Kept plan answer.1 := by
  induction selected generalizing plan calls with
  | nil =>
    intro answer h
    cases h
    exact .refl plan
  | cons stepId rest ih =>
    rw [executeSteps]
    refine .lift_bind (fun _ _ => ?_) fun _ _ _ h => by cases h
    refine .bind (R := fun _ _ => True) trivial (fun turn t _ => ?_) fun _ _ _ _ h => by cases h
    refine .lift_bind (fun started hstarted => ?_) fun _ _ _ h => by cases h
    refine .lift_bind (fun _ _ => ?_) fun _ _ _ h => by cases h
    refine .bind (R := fun _ _ => True) trivial (fun execution u _ => ?_) fun _ _ _ _ h => by cases h
    have hstarted : Kept plan started.plan := .of_apply (.startStep stepId) hstarted
    split
    · refine .lift_bind (fun completed hcompleted => ?_) fun _ _ _ h => by cases h
      have hcompleted : Kept started.plan completed.plan :=
        .of_apply (.completeStep stepId) hcompleted
      refine (ih completed.plan u).bind (fun answer v hv => ?_) fun _ _ _ _ h => by cases h
      obtain ⟨next, results, status⟩ := answer
      intro final h
      cases h
      exact (hstarted.trans hcompleted).trans (hv (next, results, status) rfl)
    · refine .lift_bind (fun failed hfailed => ?_) fun _ _ _ h => by cases h
      intro final h
      cases h
      exact hstarted.trans (.of_apply (.failStep stepId) hfailed)

theorem newExecutionResult_plan {plan : Plan} {validation : PlanValidationResult}
    {schedule : PlanScheduleResult} {stepResults : List PlanStepExecutionResult}
    {status : PlanExecutionStatus} {cycle : PlanExecutionResult}
    (h : newExecutionResult plan validation schedule stepResults status = .ok cycle) :
    cycle.plan = plan := by
  obtain ⟨_, h⟩ := raiseIf_bind_eq_ok.mp h
  obtain ⟨_, h⟩ := raiseIf_bind_eq_ok.mp h
  obtain ⟨_, h⟩ := raiseIf_bind_eq_ok.mp h
  cases h
  rfl

theorem executeNext_kept (plan : Plan) (options : PlanScheduleRequest) (calls : List ExecutorCall) :
    (executeNext turns plan options).Post calls fun result _ =>
      ∀ cycle, result = .ok cycle → Kept plan cycle.plan := by
  rw [executeNext]
  refine .lift_bind (fun schedule _ => ?_) fun _ _ _ h => by cases h
  split
  · refine .lift_bind (fun _ _ => ?_) fun _ _ _ h => by cases h
    intro cycle h
    rw [Stateful.run_lift] at h
    rw [newExecutionResult_plan h]
    exact .refl plan
  · refine (executeSteps_kept plan _ calls).bind (fun answer t ht => ?_) fun _ _ _ _ h => by cases h
    obtain ⟨next, results, status⟩ := answer
    refine .lift_bind (fun _ _ => ?_) fun _ _ _ h => by cases h
    intro cycle h
    rw [Stateful.run_lift] at h
    rw [newExecutionResult_plan h]
    exact ht _ rfl

variable {run : PlanRunResult}

theorem result_plan {plan : Plan} {cycles : List PlanExecutionResult}
    {executedStepIds : List String} {status : PlanRunStatus} {message : String}
    (h : PlanRunner.result plan cycles executedStepIds status message = .ok run) :
    run.plan = plan := by
  obtain ⟨_, _, h⟩ := bind_eq_ok.mp h
  obtain ⟨_, h⟩ := raiseIf_bind_eq_ok.mp h
  obtain ⟨_, h⟩ := raiseIf_bind_eq_ok.mp h
  obtain ⟨_, h⟩ := raiseIf_bind_eq_ok.mp h
  obtain ⟨_, h⟩ := raiseIf_bind_eq_ok.mp h
  cases h
  rfl

theorem runCycles_kept (remaining : ℕ) (plan : Plan) (cycles : List PlanExecutionResult)
    (executedStepIds : List String) (calls : List ExecutorCall) :
    (runCycles turns options remaining plan cycles executedStepIds).Post calls fun result _ =>
      ∀ run, result = .ok run → Kept plan run.plan := by
  have hresult : ∀ {next : Plan} {done : List PlanExecutionResult} {ids : List String}
      {status : PlanRunStatus} {message : String} {run : PlanRunResult},
      PlanRunner.result next done ids status message = .ok run → Kept plan next →
        Kept plan run.plan := fun h hkept => (result_plan h).symm ▸ hkept
  induction remaining generalizing plan cycles executedStepIds calls with
  | zero => exact fun run h => hresult h (.refl plan)
  | succ remaining ih =>
    rw [runCycles]
    refine (executeNext_kept plan options.scheduleRequest calls).bind (fun cycle t ht => ?_)
      fun _ _ _ _ h => by cases h
    have hcycle := ht cycle rfl
    dsimp only
    split
    · exact fun run h => hresult h hcycle
    · split
      · exact fun run h => hresult h hcycle
      · split
        · exact fun run h => hresult h hcycle
        · exact (ih cycle.plan _ _ t (fun h hkept => (result_plan h).symm ▸ hkept)).imp
            fun _ _ hu run h => hcycle.trans (hu run h)

theorem run_kept (plan : Plan) (calls : List ExecutorCall)
    (h : (PlanRunner.run turns options plan calls).1 = .ok run) : Kept plan run.plan := by
  rw [PlanRunner.run] at h
  cases hstatus : PlanRunner.terminalStatus plan.status with
  | some answer =>
    obtain ⟨status, message⟩ := answer
    rw [hstatus] at h
    dsimp only at h
    rw [Stateful.run_lift] at h
    rw [result_plan h]
    exact .refl plan
  | none =>
    rw [hstatus] at h
    exact runCycles_kept _ plan [] [] calls run h

end Runs

section

variable {casefold : Casefold} {original request : PlanCreationRequest casefold}
  {recorded : RecordedPlan} {turn : PlanningTurn casefold} {errors : PlanningErrors}
  {options : PlanRunRequest}

structure CreatedFor (request : PlanCreationRequest casefold) (recorded : RecordedPlan) : Prop where
  goal : recorded.plan.goal = request.goal
  drafts : recorded.plan.drafts = recorded.output.steps
  metadata : recorded.metadata =
    ⟨request.constraints, request.availableTools, request.allowParallelSteps⟩
  valid : issueCodes request recorded.output = []

theorem replaceRaised_eq_ok {α : Type} {cls : ExceptionClass} {raised : Raised}
    {answer : Except Raised α} {value : α} :
    replaceRaised cls raised answer = .ok value ↔ answer = .ok value := by
  cases answer with
  | error failure => simp [replaceRaised]
  | ok value => simp [replaceRaised]

theorem createdFor_of_createPlan (h : createPlan errors turn request = .ok recorded) :
    CreatedFor request recorded := by
  obtain ⟨_, _, h⟩ := bind_eq_ok.mp h
  obtain ⟨output, _, h⟩ := bind_eq_ok.mp h
  obtain ⟨hvalid, h⟩ := raiseIf_bind_eq_ok.mp h
  obtain ⟨created, hcreated, h⟩ := bind_eq_ok.mp h
  obtain ⟨_, h⟩ := raiseIf_bind_eq_ok.mp h
  cases h
  have hcreated := replaceRaised_eq_ok.mp hcreated
  exact ⟨(PlanFactory.create_eq_ok hcreated).2.2.1, (PlanFactory.reached_created hcreated).drafts, rfl,
    not_not.mp hvalid⟩

theorem performAttempt_executed
    (h : recorded ∈ (performAttempt errors turn options request).executed) :
    CreatedFor request recorded := by
  unfold performAttempt at h
  split at h
  next => exact absurd h List.not_mem_nil
  next created hcreated =>
    have hcreated := createdFor_of_createPlan hcreated
    split at h
    next => exact absurd h List.not_mem_nil
    next started hstarted =>
      have hkept : Kept created.plan started.plan := .of_apply .startPlan hstarted
      have hrecorded : CreatedFor request { created with plan := started.plan } :=
        ⟨hkept.goal.trans hcreated.goal, hkept.drafts.trans hcreated.drafts, hcreated.metadata,
          hcreated.valid⟩
      split at h <;> exact List.mem_singleton.mp h ▸ hrecorded

variable {attempt : PlanningAgentAttempt}

theorem performAttempt_result
    (h : (performAttempt errors turn options request).result = .ok attempt) :
    (performAttempt errors turn options request).executed = [attempt.planning] ∧
      Kept attempt.planning.plan attempt.run.plan := by
  unfold performAttempt at h ⊢
  split at h
  next => cases h
  next created hcreated =>
    split at h
    next => cases h
    next started hstarted =>
      split at h
      next => cases h
      next run hrun =>
        cases h
        simp only [true_and]
        exact run_kept _ _ hrun

/-! ## The invariant of the loop -/

/-- What replanning keeps of the request. -/
structure Follows (original request : PlanCreationRequest casefold) : Prop where
  goal : request.goal = original.goal
  constraints : request.constraints = original.constraints
  availableTools : request.availableTools = original.availableTools
  maximumSteps : request.maximumSteps ≤ original.maximumSteps

structure Records (original : PlanCreationRequest casefold) (recorded : RecordedPlan) : Prop where
  goal : recorded.plan.goal = original.goal
  drafts : recorded.plan.drafts = recorded.output.steps
  constraints : recorded.metadata.constraints = original.constraints
  availableTools : recorded.metadata.availableTools = original.availableTools
  count : recorded.plan.steps.length ≤ original.maximumSteps
  tools : ∀ step ∈ recorded.output.steps, ∀ toolName ∈ step.toolName,
    toolName ∈ original.availableTools

theorem Follows.refl (request : PlanCreationRequest casefold) : Follows request request :=
  ⟨rfl, rfl, rfl, le_rfl⟩

theorem CreatedFor.records (h : CreatedFor request recorded) (hfollows : Follows original request) :
    Records original recorded := by
  have hcount : ¬request.maximumSteps < recorded.output.steps.length := by
    rw [← PlannerOutputValidator.tooManySteps_mem, h.valid]
    exact List.not_mem_nil
  have htools : ¬∃ step ∈ recorded.output.steps, ∃ toolName ∈ step.toolName,
      toolName ∉ request.availableTools := by
    rw [← PlannerOutputValidator.toolNotAvailable_mem, h.valid]
    exact List.not_mem_nil
  have hlength : recorded.plan.steps.length = recorded.output.steps.length := by
    rw [← h.drafts, Plan.drafts, List.length_map]
  have hmaximum := hfollows.maximumSteps
  push Not at htools
  refine ⟨h.goal.trans hfollows.goal, h.drafts, ?_, ?_, by omega,
    fun step hstep toolName htool => ?_⟩
  · rw [h.metadata, hfollows.constraints]
  · rw [h.metadata, hfollows.availableTools]
  · rw [← hfollows.availableTools]
    exact htools step hstep toolName htool

structure Keeps (original : PlanCreationRequest casefold) (attempt : PlanningAgentAttempt) :
    Prop where
  planning : Records original attempt.planning
  kept : Kept attempt.planning.plan attempt.run.plan

theorem stringList_eq {values : List String} {fieldName : String}
    (h : validateUniqueTextValues casefold values fieldName = .ok ()) :
    stringList values = values := by
  obtain ⟨hblank, _⟩ := raiseIf_bind_eq_ok.mp h
  rw [stringList, List.filter_eq_self]
  intro value hvalue
  rw [Bool.not_eq_true, List.any_eq_false] at hblank
  simpa using hblank value hvalue

theorem follows_of_replan (h : Keeps original attempt)
    {replan : ReplanRequest} (hbuild : buildReplanRequest casefold attempt = .ok replan)
    (hpolicy : policyRequest casefold replan = .ok request) : Follows original request := by
  have hlength : attempt.run.plan.steps.length = attempt.planning.plan.steps.length := by
    have hdrafts := congrArg List.length h.kept.drafts
    rwa [Plan.drafts, Plan.drafts, List.length_map, List.length_map] at hdrafts
  have hcount := h.planning.count
  have hpositive := original.positive
  obtain ⟨_, hbuild⟩ := raiseIf_bind_eq_ok.mp hbuild
  obtain ⟨_, _, hbuild⟩ := bind_eq_ok.mp hbuild
  obtain ⟨_, _, hbuild⟩ := bind_eq_ok.mp hbuild
  cases hbuild
  rw [policyRequest] at hpolicy
  split at hpolicy
  next =>
    cases hpolicy
    refine ⟨h.kept.goal.trans h.planning.goal, ?_, ?_, ?_⟩
    · change stringList attempt.planning.metadata.constraints = _
      rw [h.planning.constraints, stringList_eq original.constraints_valid]
    · change stringList attempt.planning.metadata.availableTools = _
      rw [h.planning.availableTools, stringList_eq original.availableTools_valid]
    · change max attempt.run.plan.steps.length 1 ≤ _
      omega
  next => cases hpolicy

theorem performAttempt_keeps (hfollows : Follows original request)
    (h : (performAttempt errors turn options request).result = .ok attempt) :
    Keeps original attempt := by
  obtain ⟨hexecuted, hkept⟩ := performAttempt_result h
  have hmem : attempt.planning ∈ (performAttempt errors turn options request).executed := by
    rw [hexecuted]
    exact List.mem_singleton_self _
  exact ⟨(performAttempt_executed hmem).records hfollows, hkept⟩

end

variable {casefold : Casefold} {original : PlanCreationRequest casefold}
  {turns : ℕ → PlanningTurn casefold} {options : PlanRunRequest} {previous : PlanningAgentAttempt}
  {recorded : RecordedPlan}

theorem performReplan_records (h : Keeps original previous) {number : ℕ}
    (hmem : recorded ∈ (performReplan turns options number previous).executed) :
    Records original recorded := by
  unfold performReplan at hmem
  split at hmem
  next => exact absurd hmem List.not_mem_nil
  next replan hbuild =>
    split at hmem
    next => exact absurd hmem List.not_mem_nil
    next request hpolicy =>
      exact (performAttempt_executed hmem).records (follows_of_replan h hbuild hpolicy)

theorem performReplan_keeps (h : Keeps original previous) {number : ℕ} {next : PlanningAgentAttempt}
    (hnext : (performReplan turns options number previous).result = .ok next) :
    Keeps original next := by
  unfold performReplan at hnext
  split at hnext
  next => cases hnext
  next replan hbuild =>
    split at hnext
    next => cases hnext
    next request hpolicy =>
      exact performAttempt_keeps (follows_of_replan h hbuild hpolicy) (replaceRaised_eq_ok.mp hnext)

theorem replanLoop_records (turns : ℕ → PlanningTurn casefold) (options : PlanRunRequest)
    (remaining : ℕ) (attempts : List PlanningAgentAttempt) (h : Keeps original previous) :
    ∀ recorded ∈ (replanLoop turns options remaining attempts previous).executed,
      Records original recorded := by
  induction remaining generalizing attempts previous with
  | zero => exact fun _ hmem => absurd hmem List.not_mem_nil
  | succ remaining ih =>
    rw [replanLoop]
    split
    next => exact fun _ hmem => absurd hmem List.not_mem_nil
    next =>
      dsimp only
      split
      next => exact fun _ hmem => performReplan_records h hmem
      next next hnext =>
        split
        next => exact fun _ hmem => performReplan_records h hmem
        next =>
          refine List.forall_mem_append.mpr ⟨fun _ hmem => performReplan_records h hmem, ?_⟩
          exact ih _ (performReplan_keeps h hnext)

theorem run_records (turns : ℕ → PlanningTurn casefold)
    (request : PlanningAgentLoopRequest casefold) :
    ∀ recorded ∈ (run turns request).executed, Records request.planning recorded ∧
      (CreatedFor request.planning recorded ∨ recorded ∈ (run turns request).executed.tail) := by
  have hfirst : ∀ recorded ∈ (performAttempt planningErrors (turns 0) request.execution
      request.planning).executed,
      Records request.planning recorded ∧ CreatedFor request.planning recorded :=
    fun _ hmem => ⟨(performAttempt_executed hmem).records (.refl _), performAttempt_executed hmem⟩
  unfold run
  dsimp only
  split
  next => exact fun recorded hmem => ⟨(hfirst recorded hmem).1, .inl (hfirst recorded hmem).2⟩
  next first hresult =>
    have hresult := replaceRaised_eq_ok.mp hresult
    split
    next => exact fun recorded hmem => ⟨(hfirst recorded hmem).1, .inl (hfirst recorded hmem).2⟩
    next =>
      have hrest := replanLoop_records turns request.execution request.maximumReplans []
        (performAttempt_keeps (.refl request.planning) hresult)
      rw [(performAttempt_result hresult).1] at hfirst ⊢
      simp only [List.singleton_append, List.tail_cons]
      refine List.forall_mem_cons.mpr ⟨?_, fun recorded hmem => ⟨hrest recorded hmem, .inr hmem⟩⟩
      have hplanning := hfirst first.planning List.mem_cons_self
      exact ⟨hplanning.1, .inl hplanning.2⟩

structure Satisfies (original : PlanCreationRequest casefold) (recorded : RecordedPlan) :
    Prop where
  goal : recorded.plan.goal = original.goal
  constraints : recorded.metadata.constraints = original.constraints
  availableTools : recorded.metadata.availableTools = original.availableTools
  count : recorded.plan.steps.length ≤ original.maximumSteps
  tools : ∀ step ∈ recorded.plan.steps, ∀ toolName ∈ step.toolName,
    toolName ∈ original.availableTools
  required : original.requireToolForEachStep = true →
    ∀ step ∈ recorded.plan.steps, step.toolName ≠ none
  sequential : original.allowParallelSteps = false → recorded.plan.links.Sequential

/-- The validator finds nothing in an output for the two options that replanning drops. -/
def KeepsOptions (original : PlanCreationRequest casefold) (output : PlanDraftOutput) : Prop :=
  .toolRequired ∉ issueCodes original output ∧ .parallelStepsNotAllowed ∉ issueCodes original output

theorem satisfies_iff (h : Records original recorded) :
    Satisfies original recorded ↔ KeepsOptions original recorded.output := by
  have hsteps : ∀ p : Option String → Prop, (∀ step ∈ recorded.plan.steps, p step.toolName) ↔
      ∀ step ∈ recorded.output.steps, p step.toolName := by
    intro p
    rw [← h.drafts, Plan.drafts, List.forall_mem_map]
  have hlinks : recorded.plan.links = recorded.output.links := by
    rw [PlanDraftOutput.links, ← h.drafts, Plan.drafts, List.map_map]
    rfl
  rw [KeepsOptions, PlannerOutputValidator.toolRequired_mem,
    PlannerOutputValidator.parallelStepsNotAllowed_mem, ← hlinks]
  constructor
  · intro hsatisfies
    refine ⟨?_, fun hparallel => hparallel.2 (hsatisfies.sequential hparallel.1)⟩
    rintro ⟨hrequired, step, hstep, hnone⟩
    exact (hsteps (· ≠ none)).mp (hsatisfies.required hrequired) step hstep hnone
  · rintro ⟨htool, hparallel⟩
    refine ⟨h.goal, h.constraints, h.availableTools, h.count, ?_, fun hrequired => ?_, fun hoption =>
      not_not.mp fun hnot => hparallel ⟨hoption, hnot⟩⟩
    · exact (hsteps fun tool => ∀ toolName ∈ tool, toolName ∈ original.availableTools).mpr h.tools
    · exact (hsteps (· ≠ none)).mpr fun step hstep hnone => htool ⟨hrequired, step, hstep, hnone⟩

/-- The plans of a run keep the request's policy exactly if its replacements do not miss the options
that replanning drops. -/
theorem run_satisfies_iff (turns : ℕ → PlanningTurn casefold)
    (request : PlanningAgentLoopRequest casefold) :
    (∀ recorded ∈ (run turns request).executed, Satisfies request.planning recorded) ↔
      ∀ recorded ∈ (run turns request).executed.tail,
        KeepsOptions request.planning recorded.output := by
  have hrecords := run_records turns request
  constructor
  · intro hall recorded hmem
    have hmem := List.mem_of_mem_tail hmem
    exact (satisfies_iff (hrecords recorded hmem).1).mp (hall recorded hmem)
  · intro htail recorded hmem
    refine (satisfies_iff (hrecords recorded hmem).1).mpr ?_
    rcases (hrecords recorded hmem).2 with hcreated | hlater
    · rw [KeepsOptions, hcreated.valid]
      exact ⟨List.not_mem_nil, List.not_mem_nil⟩
    · exact htail recorded hlater

theorem sampleToolless_valid :
    (PlanStepContent.mk "step-001" "title" "description" [] none none).validateStep = .ok () := by
  decide +kernel

def sampleToolless : PlanStepDraft :=
  ⟨⟨"step-001", "title", "description", [], none, none⟩, sampleToolless_valid⟩

def sampleOutput (draft : PlanStepDraft) (h : draft.dependencies = []) : PlanDraftOutput where
  steps := [draft]
  nonempty := List.cons_ne_nil _ _
  ids_nodup := List.nodup_singleton _
  known := by simp [h]

def samplePlanning (planId : String) (output : PlanDraftOutput) :
    PlanningTurn PlanFactory.sampleCasefold where
  composed := .ok ()
  planner _ := .ok output
  created := PlanRunner.sampleClock
  planId := planId
  started := PlanRunner.sampleClock
  steps _ := ⟨PlanRunner.sampleClock, fun _ => none, PlanRunner.sampleClock⟩

def samplePlannings : ℕ → PlanningTurn PlanFactory.sampleCasefold
  | 0 => samplePlanning "plan-001" (sampleOutput PlanFactory.sampleFirst rfl)
  | _ + 1 => samplePlanning "plan-002" (sampleOutput sampleToolless rfl)

def sampleLoopRequest : PlanningAgentLoopRequest PlanFactory.sampleCasefold :=
  ⟨PlanFactory.sampleRequest, PlanFactory.sampleOptions, 1, by decide⟩

theorem run_not_satisfied : ¬∀ recorded ∈ (run samplePlannings sampleLoopRequest).executed,
    Satisfies sampleLoopRequest.planning recorded := by
  intro h
  have htoolless : ((run samplePlannings sampleLoopRequest).executed.any fun recorded =>
      recorded.plan.steps.any (·.toolName.isNone)) = true := by
    decide +kernel
  obtain ⟨recorded, hmem, hsteps⟩ := List.any_eq_true.mp htoolless
  obtain ⟨step, hstep, hnone⟩ := List.any_eq_true.mp hsteps
  exact (h recorded hmem).required rfl step hstep (Option.isNone_iff_eq_none.mp hnone)

end PlanningAgentLoop

end AgenticLab
