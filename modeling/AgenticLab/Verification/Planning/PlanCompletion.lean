import AgenticLab.Verification.Planning.PlanRuns

/-! # Plans whose steps succeed

As long as a step is left, one whose dependencies have been completed is ready. So every cycle
completes a step, and the order of the executions respects the dependencies. -/

namespace AgenticLab

open Precedence (Ordered Acyclic)
open PlanValidator (statusOf statusOf_eq_some Accepts Satisfied exists_statusOf validate_spec
  topologicalOrder_spec)
open PlanLifecycleService (startPlan StartedFrom CompletedFrom completeStep_spec completedStatuses
  activated activated_cases activated_eq_of_satisfied result_of_accepts validatedNow_of_utc)
open PlanExecutionService (executeSteps executeSteps_cons ready_of_completed)

/-- The statuses of a plan whose completed steps are `done`, in this order. -/
structure Progress (links : PlanLinks) (status : String → Option PlanStepStatus)
    (done : List String) : Prop where
  nodup : done.Nodup
  ordered : Ordered links.dependencies [] done
  known : ∀ stepId, status stepId ≠ none ↔ stepId ∈ links.stepIds
  completed : ∀ stepId, status stepId = some .completed ↔ stepId ∈ done
  statuses : ∀ stepId s, status stepId = some s → s ∈ [PlanStepStatus.pending, .ready, .completed]
  pending : ∀ stepId, status stepId = some .pending →
    ∃ dependency ∈ links.dependencies stepId, dependency ∉ done
  ready : ∀ stepId, status stepId = some .ready → links.dependencies stepId ⊆ done

namespace Progress

variable {links : PlanLinks} {status : String → Option PlanStepStatus} {done : List String}
  {stepId : String}

theorem subset (h : Progress links status done) : done ⊆ links.stepIds := by
  intro stepId hmem
  refine (h.known stepId).mp ?_
  rw [(h.completed stepId).mpr hmem]
  exact Option.some_ne_none _

theorem exists_ready (h : Progress links status done) (hlinks : links.WellFormed)
    (hacyclic : Acyclic links.dependencies) (hleft : ∃ stepId ∈ links.stepIds, stepId ∉ done) :
    ∃ stepId, status stepId = some .ready := by
  obtain ⟨least, hnode, hnot, hneeds⟩ :=
    hacyclic.exists_minimal (fun a _ => hlinks.dependencies_subset a) hleft
  refine ⟨least, ?_⟩
  cases hstatus : status least with
  | none => exact absurd hstatus ((h.known least).mpr hnode)
  | some s =>
    have hs := h.statuses least s hstatus
    simp only [List.mem_cons, List.not_mem_nil, or_false] at hs
    rcases hs with rfl | rfl | rfl
    · obtain ⟨dependency, hdependency, hwaits⟩ := h.pending least hstatus
      exact absurd hwaits (hneeds dependency hdependency)
    · rfl
    · exact absurd ((h.completed least).mp hstatus) hnot

theorem satisfied_iff (h : Progress links status done) {dependency : String} :
    Satisfied (status dependency) ↔ dependency ∈ done := by
  rw [← h.completed dependency]
  cases hstatus : status dependency with
  | none => decide
  | some s =>
    have hs := h.statuses dependency s hstatus
    revert hs
    cases s <;> decide

theorem complete (h : Progress links status done) (hready : status stepId = some .ready) :
    Progress links
      (activated links (Function.update status stepId (some .completed))) (done ++ [stepId]) := by
  have hnew : stepId ∉ done := by
    intro hmem
    cases hready.symm.trans ((h.completed stepId).mpr hmem)
  have hsatisfied : ∀ dependency,
      Satisfied (Function.update status stepId (some .completed) dependency) ↔
        dependency ∈ done ++ [stepId] := by
    intro dependency
    by_cases heq : dependency = stepId
    · subst heq
      simp only [Function.update_self, List.mem_append, List.mem_singleton, or_true, iff_true]
      decide
    · rw [Function.update_of_ne heq, h.satisfied_iff]
      simp [heq]
  have hcases := activated_cases links (Function.update status stepId (some .completed))
  have hnone : ∀ other, Function.update status stepId (some .completed) other ≠ none ↔
      status other ≠ none := by
    intro other
    by_cases heq : other = stepId
    · simp [heq, hready]
    · rw [Function.update_of_ne heq]
  refine ⟨?_, h.ordered.concat (h.ready stepId hready), fun other => ?_, fun other => ?_,
    fun other s hother => ?_, fun other hother => ?_, fun other hother => ?_⟩
  · exact List.nodup_append'.mpr ⟨h.nodup, List.nodup_singleton stepId, by simpa using hnew⟩
  · rw [← h.known other, ← hnone other]
    unfold activated
    split
    · rename_i heligible
      simp [heligible.1]
    · rfl
  · constructor
    · intro hother
      rcases hcases other with ⟨hactivated, _⟩ | hsame
      · cases hactivated.symm.trans hother
      · rw [← hsatisfied other, ← hsame, hother]
        decide
    · intro hmem
      have hother := (hsatisfied other).mpr hmem
      rw [activated_eq_of_satisfied hother]
      by_cases heq : other = stepId
      · rw [heq, Function.update_self]
      · rw [Function.update_of_ne heq] at hother ⊢
        exact (h.completed other).mpr (h.satisfied_iff.mp hother)
  · rcases hcases other with ⟨hactivated, _⟩ | hsame
    · cases hactivated.symm.trans hother
      decide
    · rw [hsame] at hother
      by_cases heq : other = stepId
      · rw [heq, Function.update_self] at hother
        cases hother
        decide
      · rw [Function.update_of_ne heq] at hother
        exact h.statuses other s hother
  · rcases hcases other with ⟨hactivated, _⟩ | hsame
    · cases hactivated.symm.trans hother
    · have hpending := hsame ▸ hother
      unfold activated at hother
      split at hother
      · cases hother
      · rename_i heligible
        by_contra hall
        push Not at hall
        exact heligible ⟨hpending, fun dependency hdependency =>
          (hsatisfied dependency).mpr (hall dependency hdependency)⟩
  · rcases hcases other with ⟨_, hdependencies⟩ | hsame
    · exact fun dependency hdependency =>
        (hsatisfied dependency).mp (hdependencies dependency hdependency)
    · rw [hsame] at hother
      have hne : other ≠ stepId := by
        rintro rfl
        simp at hother
      rw [Function.update_of_ne hne] at hother
      exact List.subset_append_of_subset_left _ (h.ready other hother)

end Progress

/-! ## Cycles whose steps succeed -/

def executedIds (calls : List ExecutorCall) : List String := calls.map (·.step.stepId)

structure Advances (links : PlanLinks) (drafts : List PlanStepDraft) (plan : Plan)
    (calls : List ExecutorCall) : Prop where
  sameLinks : plan.links = links
  sameDrafts : plan.drafts = drafts
  accepts : Accepts plan
  status : plan.status = .inProgress ∨ plan.status = .completed
  progress : Progress links (statusOf plan.steps) (executedIds calls)
  finished : plan.status = .completed ↔ ∀ stepId ∈ links.stepIds, stepId ∈ executedIds calls
  /-- A step is executed when its dependencies have been completed. -/
  behind : ∀ call ∈ calls, ∀ dependency ∈ call.step.dependencies,
    statusOf call.plan.steps dependency = some .completed

def Succeeds (turns : ℕ → StepTurn) (drafts : List PlanStepDraft) : Prop :=
  ∀ index, ∀ draft ∈ drafts,
    (PlanStepExecutor.answer (turns index).registry ⟨draft, .inProgress⟩).status = .succeeded

section

variable {links : PlanLinks} {drafts : List PlanStepDraft} {plan : Plan}
  {calls : List ExecutorCall} {turns : ℕ → StepTurn} {stepId : String}

theorem Advances.step {started completed : Plan} {step : PlanStep}
    (h : Advances links drafts plan calls) (hready : statusOf plan.steps stepId = some .ready)
    (hstarted : StartedFrom plan stepId started) (hid : step.stepId = stepId)
    (hmem : step ∈ started.steps) (hcompleted : CompletedFrom started stepId completed) :
    Advances links drafts completed (calls ++ [⟨started, step⟩]) := by
  have hlinks : started.links = links := hstarted.links.trans h.sameLinks
  have hstatuses : completedStatuses started stepId =
      activated links (Function.update (statusOf plan.steps) stepId (some .completed)) := by
    rw [completedStatuses, hlinks, hstarted.steps, Function.update_idem]
  have hids : executedIds (calls ++ [⟨started, step⟩]) = executedIds calls ++ [stepId] := by
    simp [executedIds, hid]
  have hprogress := h.progress.complete hready
  rw [← hstatuses] at hprogress
  refine ⟨hcompleted.links.trans hlinks, ?_, hcompleted.accepts, hcompleted.status, ?_, ?_, ?_⟩
  · rw [hcompleted.drafts, hstarted.drafts, h.sameDrafts]
  · rw [hids, hcompleted.steps]
    exact hprogress
  · rw [hids, hcompleted.finished]
    constructor
    · intro hall other hother
      cases hstatus : completedStatuses started stepId other with
      | none => exact absurd hstatus ((hprogress.known other).mpr hother)
      | some s =>
        refine hprogress.satisfied_iff.mp ?_
        rw [hstatus]
        exact decide_eq_true (hall other s hstatus)
    · intro hall other s hstatus
      have hknown : other ∈ links.stepIds :=
        (hprogress.known other).mp (by rw [hstatus]; exact Option.some_ne_none s)
      rw [(hprogress.completed other).mpr (hall other hknown)] at hstatus
      cases hstatus
      decide
  · intro call hcall dependency hdependency
    rcases List.mem_append.mp hcall with hbefore | hlast
    · exact h.behind call hbefore dependency hdependency
    · obtain rfl := List.mem_singleton.mp hlast
      rw [← Plan.dependencies_eq hmem, hlinks, hid] at hdependency
      have hdone := (h.progress.completed dependency).mpr (h.progress.ready stepId hready hdependency)
      have hne : dependency ≠ stepId := by
        rintro rfl
        cases hready.symm.trans hdone
      rw [hstarted.steps, Function.update_of_ne hne]
      exact hdone

theorem executeSteps_completes {selected : List String} (hturns : UtcTurns turns)
    (hsucceeds : Succeeds turns drafts) (h : Advances links drafts plan calls)
    (hplan : selected ≠ [] → plan.status = .inProgress) (hnodup : selected.Nodup)
    (hready : ∀ stepId ∈ selected, statusOf plan.steps stepId = some .ready) :
    ∃ after results later, executeSteps turns plan selected calls =
        (.ok (after, results, .stepSucceeded), calls ++ later) ∧
      executedIds later = selected ∧ results.map (·.stepId) = selected ∧
      Advances links drafts after (calls ++ later) := by
  induction selected generalizing plan calls with
  | nil => exact ⟨plan, [], [], by simp [executeSteps], rfl, rfl, by simpa using h⟩
  | cons stepId rest ih =>
    obtain ⟨hnew, hrest⟩ := List.nodup_cons.mp hnodup
    obtain ⟨hfirst, hothers⟩ := List.forall_mem_cons.mp hready
    obtain ⟨started, step, hstarted, hid, hstep, hmem, hrun⟩ := executeSteps_cons rest calls
      h.accepts (hplan (List.cons_ne_nil stepId rest)) hfirst hturns
    have hactive : statusOf started.steps stepId = some .inProgress := by
      rw [hstarted.steps, Function.update_self]
    have hdraft : step.toPlanStepDraft ∈ drafts := by
      rw [← h.sameDrafts, ← hstarted.drafts]
      exact List.mem_map_of_mem hmem
    have hsucceeded : (PlanStepExecutor.answer (turns calls.length).registry step).status =
        .succeeded := by
      have hanswer := hsucceeds calls.length step.toPlanStepDraft hdraft
      rwa [← hstep] at hanswer
    obtain ⟨completed, hcomplete, hcompleted⟩ := completeStep_spec hstarted.accepts
      hstarted.status hactive (hturns calls.length).2
    have hlater : ∀ other ∈ rest, statusOf completed.plan.steps other = some .ready ∧
        completed.plan.status = .inProgress := fun other hother =>
      ready_of_completed hstarted hcompleted (fun heq => hnew (heq ▸ hother)) (hothers other hother)
    obtain ⟨after, results, later, hexecute, hids, hresults, hafter⟩ :=
      ih (h.step hfirst hstarted hid hmem hcompleted)
        (fun hne => by
          obtain ⟨other, hother⟩ := List.exists_mem_of_ne_nil rest hne
          exact (hlater other hother).2) hrest (fun other hother => (hlater other hother).1)
    refine ⟨after, PlanStepExecutor.answer (turns calls.length).registry step :: results,
      ⟨started, step⟩ :: later, ?_, ?_, ?_, ?_⟩
    · rw [hrun, PlanExecutionService.settle, if_pos hsucceeded,
        Stateful.run_lift_bind_of_ok hcomplete, Stateful.run_bind_of_ok hexecute]
      simp
    · simp [executedIds, hid]
      exact hids
    · simp [hid, hresults]
    · simpa using hafter

end

namespace PlanRunner

open PlanExecutionService (executeNext)

variable {links : PlanLinks} {drafts : List PlanStepDraft} {plan : Plan}
  {calls : List ExecutorCall} {turns : ℕ → StepTurn}

theorem executeNext_completes (request : PlanScheduleRequest) (hturns : UtcTurns turns)
    (hsucceeds : Succeeds turns drafts) (h : Advances links drafts plan calls)
    (hplan : plan.status = .inProgress) :
    ∃ cycle later, executeNext turns plan request calls = (.ok cycle, calls ++ later) ∧
      later ≠ [] ∧ cycle.stepIds = executedIds later ∧ cycle.status = .stepSucceeded ∧
      Advances links drafts cycle.plan (calls ++ later) := by
  have hlinks : links.WellFormed := h.sameLinks ▸ plan.wellFormed
  have hleft : ∃ stepId ∈ links.stepIds, stepId ∉ executedIds calls := by
    by_contra hall
    push Not at hall
    cases hplan.symm.trans (h.finished.mpr hall)
  obtain ⟨ready, hready⟩ := h.progress.exists_ready hlinks (h.sameLinks ▸ h.accepts.acyclic) hleft
  have hidle : PlanScheduler.stepIdsWith plan .inProgress = [] := by
    refine List.eq_nil_iff_forall_not_mem.mpr fun stepId hmem => ?_
    have hstatus := h.progress.statuses stepId _ (PlanScheduler.mem_stepIdsWith.mp hmem)
    exact absurd hstatus (by decide)
  obtain ⟨schedule, hschedule, hselects, hsome⟩ :=
    PlanScheduler.schedule_spec request h.accepts hplan
  have hselected := hsome hidle (List.ne_nil_of_mem (PlanScheduler.mem_stepIdsWith.mpr hready))
  obtain ⟨after, results, later, hexecute, hids, hresults, hafter⟩ :=
    executeSteps_completes hturns hsucceeds h (fun _ => hplan) hselects.nodup hselects.ready
  obtain ⟨validation, hvalidate, _⟩ := validate_spec after
  have hlater : later ≠ [] := by
    rintro rfl
    exact hselected hids.symm
  have hnonempty : results ≠ [] := by
    rintro rfl
    exact hselected hresults.symm
  refine ⟨⟨after, validation, schedule, results, .stepSucceeded⟩, later, ?_, hlater,
    hresults.trans hids.symm, rfl, hafter⟩
  rw [executeNext, Stateful.run_lift_bind_of_ok hschedule, if_neg hselected,
    Stateful.run_bind_of_ok hexecute]
  dsimp only
  rw [Stateful.run_lift_bind_of_ok hvalidate]
  have hresult : newExecutionResult after validation schedule results .stepSucceeded =
      .ok ⟨after, validation, schedule, results, .stepSucceeded⟩ := by
    simp [newExecutionResult, raiseIf, hresults, hselects.nodup, hnonempty]
  rw [hresult]
  rfl

theorem statusOf_value (steps : List PlanStep) (stepId : String) :
    (statusOf steps stepId).map (·.value) =
      (steps.map fun step => (step.stepId, step.status.value)).lookup stepId := by
  induction steps with
  | nil => rfl
  | cons first rest ih =>
    by_cases heq : first.stepId = stepId
    · subst heq
      simp [statusOf]
    · have hne : (stepId == first.stepId) = false := by simpa using Ne.symm heq
      rw [List.map_cons, List.lookup_cons, hne, ← ih]
      simp [statusOf, heq]

theorem statusOf_signature (plan : Plan) (stepId : String) :
    (statusOf plan.steps stepId).map (·.value) = (planSignature plan).2.lookup stepId :=
  statusOf_value plan.steps stepId

theorem planSignature_ne {after : Plan} {later : List ExecutorCall}
    (h : Advances links drafts plan calls) (hafter : Advances links drafts after (calls ++ later))
    (hlater : later ≠ []) : planSignature after ≠ planSignature plan := by
  intro hsame
  obtain ⟨call, hcall⟩ := List.exists_mem_of_ne_nil later hlater
  have hids : executedIds (calls ++ later) = executedIds calls ++ executedIds later :=
    List.map_append
  have hmem : call.step.stepId ∈ executedIds later := List.mem_map_of_mem hcall
  have hnew : call.step.stepId ∉ executedIds calls := by
    intro hold
    have hnodup := hafter.progress.nodup
    rw [hids] at hnodup
    exact List.disjoint_of_nodup_append hnodup hold hmem
  have hcompleted : statusOf after.steps call.step.stepId = some .completed :=
    (hafter.progress.completed _).mpr (hids ▸ List.mem_append_right _ hmem)
  have hvalues := statusOf_signature after call.step.stepId
  rw [hsame, ← statusOf_signature, hcompleted] at hvalues
  cases hstatus : statusOf plan.steps call.step.stepId with
  | none =>
    rw [hstatus] at hvalues
    cases hvalues
  | some s =>
    rw [hstatus] at hvalues
    have hs : s = .completed := by
      revert hvalues
      cases s <;> decide
    exact hnew ((h.progress.completed _).mp (hstatus.trans (congrArg some hs)))

theorem foldl_addKey_of_nodup {keys more : List String} (h : (keys ++ more).Nodup) :
    more.foldl addKey keys = keys ++ more := by
  induction more generalizing keys with
  | nil => simp
  | cons key rest ih =>
    have hnew : key ∉ keys := by
      intro hmem
      exact List.disjoint_of_nodup_append h hmem List.mem_cons_self
    rw [List.foldl_cons, addKey, if_neg hnew, ih (by simpa using h)]
    simp

theorem runCycles_completes {options : PlanRunRequest} (remaining : ℕ)
    (cycles : List PlanExecutionResult) (hturns : UtcTurns turns)
    (hsucceeds : Succeeds turns drafts) (h : Advances links drafts plan calls)
    (hplan : plan.status = .inProgress)
    (hremaining : links.stepIds.length ≤ (executedIds calls).length + remaining)
    (hcycles : cycles.flatMap (·.stepIds) = executedIds calls)
    (hknown : ∀ cycle ∈ cycles, cycle.stepIds ⊆ plan.stepIds) :
    ∃ result later, runCycles turns options remaining plan cycles (executedIds calls) calls =
        (.ok result, calls ++ later) ∧ result.status = .completed ∧
      Advances links drafts result.plan (calls ++ later) ∧ result.plan.status = .completed := by
  induction remaining generalizing plan cycles calls with
  | zero =>
    exfalso
    have hperm := (h.progress.nodup.subperm h.progress.subset).perm_of_length_le hremaining
    cases hplan.symm.trans (h.finished.mpr fun stepId hmem => hperm.mem_iff.mpr hmem)
  | succ remaining ih =>
    obtain ⟨cycle, later, hexecute, hlater, hids, hstatus, hafter⟩ :=
      executeNext_completes options.scheduleRequest hturns hsucceeds h hplan
    have happend : executedIds (calls ++ later) = executedIds calls ++ executedIds later :=
      List.map_append
    have hnodup := hafter.progress.nodup
    have hkeys : cycle.stepIds.foldl addKey (executedIds calls) =
        executedIds (calls ++ later) := by
      rw [happend] at hnodup
      rw [hids, foldl_addKey_of_nodup hnodup, happend]
    have hcycles' : (cycles ++ [cycle]).flatMap (·.stepIds) = executedIds (calls ++ later) := by
      rw [List.flatMap_append, hcycles, happend, ← hids]
      simp
    have hsame : cycle.plan.stepIds = plan.stepIds :=
      Plan.stepIds_of_links (hafter.sameLinks.trans h.sameLinks.symm)
    have hknown' : ∀ other ∈ cycles ++ [cycle], other.stepIds ⊆ cycle.plan.stepIds := by
      intro other hother
      rcases List.mem_append.mp hother with hmem | hmem
      · rw [hsame]
        exact hknown other hmem
      · rw [List.mem_singleton.mp hmem, hids, ← Plan.stepIds_eq, hafter.sameLinks]
        refine List.Subset.trans ?_ hafter.progress.subset
        rw [happend]
        exact List.subset_append_right _ _
    rw [runCycles, Stateful.run_bind_of_ok hexecute, hkeys]
    by_cases hdone : cycle.plan.status = .completed
    · have hmessage : isBlank "Plan execution completed successfully." = false := by
        decide +kernel
      obtain ⟨validation, hresult⟩ := result_spec .completed hmessage hknown'
      have hfrom : fromKeys ((cycles ++ [cycle]).flatMap (·.stepIds)) =
          executedIds (calls ++ later) := by
        rw [hcycles']
        exact foldl_addKey_of_nodup (by simpa using hnodup)
      rw [hfrom] at hresult
      rw [hdone]
      exact ⟨_, later, congrArg (·, calls ++ later) hresult, rfl, hafter, hdone⟩
    · have hprogress := hafter.status.resolve_right hdone
      have hlength : (executedIds calls).length + 1 ≤ (executedIds (calls ++ later)).length := by
        rw [happend, List.length_append]
        have hpos := List.length_pos_iff.mpr hlater
        simp only [executedIds, List.length_map]
        omega
      obtain ⟨result, rest, hrun, hcompleted, hend, hplanEnd⟩ := ih (cycles ++ [cycle]) hafter
        hprogress (by omega) hcycles' hknown'
      refine ⟨result, later ++ rest, ?_, hcompleted, by rwa [← List.append_assoc], hplanEnd⟩
      have hne := planSignature_ne h hafter hlater
      rw [hprogress, ← List.append_assoc, ← hrun]
      simp [terminalStatus, hstatus, hne]

end PlanRunner

/-! ## Plans of the factory -/

namespace PlanFactory

variable {casefold : Casefold} {request : PlanCreationRequest casefold}
  {drafts : List PlanStepDraft} {clock : Datetime} {planId : String} {created : CreatedPlan}

theorem newPlan_eq_ok {goal : String} {status : PlanStatus} {steps : List PlanStep}
    {createdAt updatedAt : Datetime} {plan : Plan}
    (h : newPlan planId goal status steps createdAt updatedAt = .ok plan) :
    plan.steps = steps ∧ plan.status = status ∧ plan.goal = goal ∧ plan.createdAt = createdAt := by
  unfold newPlan at h
  split at h
  · cases h
  · obtain ⟨_, h⟩ := raiseIf_bind_eq_ok.mp h
    obtain ⟨_, h⟩ := raiseIf_bind_eq_ok.mp h
    obtain ⟨_, _, h⟩ := bind_eq_ok.mp h
    obtain ⟨_, h⟩ := raiseIf_bind_eq_ok.mp h
    split at h
    · cases h
      exact ⟨rfl, rfl, rfl, rfl⟩
    · cases h

theorem newPlan_of_create (h : create request drafts clock planId = .ok created) :
    newPlan planId request.goal .draft (materializeSteps drafts) clock clock =
      .ok created.plan := by
  obtain ⟨_, h⟩ := raiseIf_bind_eq_ok.mp h
  obtain ⟨_, h⟩ := raiseIf_bind_eq_ok.mp h
  obtain ⟨_, h⟩ := raiseIf_bind_eq_ok.mp h
  obtain ⟨_, _, h⟩ := bind_eq_ok.mp h
  obtain ⟨now, hnow, h⟩ := bind_eq_ok.mp h
  obtain ⟨_, h⟩ := raiseIf_bind_eq_ok.mp h
  obtain ⟨plan, hplan, h⟩ := bind_eq_ok.mp h
  obtain ⟨_, _, h⟩ := bind_eq_ok.mp h
  obtain ⟨_, h⟩ := raiseIf_bind_eq_ok.mp h
  obtain ⟨_, h⟩ := raiseIf_bind_eq_ok.mp h
  cases h
  obtain ⟨_, hnow⟩ := raiseIf_bind_eq_ok.mp hnow
  obtain ⟨_, hnow⟩ := raiseIf_bind_eq_ok.mp hnow
  rwa [← Except.ok.inj hnow] at hplan

theorem create_eq_ok (h : create request drafts clock planId = .ok created) :
    created.plan.steps = materializeSteps drafts ∧ created.plan.status = .draft ∧
      created.plan.goal = request.goal ∧ created.plan.createdAt = clock :=
  newPlan_eq_ok (newPlan_of_create h)

theorem statusOf_materialized (h : create request drafts clock planId = .ok created)
    {stepId : String} {status : PlanStepStatus}
    (hstatus : statusOf created.plan.steps stepId = some status) :
    status = if created.plan.links.dependencies stepId = [] then .ready else .pending := by
  obtain ⟨step, hstep, rfl, rfl⟩ := statusOf_eq_some.mp hstatus
  rw [Plan.dependencies_eq hstep]
  rw [(create_eq_ok h).1] at hstep
  obtain ⟨draft, _, rfl⟩ := List.mem_map.mp hstep
  rfl

theorem accepts_started (h : create request drafts clock planId = .ok created)
    (hacyclic : Acyclic created.plan.links.dependencies) (start : Datetime) :
    Accepts (created.plan.withSteps .inProgress created.plan.steps start rfl) := by
  refine PlanValidator.accepts_withSteps.mpr ⟨hacyclic, ?_, ?_, ?_, ?_⟩
  · intro stepId hstatus dependency hdependency
    have hready := statusOf_materialized h hstatus
    by_cases hnone : created.plan.links.dependencies stepId = []
    · rw [hnone] at hdependency
      exact absurd hdependency List.not_mem_nil
    · simp [hnone] at hready
  · intro stepId _ _ _ dependency _ hfailed
    have hstatus := statusOf_materialized h hfailed
    by_cases hnone : created.plan.links.dependencies dependency = []
    · simp [hnone] at hstatus
    · simp [hnone] at hstatus
  · intro hterminal
    exact absurd hterminal (by decide)
  · intro hcompleted
    cases hcompleted

theorem progress_started (h : create request drafts clock planId = .ok created) :
    Progress created.plan.links (statusOf created.plan.steps) [] where
  nodup := List.nodup_nil
  ordered := trivial
  known stepId := by
    rw [Plan.stepIds_eq]
    constructor
    · intro hsome
      obtain ⟨status, hstatus⟩ := Option.ne_none_iff_exists'.mp hsome
      obtain ⟨step, hstep, rfl, _⟩ := statusOf_eq_some.mp hstatus
      exact List.mem_map_of_mem hstep
    · intro hmem
      obtain ⟨status, hstatus⟩ := exists_statusOf hmem
      rw [hstatus]
      exact Option.some_ne_none status
  completed stepId := by
    refine iff_of_false (fun hcompleted => ?_) List.not_mem_nil
    have hstatus := statusOf_materialized h hcompleted
    by_cases hnone : created.plan.links.dependencies stepId = []
    · simp [hnone] at hstatus
    · simp [hnone] at hstatus
  statuses stepId status hstatus := by
    rw [statusOf_materialized h hstatus]
    by_cases hnone : created.plan.links.dependencies stepId = []
    · simp [hnone]
    · simp [hnone]
  pending stepId hstatus := by
    have hpending := statusOf_materialized h hstatus
    by_cases hnone : created.plan.links.dependencies stepId = []
    · simp [hnone] at hpending
    · obtain ⟨dependency, hmem⟩ := List.exists_mem_of_ne_nil _ hnone
      exact ⟨dependency, hmem, List.not_mem_nil⟩
  ready stepId hstatus := by
    have hready := statusOf_materialized h hstatus
    by_cases hnone : created.plan.links.dependencies stepId = []
    · simp [hnone]
    · simp [hnone] at hready

theorem started_advances (h : create request drafts clock planId = .ok created)
    (hacyclic : Acyclic created.plan.links.dependencies) {start : Datetime} (hstart : start.IsUtc) :
    ∃ started, startPlan created.plan start = .ok started ∧ started.plan.status = .inProgress ∧
      Advances created.plan.links drafts started.plan [] := by
  obtain ⟨hsteps, hdraft, _⟩ := create_eq_ok h
  have haccepts := accepts_started h hacyclic start
  obtain ⟨validation, _, hresult⟩ :=
    result_of_accepts haccepts List.nodup_nil (List.nil_subset _)
  refine ⟨⟨created.plan.withSteps .inProgress created.plan.steps start rfl, validation, []⟩, ?_,
    rfl, rfl, ?_, haccepts, .inl rfl, progress_started h, ?_,
    fun _ hcall => absurd hcall List.not_mem_nil⟩
  · rw [startPlan, hdraft, raiseIf, if_neg (by decide), ok_bind, validatedNow_of_utc hstart,
      ok_bind, hresult]
  · change created.plan.steps.map _ = drafts
    rw [hsteps, materializeSteps, List.map_map]
    exact List.map_id _
  · obtain ⟨step, hstep⟩ := List.exists_mem_of_ne_nil _ created.plan.nonempty
    refine iff_of_false (fun h => absurd (show PlanStatus.inProgress = .completed from h)
      (by decide)) fun hall => ?_
    exact List.not_mem_nil (hall step.stepId (by
      rw [Plan.stepIds_eq]
      exact List.mem_map_of_mem hstep))

theorem length_stepIds (h : create request drafts clock planId = .ok created) :
    created.plan.links.stepIds.length = drafts.length := by
  rw [Plan.stepIds_eq, Plan.stepIds, (create_eq_ok h).1, materializeSteps]
  simp

def sampleCasefold : Casefold := String.toLower

def sampleRequest : PlanCreationRequest sampleCasefold where
  goal := "goal"
  constraints := []
  availableTools := ["search"]
  maximumSteps := 2
  requireToolForEachStep := true
  allowParallelSteps := false
  positive := Nat.two_pos
  bounded := by decide
  goal_not_blank := by decide +kernel
  constraints_valid := by decide +kernel
  availableTools_valid := by decide +kernel

def sampleFirst : PlanStepDraft :=
  ⟨⟨"step-001", "title", "description", [], some "search", none⟩, by decide +kernel⟩

def sampleSecond : PlanStepDraft :=
  ⟨⟨"step-002", "title", "description", ["step-001"], some "search", none⟩, by decide +kernel⟩

def sampleTool : ToolExecutionResult where
  toolName := "search"
  status := .succeeded
  errorMessage := none
  valid := by decide +kernel

def sampleTurn : StepTurn :=
  ⟨PlanRunner.sampleClock,
    fun toolName => if toolName = "search" then some (.returns sampleTool) else none,
    PlanRunner.sampleClock⟩

def sampleOptions : PlanRunRequest where
  maximumCycles := 2
  scheduleRequest := ⟨true, 2, false, Nat.two_pos, by decide⟩
  stopOnNoProgress := true
  positive := Nat.two_pos
  bounded := by decide

theorem isUtc_sampleClock : PlanRunner.sampleClock.IsUtc := ⟨rfl, rfl⟩

theorem utcTurns_sampleTurn : UtcTurns fun _ => sampleTurn :=
  fun _ => ⟨isUtc_sampleClock, isUtc_sampleClock⟩

theorem succeeds_sampleTurn : Succeeds (fun _ => sampleTurn) [sampleFirst, sampleSecond] := by
  have hsucceeds : ∀ draft ∈ [sampleFirst, sampleSecond],
      (PlanStepExecutor.answer sampleTurn.registry ⟨draft, .inProgress⟩).status = .succeeded := by
    simp only [List.forall_mem_cons, List.not_mem_nil, false_implies, implies_true, and_true]
    exact ⟨by decide +kernel, by decide +kernel⟩
  exact fun _ => hsucceeds

end PlanFactory

end AgenticLab
