import AgenticLab.Library.Precedence
import AgenticLab.Model.Planning.PlanValidator

/-! # What the validator accepts

The order that `_topological_order` finds respects the dependencies, and it finds one exactly when
they are acyclic. So `validate` never raises, and its verdict is a condition on the dependencies and
the statuses. -/

namespace AgenticLab

open Precedence (Ordered Acyclic Frontier)

namespace PlanLinks

variable {links : PlanLinks}

structure WellFormed (links : PlanLinks) : Prop where
  nodup : links.stepIds.Nodup
  known : ∀ link ∈ links, link.2 ⊆ links.stepIds
  unique : ∀ link ∈ links, link.2.Nodup

theorem dependencies_of_mem (h : links.stepIds.Nodup) {link : String × List String}
    (hmem : link ∈ links) : links.dependencies link.1 = link.2 := by
  unfold dependencies
  induction links with
  | nil => exact absurd hmem List.not_mem_nil
  | cons first rest ih =>
    obtain ⟨hfirst, hrest⟩ := List.nodup_cons.mp h
    rcases List.mem_cons.mp hmem with rfl | hlater
    · rw [List.lookup_cons_self, Option.getD_some]
    · have hne : link.1 ≠ first.1 := by
        intro heq
        exact hfirst (heq ▸ List.mem_map_of_mem hlater)
      rw [List.lookup_cons, beq_false_of_ne hne]
      exact ih hrest hlater

variable {stepId : String}

theorem exists_link (h : stepId ∈ links.stepIds) :
    ∃ link ∈ links, link.1 = stepId := List.mem_map.mp h

theorem dependencies_of_notMem (h : stepId ∉ links.stepIds) :
    links.dependencies stepId = [] := by
  have hnone : links.lookup stepId = none := by
    rw [List.lookup_eq_none_iff]
    intro link hlink
    have hne : stepId ≠ link.1 := by
      rintro rfl
      exact h (List.mem_map_of_mem hlink)
    exact bne_iff_ne.mpr hne
  rw [dependencies, hnone]
  rfl

namespace WellFormed

variable (h : links.WellFormed)

include h

theorem dependencies_subset (stepId : String) : links.dependencies stepId ⊆ links.stepIds := by
  by_cases hmem : stepId ∈ links.stepIds
  · obtain ⟨link, hlink, rfl⟩ := exists_link hmem
    rw [dependencies_of_mem h.nodup hlink]
    exact h.known link hlink
  · simp [dependencies_of_notMem hmem]

theorem dependencies_nodup (stepId : String) : (links.dependencies stepId).Nodup := by
  by_cases hmem : stepId ∈ links.stepIds
  · obtain ⟨link, hlink, rfl⟩ := exists_link hmem
    rw [dependencies_of_mem h.nodup hlink]
    exact h.unique link hlink
  · simp [dependencies_of_notMem hmem]

theorem mem_dependents {stepId dependent : String} :
    dependent ∈ links.dependents stepId ↔
      dependent ∈ links.stepIds ∧ stepId ∈ links.dependencies dependent := by
  rw [dependents, sortByIndex, (List.perm_insertionSort _ _).mem_iff]
  constructor
  · intro hmem
    obtain ⟨link, hlink, rfl⟩ := List.mem_map.mp hmem
    obtain ⟨hlinks, hneeds⟩ := List.mem_filter.mp hlink
    rw [dependencies_of_mem h.nodup hlinks]
    exact ⟨List.mem_map_of_mem hlinks, by simpa using hneeds⟩
  · intro hmem
    obtain ⟨link, hlink, rfl⟩ := exists_link hmem.1
    rw [dependencies_of_mem h.nodup hlink] at hmem
    exact List.mem_map_of_mem (List.mem_filter.mpr ⟨hlink, by simpa using hmem.2⟩)

theorem dependents_nodup (stepId : String) : (links.dependents stepId).Nodup := by
  rw [dependents, sortByIndex, (List.perm_insertionSort _ _).nodup_iff]
  exact h.nodup.sublist (List.filter_sublist.map Prod.fst)

end WellFormed

end PlanLinks

namespace PlanValidator

variable {links : PlanLinks}

/-! ## Topological order -/

theorem foldl_release {dependents : List String} (hnodup : dependents.Nodup)
    (indegree : String → ℤ) (found : List String) :
    dependents.foldl release (indegree, found) =
      (fun stepId => if stepId ∈ dependents then indegree stepId - 1 else indegree stepId,
        found ++ dependents.filter fun stepId => indegree stepId - 1 = 0) := by
  induction dependents generalizing indegree found with
  | nil => simp
  | cons first rest ih =>
    obtain ⟨hfirst, hrest⟩ := List.nodup_cons.mp hnodup
    have hlater : rest.filter (fun stepId =>
        Function.update indegree first (indegree first - 1) stepId - 1 = 0) =
        rest.filter fun stepId => indegree stepId - 1 = 0 := by
      refine List.filter_congr fun stepId hmem => ?_
      have hne : stepId ≠ first := by
        rintro rfl
        exact hfirst hmem
      rw [Function.update_of_ne hne]
    rw [List.foldl_cons, release, ih hrest]
    simp only [Function.update_self, hlater, Prod.mk.injEq]
    constructor
    · funext stepId
      by_cases heq : stepId = first
      · subst heq
        simp [hfirst]
      · simp [heq]
    · by_cases hzero : indegree first - 1 = 0
      · simp [hzero]
      · simp [hzero]

def remaining (links : PlanLinks) (order : List String) (stepId : String) : List String :=
  (links.dependencies stepId).filter (· ∉ order)

variable {order : List String}

theorem remaining_eq_nil {stepId : String} :
    remaining links order stepId = [] ↔ links.dependencies stepId ⊆ order := by
  simp [remaining, List.subset_def]

variable {first stepId : String}

theorem remaining_concat (h : links.WellFormed) :
    remaining links (order ++ [first]) stepId = (remaining links order stepId).erase first := by
  rw [remaining, remaining, ((h.dependencies_nodup stepId).filter _).erase_eq_filter,
    List.filter_filter]
  refine List.filter_congr fun dependency _ => ?_
  by_cases heq : dependency = first <;> simp [heq]

theorem length_remaining_concat (h : links.WellFormed) (hfirst : first ∉ order) :
    ((remaining links (order ++ [first]) stepId).length : ℤ) =
      if first ∈ links.dependencies stepId then ((remaining links order stepId).length : ℤ) - 1
      else (remaining links order stepId).length := by
  have hmem : first ∈ remaining links order stepId ↔ first ∈ links.dependencies stepId := by
    simp [remaining, hfirst]
  rw [remaining_concat h, List.length_erase]
  by_cases hneeds : first ∈ links.dependencies stepId
  · have hpos := List.length_pos_of_mem (hmem.mpr hneeds)
    rw [if_pos (hmem.mpr hneeds), if_pos hneeds]
    omega
  · rw [if_neg fun hneeds' => hneeds (hmem.mp hneeds'), if_neg hneeds]

/-- What the loop keeps. -/
structure Draining (links : PlanLinks) (ready order : List String) (indegree : String → ℤ) :
    Prop where
  frontier : Frontier links.dependencies links.stepIds ready order
  indegree : ∀ stepId ∈ links.stepIds, indegree stepId = (remaining links order stepId).length

variable {ready order : List String}

theorem Draining.step (hlinks : links.WellFormed) {first : String}
    {indegree : String → ℤ} (h : Draining links (first :: ready) order indegree) :
    Draining links
      (ready ++ links.sortByIndex ((links.dependents first).foldl release (indegree, [])).2)
      (order ++ [first]) ((links.dependents first).foldl release (indegree, [])).1 := by
  have hfirst : first ∉ order := by
    intro hmem
    exact List.disjoint_of_nodup_append h.frontier.nodup hmem List.mem_cons_self
  have hdependents := hlinks.dependents_nodup first
  rw [foldl_release hdependents]
  have hperm := List.perm_insertionSort
    (fun a b => links.stepIds.idxOf a ≤ links.stepIds.idxOf b)
    ((links.dependents first).filter fun stepId => indegree stepId - 1 = 0)
  have hafter : ∀ stepId ∈ links.stepIds,
      (if stepId ∈ links.dependents first then indegree stepId - 1 else indegree stepId) =
        (remaining links (order ++ [first]) stepId).length := by
    intro stepId hstep
    rw [length_remaining_concat hlinks hfirst, h.indegree stepId hstep]
    simp [hlinks.mem_dependents, hstep]
  refine ⟨h.frontier.step ?_ fun stepId => ?_, hafter⟩
  · simpa [PlanLinks.sortByIndex, hperm.nodup_iff] using hdependents.filter _
  · simp only [PlanLinks.sortByIndex, List.nil_append, hperm.mem_iff, List.mem_filter,
      decide_eq_true_eq]
    constructor
    · rintro ⟨hwaits, hzero⟩
      obtain ⟨hstep, hneeds⟩ := hlinks.mem_dependents.mp hwaits
      have hleft := hafter stepId hstep
      rw [if_pos hwaits, hzero] at hleft
      have hnil := List.eq_nil_of_length_eq_zero (Int.ofNat_eq_zero.mp hleft.symm)
      exact ⟨hstep, hneeds, remaining_eq_nil.mp hnil⟩
    · rintro ⟨hstep, hneeds, hdone⟩
      have hwaits := hlinks.mem_dependents.mpr ⟨hstep, hneeds⟩
      have hleft := hafter stepId hstep
      rw [if_pos hwaits, remaining_eq_nil.mpr hdone] at hleft
      exact ⟨hwaits, hleft⟩

theorem drain_spec (hlinks : links.WellFormed) {fuel : ℕ} {indegree : String → ℤ}
    (h : Draining links ready order indegree) (hfuel : links.stepIds.length ≤ order.length + fuel) :
    ∃ final, drain links fuel ready order indegree = some final ∧
      Frontier links.dependencies links.stepIds [] final := by
  induction fuel generalizing ready order indegree with
  | zero =>
    cases ready with
    | nil => exact ⟨order, rfl, h.frontier⟩
    | cons first rest =>
      have hlength := (h.frontier.nodup.subperm h.frontier.subset).length_le
      simp only [List.length_append, List.length_cons] at hlength
      omega
  | succ fuel ih =>
    cases ready with
    | nil => exact ⟨order, rfl, h.frontier⟩
    | cons first rest => exact ih (h.step hlinks) (by simp; omega)

theorem draining_start (hlinks : links.WellFormed) :
    Draining links (links.stepIds.filter fun stepId => indegree links stepId = 0) []
      (indegree links) := by
  have hzero : ∀ stepId, indegree links stepId = 0 ↔ links.dependencies stepId = [] := by
    intro stepId
    simp [indegree]
  refine ⟨⟨?_, ?_, trivial, ?_⟩, ?_⟩
  · exact hlinks.nodup.filter _
  · exact List.filter_subset_self _
  · intro stepId hstep
    simp [hzero, hstep]
  · intro stepId _
    simp [indegree, remaining]

theorem topologicalOrder_spec (hlinks : links.WellFormed) :
    (∃ order, topologicalOrder links = some order ∧ Ordered links.dependencies [] order ∧
      order.Perm links.stepIds ∧ Acyclic links.dependencies) ∨
    (topologicalOrder links = none ∧ ¬Acyclic links.dependencies) := by
  have hlength : links.stepIds.length = links.length := List.length_map _
  obtain ⟨final, hfinal, hfrontier⟩ :=
    drain_spec hlinks (draining_start hlinks) (hlength.trans (Nat.zero_add _).symm).le
  have hrun : topologicalOrder links =
      if final.length ≠ links.length then none else some final := by
    rw [topologicalOrder, hfinal]
  by_cases hall : final.length = links.length
  · have hsubset : final ⊆ links.stepIds := by simpa using hfrontier.subset
    have hnodup : final.Nodup := by simpa using hfrontier.nodup
    have hperm : final.Perm links.stepIds :=
      (hnodup.subperm hsubset).perm_of_length_le (by rw [hlength, hall])
    refine .inl ⟨final, by rw [hrun, if_neg (not_not.mpr hall)], hfrontier.ordered, hperm,
      hfrontier.ordered.acyclic fun stepId hneeds => hperm.mem_iff.mpr ?_⟩
    by_contra hnot
    exact hneeds (PlanLinks.dependencies_of_notMem hnot)
  · refine .inr ⟨by rw [hrun, if_pos hall], fun hacyclic => hall ?_⟩
    rw [← hlength]
    exact (hfrontier.perm_of_acyclic hlinks.nodup (fun a _ => hlinks.dependencies_subset a)
      hacyclic).length_eq

/-- A list of findings that is made without an exception, with the condition for an error. -/
def Finds (found : Except Raised (List PlanValidationIssue)) (error : Prop) : Prop :=
  ∃ issues, found = .ok issues ∧ (hasErrors issues = true ↔ error)

theorem hasErrors_append {first second : List PlanValidationIssue} :
    hasErrors (first ++ second) = (hasErrors first || hasErrors second) := List.any_append

theorem Finds.mapM {α : Type} {xs : List α} {f : α → Except Raised (List PlanValidationIssue)}
    {error : α → Prop} (h : ∀ x ∈ xs, Finds (f x) (error x)) :
    Finds (do return (← xs.mapM f).flatten) (∃ x ∈ xs, error x) := by
  induction xs with
  | nil => exact ⟨[], rfl, by simp [hasErrors]⟩
  | cons x rest ih =>
    obtain ⟨hx, hrest⟩ := List.forall_mem_cons.mp h
    obtain ⟨first, hfirst, herror⟩ := hx
    obtain ⟨issues, hissues, herrors⟩ := ih hrest
    obtain ⟨found, hfound, hflatten⟩ := bind_eq_ok.mp hissues
    refine ⟨first ++ issues, ?_, ?_⟩
    · rw [List.mapM_cons, hfirst, ok_bind, hfound]
      cases hflatten
      rfl
    · simp [hasErrors_append, herror, herrors]

variable {found : Except Raised (List PlanValidationIssue)}

theorem Finds.congr {error error' : Prop}
    (h : Finds found error) (heq : error ↔ error') : Finds found error' := by
  obtain ⟨issues, hissues, herrors⟩ := h
  exact ⟨issues, hissues, herrors.trans heq⟩

theorem Finds.guarded {error : Prop} {guard : Except Raised Unit} (h : Finds found error)
    (hguard : guard = .ok ()) : Finds (do let issues ← found; guard; return issues) error := by
  obtain ⟨issues, hissues, herrors⟩ := h
  exact ⟨issues, by rw [hissues, hguard]; rfl, herrors⟩

theorem Finds.append {first second third : Except Raised (List PlanValidationIssue)}
    {error₁ error₂ error₃ : Prop} (h₁ : Finds first error₁) (h₂ : Finds second error₂)
    (h₃ : Finds third error₃) :
    Finds (do let a ← first; let b ← second; let c ← third; return a ++ b ++ c)
      (error₁ ∨ error₂ ∨ error₃) := by
  obtain ⟨issues₁, hissues₁, herrors₁⟩ := h₁
  obtain ⟨issues₂, hissues₂, herrors₂⟩ := h₂
  obtain ⟨issues₃, hissues₃, herrors₃⟩ := h₃
  refine ⟨issues₁ ++ issues₂ ++ issues₃, by rw [hissues₁, hissues₂, hissues₃]; rfl, ?_⟩
  simp [hasErrors_append, herrors₁, herrors₂, herrors₃]

section

variable {condition : Prop} [Decidable condition] {code : PlanValidationCode}
  {severity : PlanValidationSeverity} {message : String} {stepId : Option String}
  {relatedStepIds : List String}

theorem newIssue_of_valid (hmessage : isBlank message = false) (hstep : stepId.all (!isBlank ·))
    (hblank : ∀ related ∈ relatedStepIds, isBlank related = false) (hnodup : relatedStepIds.Nodup) :
    newIssue code severity message stepId relatedStepIds =
      .ok ⟨code, severity, message, stepId, relatedStepIds⟩ := by
  have hstep' : stepId.any isBlank = false := by
    cases stepId with
    | none => rfl
    | some id => simpa using hstep
  simp only [newIssue, raiseIf_bind_eq_ok]
  simpa [hmessage, hstep', hnodup] using hblank

theorem issueIf_spec (hmessage : isBlank message = false) (hstep : stepId.all (!isBlank ·))
    (hblank : ∀ related ∈ relatedStepIds, isBlank related = false) (hnodup : relatedStepIds.Nodup) :
    Finds (issueIf condition code severity message stepId relatedStepIds)
      (condition ∧ severity = .error) := by
  by_cases hcondition : condition
  · refine ⟨[⟨code, severity, message, stepId, relatedStepIds⟩], ?_, by
      simp [hasErrors, hcondition]⟩
    rw [issueIf, if_pos hcondition, newIssue_of_valid hmessage hstep hblank hnodup]
    rfl
  · exact ⟨[], by rw [issueIf, if_neg hcondition], by simp [hasErrors, hcondition]⟩

end

end PlanValidator

theorem PlanStepContent.valid {content : PlanStepContent} (h : content.validateStep = .ok ()) :
    isBlank content.stepId = false ∧
      (∀ dependency ∈ content.dependencies, isBlank dependency = false) ∧
      content.dependencies.Nodup := by
  obtain ⟨_, htexts, h⟩ := bind_eq_ok.mp h
  obtain ⟨_, _, h⟩ := bind_eq_ok.mp h
  obtain ⟨_, _, h⟩ := bind_eq_ok.mp h
  obtain ⟨hblank, h⟩ := raiseIf_bind_eq_ok.mp h
  obtain ⟨hnodup, _⟩ := raiseIf_bind_eq_ok.mp h
  rw [requireTexts, raiseIf_bind_eq_ok] at htexts
  exact ⟨by simpa using htexts.1, by simpa using hblank, not_not.mp hnodup⟩

namespace PlanStep

variable (step : PlanStep)

theorem isBlank_stepId : isBlank step.stepId = false := (PlanStepContent.valid step.valid).1

theorem isBlank_dependency {dependency : String} (h : dependency ∈ step.dependencies) :
    isBlank dependency = false := (PlanStepContent.valid step.valid).2.1 dependency h

theorem dependencies_nodup : step.dependencies.Nodup := (PlanStepContent.valid step.valid).2.2

end PlanStep

namespace Plan

variable (plan : Plan)

theorem stepIds_eq : plan.links.stepIds = plan.stepIds := by
  simp [links, stepIds, PlanLinks.stepIds, PlanStep.link]

theorem wellFormed : plan.links.WellFormed := by
  obtain ⟨hnodup, hknown⟩ := raiseIf_bind_eq_ok.mp plan.linked
  refine ⟨not_not.mp hnodup, ?_, ?_⟩
  · intro link hlink dependency hdependency
    by_contra hunknown
    exact raiseIf_eq_ok.mp hknown ⟨link, hlink, dependency, hdependency, hunknown⟩
  · intro link hlink
    obtain ⟨step, _, rfl⟩ := List.mem_map.mp hlink
    exact step.dependencies_nodup

theorem stepIds_nodup : plan.stepIds.Nodup := plan.stepIds_eq ▸ plan.wellFormed.nodup

variable {plan} {step : PlanStep}

theorem mem_stepIds (h : step ∈ plan.steps) : step.stepId ∈ plan.stepIds :=
  List.mem_map_of_mem h

theorem dependencies_eq (h : step ∈ plan.steps) :
    plan.links.dependencies step.stepId = step.dependencies :=
  PlanLinks.dependencies_of_mem plan.wellFormed.nodup (List.mem_map_of_mem h)

end Plan

namespace PlanValidator

variable {plan : Plan} {step : PlanStep}

theorem statusOf_of_mem (h : step ∈ plan.steps) :
    statusOf plan.steps step.stepId = some step.status := by
  have hnodup := plan.stepIds_nodup
  unfold statusOf
  rw [Plan.stepIds] at hnodup
  generalize plan.steps = steps at h hnodup
  induction steps with
  | nil => exact absurd h List.not_mem_nil
  | cons first rest ih =>
    obtain ⟨hfirst, hrest⟩ := List.nodup_cons.mp hnodup
    rcases List.mem_cons.mp h with rfl | hlater
    · simp
    · have hne : first.stepId ≠ step.stepId := by
        intro heq
        exact hfirst (List.mem_map.mpr ⟨step, hlater, heq.symm⟩)
      rw [List.find?_cons_of_neg (by simpa using hne)]
      exact ih hlater hrest

variable {stepId : String}

theorem statusOf_eq_some {status : PlanStepStatus} :
    statusOf plan.steps stepId = some status ↔
      ∃ step ∈ plan.steps, step.stepId = stepId ∧ step.status = status := by
  constructor
  · intro h
    obtain ⟨step, hfind, hstatus⟩ := Option.map_eq_some_iff.mp h
    exact ⟨step, List.mem_of_find?_eq_some hfind, by simpa using List.find?_some hfind, hstatus⟩
  · rintro ⟨step, hmem, rfl, rfl⟩
    exact statusOf_of_mem hmem

theorem exists_statusOf (h : stepId ∈ plan.stepIds) :
    ∃ status, statusOf plan.steps stepId = some status := by
  obtain ⟨step, hmem, rfl⟩ := List.mem_map.mp h
  exact ⟨step.status, statusOf_of_mem hmem⟩

/-! ## The verdict -/

/-- Whether a dependency lets its dependents start. -/
def Satisfied (status : Option PlanStepStatus) : Prop := status.any (· ∈ satisfiedStatuses)

instance (status : Option PlanStepStatus) : Decidable (Satisfied status) :=
  inferInstanceAs (Decidable (_ = true))

/-- What the validator demands of a plan, in terms of the statuses of its steps. -/
structure Accepted (links : PlanLinks) (planStatus : PlanStatus)
    (status : String → Option PlanStepStatus) : Prop where
  acyclic : Acyclic links.dependencies
  ready : ∀ stepId, status stepId = some .ready →
    ∀ dependency ∈ links.dependencies stepId, Satisfied (status dependency)
  notFailed : ∀ stepId s, status stepId = some s → s ∈ activeStatuses →
    ∀ dependency ∈ links.dependencies stepId, status dependency ≠ some .failed
  inactive : planStatus ∈ terminalStatuses → ∀ stepId s, status stepId = some s → s ∉ activeStatuses
  finished : planStatus = .completed → ∀ stepId s, status stepId = some s → s ∈ satisfiedStatuses

/-- What `validate` accepts. -/
def Accepts (plan : Plan) : Prop := Accepted plan.links plan.status (statusOf plan.steps)

theorem dependencyIssues_spec (plan : Plan) :
    ∃ issues executionOrder, dependencyIssues plan.links = .ok (issues, executionOrder) ∧
      (hasErrors issues = true ↔ ¬Acyclic plan.links.dependencies) ∧
      executionOrder.Nodup ∧
      (Acyclic plan.links.dependencies → executionOrder.Perm plan.stepIds) := by
  have hlinks := plan.wellFormed
  have hsteps : ∀ stepId ∈ plan.links.stepIds, isBlank stepId = false := by
    intro stepId hmem
    rw [Plan.stepIds_eq] at hmem
    obtain ⟨step, _, rfl⟩ := List.mem_map.mp hmem
    exact step.isBlank_stepId
  rcases topologicalOrder_spec hlinks with ⟨order, horder, hordered, hperm, hacyclic⟩ |
    ⟨hnone, hcyclic⟩
  · obtain ⟨issues, hissues, herrors⟩ :
        Finds (dependencyOrderIssues plan.links order) (∃ link ∈ plan.links, ∃ d ∈ link.2, False) := by
      refine Finds.mapM fun link hlink => Finds.mapM fun dependency hdependency => ?_
      have hstep : link.1 ∈ plan.links.stepIds := List.mem_map_of_mem hlink
      have hknown := hlinks.known link hlink hdependency
      have hneeds : dependency ∈ plan.links.dependencies link.1 := by
        rw [PlanLinks.dependencies_of_mem hlinks.nodup hlink]
        exact hdependency
      have hlt := hordered.idxOf_lt (hperm.mem_iff.mpr hstep) hneeds
      refine (Finds.guarded (issueIf_spec ?_ ?_ ?_ (List.nodup_singleton _))
        (raiseIf_eq_ok.mpr (not_le.mpr hlt))).congr (by simp)
      · exact isBlank_append (isBlank_append (isBlank_append (isBlank_append (by decide +kernel))))
      · simpa using hsteps link.1 hstep
      · simpa using hsteps dependency hknown
    refine ⟨issues, order, ?_, ?_, (hperm.nodup_iff).mpr hlinks.nodup, fun _ =>
      plan.stepIds_eq ▸ hperm⟩
    · rw [dependencyIssues, horder]
      dsimp only
      rw [hissues]
      rfl
    · simp [herrors, hacyclic]
  · obtain ⟨circular, hcircular, herror⟩ : ∃ circular, newIssue .circularDependency .error
        "The plan contains a circular step dependency." none plan.links.stepIds = .ok circular ∧
          circular.severity = .error :=
      ⟨_, newIssue_of_valid (by decide +kernel) rfl hsteps hlinks.nodup, rfl⟩
    refine ⟨[circular], [], ?_, ?_, List.nodup_nil, fun hacyclic => absurd hacyclic hcyclic⟩
    · rw [dependencyIssues, hnone]
      dsimp only
      rw [hcircular]
      rfl
    · simp [hasErrors, hcyclic, herror]

theorem incompleteDependencies_eq_nil :
    incompleteDependencies plan.steps step = [] ↔
      ∀ dependency ∈ step.dependencies, Satisfied (statusOf plan.steps dependency) := by
  simp [incompleteDependencies, Satisfied]

theorem failedDependencies_eq_nil :
    failedDependencies plan.steps step = [] ↔
      ∀ dependency ∈ step.dependencies, statusOf plan.steps dependency ≠ some .failed := by
  simp [failedDependencies]

theorem stepStatusIssue_spec (steps : List PlanStep) (step : PlanStep) :
    Finds (stepStatusIssue steps step)
      ((step.status = .ready ∧ incompleteDependencies steps step ≠ []) ∨
        (failedDependencies steps step ≠ [] ∧ step.status ∈ activeStatuses)) := by
  have hblank : ∀ related ∈ step.dependencies, isBlank related = false :=
    fun related hmem => step.isBlank_dependency hmem
  have hstep : (some step.stepId).all (!isBlank ·) := by simp [step.isBlank_stepId]
  refine (Finds.append (issueIf_spec ?_ hstep ?_ ?_) (issueIf_spec ?_ hstep hblank ?_)
    (issueIf_spec ?_ hstep ?_ ?_)).congr (by simp)
  · exact isBlank_append (isBlank_append (by decide +kernel))
  · exact fun related hmem => hblank related (List.mem_of_mem_filter hmem)
  · exact step.dependencies_nodup.filter _
  · exact isBlank_append (isBlank_append (by decide +kernel))
  · exact step.dependencies_nodup
  · exact isBlank_append (isBlank_append (by decide +kernel))
  · exact fun related hmem => hblank related (List.mem_of_mem_filter hmem)
  · exact step.dependencies_nodup.filter _

theorem stepStatusIssues_spec (steps : List PlanStep) :
    Finds (stepStatusIssues steps) (∃ step ∈ steps,
      (step.status = .ready ∧ incompleteDependencies steps step ≠ []) ∨
        (failedDependencies steps step ≠ [] ∧ step.status ∈ activeStatuses)) :=
  Finds.mapM fun step _ => stepStatusIssue_spec steps step

theorem planStatusIssues_spec (plan : Plan) :
    Finds (planStatusIssues plan)
      ((plan.status ∈ terminalStatuses ∧ ∃ step ∈ plan.steps, step.status ∈ activeStatuses) ∨
        (plan.status = .completed ∧ ∃ step ∈ plan.steps, step.status ∉ satisfiedStatuses)) := by
  refine (Finds.append (issueIf_spec (by decide +kernel) rfl ?_ List.nodup_nil)
    (issueIf_spec (by decide +kernel) rfl ?_ List.nodup_nil)
    (issueIf_spec (by decide +kernel) rfl ?_ List.nodup_nil)).congr (by simp)
  all_goals exact fun _ h => absurd h List.not_mem_nil

theorem accepted_iff (plan : Plan) : Accepts plan ↔
    Acyclic plan.links.dependencies ∧
    (∀ step ∈ plan.steps, step.status = .ready → incompleteDependencies plan.steps step = []) ∧
    (∀ step ∈ plan.steps, step.status ∈ activeStatuses → failedDependencies plan.steps step = []) ∧
    (plan.status ∈ terminalStatuses → ∀ step ∈ plan.steps, step.status ∉ activeStatuses) ∧
    (plan.status = .completed → ∀ step ∈ plan.steps, step.status ∈ satisfiedStatuses) := by
  constructor
  · intro h
    refine ⟨h.acyclic, fun step hstep hready => ?_, fun step hstep hactive => ?_,
      fun hterminal step hstep => ?_, fun hcompleted step hstep => ?_⟩
    · have hneeds := h.ready step.stepId (hready ▸ statusOf_of_mem hstep)
      rw [Plan.dependencies_eq hstep] at hneeds
      exact incompleteDependencies_eq_nil.mpr hneeds
    · have hneeds := h.notFailed step.stepId step.status (statusOf_of_mem hstep) hactive
      rw [Plan.dependencies_eq hstep] at hneeds
      exact failedDependencies_eq_nil.mpr hneeds
    · exact h.inactive hterminal step.stepId step.status (statusOf_of_mem hstep)
    · exact h.finished hcompleted step.stepId step.status (statusOf_of_mem hstep)
  · rintro ⟨hacyclic, hready, hfailed, hinactive, hfinished⟩
    refine ⟨hacyclic, fun stepId hstatus => ?_, fun stepId s hstatus hactive => ?_,
      fun hterminal stepId s hstatus => ?_, fun hcompleted stepId s hstatus => ?_⟩
    · obtain ⟨step, hstep, rfl, hs⟩ := statusOf_eq_some.mp hstatus
      rw [Plan.dependencies_eq hstep]
      exact incompleteDependencies_eq_nil.mp (hready step hstep hs)
    · obtain ⟨step, hstep, rfl, rfl⟩ := statusOf_eq_some.mp hstatus
      rw [Plan.dependencies_eq hstep]
      exact failedDependencies_eq_nil.mp (hfailed step hstep hactive)
    · obtain ⟨step, hstep, rfl, rfl⟩ := statusOf_eq_some.mp hstatus
      exact hinactive hterminal step hstep
    · obtain ⟨step, hstep, rfl, rfl⟩ := statusOf_eq_some.mp hstatus
      exact hfinished hcompleted step hstep

theorem validate_spec (plan : Plan) :
    ∃ result, validate plan = .ok result ∧ (result.valid = true ↔ Accepts plan) ∧
      (Acyclic plan.links.dependencies → result.executionOrder.Perm plan.stepIds) := by
  obtain ⟨dependency, executionOrder, hdependency, hcircular, hnodup, hperm⟩ :=
    dependencyIssues_spec plan
  obtain ⟨step, hstep, hstepErrors⟩ := stepStatusIssues_spec plan.steps
  obtain ⟨status, hstatus, hstatusErrors⟩ := planStatusIssues_spec plan
  refine ⟨⟨!hasErrors (dependency ++ step ++ status), dependency ++ step ++ status,
    executionOrder⟩, ?_, ?_, hperm⟩
  · rw [validate, hdependency, ok_bind]
    dsimp only
    rw [hstep, ok_bind, hstatus, ok_bind]
    simp [newValidationResult, raiseIf, hnodup]
  · rw [accepted_iff, Bool.not_eq_true', ← Bool.not_eq_true, hasErrors_append, hasErrors_append]
    simp only [Bool.or_eq_true, hcircular, hstepErrors, hstatusErrors]
    push Not
    constructor
    · rintro ⟨⟨hacyclic, hsteps⟩, hinactive, hfinished⟩
      exact ⟨hacyclic, fun step hmem hready => (hsteps step hmem).1 hready,
        fun step hmem hactive => by_contra fun hne => (hsteps step hmem).2 hne hactive,
        hinactive, hfinished⟩
    · rintro ⟨hacyclic, hready, hfailed, hinactive, hfinished⟩
      exact ⟨⟨hacyclic, fun step hmem => ⟨hready step hmem, fun hne hactive =>
        hne (hfailed step hmem hactive)⟩⟩, hinactive, hfinished⟩

end PlanValidator

end AgenticLab
