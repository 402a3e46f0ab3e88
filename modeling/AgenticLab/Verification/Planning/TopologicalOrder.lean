import AgenticLab.Verification.Planning.PlanValidator

/-! # Which plans have an order

`_topological_order` orders the acyclic plans and no others, so that `_dependency_order_issues`
never meets an invalid order, and a circular plan is the only one that is reported as one. -/

namespace AgenticLab

open Precedence (Acyclic)

namespace PlanLinks

variable (links : PlanLinks)

def DependsOn (stepId dependency : String) : Prop := dependency ∈ links.dependencies stepId

def Cyclic : Prop := ∃ stepId ∈ links.stepIds, Relation.TransGen links.DependsOn stepId stepId

variable {links}

theorem DependsOn.mem {stepId dependency : String} (h : links.DependsOn stepId dependency) :
    stepId ∈ links.stepIds := by
  by_contra hnot
  rw [DependsOn, dependencies_of_notMem hnot] at h
  exact List.not_mem_nil h

theorem cyclic_iff : links.Cyclic ↔ ¬Acyclic links.dependencies := by
  constructor
  · rintro ⟨stepId, _, hcycle⟩ hacyclic
    exact hacyclic stepId hcycle
  · intro hnot
    obtain ⟨stepId, hcycle⟩ := not_forall_not.mp hnot
    obtain ⟨dependency, hfirst, _⟩ := Relation.TransGen.head'_iff.mp hcycle
    exact ⟨stepId, DependsOn.mem hfirst, hcycle⟩

end PlanLinks

namespace PlanValidator

/-! ## The codes of the findings -/

def Omits (code : PlanValidationCode) (found : Except Raised (List PlanValidationIssue)) : Prop :=
  ∀ issues, found = .ok issues → ∀ issue ∈ issues, issue.code ≠ code

section

variable {code : PlanValidationCode} {first second third : Except Raised (List PlanValidationIssue)}
  {other : PlanValidationCode} {severity : PlanValidationSeverity} {stepId : Option String}
  {relatedStepIds : List String}

theorem newIssue_code {message : String} {issue : PlanValidationIssue}
    (h : newIssue other severity message stepId relatedStepIds = .ok issue) :
    issue.code = other := by
  simp only [newIssue, raiseIf_bind_eq_ok] at h
  obtain ⟨_, _, _, _, hissue⟩ := h
  cases hissue
  rfl

theorem issueIf_omits {condition : Prop} [Decidable condition] {message : String}
    (hne : other ≠ code) :
    Omits code (issueIf condition other severity message stepId relatedStepIds) := by
  intro issues hissues issue hmem
  by_cases hcondition : condition
  · rw [issueIf, if_pos hcondition] at hissues
    obtain ⟨made, hmade, hsingle⟩ := bind_eq_ok.mp hissues
    cases hsingle
    rw [List.mem_singleton.mp hmem, newIssue_code hmade]
    exact hne
  · rw [issueIf, if_neg hcondition] at hissues
    cases hissues
    exact absurd hmem List.not_mem_nil

theorem Omits.append (h₁ : Omits code first) (h₂ : Omits code second) (h₃ : Omits code third) :
    Omits code (do let a ← first; let b ← second; let c ← third; return a ++ b ++ c) := by
  intro issues hissues issue hmem
  obtain ⟨a, ha, hissues⟩ := bind_eq_ok.mp hissues
  obtain ⟨b, hb, hissues⟩ := bind_eq_ok.mp hissues
  obtain ⟨c, hc, hissues⟩ := bind_eq_ok.mp hissues
  cases hissues
  simp only [List.mem_append] at hmem
  rcases hmem with (hmem | hmem) | hmem
  · exact h₁ a ha issue hmem
  · exact h₂ b hb issue hmem
  · exact h₃ c hc issue hmem

theorem Omits.mapM {α : Type} {xs : List α} {f : α → Except Raised (List PlanValidationIssue)}
    (h : ∀ x ∈ xs, Omits code (f x)) : Omits code (do return (← xs.mapM f).flatten) := by
  induction xs with
  | nil =>
    intro issues hissues issue hmem
    cases hissues
    exact absurd hmem List.not_mem_nil
  | cons x rest ih =>
    obtain ⟨hx, hrest⟩ := List.forall_mem_cons.mp h
    intro issues hissues issue hmem
    obtain ⟨found, hfound, hflatten⟩ := bind_eq_ok.mp hissues
    rw [List.mapM_cons] at hfound
    obtain ⟨head, hhead, hfound⟩ := bind_eq_ok.mp hfound
    obtain ⟨tail, htail, hfound⟩ := bind_eq_ok.mp hfound
    cases hfound
    cases hflatten
    rcases List.mem_append.mp hmem with hmem | hmem
    · exact hx head hhead issue hmem
    · exact ih hrest tail.flatten (by rw [htail]; rfl) issue hmem

end

theorem dependencyOrderIssues_omits (links : PlanLinks) (executionOrder : List String) :
    Omits .circularDependency (dependencyOrderIssues links executionOrder) := by
  refine Omits.mapM fun link _ => Omits.mapM fun dependency _ => ?_
  intro issues hissues issue hmem
  obtain ⟨found, hfound, hissues⟩ := bind_eq_ok.mp hissues
  obtain ⟨_, hissues⟩ := raiseIf_bind_eq_ok.mp hissues
  cases hissues
  exact issueIf_omits (by decide) issues hfound issue hmem

theorem stepStatusIssues_omits (steps : List PlanStep) :
    Omits .circularDependency (stepStatusIssues steps) :=
  Omits.mapM fun _ _ => .append (issueIf_omits (by decide)) (issueIf_omits (by decide))
    (issueIf_omits (by decide))

theorem planStatusIssues_omits (plan : Plan) : Omits .circularDependency (planStatusIssues plan) :=
  .append (issueIf_omits (by decide)) (issueIf_omits (by decide)) (issueIf_omits (by decide))

def ReportsCircularDependency (result : PlanValidationResult) : Prop :=
  ∃ issue ∈ result.issues, issue.code = .circularDependency

theorem reports_of_validate {plan : Plan} {result : PlanValidationResult}
    (h : validate plan = .ok result) :
    ReportsCircularDependency result ↔ topologicalOrder plan.links = none := by
  obtain ⟨⟨dependency, executionOrder⟩, hdependency, h⟩ := bind_eq_ok.mp h
  obtain ⟨step, hstep, h⟩ := bind_eq_ok.mp h
  obtain ⟨status, hstatus, h⟩ := bind_eq_ok.mp h
  obtain ⟨_, h⟩ := raiseIf_bind_eq_ok.mp h
  obtain ⟨_, h⟩ := raiseIf_bind_eq_ok.mp h
  cases h
  have hothers : ReportsCircularDependency
      ⟨!hasErrors (dependency ++ step ++ status), dependency ++ step ++ status, executionOrder⟩ ↔
      ∃ issue ∈ dependency, issue.code = .circularDependency := by
    constructor
    · rintro ⟨issue, hmem, hcode⟩
      simp only [List.mem_append] at hmem
      rcases hmem with (hmem | hmem) | hmem
      · exact ⟨issue, hmem, hcode⟩
      · exact absurd hcode (stepStatusIssues_omits plan.steps step hstep issue hmem)
      · exact absurd hcode (planStatusIssues_omits plan status hstatus issue hmem)
    · rintro ⟨issue, hmem, hcode⟩
      exact ⟨issue, by simp [hmem], hcode⟩
  rw [hothers]
  unfold dependencyIssues at hdependency
  split at hdependency
  · obtain ⟨circular, hcircular, hfound⟩ := bind_eq_ok.mp hdependency
    cases hfound
    simp [newIssue_code hcircular, *]
  · obtain ⟨found, hfound, hpair⟩ := bind_eq_ok.mp hdependency
    cases hpair
    have homits := dependencyOrderIssues_omits plan.links _ dependency hfound
    constructor
    · rintro ⟨issue, hmem, hcode⟩
      exact absurd hcode (homits issue hmem)
    · intro hnone
      simp [hnone] at *

/-- Plan validation orders exactly the acyclic plans, and reports the others as circular. -/
theorem topologicalOrder_exact (plan : Plan) :
    (∃ order, drain plan.links plan.links.length
      (plan.links.stepIds.filter fun stepId => indegree plan.links stepId = 0) []
      (indegree plan.links) = some order) ∧
    (topologicalOrder plan.links = none ↔ plan.links.Cyclic) ∧
    (∀ order, topologicalOrder plan.links = some order →
      order.Perm plan.stepIds ∧
      (∀ step ∈ plan.steps, ∀ dependency ∈ step.dependencies,
        order.idxOf dependency < order.idxOf step.stepId) ∧
      ∃ issues, dependencyOrderIssues plan.links order = .ok issues) ∧
    ∃ result, validate plan = .ok result ∧
      (ReportsCircularDependency result ↔ plan.links.Cyclic) := by
  have hlinks := plan.wellFormed
  have hlength : plan.links.stepIds.length = plan.links.length := List.length_map _
  obtain ⟨final, hfinal, _⟩ :=
    drain_spec hlinks (draining_start hlinks) (hlength.trans (Nat.zero_add _).symm).le
  have hnone : topologicalOrder plan.links = none ↔ plan.links.Cyclic := by
    rw [PlanLinks.cyclic_iff]
    rcases topologicalOrder_spec hlinks with ⟨order, horder, _, _, hacyclic⟩ | ⟨hnone, hcyclic⟩
    · simp [horder, hacyclic]
    · simp [hnone, hcyclic]
  obtain ⟨result, hresult, _, _⟩ := validate_spec plan
  refine ⟨⟨final, hfinal⟩, hnone, fun order horder => ?_, result, hresult,
    (reports_of_validate hresult).trans hnone⟩
  obtain ⟨found, hfound, hordered, hperm, _⟩ | ⟨hnone', _⟩ := topologicalOrder_spec hlinks
  · obtain rfl : found = order := Option.some.inj (hfound.symm.trans horder)
    refine ⟨plan.stepIds_eq ▸ hperm, fun step hstep dependency hdependency => ?_, ?_⟩
    · refine hordered.idxOf_lt (hperm.mem_iff.mpr ?_) ?_
      · rw [Plan.stepIds_eq]
        exact Plan.mem_stepIds hstep
      · rw [Plan.dependencies_eq hstep]
        exact hdependency
    · obtain ⟨pair, hpair, _⟩ := bind_eq_ok.mp hresult
      rw [dependencyIssues, hfound] at hpair
      obtain ⟨issues, hissues, _⟩ := bind_eq_ok.mp hpair
      exact ⟨issues, hissues⟩
  · rw [horder] at hnone'
    cases hnone'

end PlanValidator

end AgenticLab
