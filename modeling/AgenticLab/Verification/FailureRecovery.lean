import AgenticLab.Model.FailureRecovery

/-! # What failure recovery decides -/

namespace AgenticLab.FailureRecoveryEvaluator

section

variable {α β : Type*} {values others : List α} {a : α}

@[mk_iff]
structure IsBest (eligible : α → Prop) (notWorse : α → α → Prop) (values : List α) (a : α) :
    Prop where
  mem : a ∈ values
  isEligible : eligible a
  best : ∀ other ∈ values, eligible other → notWorse a other

def UniqueBest (eligible : α → Prop) (notWorse : α → α → Prop) (values : List α) : Prop :=
  ∀ first second, IsBest eligible notWorse values first → IsBest eligible notWorse values second →
    first = second

theorem isBest_perm {eligible : α → Prop} {notWorse : α → α → Prop} (h : others.Perm values) :
    IsBest eligible notWorse others a ↔ IsBest eligible notWorse values a := by
  simp only [isBest_iff, h.mem_iff]

variable [LinearOrder β] {eligible : α → Prop} [DecidablePred eligible] {key : α → β}

theorem isBest_of_argmin (h : (values.filter eligible).argmin key = some a) :
    IsBest eligible (key · ≤ key ·) values a := by
  have hmem := List.mem_filter.mp (List.argmin_mem h)
  exact ⟨hmem.1, of_decide_eq_true hmem.2, fun other hother helig =>
    List.le_of_mem_argmin (List.mem_filter.mpr ⟨hother, decide_eq_true helig⟩) h⟩

theorem argmin_eq_none_iff :
    (values.filter eligible).argmin key = none ↔ ∀ value ∈ values, ¬eligible value := by
  rw [List.argmin_eq_none, List.filter_eq_nil_iff]
  simp

theorem argmin_of_isBest [DecidableEq α] (h : IsBest eligible (key · ≤ key ·) values a) :
    ((a :: values.erase a).filter eligible).argmin key = some a := by
  rw [List.filter_cons_of_pos (by simpa using h.isEligible), List.argmin_cons]
  cases hrest : ((values.erase a).filter eligible).argmin key with
  | none => rfl
  | some b =>
    have hb := isBest_of_argmin hrest
    simp [(h.best b (List.mem_of_mem_erase hb.mem) hb.isEligible).not_gt]

theorem argmin_perm (hunique : UniqueBest eligible (key · ≤ key ·) values)
    (h : others.Perm values) :
    (others.filter eligible).argmin key = (values.filter eligible).argmin key := by
  cases hothers : (others.filter eligible).argmin key with
  | none =>
    refine (argmin_eq_none_iff.mpr fun value hmem => ?_).symm
    exact argmin_eq_none_iff.mp hothers value (h.mem_iff.mpr hmem)
  | some first =>
    cases hvalues : (values.filter eligible).argmin key with
    | none =>
      have hfirst := isBest_of_argmin hothers
      exact absurd hfirst.isEligible (argmin_eq_none_iff.mp hvalues _ (h.mem_iff.mp hfirst.mem))
    | some second =>
      exact congrArg some (hunique _ _ ((isBest_perm h).mp (isBest_of_argmin hothers))
        (isBest_of_argmin hvalues))

end

/-! ## The candidates of a rule -/

variable {casefold : Casefold} {policy : FailureRecoveryPolicy} {decisionId : String}
  (context : FailureRecoveryContext casefold) (rule : RecoveryStrategyRule)
  {decision : FailureRecoveryDecision} {candidate : RecoveryCandidate}

def Eligible (candidate : RecoveryCandidate) : Prop :=
  candidate.available = true ∧
    match rule.strategy with
    | .alternateTool => candidate.targetType = .tool ∧
        some (normalizeId casefold candidate.candidateId) ≠
          context.currentToolName.map (normalizeId casefold)
    | .alternateAgent => candidate.targetType = .agent ∧
        some (normalizeId casefold candidate.candidateId) ≠
          context.currentAgentId.map (normalizeId casefold)
    | .cachedResult => candidate.targetType = .cache ∧
        ∃ maximumAge ∈ rule.maximumCacheAgeSeconds, ∃ age ∈ candidate.ageSeconds,
          age.atMost maximumAge
    | .partialResult => candidate.targetType = .partialOutput ∧
        ∃ minimumQuality ∈ rule.minimumPartialQualityScore, ∃ score ∈ candidate.qualityScore,
          minimumQuality.atMost score
    | .manualReview | .abort => False

variable (casefold) in
/-- The criterion of the rule: priority and id, the fresher cache, the better output. -/
def NotWorse (first second : RecoveryCandidate) : Prop :=
  match rule.strategy with
  | .alternateTool | .alternateAgent =>
    toLex (first.priority, casefold first.candidateId) ≤
      toLex (second.priority, casefold second.candidateId)
  | .cachedResult => toLex (first.ageSeconds.join.getD ⊤, first.priority) ≤
      toLex (second.ageSeconds.join.getD ⊤, second.priority)
  | .partialResult => toLex (second.qualityScore.join.getD 0, OrderDual.toDual second.priority) ≤
      toLex (first.qualityScore.join.getD 0, OrderDual.toDual first.priority)
  | .manualReview | .abort => True

def chosen : Option RecoveryCandidate :=
  match rule.strategy with
  | .alternateTool => firstCandidate context .tool context.currentToolName
  | .alternateAgent => firstCandidate context .agent context.currentAgentId
  | .cachedResult => cacheCandidate context rule.maximumCacheAgeSeconds
  | .partialResult => partialCandidate context rule.minimumPartialQualityScore
  | .manualReview | .abort => none

variable (casefold) in
open Classical in
theorem chosen_eq :
    ∃ (β : Type) (_ : LinearOrder β) (key : RecoveryCandidate → β),
      (NotWorse casefold rule = fun first second => key first ≤ key second) ∧
      ∀ context : FailureRecoveryContext casefold,
        chosen context rule = (context.candidates.filter (Eligible context rule)).argmin key := by
  cases hstrategy : rule.strategy with
  | alternateTool =>
    refine ⟨_, inferInstance, fun candidate => toLex (candidate.priority,
      casefold candidate.candidateId), funext₂ fun _ _ => by simp only [NotWorse, hstrategy],
      fun context => ?_⟩
    simp only [chosen, hstrategy, firstCandidate, Eligible]
  | alternateAgent =>
    refine ⟨_, inferInstance, fun candidate => toLex (candidate.priority,
      casefold candidate.candidateId), funext₂ fun _ _ => by simp only [NotWorse, hstrategy],
      fun context => ?_⟩
    simp only [chosen, hstrategy, firstCandidate, Eligible]
  | cachedResult =>
    refine ⟨_, inferInstance, fun candidate => toLex (candidate.ageSeconds.join.getD ⊤,
      candidate.priority), funext₂ fun _ _ => by simp only [NotWorse, hstrategy],
      fun context => ?_⟩
    cases hage : rule.maximumCacheAgeSeconds <;>
      simp [chosen, hstrategy, cacheCandidate, Eligible, hage]
  | partialResult =>
    refine ⟨_, inferInstance, fun candidate => OrderDual.toDual (toLex
      (candidate.qualityScore.join.getD 0, OrderDual.toDual candidate.priority)),
      funext₂ fun _ _ => by simp only [NotWorse, hstrategy, OrderDual.toDual_le_toDual],
      fun context => ?_⟩
    cases hquality : rule.minimumPartialQualityScore with
    | none => simp [chosen, hstrategy, partialCandidate, Eligible, hquality]
    | some minimumQuality =>
      simp only [chosen, hstrategy, partialCandidate, Eligible, hquality]
      simp
      rfl
  | manualReview =>
    refine ⟨ℕ, inferInstance, fun _ => 0, funext₂ fun _ _ => by simp [NotWorse, hstrategy],
      fun context => ?_⟩
    simp [chosen, hstrategy, Eligible]
  | abort =>
    refine ⟨ℕ, inferInstance, fun _ => 0, funext₂ fun _ _ => by simp [NotWorse, hstrategy],
      fun context => ?_⟩
    simp [chosen, hstrategy, Eligible]

variable {context rule}

theorem isBest_of_chosen (h : chosen context rule = some candidate) :
    IsBest (Eligible context rule) (NotWorse casefold rule) context.candidates candidate := by
  classical
  obtain ⟨β, _, key, hkey, hchosen⟩ := chosen_eq casefold rule
  rw [hkey]
  exact isBest_of_argmin ((hchosen context).symm.trans h)

theorem chosen_eq_none_iff :
    chosen context rule = none ↔ ∀ candidate ∈ context.candidates, ¬Eligible context rule candidate := by
  classical
  obtain ⟨β, _, key, -, hchosen⟩ := chosen_eq casefold rule
  rw [hchosen, argmin_eq_none_iff]

def reorderedContext (context : FailureRecoveryContext casefold)
    (candidates : List RecoveryCandidate) (h : candidates.Perm context.candidates) :
    FailureRecoveryContext casefold :=
  { context with
    candidates := candidates
    candidates_nodup := (h.map _).nodup_iff.mpr context.candidates_nodup }

/-- The same rules in another order. -/
def reorderedPolicy (policy : FailureRecoveryPolicy) (strategies : List RecoveryStrategyRule)
    (h : strategies.Perm policy.strategies) : FailureRecoveryPolicy :=
  { policy with
    strategies := strategies
    strategies_ne_nil := fun hnil => policy.strategies_ne_nil (List.perm_nil.mp (hnil ▸ h.symm))
    strategies_nodup := (h.map _).nodup_iff.mpr policy.strategies_nodup
    priorities_nodup := (h.map _).nodup_iff.mpr policy.priorities_nodup
    review_present := fun hreview => (h.map _).mem_iff.mpr (policy.review_present hreview) }

section

variable {candidates : List RecoveryCandidate} {h : candidates.Perm context.candidates}

theorem chosen_reordered
    (hunique : UniqueBest (Eligible context rule) (NotWorse casefold rule) context.candidates) :
    chosen (reorderedContext context candidates h) rule = chosen context rule := by
  classical
  obtain ⟨β, _, key, hkey, hchosen⟩ := chosen_eq casefold rule
  rw [hkey] at hunique
  rw [hchosen, hchosen]
  exact argmin_perm hunique h

theorem exists_chosen
    (hbest : IsBest (Eligible context rule) (NotWorse casefold rule) context.candidates candidate) :
    ∃ candidates h, chosen (reorderedContext context candidates h) rule = some candidate := by
  classical
  obtain ⟨β, _, key, hkey, hchosen⟩ := chosen_eq casefold rule
  rw [hkey] at hbest
  refine ⟨_, (List.perm_cons_erase hbest.mem).symm, (hchosen _).trans ?_⟩
  exact argmin_of_isBest hbest

end

theorem evaluateRule_of_candidate
    (h : rule.strategy ≠ .manualReview ∧ rule.strategy ≠ .abort) :
    evaluateRule policy decisionId context rule =
      candidateDecision policy decisionId context rule (chosen context rule) := by
  cases hstrategy : rule.strategy <;> simp_all [evaluateRule, chosen]

variable (context rule) in
def Usable : Prop :=
  rule.strategy = .manualReview ∨ rule.strategy = .abort ∨
    ∃ candidate ∈ context.candidates, Eligible context rule candidate

structure Decides (strategy : RecoveryStrategy) (choice : Option RecoveryCandidate)
    (decision : FailureRecoveryDecision) : Prop where
  strategy_eq : decision.strategy = strategy
  selected_eq : decision.selectedCandidateId = choice.map (·.candidateId)
  target_eq : ∀ candidate ∈ choice, decision.targetType = candidate.targetType
  abort_iff : decision.status = .abort ↔ strategy = .abort

theorem newDecision_returns (hid : isBlank decisionId = false) {status : RecoveryDecisionStatus}
    {strategy : RecoveryStrategy} {targetType : RecoveryTargetType}
    {selected : Option String} {selection : String} (choice : Option RecoveryCandidate)
    (hselected : selected = choice.map (·.candidateId))
    (hchoice : choice = none ↔ strategy = .manualReview ∨ strategy = .abort)
    (htarget : ∀ candidate ∈ choice, targetType = candidate.targetType)
    (hreview : status = .review → strategy = .manualReview)
    (habort : status = .abort ↔ strategy = .abort) :
    ∃ decision, newDecision policy decisionId context status strategy targetType selected
      selection = .ok (some decision) ∧ Decides strategy choice decision := by
  have hidentifier : newIdentifier decisionId = .ok decisionId :=
    raiseIf_bind_eq_ok.mpr ⟨by simp [hid], rfl⟩
  refine ⟨_, bind_eq_ok.mpr ⟨decisionId, hidentifier, bind_eq_ok.mpr ⟨(),
    bind_eq_ok.mpr ⟨(), requireTexts_eq_ok.mpr ?_, ?_⟩, rfl⟩⟩, rfl, hselected, htarget, habort⟩
  · have hsummary : isBlank ("Failure recovery selected " ++ strategy.value ++ selection ++ ".") =
        false := isBlank_append (isBlank_append (isBlank_append (by decide +kernel)))
    simp [hid, policy.policyId_isBlank, context.texts_isBlank.1, hsummary]
  · simp only [raiseIf_bind_eq_ok, raiseIf_eq_ok, hselected, Option.map_eq_none_iff, Ne]
    refine ⟨?_, by simpa using hchoice.mpr, by simpa using hreview, by simpa using habort.mp⟩
    rintro ⟨hstrategy, hnone⟩
    rcases hchoice.mp hnone with rfl | rfl <;> simp at hstrategy

theorem evaluateRule_of_usable (hid : isBlank decisionId = false) (h : Usable context rule) :
    ∃ decision, evaluateRule policy decisionId context rule = .ok (some decision) ∧
      Decides rule.strategy (chosen context rule) decision := by
  by_cases hreview : rule.strategy = .manualReview
  · simp only [evaluateRule, chosen, hreview]
    exact newDecision_returns hid none rfl (by simp) (by simp) (by simp) (by simp)
  by_cases habort : rule.strategy = .abort
  · simp only [evaluateRule, chosen, habort]
    exact newDecision_returns hid none rfl (by simp) (by simp) (by simp) (by simp)
  rw [evaluateRule_of_candidate ⟨hreview, habort⟩]
  cases hchosen : chosen context rule with
  | none =>
    obtain ⟨candidate, hmem, helig⟩ := (h.resolve_left hreview).resolve_left habort
    exact absurd helig (chosen_eq_none_iff.mp hchosen candidate hmem)
  | some candidate =>
    refine newDecision_returns hid (some candidate) rfl (by simp [hreview, habort]) ?_ (by simp) (by simp [habort])
    rintro _ ⟨⟩
    rfl

theorem evaluateRule_of_not_usable (h : ¬Usable context rule) :
    evaluateRule policy decisionId context rule = .ok none := by
  obtain ⟨hreview, habort, hnone⟩ : rule.strategy ≠ .manualReview ∧ rule.strategy ≠ .abort ∧
      ¬∃ candidate ∈ context.candidates, Eligible context rule candidate := by
    simpa [Usable] using h
  rw [evaluateRule_of_candidate ⟨hreview, habort⟩, chosen_eq_none_iff.mpr fun candidate hmem helig =>
    hnone ⟨candidate, hmem, helig⟩]
  rfl

/-! ## The first rule -/

variable (context rule) in
structure Selectable : Prop where
  enabled : rule.enabled = true
  applies : Applies context rule
  usable : Usable context rule

variable (policy context rule) in
def IsFirst : Prop :=
  IsBest (Selectable context) (fun first second => first.priority ≤ second.priority)
    policy.strategies rule

variable (policy context) in
theorem first_or_none :
    (∃ rule, IsFirst policy context rule) ∨ ∀ rule ∈ policy.strategies, ¬Selectable context rule := by
  classical
  cases hfirst : (policy.strategies.filter (Selectable context)).argmin (·.priority) with
  | none => exact .inr (argmin_eq_none_iff.mp hfirst)
  | some rule => exact .inl ⟨rule, isBest_of_argmin hfirst⟩

theorem firstDecision_skip {head : RecoveryStrategyRule} {rules : List RecoveryStrategyRule}
    (h : Applies context head → ¬Usable context head) :
    firstDecision policy decisionId context (head :: rules) =
      firstDecision policy decisionId context rules := by
  by_cases happlies : Applies context head
  · rw [firstDecision, if_pos happlies, evaluateRule_of_not_usable (h happlies)]
    rfl
  · rw [firstDecision, if_neg happlies]

theorem firstDecision_of_isFirst {rules : List RecoveryStrategyRule}
    (hsorted : rules.Pairwise fun first second => first.priority ≤ second.priority)
    (hnodup : (rules.map (·.priority)).Nodup) (henabled : ∀ rule ∈ rules, rule.enabled = true)
    (hbest : IsBest (Selectable context) (fun first second => first.priority ≤ second.priority)
      rules rule)
    (hdecision : evaluateRule policy decisionId context rule = .ok (some decision)) :
    firstDecision policy decisionId context rules = .ok decision := by
  induction rules with
  | nil => exact absurd hbest.mem List.not_mem_nil
  | cons head rules ih =>
    rw [List.pairwise_cons] at hsorted
    rcases List.mem_cons.mp hbest.mem with rfl | hmem
    · rw [firstDecision, if_pos hbest.isEligible.applies, hdecision]
      rfl
    · -- a usable head would tie with the best rule, and priorities are unique
      have hhead : Applies context head → ¬Usable context head := by
        intro happlies husable
        have hle := hbest.best head List.mem_cons_self
          ⟨henabled head List.mem_cons_self, happlies, husable⟩
        have heq := le_antisymm hle (hsorted.1 rule hmem)
        exact (List.nodup_cons.mp hnodup).1 (List.mem_map.mpr ⟨rule, hmem, heq⟩)
      rw [firstDecision_skip hhead]
      exact ih hsorted.2 (List.nodup_cons.mp hnodup).2
        (fun other hother => henabled other (.tail head hother))
        ⟨hmem, hbest.isEligible, fun other hother => hbest.best other (.tail head hother)⟩

theorem firstDecision_of_none {rules : List RecoveryStrategyRule}
    (h : ∀ rule ∈ rules, Applies context rule → ¬Usable context rule) :
    firstDecision policy decisionId context rules = .error
      (FailureRecoveryEvaluatorError "no applicable recovery strategy was found") := by
  induction rules with
  | nil => rfl
  | cons head rules ih =>
    rw [firstDecision_skip (h head List.mem_cons_self)]
    exact ih fun rule hmem => h rule (.tail head hmem)

theorem mem_enabledStrategies :
    rule ∈ policy.enabledStrategies ↔ rule ∈ policy.strategies ∧ rule.enabled = true := by
  simp [FailureRecoveryPolicy.enabledStrategies, List.mem_insertionSort]

theorem evaluate_eq (hretry : context.retryExhausted = true) :
    evaluate policy decisionId context =
      firstDecision policy decisionId context policy.enabledStrategies := by
  simp [evaluate, raiseIf, hretry]

theorem evaluate_of_isFirst (h : IsFirst policy context rule)
    (hretry : context.retryExhausted = true)
    (hdecision : evaluateRule policy decisionId context rule = .ok (some decision)) :
    evaluate policy decisionId context = .ok decision := by
  rw [evaluate_eq hretry]
  refine firstDecision_of_isFirst (List.pairwise_insertionSort _ _) ?_
    (fun other hmem => (mem_enabledStrategies.mp hmem).2)
    ⟨mem_enabledStrategies.mpr ⟨h.mem, h.isEligible.enabled⟩, h.isEligible,
      fun other hmem => h.best other (mem_enabledStrategies.mp hmem).1⟩ hdecision
  refine (((List.perm_insertionSort _ _).map _).nodup_iff).mpr ?_
  exact policy.priorities_nodup.sublist (List.filter_sublist.map _)

theorem evaluate_of_none (hretry : context.retryExhausted = true)
    (h : ∀ rule ∈ policy.strategies, ¬Selectable context rule) :
    evaluate policy decisionId context = .error
      (FailureRecoveryEvaluatorError "no applicable recovery strategy was found") := by
  rw [evaluate_eq hretry]
  refine firstDecision_of_none fun rule hmem happlies husable => ?_
  have hrule := mem_enabledStrategies.mp hmem
  exact h rule hrule.1 ⟨hrule.2, happlies, husable⟩

theorem exists_evaluate (hid : isBlank decisionId = false) (h : IsFirst policy context rule)
    (hretry : context.retryExhausted = true) :
    ∃ decision, evaluate policy decisionId context = .ok decision ∧
      Decides rule.strategy (chosen context rule) decision := by
  obtain ⟨decision, hdecision, hdecides⟩ := evaluateRule_of_usable hid h.isEligible.usable
  exact ⟨decision, evaluate_of_isFirst h hretry hdecision, hdecides⟩

section

variable {strategies : List RecoveryStrategyRule} {hstrategies : strategies.Perm policy.strategies}
  {candidates : List RecoveryCandidate} {hcandidates : candidates.Perm context.candidates}

theorem selectable_reordered :
    Selectable (reorderedContext context candidates hcandidates) rule ↔
      Selectable context rule := by
  have husable : Usable (reorderedContext context candidates hcandidates) rule ↔
      Usable context rule :=
    or_congr_right (or_congr_right (exists_congr fun _ => and_congr_left' hcandidates.mem_iff))
  exact ⟨fun ⟨henabled, happlies, h⟩ => ⟨henabled, happlies, husable.mp h⟩,
    fun ⟨henabled, happlies, h⟩ => ⟨henabled, happlies, husable.mpr h⟩⟩

theorem isFirst_reordered :
    IsFirst (reorderedPolicy policy strategies hstrategies)
      (reorderedContext context candidates hcandidates) rule ↔ IsFirst policy context rule := by
  have hselectable : Selectable (reorderedContext context candidates hcandidates) =
      Selectable context := funext fun _ => propext selectable_reordered
  rw [IsFirst, hselectable]
  exact isBest_perm hstrategies

theorem evaluateRule_reordered
    (h : chosen (reorderedContext context candidates hcandidates) rule = chosen context rule) :
    evaluateRule (reorderedPolicy policy strategies hstrategies) decisionId
      (reorderedContext context candidates hcandidates) rule =
        evaluateRule policy decisionId context rule := by
  by_cases hrule : rule.strategy ≠ .manualReview ∧ rule.strategy ≠ .abort
  · rw [evaluateRule_of_candidate hrule, evaluateRule_of_candidate hrule, h]
    rfl
  · rcases not_and_or.mp hrule with hreview | habort
    · simp only [evaluateRule, not_not.mp hreview]
      rfl
    · simp only [evaluateRule, not_not.mp habort]
      rfl

end

/-! ## What recovery promises -/

section

variable (policy decisionId context)

structure DecidesBest (decision : FailureRecoveryDecision) (rule : RecoveryStrategyRule) :
    Prop where
  isFirst : IsFirst policy context rule
  strategy_eq : decision.strategy = rule.strategy
  candidate : (rule.strategy = .manualReview ∨ rule.strategy = .abort) ∧
      decision.selectedCandidateId = none ∨
    ∃ candidate, IsBest (Eligible context rule) (NotWorse casefold rule) context.candidates
        candidate ∧
      decision.selectedCandidateId = some candidate.candidateId ∧
      decision.targetType = candidate.targetType

structure RecoversSafely : Prop where
  returns : (∃ rule ∈ policy.strategies, Selectable context rule) →
    ∃ decision, evaluate policy decisionId context = .ok decision
  decides : ∀ decision, evaluate policy decisionId context = .ok decision →
    ∃ rule, DecidesBest policy context decision rule
  orderless : ∀ strategies hstrategies candidates hcandidates,
    evaluate (reorderedPolicy policy strategies hstrategies) decisionId
      (reorderedContext context candidates hcandidates) = evaluate policy decisionId context
  reviews : policy.requireManualReviewBeforeAbort = true →
    ∀ decision, evaluate policy decisionId context = .ok decision → decision.status ≠ .abort

def BestIsUnique : Prop :=
  ∀ rule, IsFirst policy context rule →
    UniqueBest (Eligible context rule) (NotWorse casefold rule) context.candidates

def AbortComesLater : Prop :=
  ∀ rule ∈ policy.strategies, rule.strategy = .abort → Selectable context rule →
    ∃ other ∈ policy.strategies, Selectable context other ∧ other.priority < rule.priority

end

def reviewedPolicy : FailureRecoveryPolicy where
  policyId := "recovery"
  strategies := [
    ⟨.abort, 10, [], none, none, true, by decide, by decide, by decide⟩,
    ⟨.manualReview, 20, [], none, none, true, by decide, by decide, by decide⟩]
  requireManualReviewBeforeAbort := true
  strategies_ne_nil := by decide
  policyId_isBlank := by decide +kernel
  strategies_nodup := by decide
  priorities_nodup := by decide
  review_present := by decide

def sampleContext : FailureRecoveryContext asciiCasefold where
  failureId := "failure-001"
  failureCategory := .timeout
  errorCode := "timeout"
  currentToolName := none
  currentAgentId := none
  retryExhausted := true
  candidates := []
  texts_isBlank := by decide +kernel
  current_isBlank := by simp
  candidates_nodup := by simp

theorem exists_decidesBest (hid : isBlank decisionId = false)
    (hretry : context.retryExhausted = true)
    (h : evaluate policy decisionId context = .ok decision) :
    ∃ rule, DecidesBest policy context decision rule ∧
      (decision.status = .abort ↔ rule.strategy = .abort) := by
  rcases first_or_none policy context with ⟨rule, hfirst⟩ | hnone
  · obtain ⟨other, hother, hdecides⟩ := exists_evaluate hid hfirst hretry
    obtain rfl := Except.ok.inj (h.symm.trans hother)
    refine ⟨rule, ⟨hfirst, hdecides.strategy_eq, ?_⟩, hdecides.abort_iff⟩
    cases hchosen : chosen context rule with
    | none =>
      refine .inl ⟨?_, by rw [hdecides.selected_eq, hchosen]; rfl⟩
      rcases hfirst.isEligible.usable with hreview | habort | ⟨candidate, hmem, helig⟩
      · exact .inl hreview
      · exact .inr habort
      · exact absurd helig (chosen_eq_none_iff.mp hchosen candidate hmem)
    | some candidate =>
      exact .inr ⟨candidate, isBest_of_chosen hchosen, by rw [hdecides.selected_eq, hchosen]; rfl,
        hdecides.target_eq candidate hchosen⟩
  · rw [evaluate_of_none hretry hnone] at h
    exact absurd h nofun

theorem orderless_iff (hid : isBlank decisionId = false) (hretry : context.retryExhausted = true) :
    (∀ strategies hstrategies candidates hcandidates,
      evaluate (reorderedPolicy policy strategies hstrategies) decisionId
        (reorderedContext context candidates hcandidates) = evaluate policy decisionId context) ↔
      BestIsUnique policy context := by
  constructor
  · intro h rule hfirst
    -- whichever of the best candidates comes first is the one that is chosen
    have hselected : ∀ candidate, IsBest (Eligible context rule) (NotWorse casefold rule)
        context.candidates candidate → ∃ decision,
          evaluate policy decisionId context = .ok decision ∧
            decision.selectedCandidateId = some candidate.candidateId := by
      intro candidate hbest
      obtain ⟨candidates, hperm, hchosen⟩ := exists_chosen hbest
      have hreordered : IsFirst (reorderedPolicy policy _ (.refl _))
          (reorderedContext context candidates hperm) rule := isFirst_reordered.mpr hfirst
      obtain ⟨decision, hdecision, hdecides⟩ := exists_evaluate hid hreordered hretry
      rw [h] at hdecision
      exact ⟨decision, hdecision, by rw [hdecides.selected_eq, hchosen]; rfl⟩
    intro first second hfirstBest hsecondBest
    obtain ⟨decision, hdecision, hselectedFirst⟩ := hselected first hfirstBest
    obtain ⟨other, hother, hselectedSecond⟩ := hselected second hsecondBest
    obtain rfl := Except.ok.inj (hdecision.symm.trans hother)
    refine List.inj_on_of_nodup_map context.candidates_nodup hfirstBest.mem hsecondBest.mem ?_
    rw [Option.some.inj (hselectedFirst.symm.trans hselectedSecond)]
  · intro hunique strategies hstrategies candidates hcandidates
    rcases first_or_none policy context with ⟨rule, hfirst⟩ | hnone
    · obtain ⟨decision, hdecision, -⟩ := evaluateRule_of_usable hid hfirst.isEligible.usable
      rw [evaluate_of_isFirst hfirst hretry hdecision]
      have hreordered : IsFirst (reorderedPolicy policy strategies hstrategies)
          (reorderedContext context candidates hcandidates) rule := isFirst_reordered.mpr hfirst
      refine evaluate_of_isFirst hreordered hretry ?_
      rw [evaluateRule_reordered (chosen_reordered (hunique rule hfirst)), hdecision]
    · rw [evaluate_of_none hretry hnone]
      refine evaluate_of_none hretry fun rule hmem hrule => ?_
      exact hnone rule (hstrategies.mem_iff.mp hmem) (selectable_reordered.mp hrule)

theorem not_abort_iff (hid : isBlank decisionId = false) (hretry : context.retryExhausted = true) :
    (∀ decision, evaluate policy decisionId context = .ok decision → decision.status ≠ .abort) ↔
      AbortComesLater policy context := by
  constructor
  · intro h rule hmem habort hrule
    by_contra hnone
    have hfirst : IsFirst policy context rule := ⟨hmem, hrule, fun other hother hselectable =>
      not_lt.mp fun hlt => hnone ⟨other, hother, hselectable, hlt⟩⟩
    obtain ⟨decision, hdecision, hdecides⟩ := exists_evaluate hid hfirst hretry
    exact h decision hdecision (hdecides.abort_iff.mpr habort)
  · intro h decision hdecision habort
    obtain ⟨rule, ⟨hfirst, -, -⟩, hstatus⟩ := exists_decidesBest hid hretry hdecision
    obtain ⟨other, hmem, hselectable, hlt⟩ :=
      h rule hfirst.mem (hstatus.mp habort) hfirst.isEligible
    exact absurd (hfirst.best other hmem hselectable) (not_le.mpr hlt)

theorem recovers_safely_iff (hid : isBlank decisionId = false)
    (hretry : context.retryExhausted = true) :
    RecoversSafely policy decisionId context ↔ BestIsUnique policy context ∧
      (policy.requireManualReviewBeforeAbort = true → AbortComesLater policy context) := by
  rw [← orderless_iff hid hretry, ← not_abort_iff hid hretry]
  constructor
  · intro h
    exact ⟨h.orderless, h.reviews⟩
  · rintro ⟨horderless, hreviews⟩
    refine ⟨?_, ?_, horderless, hreviews⟩
    · rintro ⟨rule, hmem, hrule⟩
      obtain ⟨_, hfirst⟩ := (first_or_none policy context).resolve_right fun h => h rule hmem hrule
      obtain ⟨decision, hdecision, -⟩ := exists_evaluate hid hfirst hretry
      exact ⟨decision, hdecision⟩
    · intro decision hdecision
      obtain ⟨rule, hbest, -⟩ := exists_decidesBest hid hretry hdecision
      exact ⟨rule, hbest⟩

theorem recovers_safely_sample :
    RecoversSafely reviewedPolicy "decision-001" sampleContext ↔
      BestIsUnique reviewedPolicy sampleContext ∧
        (reviewedPolicy.requireManualReviewBeforeAbort = true →
          AbortComesLater reviewedPolicy sampleContext) :=
  recovers_safely_iff (by decide +kernel) rfl

theorem aborts_unreviewed : ¬RecoversSafely reviewedPolicy "decision-001" sampleContext := by
  intro h
  have hstatus : (evaluate reviewedPolicy "decision-001" sampleContext).map (·.status) =
      .ok .abort := by decide +kernel
  cases hdecision : evaluate reviewedPolicy "decision-001" sampleContext with
  | error raised => simp [hdecision, Except.map] at hstatus
  | ok decision =>
    refine h.reviews rfl decision hdecision ?_
    simpa [hdecision, Except.map] using hstatus

end AgenticLab.FailureRecoveryEvaluator
