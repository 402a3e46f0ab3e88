import AgenticLab.Model.RetryPolicy
import Mathlib.Data.List.MinMax
import Mathlib.Data.List.Sort
import Mathlib.Data.Prod.Lex
import Mathlib.Data.String.Basic

/-! # Failure recovery

`app/guardrails/failure_recovery_evaluator.py` with `app/guardrails/failure_recovery_policy.py` and
`app/guardrails/failure_recovery.py`. -/

namespace AgenticLab

inductive RecoveryStrategy where
  | alternateTool
  | alternateAgent
  | cachedResult
  | partialResult
  | manualReview
  | abort
  deriving DecidableEq

def RecoveryStrategy.value : RecoveryStrategy → String
  | alternateTool => "alternate_tool"
  | alternateAgent => "alternate_agent"
  | cachedResult => "cached_result"
  | partialResult => "partial_result"
  | manualReview => "manual_review"
  | abort => "abort"

inductive RecoveryTargetType where
  | tool
  | agent
  | cache
  | partialOutput
  | human
  | none
  deriving DecidableEq

/-- What a float field with a lower bound holds; nothing stands for `nan`. -/
abbrev BoundedFloat := Option (WithTop ℚ)

/-- `first <= second` -/
def BoundedFloat.atMost (first second : BoundedFloat) : Prop :=
  ∃ small ∈ first, ∃ large ∈ second, small ≤ large

instance (first second : BoundedFloat) : Decidable (first.atMost second) :=
  inferInstanceAs (Decidable (∃ small ∈ first, ∃ large ∈ second, small ≤ large))

structure RecoveryStrategyRule where
  strategy : RecoveryStrategy
  priority : ℕ
  allowedFailureCategories : List RetryFailureCategory
  minimumPartialQualityScore : Option BoundedFloat
  maximumCacheAgeSeconds : Option BoundedFloat
  enabled : Bool
  categories_nodup : allowedFailureCategories.Nodup
  quality_iff : minimumPartialQualityScore ≠ none ↔ strategy = .partialResult
  age_iff : maximumCacheAgeSeconds ≠ none ↔ strategy = .cachedResult

structure FailureRecoveryPolicy where
  policyId : String
  strategies : List RecoveryStrategyRule
  requireManualReviewBeforeAbort : Bool
  strategies_ne_nil : strategies ≠ []
  policyId_isBlank : isBlank policyId = false
  strategies_nodup : (strategies.map (·.strategy)).Nodup
  priorities_nodup : (strategies.map (·.priority)).Nodup
  review_present : requireManualReviewBeforeAbort = true →
    .manualReview ∈ strategies.map (·.strategy)

def FailureRecoveryPolicy.enabledStrategies (policy : FailureRecoveryPolicy) :
    List RecoveryStrategyRule :=
  (policy.strategies.filter (·.enabled)).insertionSort (·.priority ≤ ·.priority)

structure RecoveryCandidate where
  candidateId : String
  targetType : RecoveryTargetType
  available : Bool
  priority : ℕ
  qualityScore : Option BoundedFloat
  ageSeconds : Option BoundedFloat
  candidateId_isBlank : isBlank candidateId = false
  quality_present : targetType = .partialOutput → qualityScore ≠ none
  age_present : targetType = .cache → ageSeconds ≠ none

structure FailureRecoveryContext (casefold : Casefold) where
  failureId : String
  failureCategory : RetryFailureCategory
  errorCode : String
  currentToolName : Option String
  currentAgentId : Option String
  retryExhausted : Bool
  candidates : List RecoveryCandidate
  texts_isBlank : isBlank failureId = false ∧ isBlank errorCode = false
  current_isBlank : ∀ name, name ∈ currentToolName ∨ name ∈ currentAgentId → isBlank name = false
  candidates_nodup : (candidates.map (normalizeId casefold ·.candidateId)).Nodup

inductive RecoveryDecisionStatus where
  | recover
  | review
  | abort
  deriving DecidableEq

structure FailureRecoveryDecision where
  decisionId : String
  policyId : String
  failureId : String
  status : RecoveryDecisionStatus
  strategy : RecoveryStrategy
  targetType : RecoveryTargetType
  selectedCandidateId : Option String
  summary : String
  metadata : List (String × String)
  deriving DecidableEq

/-- `validate_decision` -/
def FailureRecoveryDecision.validate (decision : FailureRecoveryDecision) :
    Except Raised Unit := do
  requireTexts [("decision_id", decision.decisionId), ("policy_id", decision.policyId),
    ("failure_id", decision.failureId), ("summary", decision.summary)]
  raiseIf (decision.strategy ∈ [.alternateTool, .alternateAgent, .cachedResult, .partialResult] ∧
    decision.selectedCandidateId = none)
    ⟨.validationError, "candidate recovery strategy requires selected_candidate_id"⟩
  raiseIf (decision.strategy ∈ [.manualReview, .abort] ∧ decision.selectedCandidateId ≠ none)
    ⟨.validationError, "manual review and abort must not select a candidate"⟩
  raiseIf (decision.status = .review ∧ decision.strategy ≠ .manualReview)
    ⟨.validationError, "review status requires manual_review strategy"⟩
  raiseIf (decision.status = .abort ∧ decision.strategy ≠ .abort)
    ⟨.validationError, "abort status requires abort strategy"⟩

namespace FailureRecoveryEvaluator

variable {casefold : Casefold} (policy : FailureRecoveryPolicy) (decisionId : String)
  (context : FailureRecoveryContext casefold)

def FailureRecoveryEvaluatorError (message : String) : Raised :=
  ⟨.external "FailureRecoveryEvaluatorError" .runtimeOrValueError, message⟩

def firstCandidate (targetType : RecoveryTargetType) (excludedId : Option String) :
    Option RecoveryCandidate :=
  (context.candidates.filter fun candidate => candidate.available = true ∧
    candidate.targetType = targetType ∧
    some (normalizeId casefold candidate.candidateId) ≠ excludedId.map (normalizeId casefold)).argmin
      fun candidate => toLex (candidate.priority, casefold candidate.candidateId)

def cacheCandidate (maximumAge : Option BoundedFloat) : Option RecoveryCandidate :=
  match maximumAge with
  | none => none
  | some maximumAge =>
    (context.candidates.filter fun candidate => candidate.available = true ∧
      candidate.targetType = .cache ∧ ∃ age ∈ candidate.ageSeconds, age.atMost maximumAge).argmin
        fun candidate => toLex (candidate.ageSeconds.join.getD ⊤, candidate.priority)

def partialCandidate (minimumQuality : Option BoundedFloat) : Option RecoveryCandidate :=
  match minimumQuality with
  | none => none
  | some minimumQuality =>
    (context.candidates.filter fun candidate => candidate.available = true ∧
      candidate.targetType = .partialOutput ∧
      ∃ score ∈ candidate.qualityScore, minimumQuality.atMost score).argmax
        fun candidate => toLex (candidate.qualityScore.join.getD 0, OrderDual.toDual candidate.priority)

/-- `_new_identifier`, when the factory returns `decisionId`. -/
def newIdentifier : Except Raised String := do
  raiseIf (isBlank decisionId)
    (FailureRecoveryEvaluatorError "decision_id factory returned blank value")
  return decisionId

/-- `FailureRecoveryDecision(...)`, as both `_candidate_decision` and `_terminal_decision` build it. -/
def newDecision (status : RecoveryDecisionStatus) (strategy : RecoveryStrategy)
    (targetType : RecoveryTargetType) (selectedCandidateId : Option String) (selection : String) :
    Except Raised (Option FailureRecoveryDecision) := do
  let decision : FailureRecoveryDecision := {
    decisionId := ← newIdentifier decisionId
    policyId := policy.policyId
    failureId := context.failureId
    status := status
    strategy := strategy
    targetType := targetType
    selectedCandidateId := selectedCandidateId
    summary := "Failure recovery selected " ++ strategy.value ++ selection ++ "."
    metadata := [("failure_category", context.failureCategory.value),
      ("error_code", context.errorCode)] }
  decision.validate
  return some decision

def candidateDecision (rule : RecoveryStrategyRule) (candidate : Option RecoveryCandidate) :
    Except Raised (Option FailureRecoveryDecision) :=
  match candidate with
  | none => .ok none
  | some candidate => newDecision policy decisionId context .recover rule.strategy
      candidate.targetType (some candidate.candidateId) (" using " ++ candidate.candidateId)

def terminalDecision (status : RecoveryDecisionStatus) (strategy : RecoveryStrategy)
    (targetType : RecoveryTargetType) : Except Raised (Option FailureRecoveryDecision) :=
  newDecision policy decisionId context status strategy targetType none ""

def evaluateRule (rule : RecoveryStrategyRule) :
    Except Raised (Option FailureRecoveryDecision) :=
  match rule.strategy with
  | .alternateTool => candidateDecision policy decisionId context rule
      (firstCandidate context .tool context.currentToolName)
  | .alternateAgent => candidateDecision policy decisionId context rule
      (firstCandidate context .agent context.currentAgentId)
  | .cachedResult => candidateDecision policy decisionId context rule
      (cacheCandidate context rule.maximumCacheAgeSeconds)
  | .partialResult => candidateDecision policy decisionId context rule
      (partialCandidate context rule.minimumPartialQualityScore)
  | .manualReview => terminalDecision policy decisionId context .review .manualReview .human
  | .abort => terminalDecision policy decisionId context .abort .abort .none

/-- `allowed_failure_categories and failure_category not in allowed_failure_categories`, denied -/
def Applies (rule : RecoveryStrategyRule) : Prop :=
  rule.allowedFailureCategories = [] ∨ context.failureCategory ∈ rule.allowedFailureCategories

instance (rule : RecoveryStrategyRule) : Decidable (Applies context rule) :=
  inferInstanceAs (Decidable (_ ∨ _))

def firstDecision : List RecoveryStrategyRule → Except Raised FailureRecoveryDecision
  | [] => .error (FailureRecoveryEvaluatorError "no applicable recovery strategy was found")
  | rule :: rules =>
    if Applies context rule then do
      match ← evaluateRule policy decisionId context rule with
      | some decision => return decision
      | none => firstDecision rules
    else firstDecision rules

def evaluate : Except Raised FailureRecoveryDecision := do
  raiseIf (context.retryExhausted = false)
    (FailureRecoveryEvaluatorError "failure recovery requires exhausted retries")
  firstDecision policy decisionId context policy.enabledStrategies

end FailureRecoveryEvaluator

end AgenticLab
