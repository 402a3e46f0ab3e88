import AgenticLab.Model.Planning.PlanExecution
import Mathlib.Data.List.ReduceOption

/-! # The bounded research loop

`app/schemas/bounded_research_agent_loop.py` and, of `app/research/`,
`deterministic_evidence_sufficiency_decider.py`, `bounded_research_planning_loop.py` and the
observation adapter of `bounded_grounded_answer_agent_tool.py`. Seconds are added without
rounding. -/

namespace AgenticLab

/-- `not value.strip() or value != value.strip()` is what the validators refuse. -/
def isNormalized (value : String) : Bool := !isBlank value && strip value == value

/-! ## Budgets and usage -/

/-- `Field(ge=least, le=greatest)` -/
abbrev Bounded (least greatest : ℕ) := {value : ℕ // least ≤ value ∧ value ≤ greatest}

structure BoundedResearchAgentLoopBudget where
  maximumRounds : Bounded 1 100
  maximumToolCalls : Bounded 1 1000
  maximumProviderCalls : Bounded 0 1000
  maximumRecordedTokens : Bounded 0 10000000
  maximumElapsedSeconds : {value : ℚ≥0 // 0 < value ∧ value ≤ 86400}
  maximumExternalRequests : Bounded 0 10000

def elapsedCeiling (value : ℚ≥0) (h : 0 < value ∧ value ≤ 86400) :
    {value : ℚ≥0 // 0 < value ∧ value ≤ 86400} :=
  ⟨value, h⟩

structure BoundedResearchAgentLoopRequest where
  allowedTools : List String
  budget : BoundedResearchAgentLoopBudget

structure ResearchAgentRoundUsage where
  toolCalls : ℕ
  providerCalls : ℕ
  recordedTokens : ℕ
  elapsedSeconds : ℚ≥0
  externalRequests : ℕ
  deriving DecidableEq

structure ResearchAgentLoopUsage extends ResearchAgentRoundUsage where
  rounds : ℕ
  deriving DecidableEq

def sumRoundUsage (values : List ResearchAgentRoundUsage) : ResearchAgentRoundUsage where
  toolCalls := (values.map (·.toolCalls)).sum
  providerCalls := (values.map (·.providerCalls)).sum
  recordedTokens := (values.map (·.recordedTokens)).sum
  elapsedSeconds := (values.map (·.elapsedSeconds)).sum
  externalRequests := (values.map (·.externalRequests)).sum

def loopUsage (values : List ResearchAgentRoundUsage) : ResearchAgentLoopUsage :=
  { sumRoundUsage values with rounds := values.length }

inductive GroundedAnswerWorkflowStatus where
  | answerAvailable
  | abstained
  | generationFailed
  | validationFailed
  | incomplete
  deriving DecidableEq

structure BoundedGroundedAnswerWorkflowResult where
  status : GroundedAnswerWorkflowStatus
  retryable : Option Bool
  failed_iff : retryable.isSome = true ↔ status = .generationFailed ∨ status = .validationFailed

inductive MetadataValue where
  | bool (value : Bool)
  | int (value : ℤ)
  /-- NaN and the infinities have no value. -/
  | float (value : Option ℚ)
  | str (value : String)
  | other

/-- A tool result with the parts that the adapter reads. -/
structure GroundedToolResult extends ToolExecutionResult where
  /-- The output, if it is a workflow result. -/
  output : Option BoundedGroundedAnswerWorkflowResult
  metadata : List (String × MetadataValue)

def boundedGroundedAnswerToolName : String := "bounded_grounded_answer"

/-! ## Observations -/

structure ResearchAgentObservationFailure where
  code : String
  safeMessage : String
  retryable : Bool

/-- What an observation carries, by its status. -/
inductive ResearchAgentObservationOutcome where
  | workflowResult (result : BoundedGroundedAnswerWorkflowResult)
  | toolFailed (failure : ResearchAgentObservationFailure)

structure ResearchAgentObservation where
  observationId : String
  toolName : String
  outcome : ResearchAgentObservationOutcome

def ResearchAgentObservation.status? (observation : ResearchAgentObservation) :
    Option GroundedAnswerWorkflowStatus :=
  match observation.outcome with
  | .workflowResult result => some result.status
  | .toolFailed _ => none

def ResearchAgentObservation.retryable? (observation : ResearchAgentObservation) : Option Bool :=
  match observation.outcome with
  | .workflowResult result => result.retryable
  | .toolFailed failure => some failure.retryable

def invalid (message : String) : Raised := ⟨.validationError, message⟩

def newObservationFailure (code safeMessage : String) (retryable : Bool) :
    Except Raised ResearchAgentObservationFailure := do
  raiseIf (200 < code.length) (invalid "String should have at most 200 characters")
  raiseIf (2000 < safeMessage.length) (invalid "String should have at most 2000 characters")
  raiseIf (isNormalized code = false) (invalid "code must be normalized and nonblank")
  raiseIf (isNormalized safeMessage = false)
    (invalid "safe_message must be normalized and nonblank")
  return ⟨code, safeMessage, retryable⟩

def newObservation (observationId toolName : String) (outcome : ResearchAgentObservationOutcome) :
    Except Raised ResearchAgentObservation := do
  raiseIf (isNormalized observationId = false)
    (invalid "observation_id must be normalized and nonblank")
  raiseIf (isNormalized toolName = false) (invalid "tool_name must be normalized and nonblank")
  return ⟨observationId, toolName, outcome⟩

/-! ## The adapter -/

namespace GroundedAnswerToolObservationAdapter

def usageInvalid : Raised :=
  ⟨.valueError, "grounded-answer tool usage metadata is invalid"⟩

/-- A count of the usage metadata: an `int` that is no `bool`. -/
def count (metadata : List (String × MetadataValue)) (name : String) : Except Raised ℤ :=
  match metadata.lookup name with
  | some (.int value) => .ok value
  | _ => .error usageInvalid

/-- `float(metadata["elapsed_seconds"])` -/
def seconds (metadata : List (String × MetadataValue)) : Except Raised (Option ℚ) :=
  match metadata.lookup "elapsed_seconds" with
  | some (.int value) => .ok (some value)
  | some (.float value) => .ok value
  | _ => .error usageInvalid

/-- `Field(ge=0)` -/
def nonNegative (value : ℤ) : Except Raised ℕ :=
  if value < 0 then .error (invalid "Input should be greater than or equal to 0")
  else .ok value.toNat

def finiteSeconds : Option ℚ → Except Raised ℚ≥0
  | none => .error (invalid "elapsed_seconds must be finite")
  | some value =>
    if 0 ≤ value then .ok value.toNNRat
    else .error (invalid "Input should be greater than or equal to 0")

def usage (metadata : List (String × MetadataValue)) : Except Raised ResearchAgentRoundUsage := do
  let providerCalls ← count metadata "provider_calls"
  let recordedTokens ← count metadata "recorded_tokens"
  let elapsed ← seconds metadata
  let externalRequests ← count metadata "external_requests"
  return {
    toolCalls := 1
    providerCalls := ← nonNegative providerCalls
    recordedTokens := ← nonNegative recordedTokens
    elapsedSeconds := ← finiteSeconds elapsed
    externalRequests := ← nonNegative externalRequests }

def failedUsage : ResearchAgentRoundUsage := ⟨1, 0, 0, 0, 0⟩

/-- `_failed_observation`, the observation without its identifier. -/
def failedOutcome (result : GroundedToolResult) :
    Except Raised (ResearchAgentObservationOutcome × ResearchAgentRoundUsage) :=
  match result.metadata.lookup "error_code", result.metadata.lookup "retryable" with
  | some (.str code), some (.bool retryable) => do
      raiseIf (isBlank code = true)
        ⟨.valueError, "failed grounded-answer result requires safe failure metadata"⟩
      let failure ← newObservationFailure code
        (result.errorMessage.getD "Grounded-answer tool failed.") retryable
      return (.toolFailed failure, failedUsage)
  | _, _ => .error ⟨.valueError, "failed grounded-answer result requires safe failure metadata"⟩

def outcome (result : GroundedToolResult) :
    Except Raised (ResearchAgentObservationOutcome × ResearchAgentRoundUsage) := do
  raiseIf (result.toolName ≠ boundedGroundedAnswerToolName)
    ⟨.valueError, "tool result is not from bounded_grounded_answer"⟩
  match result.status, result.output with
  | .failed, _ => failedOutcome result
  | .succeeded, none =>
    .error ⟨.typeError, "successful grounded-answer tool result requires exact output"⟩
  | .succeeded, some workflowResult => do
      return (.workflowResult workflowResult, ← usage result.metadata)

def adapt (observationId : String) (result : GroundedToolResult) :
    Except Raised (ResearchAgentObservation × ResearchAgentRoundUsage) := do
  let (found, roundUsage) ← outcome result
  return (← newObservation observationId result.toolName found, roundUsage)

end GroundedAnswerToolObservationAdapter

/-! ## Decisions -/

inductive ResearchAgentLoopDecision where
  | continue
  | replan
  | goalAchieved
  | abstain
  | humanReview
  | terminalFailure
  | budgetExhausted
  deriving DecidableEq

inductive ResearchAgentTerminationReason where
  | goalAchieved
  | abstained
  | humanReviewRequired
  | terminalFailure
  | budgetExhausted
  deriving DecidableEq

inductive EvidenceSufficiencyDecisionCode where
  | groundedAnswerAvailable
  | groundedAbstention
  | loopBudgetReached
  | workflowIncomplete
  | retryableFailure
  | nonretryableFailure
  | conflictingFailureSignals
  deriving DecidableEq

structure EvidenceSufficiencyDecisionResult where
  decision : ResearchAgentLoopDecision
  code : EvidenceSufficiencyDecisionCode
  rationale : String

def EvidenceSufficiencyDecisionResult.replanRecommended
    (result : EvidenceSufficiencyDecisionResult) : Bool := result.decision = .replan

def EvidenceSufficiencyDecisionResult.humanReviewRecommended
    (result : EvidenceSufficiencyDecisionResult) : Bool := result.decision = .humanReview

namespace DeterministicEvidenceSufficiencyDecider

/-- `_budget_reached`: a ceiling of calls, tokens or requests counts once something was used. -/
def budgetReached (usage : ResearchAgentLoopUsage) (budget : BoundedResearchAgentLoopBudget) :
    Bool :=
  budget.maximumRounds.val ≤ usage.rounds || budget.maximumToolCalls.val ≤ usage.toolCalls ||
    (0 < usage.providerCalls && budget.maximumProviderCalls.val ≤ usage.providerCalls) ||
    (0 < usage.recordedTokens && budget.maximumRecordedTokens.val ≤ usage.recordedTokens) ||
    budget.maximumElapsedSeconds.val ≤ usage.elapsedSeconds ||
    (0 < usage.externalRequests && budget.maximumExternalRequests.val ≤ usage.externalRequests)

def isOnly (value : Bool) (values : List Bool) : Bool :=
  !values.isEmpty && values.all (· == value)

def decide (observations : List ResearchAgentObservation)
    (usageAfterRound : ResearchAgentLoopUsage) (budget : BoundedResearchAgentLoopBudget) :
    Except Raised EvidenceSufficiencyDecisionResult := do
  raiseIf (observations = []) ⟨.valueError, "at least one research observation is required"⟩
  let statuses := observations.filterMap (·.status?)
  let retryability : List Bool := observations.filterMap (·.retryable?)
  if .answerAvailable ∈ statuses then
    return ⟨.goalAchieved, .groundedAnswerAvailable,
      "A citation-validated grounded answer is available."⟩
  else if .abstained ∈ statuses then
    return ⟨.abstain, .groundedAbstention,
      "The grounded workflow explicitly abstained on the available evidence."⟩
  else if budgetReached usageAfterRound budget = true then
    return ⟨.budgetExhausted, .loopBudgetReached,
      "At least one bounded research-loop ceiling has been reached."⟩
  else if isOnly true retryability = true then
    return ⟨.replan, .retryableFailure,
      "The recorded failure is retryable and loop budget remains."⟩
  else if retryability = [] ∧ GroundedAnswerWorkflowStatus.incomplete ∈ statuses then
    return ⟨.replan, .workflowIncomplete, "The workflow is incomplete and loop budget remains."⟩
  else if isOnly false retryability = true ∨
      GroundedAnswerWorkflowStatus.validationFailed ∈ statuses then
    return ⟨.terminalFailure, .nonretryableFailure,
      "The workflow recorded a nonretryable or validation failure."⟩
  else
    return ⟨.humanReview, .conflictingFailureSignals,
      "The observations contain conflicting or unsupported failure signals."⟩

end DeterministicEvidenceSufficiencyDecider

/-! ## Rounds and results -/

structure ResearchAgentLoopRound where
  roundNumber : ℕ
  planId : String
  observations : List ResearchAgentObservation
  decision : ResearchAgentLoopDecision
  rationale : String
  usage : ResearchAgentRoundUsage

def newRound (loopRound : ResearchAgentLoopRound) : Except Raised ResearchAgentLoopRound := do
  raiseIf (loopRound.roundNumber < 1) (invalid "Input should be greater than or equal to 1")
  raiseIf (100 < loopRound.observations.length)
    (invalid "List should have at most 100 items after validation")
  raiseIf (isNormalized loopRound.planId = false)
    (invalid "plan_id must be normalized and nonblank")
  raiseIf (isNormalized loopRound.rationale = false)
    (invalid "rationale must be normalized and nonblank")
  raiseIf (¬(loopRound.observations.map (·.observationId)).Nodup)
    (invalid "observation IDs must be unique within a round")
  raiseIf (loopRound.usage.toolCalls ≠ loopRound.observations.length)
    (invalid "round tool_calls must match observations")
  return loopRound

structure BoundedResearchAgentLoopResult where
  request : BoundedResearchAgentLoopRequest
  rounds : List ResearchAgentLoopRound
  finalDecision : ResearchAgentLoopDecision
  terminationReason : ResearchAgentTerminationReason
  usage : ResearchAgentLoopUsage
  traceId : Option String

/-- The tables of `_termination_reason` and `_validate_terminal_mapping`. -/
def ResearchAgentLoopDecision.reason? :
    ResearchAgentLoopDecision → Option ResearchAgentTerminationReason
  | .goalAchieved => some .goalAchieved
  | .abstain => some .abstained
  | .humanReview => some .humanReviewRequired
  | .terminalFailure => some .terminalFailure
  | .budgetExhausted => some .budgetExhausted
  | _ => none

namespace BoundedResearchAgentLoopResult

def exceeded (usage : ResearchAgentLoopUsage) (budget : BoundedResearchAgentLoopBudget) : Bool :=
  budget.maximumRounds.val < usage.rounds || budget.maximumToolCalls.val < usage.toolCalls ||
    budget.maximumProviderCalls.val < usage.providerCalls ||
    budget.maximumRecordedTokens.val < usage.recordedTokens ||
    budget.maximumElapsedSeconds.val < usage.elapsedSeconds ||
    budget.maximumExternalRequests.val < usage.externalRequests

def reached (usage : ResearchAgentLoopUsage) (budget : BoundedResearchAgentLoopBudget) : Bool :=
  budget.maximumRounds.val ≤ usage.rounds || budget.maximumToolCalls.val ≤ usage.toolCalls ||
    budget.maximumProviderCalls.val ≤ usage.providerCalls ||
    budget.maximumRecordedTokens.val ≤ usage.recordedTokens ||
    budget.maximumElapsedSeconds.val ≤ usage.elapsedSeconds ||
    budget.maximumExternalRequests.val ≤ usage.externalRequests

variable (result : BoundedResearchAgentLoopResult)

def validateBudget : Except Raised Unit := do
  raiseIf (exceeded result.usage result.request.budget = true ∧
      result.finalDecision ≠ .budgetExhausted)
    (invalid "over-budget loop must terminate as budget_exhausted")
  raiseIf (result.finalDecision = .budgetExhausted ∧
      reached result.usage result.request.budget = false)
    (invalid "budget_exhausted requires a reached loop ceiling")

def validateTerminalMapping : Except Raised Unit := do
  raiseIf (result.finalDecision.reason? = none)
    (invalid "research loop result requires a terminal final decision")
  raiseIf (result.finalDecision.reason? ≠ some result.terminationReason)
    (invalid "termination reason must match final decision")

def workflowStatuses : List GroundedAnswerWorkflowStatus :=
  (result.rounds.getLast?.map (·.observations)).getD [] |>.filterMap (·.status?)

def validateDecisionEvidence : Except Raised Unit := do
  raiseIf (result.finalDecision = .goalAchieved ∧ .answerAvailable ∉ result.workflowStatuses)
    (invalid "goal_achieved requires an available grounded answer")
  raiseIf (result.finalDecision = .abstain ∧ .abstained ∉ result.workflowStatuses)
    (invalid "abstain requires an abstained grounded workflow")

def validateResult (casefold : Casefold) : Except Raised Unit := do
  raiseIf (result.rounds.map (·.roundNumber) ≠ List.range' 1 result.rounds.length)
    (invalid "research loop round numbers must be sequential")
  raiseIf (¬(result.rounds.map (·.planId)).Nodup)
    (invalid "every research loop round requires a new plan ID")
  let observations := result.rounds.flatMap (·.observations)
  raiseIf (¬(observations.map (·.observationId)).Nodup)
    (invalid "observation IDs must be unique across the loop")
  raiseIf (∃ observation ∈ observations,
      casefold observation.toolName ∉ result.request.allowedTools.map casefold)
    (invalid "research observation used a non-allowed tool")
  raiseIf (result.rounds.getLast?.map (·.decision) ≠ some result.finalDecision)
    (invalid "final decision must match the last round")
  raiseIf (result.usage ≠ loopUsage (result.rounds.map (·.usage)))
    (invalid "aggregate loop usage must match round usage")
  result.validateBudget
  result.validateTerminalMapping
  result.validateDecisionEvidence
  raiseIf (result.traceId.any (!isNormalized ·))
    (invalid "trace_id must be normalized when supplied")

def build (casefold : Casefold) : Except Raised BoundedResearchAgentLoopResult := do
  raiseIf (result.rounds = []) (invalid "List should have at least 1 item after validation")
  raiseIf (100 < result.rounds.length)
    (invalid "List should have at most 100 items after validation")
  result.validateResult casefold
  return result

end BoundedResearchAgentLoopResult

/-! ## The loop -/

structure PlanningAgentAttempt where
  planId : String
  /-- The tool results of the steps, cycle by cycle. -/
  cycles : List (List (Option GroundedToolResult))

structure PlanningAgentLoopResult where
  attempts : List PlanningAgentAttempt
  traceId : Option String
  attempts_ne : attempts ≠ []
  traceId_nonblank : traceId.any isBlank = false

/-- What one round meets: the replans its planning request allows and what the planning loop does
with it. -/
structure PlanningRound where
  maximumReplans : ℕ
  outcome : Except Raised PlanningAgentLoopResult

namespace BoundedResearchPlanningLoop

def loopError (message : String) : Raised := ⟨.boundedResearchPlanningLoopError, message⟩

def boundedToolResults (planning : PlanningAgentLoopResult) : List GroundedToolResult :=
  (planning.attempts.flatMap fun attempt => attempt.cycles.flatMap fun cycle =>
    cycle.reduceOption).filter (·.toolName = boundedGroundedAnswerToolName)

def missingToolResult : GroundedToolResult where
  toolName := boundedGroundedAnswerToolName
  status := .failed
  output := none
  errorMessage := some "The plan produced no grounded-answer tool observation."
  metadata := [("error_code", .str "grounded_tool_not_executed"), ("retryable", .bool false)]
  valid := by decide +kernel

def toolResults (planning : PlanningAgentLoopResult) : List GroundedToolResult :=
  if boundedToolResults planning = [] then [missingToolResult] else boundedToolResults planning

/-- `f"{value:04d}"` -/
def fourDigits (value : ℕ) : String := String.ofList ((Nat.toDigits 10 value).leftpad 4 '0')

def observationId (roundNumber position : ℕ) : String :=
  "round-" ++ fourDigits roundNumber ++ "-observation-" ++ fourDigits position

def adaptAll (roundNumber : ℕ) :
    ℕ → List GroundedToolResult →
      Except Raised (List (ResearchAgentObservation × ResearchAgentRoundUsage))
  | _, [] => .ok []
  | position, result :: results => do
      let adapted ← GroundedAnswerToolObservationAdapter.adapt
        (observationId roundNumber position) result
      return adapted :: (← adaptAll roundNumber (position + 1) results)

def planIdOf (planning : PlanningAgentLoopResult) : String :=
  (planning.attempts.getLast planning.attempts_ne).planId

def runRound (budget : BoundedResearchAgentLoopBudget) (rounds : List ResearchAgentLoopRound)
    (planning : PlanningAgentLoopResult) : Except Raised ResearchAgentLoopRound := do
  let adapted ← adaptAll (rounds.length + 1) 1 (toolResults planning)
  let usage := sumRoundUsage (adapted.map Prod.snd)
  let decision ← DeterministicEvidenceSufficiencyDecider.decide (adapted.map Prod.fst)
    (loopUsage (rounds.map (·.usage) ++ [usage])) budget
  newRound {
    roundNumber := rounds.length + 1
    planId := planIdOf planning
    observations := adapted.map Prod.fst
    decision := decision.decision
    rationale := decision.rationale
    usage := usage }

def planningResult (planning : PlanningRound) : Except Raised PlanningAgentLoopResult := do
  raiseIf (planning.maximumReplans ≠ 0) (loopError "inner planning-loop replans must be zero")
  match planning.outcome with
  | .ok result => return result
  | .error _ => .error (loopError "existing planning loop failed")

def loop (casefold : Casefold) (request : BoundedResearchAgentLoopRequest)
    (plannings : ℕ → PlanningRound) :
    ℕ → List ResearchAgentLoopRound → Option String → Except Raised BoundedResearchAgentLoopResult
  | 0, _, _ =>
    .error (loopError "research loop ended without a terminal bounded decision")
  | remaining + 1, rounds, traceId => do
      let planning ← planningResult (plannings (rounds.length + 1))
      let next ← runRound request.budget rounds planning
      if next.decision = .replan then
        loop casefold request plannings remaining (rounds ++ [next]) (planning.traceId <|> traceId)
      else match next.decision.reason? with
        | none => .error (loopError "nonterminal research decision cannot finish the loop")
        | some reason => BoundedResearchAgentLoopResult.build {
            request := request
            rounds := rounds ++ [next]
            finalDecision := next.decision
            terminationReason := reason
            usage := loopUsage ((rounds ++ [next]).map (·.usage))
            traceId := planning.traceId <|> traceId } casefold

def run (casefold : Casefold) (request : BoundedResearchAgentLoopRequest)
    (plannings : ℕ → PlanningRound) : Except Raised BoundedResearchAgentLoopResult :=
  loop casefold request plannings request.budget.maximumRounds.val [] none

end BoundedResearchPlanningLoop

end AgenticLab
