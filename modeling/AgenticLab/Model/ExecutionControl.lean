import AgenticLab.Model.Application.Values

/-! # Timeouts and cancellation (`app/guardrails/execution_control.py`,
`app/guardrails/execution_timeout_policy.py`, `app/guardrails/execution_control_evaluator.py`) -/

namespace AgenticLab.ExecutionControlEvaluator

inductive ExecutionSubjectType where
  | agent
  | tool
  | assignment
  | workflow
  | evaluation
  deriving DecidableEq

def ExecutionSubjectType.value : ExecutionSubjectType → String
  | agent => "agent"
  | tool => "tool"
  | assignment => "assignment"
  | workflow => "workflow"
  | evaluation => "evaluation"

/-- What the evaluator reads of a policy that pydantic accepts. -/
structure TimeoutPolicy where
  policyId : String
  subjectType : ExecutionSubjectType
  softTimeoutSeconds : Option ℚ
  hardTimeoutSeconds : Option ℚ
  cancellationGracePeriodSeconds : ℚ
  warnOnSoftTimeout : Bool
  cancelOnHardTimeout : Bool
  policyId_isBlank : isBlank policyId = false
  timeouts_pos : ∀ limit ∈ softTimeoutSeconds.toList ++ hardTimeoutSeconds.toList, 0 < limit
  grace_nonneg : 0 ≤ cancellationGracePeriodSeconds
  timeout_given : softTimeoutSeconds ≠ none ∨ hardTimeoutSeconds ≠ none
  soft_lt_hard : ∀ soft ∈ softTimeoutSeconds, ∀ hard ∈ hardTimeoutSeconds, soft < hard
  warn_requires : warnOnSoftTimeout = true → softTimeoutSeconds ≠ none
  cancel_requires : cancelOnHardTimeout = true → hardTimeoutSeconds ≠ none

inductive ExecutionLifecycleStatus where
  | created
  | running
  | completed
  | failed
  | cancelled
  | timedOut
  deriving DecidableEq

namespace ExecutionLifecycleStatus

def value : ExecutionLifecycleStatus → String
  | created => "created"
  | running => "running"
  | completed => "completed"
  | failed => "failed"
  | cancelled => "cancelled"
  | timedOut => "timed_out"

/-- `terminal_statuses` -/
def isTerminal : ExecutionLifecycleStatus → Bool
  | completed | failed | cancelled | timedOut => true
  | _ => false

end ExecutionLifecycleStatus

inductive CancellationMode where
  | graceful
  | force
  deriving DecidableEq

structure CancellationRequest where
  requestedAt : Datetime
  mode : CancellationMode
  requestedAt_aware : requestedAt.isNaive = false

/-- A snapshot that pydantic accepts. -/
structure ExecutionRuntimeSnapshot where
  executionId : String
  subjectId : String
  subjectType : ExecutionSubjectType
  status : ExecutionLifecycleStatus
  createdAt : Datetime
  startedAt : Option Datetime
  finishedAt : Option Datetime
  deadlineAt : Option Datetime
  cancellationRequest : Option CancellationRequest
  executionId_isBlank : isBlank executionId = false
  subjectId_isBlank : isBlank subjectId = false
  aware : ∀ time ∈ createdAt :: (startedAt.toList ++ finishedAt.toList ++ deadlineAt.toList),
    time.isNaive = false
  started_of_created : ∀ started ∈ startedAt, createdAt ≤ started
  finished_of_started : ∀ finished ∈ finishedAt, ∃ started ∈ startedAt, started ≤ finished
  finished_iff : finishedAt ≠ none ↔ status.isTerminal = true

inductive ExecutionControlDecisionType where
  | continue
  | warn
  | requestCancellation
  | forceCancel
  | timeout
  | terminal
  deriving DecidableEq

namespace ExecutionControlDecisionType

def value : ExecutionControlDecisionType → String
  | .continue => "continue"
  | warn => "warn"
  | requestCancellation => "request_cancellation"
  | forceCancel => "force_cancel"
  | timeout => "timeout"
  | terminal => "terminal"

/-- `stopping_decisions` -/
def isStopping : ExecutionControlDecisionType → Bool
  | forceCancel | timeout | terminal => true
  | _ => false

end ExecutionControlDecisionType

inductive ExecutionControlReason where
  | withinLimits
  | softTimeoutExceeded
  | hardTimeoutExceeded
  | deadlineExceeded
  | gracefulCancellationRequested
  | forceCancellationRequested
  | cancellationGracePeriodExceeded
  | executionAlreadyTerminal
  deriving DecidableEq

def ExecutionControlReason.value : ExecutionControlReason → String
  | withinLimits => "within_limits"
  | softTimeoutExceeded => "soft_timeout_exceeded"
  | hardTimeoutExceeded => "hard_timeout_exceeded"
  | deadlineExceeded => "deadline_exceeded"
  | gracefulCancellationRequested => "graceful_cancellation_requested"
  | forceCancellationRequested => "force_cancellation_requested"
  | cancellationGracePeriodExceeded => "cancellation_grace_period_exceeded"
  | executionAlreadyTerminal => "execution_already_terminal"

structure ExecutionControlDecision where
  decisionId : String
  policyId : String
  executionId : String
  decision : ExecutionControlDecisionType
  reason : ExecutionControlReason
  elapsedSeconds : ℚ
  remainingSoftSeconds : Option ℚ
  remainingHardSeconds : Option ℚ
  remainingDeadlineSeconds : Option ℚ
  cancellationGraceRemainingSeconds : Option ℚ
  shouldStop : Bool
  summary : String
  metadata : List (String × String)
  deriving DecidableEq

/-- The constraint of `elapsed_seconds`, and `validate_decision`. -/
def ExecutionControlDecision.validate (decision : ExecutionControlDecision) :
    Except Raised Unit := do
  raiseIf (decision.elapsedSeconds < 0)
    ⟨.validationError, "elapsed_seconds: Input should be greater than or equal to 0"⟩
  requireTexts [("decision_id", decision.decisionId), ("policy_id", decision.policyId),
    ("execution_id", decision.executionId), ("summary", decision.summary)]
  raiseIf (decision.shouldStop ≠ decision.decision.isStopping)
    ⟨.validationError, "should_stop must match the decision type"⟩

def ExecutionControlEvaluatorError (message : String) : Raised :=
  ⟨.external "ExecutionControlEvaluatorError" .runtimeOrValueError, message⟩

/-- `(later - earlier).total_seconds()` -/
def totalSeconds (earlier later : Datetime) : ℚ := (later.instant - earlier.instant) / 1000000

def elapsedSeconds (snapshot : ExecutionRuntimeSnapshot) (now : Datetime) : ℚ :=
  max 0 (totalSeconds (snapshot.startedAt.getD snapshot.createdAt) (snapshot.finishedAt.getD now))

variable (policy : TimeoutPolicy) (decisionId : String) (snapshot : ExecutionRuntimeSnapshot)
  (now : Datetime)

/-- `_decision`, when the factory returns `decisionId`. -/
def buildDecision (decision : ExecutionControlDecisionType) (reason : ExecutionControlReason)
    (shouldStop : Bool) : Except Raised ExecutionControlDecision := do
  raiseIf (isBlank decisionId)
    (ExecutionControlEvaluatorError "decision_id factory returned blank value")
  let elapsed := elapsedSeconds snapshot now
  let result : ExecutionControlDecision := {
    decisionId := decisionId
    policyId := policy.policyId
    executionId := snapshot.executionId
    decision := decision
    reason := reason
    elapsedSeconds := elapsed
    remainingSoftSeconds := policy.softTimeoutSeconds.map (· - elapsed)
    remainingHardSeconds := policy.hardTimeoutSeconds.map (· - elapsed)
    remainingDeadlineSeconds := snapshot.deadlineAt.map (totalSeconds now)
    cancellationGraceRemainingSeconds := snapshot.cancellationRequest.map fun cancellation =>
      policy.cancellationGracePeriodSeconds - totalSeconds cancellation.requestedAt now
    shouldStop := shouldStop
    summary := "Execution control completed with decision " ++ decision.value ++ " because " ++
      reason.value ++ "."
    metadata := [("subject_id", snapshot.subjectId),
      ("subject_type", snapshot.subjectType.value),
      ("execution_status", snapshot.status.value)] }
  result.validate
  return result

/-- The part of `evaluate` behind the checks of a cancellation request. -/
def evaluateLimits : Except Raised ExecutionControlDecision :=
  let elapsed := elapsedSeconds snapshot now
  if ∃ deadline ∈ snapshot.deadlineAt, deadline ≤ now then
    buildDecision policy decisionId snapshot now .timeout .deadlineExceeded true
  else if (∃ limit ∈ policy.hardTimeoutSeconds, limit ≤ elapsed) ∧
      policy.cancelOnHardTimeout = true then
    buildDecision policy decisionId snapshot now .timeout .hardTimeoutExceeded true
  else if (∃ limit ∈ policy.softTimeoutSeconds, limit ≤ elapsed) ∧
      policy.warnOnSoftTimeout = true then
    buildDecision policy decisionId snapshot now .warn .softTimeoutExceeded false
  else buildDecision policy decisionId snapshot now .continue .withinLimits false

def evaluate : Except Raised ExecutionControlDecision := do
  raiseIf (now.isNaive = true) (ExecutionControlEvaluatorError "now must be timezone-aware")
  raiseIf (snapshot.subjectType ≠ policy.subjectType)
    (ExecutionControlEvaluatorError "snapshot subject_type must match timeout policy")
  if snapshot.status.isTerminal = true then
    buildDecision policy decisionId snapshot now .terminal .executionAlreadyTerminal true
  else do
    raiseIf (∃ started ∈ snapshot.startedAt, now < started)
      (ExecutionControlEvaluatorError "now must not precede started_at")
    match snapshot.cancellationRequest with
    | none => evaluateLimits policy decisionId snapshot now
    | some cancellation => do
      raiseIf (now < cancellation.requestedAt)
        (ExecutionControlEvaluatorError "now must not precede cancellation request")
      if cancellation.mode = .force then
        buildDecision policy decisionId snapshot now .forceCancel .forceCancellationRequested true
      else if policy.cancellationGracePeriodSeconds ≤
          totalSeconds cancellation.requestedAt now then
        buildDecision policy decisionId snapshot now .forceCancel
          .cancellationGracePeriodExceeded true
      else
        buildDecision policy decisionId snapshot now .requestCancellation
          .gracefulCancellationRequested false

end AgenticLab.ExecutionControlEvaluator
