import AgenticLab.Model.Fields
import AgenticLab.Model.Application.Values

/-! # Retry decisions

`app/guardrails/retry_policy_evaluator.py` with `app/guardrails/retry_policy.py` and
`app/guardrails/retry_decision.py`. The floats of a policy and of a failure are finite, and what is
computed from them is exact up to the range of a double. -/

namespace AgenticLab

inductive RetryFailureCategory where
  | timeout
  | rateLimit
  | network
  | toolTemporary
  | serviceUnavailable
  | validation
  | permission
  | policy
  | authentication
  | notFound
  | conflict
  | internal
  | cancelled
  | unknown
  deriving DecidableEq

def RetryFailureCategory.value : RetryFailureCategory → String
  | timeout => "timeout"
  | rateLimit => "rate_limit"
  | network => "network"
  | toolTemporary => "tool_temporary"
  | serviceUnavailable => "service_unavailable"
  | validation => "validation"
  | permission => "permission"
  | policy => "policy"
  | authentication => "authentication"
  | notFound => "not_found"
  | conflict => "conflict"
  | internal => "internal"
  | cancelled => "cancelled"
  | unknown => "unknown"

inductive RetryBackoffStrategy where
  | fixed
  | linear
  | exponential
  deriving DecidableEq

def RetryBackoffStrategy.value : RetryBackoffStrategy → String
  | fixed => "fixed"
  | linear => "linear"
  | exponential => "exponential"

inductive RetryJitterStrategy where
  | none
  | full
  | equal
  deriving DecidableEq

def RetryJitterStrategy.value : RetryJitterStrategy → String
  | none => "none"
  | full => "full"
  | equal => "equal"

def doubleLimit : ℚ := 2 ^ 1024 - 2 ^ 970

/-- The fields that the evaluator reads. -/
structure RetryPolicy (casefold : Casefold) where
  policyId : String
  maximumAttempts : PositiveInt
  baseDelaySeconds : ℚ
  maximumDelaySeconds : ℚ
  backoffStrategy : RetryBackoffStrategy
  multiplier : ℚ
  jitterStrategy : RetryJitterStrategy
  allowedCategories : List RetryFailureCategory
  deniedCategories : List RetryFailureCategory
  allowedErrorCodes : List String
  deniedErrorCodes : List String
  respectRetryAfter : Bool
  retryAfterMaxSeconds : Option ℚ
  policyId_isBlank : isBlank policyId = false
  base_nonneg : 0 ≤ baseDelaySeconds
  base_le_maximum : baseDelaySeconds ≤ maximumDelaySeconds
  maximum_lt : maximumDelaySeconds < doubleLimit
  multiplier_ge : 1 ≤ multiplier
  categories_nodup : allowedCategories.Nodup ∧ deniedCategories.Nodup
  categories_disjoint : allowedCategories.Disjoint deniedCategories
  codes_isBlank : ∀ code ∈ allowedErrorCodes ++ deniedErrorCodes, isBlank code = false
  codes_nodup : ((allowedErrorCodes ++ deniedErrorCodes).map (normalizeId casefold)).Nodup
  retryAfterMax_nonneg : ∀ limit ∈ retryAfterMaxSeconds, 0 ≤ limit
  retryAfterMax_respects : retryAfterMaxSeconds ≠ none → respectRetryAfter = true

structure RetryFailureContext where
  failureId : String
  category : RetryFailureCategory
  errorCode : String
  retryable : Bool
  attemptNumber : PositiveInt
  retryAfterSeconds : Option ℚ
  failureId_isBlank : isBlank failureId = false
  errorCode_isBlank : isBlank errorCode = false
  retryAfter_nonneg : ∀ seconds ∈ retryAfterSeconds, 0 ≤ seconds

inductive RetryStopReason where
  | none
  | failureNotRetryable
  | categoryDenied
  | categoryNotAllowed
  | errorCodeDenied
  | errorCodeNotAllowed
  | maximumAttemptsReached
  deriving DecidableEq

def RetryStopReason.value : RetryStopReason → String
  | none => "none"
  | failureNotRetryable => "failure_not_retryable"
  | categoryDenied => "category_denied"
  | categoryNotAllowed => "category_not_allowed"
  | errorCodeDenied => "error_code_denied"
  | errorCodeNotAllowed => "error_code_not_allowed"
  | maximumAttemptsReached => "maximum_attempts_reached"

namespace RetryPolicyEvaluator

inductive RetryDecisionType where
  | retry
  | stop
  deriving DecidableEq

structure RetryDecision where
  decisionId : String
  policyId : String
  failureId : String
  decision : RetryDecisionType
  stopReason : RetryStopReason
  currentAttempt : PositiveInt
  nextAttempt : Option ℕ
  delaySeconds : Option ℚ
  usedRetryAfter : Bool
  summary : String
  metadata : List (String × String)
  deriving DecidableEq

/-- The constraints of the fields, and `validate_decision`. -/
def RetryDecision.validate (decision : RetryDecision) : Except Raised Unit := do
  raiseIf (∃ attempt ∈ decision.nextAttempt, attempt < 2)
    ⟨.validationError, "next_attempt: Input should be greater than or equal to 2"⟩
  raiseIf (∃ delay ∈ decision.delaySeconds, delay < 0)
    ⟨.validationError, "delay_seconds: Input should be greater than or equal to 0"⟩
  requireTexts [("decision_id", decision.decisionId), ("policy_id", decision.policyId),
    ("failure_id", decision.failureId), ("summary", decision.summary)]
  match decision.decision with
  | .retry => do
    raiseIf (decision.stopReason ≠ .none)
      ⟨.validationError, "retry decision must not include stop_reason"⟩
    raiseIf (decision.nextAttempt = none)
      ⟨.validationError, "retry decision must include next_attempt"⟩
    raiseIf (decision.nextAttempt ≠ some (decision.currentAttempt.val + 1))
      ⟨.validationError, "next_attempt must equal current_attempt + 1"⟩
    raiseIf (decision.delaySeconds = none)
      ⟨.validationError, "retry decision must include delay_seconds"⟩
  | .stop => do
    raiseIf (decision.stopReason = .none)
      ⟨.validationError, "stop decision must include stop_reason"⟩
    raiseIf (decision.nextAttempt ≠ none)
      ⟨.validationError, "stop decision must not include next_attempt"⟩
    raiseIf (decision.delaySeconds ≠ none)
      ⟨.validationError, "stop decision must not include delay_seconds"⟩
    raiseIf (decision.usedRetryAfter = true)
      ⟨.validationError, "stop decision must not use retry_after"⟩

def RetryPolicyEvaluatorError (message : String) : Raised :=
  ⟨.external "RetryPolicyEvaluatorError" .runtimeOrValueError, message⟩

/-- `float(value)` -/
def toFloat (value : ℕ) : Except Raised ℚ := do
  raiseIf (doubleLimit ≤ value) ⟨.overflowError, "int too large to convert to float"⟩
  return value

/-- `base ** float(exponent)` -/
def power (base : ℚ) (exponent : ℕ) : Except Raised ℚ := do
  let _ ← toFloat exponent
  raiseIf (doubleLimit ≤ base ^ exponent) ⟨.overflowError, "Numerical result out of range"⟩
  return base ^ exponent

/-- `first * second`, or nothing where it is `inf`. -/
def product (first second : ℚ) : Option ℚ :=
  if doubleLimit ≤ first * second then none else some (first * second)

/-- `f"{value}"` -/
def intText (value : ℕ) : Except Raised String := do
  raiseIf (10 ^ maxStrDigits ≤ value)
    ⟨.valueError, "Exceeds the limit (4300 digits) for integer string conversion"⟩
  return toString value

/-- `f"{value:.4f}"` -/
def fourPlaces (value : ℚ) : String :=
  let scaled := (Datetime.roundHalfEven (value * 10000)).toNat
  toString (scaled / 10000) ++ "." ++ String.ofList (fourDigits scaled)

/-! ## The evaluator -/

variable {casefold : Casefold} (policy : RetryPolicy casefold)

def stopReason (failure : RetryFailureContext) : RetryStopReason :=
  let code := normalizeId casefold failure.errorCode
  if failure.retryable = false then .failureNotRetryable
  else if policy.maximumAttempts.val ≤ failure.attemptNumber.val then .maximumAttemptsReached
  else if failure.category ∈ policy.deniedCategories then .categoryDenied
  else if policy.allowedCategories ≠ [] ∧ failure.category ∉ policy.allowedCategories then
    .categoryNotAllowed
  else if code ∈ policy.deniedErrorCodes.map (normalizeId casefold) then .errorCodeDenied
  else if policy.allowedErrorCodes ≠ [] ∧
      code ∉ policy.allowedErrorCodes.map (normalizeId casefold) then .errorCodeNotAllowed
  else .none

/-- Nothing stands for `inf`. -/
def baseBackoffDelay (attemptNumber : ℕ) : Except Raised (Option ℚ) :=
  match policy.backoffStrategy with
  | .fixed => .ok (some policy.baseDelaySeconds)
  | .linear => do return product policy.baseDelaySeconds (← toFloat attemptNumber)
  | .exponential => do
    return product policy.baseDelaySeconds (← power policy.multiplier (attemptNumber - 1))

/-- `min(delay, maximum_delay_seconds)` -/
def capped (delay : Option ℚ) : ℚ :=
  delay.elim policy.maximumDelaySeconds (min · policy.maximumDelaySeconds)

/-- `_apply_jitter`, when the factory returns `fraction`. -/
def applyJitter (fraction delay : ℚ) : Except Raised ℚ :=
  if policy.jitterStrategy = .none then .ok delay
  else do
    raiseIf (¬(0 ≤ fraction ∧ fraction ≤ 1)) (RetryPolicyEvaluatorError
      "random_fraction_factory must return a value between 0 and 1")
    if policy.jitterStrategy = .full then return delay * fraction
    else return delay / 2 + delay / 2 * fraction

def retryAfter (failure : RetryFailureContext) : Option ℚ :=
  if policy.respectRetryAfter = true then failure.retryAfterSeconds else none

def delay (fraction : ℚ) (failure : RetryFailureContext) : Except Raised (ℚ × Bool) :=
  match retryAfter policy failure with
  | some seconds => .ok (policy.retryAfterMaxSeconds.elim seconds (min seconds), true)
  | none => do
    let delay ← baseBackoffDelay policy failure.attemptNumber.val
    return (← applyJitter policy fraction (capped policy delay), false)

/-- `_new_identifier`, when the factory returns `decisionId`. -/
def newIdentifier (decisionId : String) : Except Raised String := do
  raiseIf (isBlank decisionId)
    (RetryPolicyEvaluatorError "decision_id factory returned blank value")
  return decisionId

def stopDecision (decisionId : String) (failure : RetryFailureContext)
    (stopReason : RetryStopReason) : Except Raised RetryDecision := do
  let decision : RetryDecision := {
    decisionId := ← newIdentifier decisionId
    policyId := policy.policyId
    failureId := failure.failureId
    decision := .stop
    stopReason := stopReason
    currentAttempt := failure.attemptNumber
    nextAttempt := none
    delaySeconds := none
    usedRetryAfter := false
    summary := "Retry stopped because " ++ stopReason.value ++ "."
    metadata := [("category", failure.category.value), ("error_code", failure.errorCode)] }
  decision.validate
  return decision

def evaluate (decisionId : String) (fraction : ℚ) (failure : RetryFailureContext) :
    Except Raised RetryDecision :=
  if stopReason policy failure ≠ .none then
    stopDecision policy decisionId failure (stopReason policy failure)
  else do
    let (delay, usedRetryAfter) ← delay policy fraction failure
    let decisionId ← newIdentifier decisionId
    let attempt ← intText (failure.attemptNumber.val + 1)
    let decision : RetryDecision := {
      decisionId := decisionId
      policyId := policy.policyId
      failureId := failure.failureId
      decision := .retry
      stopReason := .none
      currentAttempt := failure.attemptNumber
      nextAttempt := some (failure.attemptNumber.val + 1)
      delaySeconds := some delay
      usedRetryAfter := usedRetryAfter
      summary := "Retry allowed for attempt " ++ attempt ++ " after " ++ fourPlaces delay ++
        " seconds."
      metadata := [("category", failure.category.value), ("error_code", failure.errorCode),
        ("backoff_strategy", policy.backoffStrategy.value),
        ("jitter_strategy", policy.jitterStrategy.value)] }
    decision.validate
    return decision

end RetryPolicyEvaluator

end AgenticLab
