import AgenticLab.Model.Application.Values
import Mathlib.Data.List.Dedup
import Mathlib.Data.List.Sort

/-! # Regression comparison of evaluation results

`RegressionEvaluationRunner` of `app/evals/regression_evaluation_runner.py`, with what it compares of
`app/evals/evaluation_result.py`. Scores and tolerances are exact rationals. -/

namespace AgenticLab.RegressionEvaluation

/-! ## Evaluation results -/

inductive EvaluationDimension where
  | relevance
  | completeness
  | correctness
  | sourceQuality
  | evidenceGrounding
  | claimSupport
  | citationCorrectness
  | logicalConsistency
  | clarity
  | limitationsDisclosure
  deriving DecidableEq, Repr

def EvaluationDimension.value : EvaluationDimension → String
  | .relevance => "relevance"
  | .completeness => "completeness"
  | .correctness => "correctness"
  | .sourceQuality => "source_quality"
  | .evidenceGrounding => "evidence_grounding"
  | .claimSupport => "claim_support"
  | .citationCorrectness => "citation_correctness"
  | .logicalConsistency => "logical_consistency"
  | .clarity => "clarity"
  | .limitationsDisclosure => "limitations_disclosure"

inductive EvaluationResultStatus where
  | passed
  | failed
  /-- `PARTIAL` -/
  | partly
  | error
  | skipped
  deriving DecidableEq, Repr

def EvaluationResultStatus.value : EvaluationResultStatus → String
  | .passed => "passed"
  | .failed => "failed"
  | .partly => "partial"
  | .error => "error"
  | .skipped => "skipped"

/-- A score with what the validation of a result and the comparison read of it. -/
structure EvaluationDimensionScore where
  dimension : EvaluationDimension
  score : ℚ
  required : Bool
  passed : Bool
  score_range : 0 ≤ score ∧ score ≤ 1
  deriving DecidableEq

structure EvaluationViolation where
  violationId : String
  code : String
  blocking : Bool
  deriving DecidableEq

/-- The counters that are compared. -/
structure EvaluationExecutionMetrics where
  toolCallCount : ℕ
  inputTokenCount : ℕ
  outputTokenCount : ℕ
  deriving DecidableEq

def EvaluationExecutionMetrics.totalTokenCount (metrics : EvaluationExecutionMetrics) : ℕ :=
  metrics.inputTokenCount + metrics.outputTokenCount

structure EvaluationError where
  code : String
  message : String
  deriving DecidableEq

/-- The fields of `EvaluationCaseResult`. Of the findings only the identifiers are read. -/
structure CaseResultFields where
  resultId : String
  runId : String
  datasetId : String
  datasetVersion : String
  caseId : String
  requestId : String
  workspaceId : String
  executionId : String
  status : EvaluationResultStatus
  overallScore : Option ℚ
  dimensionScores : List EvaluationDimensionScore
  findingIds : List String
  violations : List EvaluationViolation
  metrics : EvaluationExecutionMetrics
  summary : String
  error : Option EvaluationError
  metadata : List (String × String)

namespace CaseResultFields

variable (casefold : Casefold) (result : CaseResultFields)

def blockingViolations : List EvaluationViolation := result.violations.filter (·.blocking)

def validateUniqueIds (values : List String) (fieldName : String) : Except Raised Unit :=
  raiseIf (¬(values.map (normalizeId casefold)).Nodup)
    ⟨.validationError, fieldName ++ " must not contain duplicates"⟩

def validateStatus : Except Raised Unit := do
  raiseIf (result.status = .passed ∧ result.blockingViolations ≠ [])
    ⟨.validationError, "passed result must not contain blocking violations"⟩
  if result.status ∈ [.passed, .failed, .partly] then
    raiseIf (result.overallScore = none)
      ⟨.validationError, "scored result must include overall_score"⟩
    raiseIf (result.error ≠ none) ⟨.validationError, "scored result must not include error"⟩
  if result.status = .error then
    raiseIf (result.error = none) ⟨.validationError, "error result must include error"⟩
    raiseIf (result.overallScore ≠ none)
      ⟨.validationError, "error result must not include overall_score"⟩
  if result.status = .skipped then
    raiseIf (result.error ≠ none) ⟨.validationError, "skipped result must not include error"⟩
    raiseIf (result.overallScore ≠ none)
      ⟨.validationError, "skipped result must not include overall_score"⟩
  raiseIf (result.status = .passed ∧
      result.dimensionScores.any fun score => score.required && !score.passed)
    ⟨.validationError, "passed result must not contain failed required dimension scores"⟩

/-- `validate_result`, ahead of it the range of `overall_score`. -/
def validateResult : Except Raised Unit := do
  raiseIf (¬∀ score ∈ result.overallScore, 0 ≤ score ∧ score ≤ 1)
    ⟨.validationError, "overall_score is out of range"⟩
  requireTexts [("result_id", result.resultId), ("run_id", result.runId),
    ("dataset_id", result.datasetId), ("dataset_version", result.datasetVersion),
    ("case_id", result.caseId), ("request_id", result.requestId),
    ("workspace_id", result.workspaceId), ("execution_id", result.executionId),
    ("summary", result.summary)]
  validateUniqueIds casefold (result.dimensionScores.map (·.dimension.value))
    "dimension score dimensions"
  validateUniqueIds casefold result.findingIds "finding IDs"
  validateUniqueIds casefold (result.violations.map (·.violationId)) "violation IDs"
  result.validateStatus
  validateMetadata result.metadata

end CaseResultFields

/-- A result that has passed its validator. -/
structure EvaluationCaseResult (casefold : Casefold) extends CaseResultFields where
  valid : toCaseResultFields.validateResult casefold = .ok ()

/-! ## Changes -/

inductive RegressionChangeType where
  | statusRegression
  | statusImprovement
  | overallScoreRegression
  | overallScoreImprovement
  | dimensionRegression
  | dimensionImprovement
  | newBlockingViolation
  | resolvedBlockingViolation
  | tokenUsageIncrease
  | tokenUsageDecrease
  | toolCallIncrease
  | toolCallDecrease
  deriving DecidableEq, Repr

inductive RegressionSeverity where
  | info
  | warning
  | error
  | critical
  deriving DecidableEq, Repr

/-- `float | int | str` -/
inductive ChangeValue where
  | score (value : ℚ)
  | count (value : ℕ)
  | text (value : String)
  deriving DecidableEq

/-- The arguments of `_change` without the index. -/
structure ChangeContent where
  changeType : RegressionChangeType
  severity : RegressionSeverity
  message : String
  regression : Bool
  dimension : Option EvaluationDimension
  baselineValue : ChangeValue
  currentValue : ChangeValue
  deriving DecidableEq

structure RegressionChange extends ChangeContent where
  changeId : String
  deriving DecidableEq

structure RegressionEvaluationResult where
  comparisonId : String
  datasetId : String
  datasetVersion : String
  caseId : String
  baselineResultId : String
  currentResultId : String
  regressionDetected : Bool
  changes : List RegressionChange
  regressionCount : ℕ
  improvementCount : ℕ
  baselineOverallScore : Option ℚ
  currentOverallScore : Option ℚ
  summary : String

def RegressionEvaluationResult.passed (result : RegressionEvaluationResult) : Bool :=
  !result.regressionDetected

/-! ## The runner -/

/-- A runner whose tolerances its constructor has checked. -/
structure RegressionEvaluationRunner where
  overallScoreTolerance : ℚ
  dimensionScoreTolerance : ℚ
  tokenIncreaseTolerance : ℚ
  toolCallIncreaseTolerance : ℚ
  comparisonId : String
  changeIdFactory : ℕ → String
  overallScoreTolerance_nonneg : 0 ≤ overallScoreTolerance
  dimensionScoreTolerance_nonneg : 0 ≤ dimensionScoreTolerance
  tokenIncreaseTolerance_nonneg : 0 ≤ tokenIncreaseTolerance
  toolCallIncreaseTolerance_nonneg : 0 ≤ toolCallIncreaseTolerance

namespace RegressionEvaluationRunner

variable (runner : RegressionEvaluationRunner) (baseline current : CaseResultFields)

/-- `_new_identifier` and `_new_indexed_identifier` on the value of the factory. -/
def newIdentifier (value fieldName : String) : Except Raised String := do
  raiseIf (isBlank value)
    ⟨.regressionEvaluationRunnerError, fieldName ++ " factory returned blank value"⟩
  return value

def validateContext : List (String × (CaseResultFields → String)) → Except Raised Unit
  | [] => .ok ()
  | (fieldName, field) :: fields => do
      raiseIf (field baseline ≠ field current)
        ⟨.regressionEvaluationRunnerError, "baseline and current results must share " ++ fieldName⟩
      validateContext fields

def contextFields : List (String × (CaseResultFields → String)) :=
  [("dataset_id", (·.datasetId)), ("dataset_version", (·.datasetVersion)), ("case_id", (·.caseId)),
    ("request_id", (·.requestId)), ("workspace_id", (·.workspaceId))]

/-- `changes.append(self._change(index=len(changes) + 1, ...))` -/
def appendChange (changes : List RegressionChange) (content : ChangeContent) :
    Except Raised (List RegressionChange) := do
  let changeId ← newIdentifier (runner.changeIdFactory (changes.length + 1)) "change_id"
  return changes ++ [{ content with changeId := changeId }]

def appendChange? (changes : List RegressionChange) :
    Option ChangeContent → Except Raised (List RegressionChange)
  | none => .ok changes
  | some content => runner.appendChange changes content

/-- `for value in values: body` -/
def forEach {α : Type} (body : α → List RegressionChange → Except Raised (List RegressionChange)) :
    List α → List RegressionChange → Except Raised (List RegressionChange)
  | [], changes => .ok changes
  | value :: values, changes => do forEach body values (← body value changes)

/-- The branches of `_compare_status`. -/
def statusChange : Option ChangeContent :=
  if baseline.status = .passed ∧ current.status ≠ .passed then
    some {
      changeType := .statusRegression
      severity := .critical
      message := "Evaluation status regressed from " ++ baseline.status.value ++ " to " ++
        current.status.value ++ "."
      regression := true
      dimension := none
      baselineValue := .text baseline.status.value
      currentValue := .text current.status.value }
  else if baseline.status ≠ .passed ∧ current.status = .passed then
    some {
      changeType := .statusImprovement
      severity := .info
      message := "Evaluation status improved from " ++ baseline.status.value ++ " to " ++
        current.status.value ++ "."
      regression := false
      dimension := none
      baselineValue := .text baseline.status.value
      currentValue := .text current.status.value }
  else none

def compareStatus (changes : List RegressionChange) : Except Raised (List RegressionChange) :=
  runner.appendChange? changes (statusChange baseline current)

/-- The branches of `_compare_overall_score`. -/
def overallScoreChange : Option ChangeContent :=
  match baseline.overallScore, current.overallScore with
  | some baselineScore, some currentScore =>
    if currentScore - baselineScore < -runner.overallScoreTolerance then
      some {
        changeType := .overallScoreRegression
        severity := .error
        message := "Overall evaluation score decreased beyond the configured tolerance."
        regression := true
        dimension := none
        baselineValue := .score baselineScore
        currentValue := .score currentScore }
    else if currentScore - baselineScore > runner.overallScoreTolerance then
      some {
        changeType := .overallScoreImprovement
        severity := .info
        message := "Overall evaluation score improved beyond the configured tolerance."
        regression := false
        dimension := none
        baselineValue := .score baselineScore
        currentValue := .score currentScore }
    else none
  | _, _ => none

def compareOverallScore (changes : List RegressionChange) :
    Except Raised (List RegressionChange) :=
  runner.appendChange? changes (runner.overallScoreChange baseline current)

/-- `{score.dimension: score.score for score in result.dimension_scores}` at a dimension -/
def scoreOf (result : CaseResultFields) (dimension : EvaluationDimension) : Option ℚ :=
  (result.dimensionScores.reverse.find? fun score => score.dimension = dimension).map (·.score)

/-- The dimensions that both results have, in the order of their values. -/
def sharedDimensions : List EvaluationDimension :=
  ((baseline.dimensionScores.map (·.dimension)).dedup.filter fun dimension =>
    dimension ∈ current.dimensionScores.map (·.dimension)).insertionSort
    fun first second => first.value ≤ second.value

/-- The branches in the loop of `_compare_dimensions`. -/
def dimensionChange (dimension : EvaluationDimension) : Option ChangeContent :=
  match scoreOf baseline dimension, scoreOf current dimension with
  | some baselineScore, some currentScore =>
    if currentScore - baselineScore < -runner.dimensionScoreTolerance then
      some {
        changeType := .dimensionRegression
        severity := .error
        message := "Evaluation dimension score decreased: " ++ dimension.value ++ "."
        regression := true
        dimension := some dimension
        baselineValue := .score baselineScore
        currentValue := .score currentScore }
    else if currentScore - baselineScore > runner.dimensionScoreTolerance then
      some {
        changeType := .dimensionImprovement
        severity := .info
        message := "Evaluation dimension score improved: " ++ dimension.value ++ "."
        regression := false
        dimension := some dimension
        baselineValue := .score baselineScore
        currentValue := .score currentScore }
    else none
  | _, _ => none

def compareDimensions (changes : List RegressionChange) : Except Raised (List RegressionChange) :=
  forEach (fun dimension changes =>
      runner.appendChange? changes (runner.dimensionChange baseline current dimension))
    (sharedDimensions baseline current) changes

/-- `sorted(left - right)` on the codes of the blocking violations -/
def codesWithout (left right : CaseResultFields) : List String :=
  ((left.blockingViolations.map (·.code)).dedup.filter fun code =>
    code ∉ right.blockingViolations.map (·.code)).insertionSort (· ≤ ·)

def newViolationChange (code : String) : ChangeContent where
  changeType := .newBlockingViolation
  severity := .critical
  message := "A new blocking violation appeared: " ++ code ++ "."
  regression := true
  dimension := none
  baselineValue := .text "absent"
  currentValue := .text code

def resolvedViolationChange (code : String) : ChangeContent where
  changeType := .resolvedBlockingViolation
  severity := .info
  message := "A blocking violation was resolved: " ++ code ++ "."
  regression := false
  dimension := none
  baselineValue := .text code
  currentValue := .text "absent"

def compareBlockingViolations (changes : List RegressionChange) :
    Except Raised (List RegressionChange) := do
  let changes ← forEach (fun code changes => runner.appendChange changes (newViolationChange code))
    (codesWithout current baseline) changes
  forEach (fun code changes => runner.appendChange changes (resolvedViolationChange code))
    (codesWithout baseline current) changes

/-- The branches of `_compare_count_metric`. -/
def countMetricChange (baselineValue currentValue : ℕ) (increaseTolerance : ℚ)
    (increaseType decreaseType : RegressionChangeType) (label : String) : Option ChangeContent :=
  if baselineValue = 0 then
    if 0 < currentValue then
      some {
        changeType := increaseType
        severity := .warning
        message := label ++ " increased from zero."
        regression := false
        dimension := none
        baselineValue := .count baselineValue
        currentValue := .count currentValue }
    else none
  else
    let ratio : ℚ := ((currentValue : ℚ) - baselineValue) / baselineValue
    if ratio > increaseTolerance then
      some {
        changeType := increaseType
        severity := .warning
        message := label ++ " increased beyond the configured tolerance."
        regression := false
        dimension := none
        baselineValue := .count baselineValue
        currentValue := .count currentValue }
    else if ratio < -increaseTolerance then
      some {
        changeType := decreaseType
        severity := .info
        message := label ++ " decreased beyond the configured tolerance."
        regression := false
        dimension := none
        baselineValue := .count baselineValue
        currentValue := .count currentValue }
    else none

def tokenUsageChange : Option ChangeContent :=
  countMetricChange baseline.metrics.totalTokenCount current.metrics.totalTokenCount
    runner.tokenIncreaseTolerance .tokenUsageIncrease .tokenUsageDecrease "Token usage"

def toolCallChange : Option ChangeContent :=
  countMetricChange baseline.metrics.toolCallCount current.metrics.toolCallCount
    runner.toolCallIncreaseTolerance .toolCallIncrease .toolCallDecrease "Tool-call count"

def compareEfficiency (changes : List RegressionChange) :
    Except Raised (List RegressionChange) := do
  let changes ← runner.appendChange? changes (runner.tokenUsageChange baseline current)
  runner.appendChange? changes (runner.toolCallChange baseline current)

/-- The calls of `compare` that fill `changes`. -/
def collectChanges : Except Raised (List RegressionChange) := do
  let changes ← runner.compareStatus baseline current []
  let changes ← runner.compareOverallScore baseline current changes
  let changes ← runner.compareDimensions baseline current changes
  let changes ← runner.compareBlockingViolations baseline current changes
  runner.compareEfficiency baseline current changes

def improvementTypes : List RegressionChangeType :=
  [.statusImprovement, .overallScoreImprovement, .dimensionImprovement,
    .resolvedBlockingViolation, .tokenUsageDecrease, .toolCallDecrease]

def compare : Except Raised RegressionEvaluationResult := do
  validateContext baseline current contextFields
  let changes ← runner.collectChanges baseline current
  let regressionCount := changes.countP (·.regression)
  let improvementCount := changes.countP fun change =>
    !change.regression && decide (change.changeType ∈ improvementTypes)
  let comparisonId ← newIdentifier runner.comparisonId "comparison_id"
  return {
    comparisonId := comparisonId
    datasetId := baseline.datasetId
    datasetVersion := baseline.datasetVersion
    caseId := baseline.caseId
    baselineResultId := baseline.resultId
    currentResultId := current.resultId
    regressionDetected := decide (0 < regressionCount)
    changes := changes
    regressionCount := regressionCount
    improvementCount := improvementCount
    baselineOverallScore := baseline.overallScore
    currentOverallScore := current.overallScore
    summary := "Regression comparison completed with " ++ toString regressionCount ++
      " regressions and " ++ toString improvementCount ++ " improvements." }

end RegressionEvaluationRunner

end AgenticLab.RegressionEvaluation
