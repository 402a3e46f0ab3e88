import AgenticLab.Model.Application.Values
import Mathlib.Data.Finset.Dedup
import Mathlib.Data.List.Sort
import Mathlib.Data.Prod.Lex
import Mathlib.Data.String.Basic

/-! # Evidence rerankers (`app/research/bounded_cross_source_evidence_reranker.py`,
`app/research/semantic_evidence_reranker.py`, `app/budget.py`) -/

namespace AgenticLab.EvidenceReranking

/-! ## Budgets -/

structure ExecutionBudget where
  maxAttempts : ℕ
  maxRecordedTokens : ℕ
  maxElapsedSeconds : ℚ≥0
  attempts_pos : 1 ≤ maxAttempts
  tokens_pos : 1 ≤ maxRecordedTokens
  seconds_pos : 0 < maxElapsedSeconds

@[ext]
structure BudgetUsage where
  attempts : ℕ
  recordedTokens : ℕ
  elapsedSeconds : ℚ≥0
  deriving DecidableEq

/-- `BudgetUsage()` -/
def BudgetUsage.none : BudgetUsage := ⟨0, 0, 0⟩

def timeBudgetExceededError : Raised := ⟨.timeBudgetExceededError, "Execution time budget exceeded"⟩

def attemptBudgetExceededError : Raised :=
  ⟨.attemptBudgetExceededError, "Execution attempt budget exceeded"⟩

def tokenBudgetExceededError : Raised :=
  ⟨.tokenBudgetExceededError, "Execution token budget exceeded"⟩

/-- The classes that are `ExecutionBudgetError`. -/
def executionBudgetErrors : List ExceptionClass :=
  [.attemptBudgetExceededError, .tokenBudgetExceededError, .timeBudgetExceededError]

def ensureCanStartAttempt (budget : ExecutionBudget) (usage : BudgetUsage) :
    Except Raised Unit := do
  raiseIf (budget.maxAttempts ≤ usage.attempts) attemptBudgetExceededError
  raiseIf (budget.maxRecordedTokens ≤ usage.recordedTokens) tokenBudgetExceededError
  raiseIf (budget.maxElapsedSeconds ≤ usage.elapsedSeconds) timeBudgetExceededError

def ensureWithinBudget (budget : ExecutionBudget) (usage : BudgetUsage) : Except Raised Unit := do
  raiseIf (budget.maxAttempts < usage.attempts) attemptBudgetExceededError
  raiseIf (budget.maxRecordedTokens < usage.recordedTokens) tokenBudgetExceededError
  raiseIf (budget.maxElapsedSeconds < usage.elapsedSeconds) timeBudgetExceededError

def BudgetUsage.record (usage : BudgetUsage) (recordedTokens : ℤ) (elapsedSeconds : ℚ) :
    BudgetUsage :=
  ⟨usage.attempts + 1, usage.recordedTokens + recordedTokens.toNat,
    usage.elapsedSeconds + elapsedSeconds.toNNRat⟩

def recordAttempt (usage : BudgetUsage) (recordedTokens : ℤ) (elapsedSeconds : ℚ) :
    Except Raised BudgetUsage := do
  raiseIf (recordedTokens < 0) ⟨.valueError, "recorded_tokens must not be negative"⟩
  raiseIf (elapsedSeconds < 0) ⟨.valueError, "elapsed_seconds must not be negative"⟩
  return usage.record recordedTokens elapsedSeconds

/-! ## Evaluators -/

inductive EvidenceRelevanceLevel where
  | directlyRelevant
  | partiallyRelevant
  | irrelevant
  deriving DecidableEq

structure EvidenceRelevanceJudgment where
  relevanceLevel : EvidenceRelevanceLevel
  relevanceScore : ℚ
  deriving DecidableEq

structure CallReport where
  responseId : String
  requestId : Option String
  /-- `usage.total_tokens` -/
  usage : Option ℤ
  elapsedSeconds : ℚ

structure EvidenceRelevanceEvaluationResult extends CallReport where
  judgment : EvidenceRelevanceJudgment

structure EvidenceRelevanceBatchEvaluationResult extends CallReport where
  judgments : List (String × EvidenceRelevanceJudgment)

/-- `result.usage.total_tokens if result.usage is not None else 0` -/
def CallReport.recordedTokens (report : CallReport) : ℤ := report.usage.getD 0

/-- `record_attempt` with what a call reports. -/
def recordReport (usage : BudgetUsage) (report : CallReport) : Except Raised BudgetUsage :=
  recordAttempt usage report.recordedTokens report.elapsedSeconds

/-- What a batched call does, with the seconds that pass on `perf_counter`. -/
structure BatchCall where
  seconds : ℚ
  outcome : Except Raised EvidenceRelevanceBatchEvaluationResult

/-- An evaluator, whose single evaluations are numbered as they are called. -/
structure EvidenceRelevanceEvaluator where
  evaluate (call : ℕ) (question objective evidenceExcerpt : String) :
    EvidenceRelevanceEvaluationResult
  evaluateBatch : Option (String → String → List (String × String) → BatchCall)

def batchFallbackErrors : List ExceptionClass :=
  [.external "StructuredResponseIncompleteError" .exception, .structuredResponseParseError,
    .external "StructuredResponseRefusalError" .exception,
    .external "StructuredResponseStatusError" .exception,
    .external "StructuredResponseValidationError" .exception]

/-- `f"{number:03d}"` -/
def paddedNumber (number : ℕ) : String :=
  String.ofList (List.replicate (3 - (Nat.toDigits 10 number).length) '0') ++ toString number

/-- `f"item-{index:03d}"` -/
def itemId (index : ℕ) : String := "item-" ++ paddedNumber index

def itemIds (count : ℕ) : List String := (List.range' 1 count).map itemId

def bucket : Option EvidenceRelevanceJudgment → ℕ
  | none => 2
  | some judgment => match judgment.relevanceLevel with
    | .directlyRelevant => 0
    | .partiallyRelevant => 1
    | .irrelevant => 3

def relevanceScore : Option EvidenceRelevanceJudgment → ℚ
  | none => 0
  | some judgment => judgment.relevanceScore

/-- The variables of the loop over the candidates, with the usages at which the evaluator was
called. -/
structure Sequence (ι : Type) where
  evaluated : List ι
  remaining : List ι
  usage : BudgetUsage
  budgetExhausted : Bool
  starts : List BudgetUsage

section

variable {γ ι : Type} (budget : ExecutionBudget) (evaluator : EvidenceRelevanceEvaluator)
  (question objective : String) (text : γ → String)
  (newItem : γ → EvidenceRelevanceEvaluationResult → Except Raised ι) (unevaluated : γ → ι)
  (ensureAfter : BudgetUsage → Except Raised Unit)

/-- The loop over the candidates from a call on. Behind an evaluation the rerankers differ in what
they ensure. -/
def evaluateEach (call : ℕ) (state : Sequence ι) : List γ → Except Raised (Sequence ι)
  | [] => .ok state
  | candidate :: candidates =>
    match ensureCanStartAttempt budget state.usage with
    | .error _ => .ok { state with
        budgetExhausted := true
        remaining := (candidate :: candidates).map unevaluated }
    | .ok _ => do
        let result := evaluator.evaluate call question objective (text candidate)
        let item ← newItem candidate result
        let usage ← recordReport state.usage result.toCallReport
        let next : Sequence ι := { state with
          evaluated := state.evaluated ++ [item]
          usage := usage
          starts := state.starts ++ [state.usage] }
        match ensureAfter usage with
        | .error _ => .ok { next with
            budgetExhausted := true
            remaining := candidates.map unevaluated }
        | .ok _ => evaluateEach (call + 1) next candidates

end

def Sequence.first (ι : Type) (usage : BudgetUsage) (starts : List BudgetUsage) : Sequence ι :=
  ⟨[], [], usage, false, starts⟩

/-- Whether `except ExecutionBudgetError` sets `budget_exhausted`. -/
def exhausts (outcome : Except Raised Unit) : Bool :=
  match outcome with
  | .error _ => true
  | .ok _ => false

/-- `batch_result.judgments[item_id]` -/
def judgmentOf (result : EvidenceRelevanceBatchEvaluationResult) (itemId : String) :
    Except Raised EvidenceRelevanceJudgment :=
  match result.judgments.lookup itemId with
  | some judgment => .ok judgment
  | none => .error ⟨.keyError, itemId⟩

def batchItems {γ ι : Type} (result : EvidenceRelevanceBatchEvaluationResult)
    (newItem : γ → EvidenceRelevanceEvaluationResult → Except Raised ι) :
    List (String × γ) → Except Raised (List ι)
  | [] => .ok []
  | (itemId, candidate) :: rest => do
      let judgment ← judgmentOf result itemId
      let item ← newItem candidate { result with judgment }
      return item :: (← batchItems result newItem rest)

/-! ## `SemanticEvidenceReranker` -/

structure ParagraphEvidenceCandidate where
  text : String
  lexicalScore : ℚ
  start : ℕ
  stop : ℕ
  deriving DecidableEq

structure SemanticEvidenceShortlistItem where
  candidate : ParagraphEvidenceCandidate
  semanticScore : ℚ
  deriving DecidableEq

structure SemanticEvidenceRerankItem where
  shortlistItem : SemanticEvidenceShortlistItem
  judgment : Option EvidenceRelevanceJudgment
  responseId : Option String
  requestId : Option String

structure SemanticEvidenceRerankResult where
  items : List SemanticEvidenceRerankItem
  usage : BudgetUsage
  budgetExhausted : Bool

namespace SemanticEvidenceReranker

def sortKey (item : SemanticEvidenceRerankItem) : ℕ ×ₗ ℚ ×ₗ ℚ ×ₗ ℚ ×ₗ ℕ ×ₗ ℕ :=
  toLex (bucket item.judgment, toLex (-relevanceScore item.judgment,
    toLex (-item.shortlistItem.semanticScore, toLex (-item.shortlistItem.candidate.lexicalScore,
      toLex (item.shortlistItem.candidate.start, item.shortlistItem.candidate.stop)))))

/-- `sorted(items, key=self._sort_key)` -/
def ordered (items : List SemanticEvidenceRerankItem) : List SemanticEvidenceRerankItem :=
  items.mergeSort fun first second => sortKey first ≤ sortKey second

def evaluated (shortlistItem : SemanticEvidenceShortlistItem)
    (result : EvidenceRelevanceEvaluationResult) : SemanticEvidenceRerankItem :=
  ⟨shortlistItem, some result.judgment, some result.responseId, result.requestId⟩

def unevaluated (shortlistItem : SemanticEvidenceShortlistItem) : SemanticEvidenceRerankItem :=
  ⟨shortlistItem, none, none, none⟩

variable (budget : ExecutionBudget) (evaluator : EvidenceRelevanceEvaluator)
  (question objective : String) (shortlist : List SemanticEvidenceShortlistItem)

def rerankEach (usage : BudgetUsage) (starts : List BudgetUsage) :
    Except Raised (SemanticEvidenceRerankResult × List BudgetUsage) := do
  let state ← evaluateEach budget evaluator question objective (·.candidate.text)
    (fun item result => .ok (evaluated item result)) unevaluated (fun _ => .ok ()) 0
    (.first _ usage starts) shortlist
  return (⟨ordered (state.evaluated ++ state.remaining), state.usage, state.budgetExhausted⟩,
    state.starts)

/-- `rerank`, with the usages at which the evaluator was called. -/
def rerank : Except Raised (SemanticEvidenceRerankResult × List BudgetUsage) := do
  raiseIf (isBlank question) ⟨.valueError, "question must not be blank"⟩
  raiseIf (isBlank objective) ⟨.valueError, "objective must not be blank"⟩
  if shortlist = [] then return (⟨[], .none, false⟩, [])
  match evaluator.evaluateBatch with
  | none => rerankEach budget evaluator question objective shortlist .none []
  | some evaluateBatch =>
    match ensureCanStartAttempt budget .none with
    | .error _ => return (⟨ordered (shortlist.map unevaluated), .none, true⟩, [])
    | .ok _ =>
      let items := (itemIds shortlist.length).zip shortlist
      let call := evaluateBatch question objective
        (items.map fun item => (item.1, item.2.candidate.text))
      match call.outcome with
      | .error failure =>
        if failure.cls ∈ batchFallbackErrors then do
          let usage ← recordAttempt .none 0 (max 0 call.seconds)
          rerankEach budget evaluator question objective shortlist usage [.none]
        else .error failure
      | .ok result => do
          let usage ← recordReport .none result.toCallReport
          let items ← batchItems result (fun item result => .ok (evaluated item result)) items
          return (⟨ordered items, usage, exhausts (ensureWithinBudget budget usage)⟩, [.none])

end SemanticEvidenceReranker

/-! ## `BoundedCrossSourceEvidenceReranker` -/

structure EvidenceRerankingBudget where
  maximumAttempts : ℕ
  maximumRecordedTokens : ℕ
  maximumElapsedSeconds : ℚ≥0
  attempts_range : 1 ≤ maximumAttempts ∧ maximumAttempts ≤ 100
  tokens_range : 1 ≤ maximumRecordedTokens ∧ maximumRecordedTokens ≤ 1000000
  seconds_range : 0 < maximumElapsedSeconds ∧ maximumElapsedSeconds ≤ 3600

structure CrossSourceEvidenceRerankingRequest where
  question : String
  objective : String
  maximumCandidates : ℕ
  budget : EvidenceRerankingBudget
  question_isBlank : isBlank question = false
  objective_isBlank : isBlank objective = false
  candidates_range : 1 ≤ maximumCandidates ∧ maximumCandidates ≤ 50

/-- A match, with the parts that reranking reads. -/
structure HybridRetrievalMatch where
  rank : ℕ
  chunkId : String
  text : String
  deriving DecidableEq

structure HybridRetrievalResponse (casefold : Casefold) where
  topMatches : List HybridRetrievalMatch
  chunkIds_nodup : (topMatches.map fun item => normalizeId casefold item.chunkId).Nodup
  ranks_eq : topMatches.map (·.rank) = List.range' 1 topMatches.length

inductive EvidenceRerankingEvaluationState where
  | evaluated
  | unevaluated
  deriving DecidableEq

structure CrossSourceEvidenceRerankItem where
  hybridMatch : HybridRetrievalMatch
  evaluationState : EvidenceRerankingEvaluationState
  judgment : Option EvidenceRelevanceJudgment
  responseId : Option String
  requestId : Option String
  finalRank : ℕ

structure CrossSourceEvidenceRerankingResult where
  items : List CrossSourceEvidenceRerankItem
  usage : BudgetUsage
  budgetExhausted : Bool
  candidateCount : ℕ
  evaluatedCount : ℕ
  unevaluatedCount : ℕ

namespace BoundedCrossSourceEvidenceReranker

def sortKey (item : CrossSourceEvidenceRerankItem) : ℕ ×ₗ ℚ ×ₗ ℕ ×ₗ String :=
  toLex (bucket item.judgment, toLex (-relevanceScore item.judgment,
    toLex (item.hybridMatch.rank, item.hybridMatch.chunkId)))

/-- `sorted(items, key=cls._sort_key)` -/
def ordered (items : List CrossSourceEvidenceRerankItem) : List CrossSourceEvidenceRerankItem :=
  items.mergeSort fun first second => sortKey first ≤ sortKey second

def invalid (message : String) : Raised := ⟨.validationError, message⟩

/-- `_evaluated`, with what `validate_item` checks. -/
def evaluated (candidate : HybridRetrievalMatch) (result : EvidenceRelevanceEvaluationResult) :
    Except Raised CrossSourceEvidenceRerankItem := do
  raiseIf (isBlank result.responseId) (invalid "evaluated rerank item requires response_id")
  raiseIf (result.requestId.any isBlank) (invalid "request_id must not be blank when provided")
  return ⟨candidate, .evaluated, some result.judgment, some result.responseId, result.requestId, 1⟩

/-- `_unevaluated` for one candidate. -/
def unevaluated (candidate : HybridRetrievalMatch) : CrossSourceEvidenceRerankItem :=
  ⟨candidate, .unevaluated, none, none, none, 1⟩

/-- The budget that `rerank` builds from the request. -/
def executionBudget (budget : EvidenceRerankingBudget) : ExecutionBudget :=
  ⟨budget.maximumAttempts, budget.maximumRecordedTokens, budget.maximumElapsedSeconds,
    budget.attempts_range.1, budget.tokens_range.1, budget.seconds_range.1⟩

def isEvaluated (item : CrossSourceEvidenceRerankItem) : Bool := item.evaluationState = .evaluated

variable (casefold : Casefold) (response : HybridRetrievalResponse casefold)
  (request : CrossSourceEvidenceRerankingRequest)

/-- `chunk_id.casefold()` of a match. -/
def identity (item : HybridRetrievalMatch) : String := casefold item.chunkId

/-- `original[identity]`, where a later match replaces an earlier one. -/
def original (identity' : String) : Option HybridRetrievalMatch :=
  response.topMatches.reverse.find? fun item => identity casefold item = identity'

def validateResult (result : CrossSourceEvidenceRerankingResult) : Except Raised Unit := do
  let itemIds := result.items.map fun item => identity casefold item.hybridMatch
  let expectedEvaluated := result.items.countP isEvaluated
  let ordering := result.items.map sortKey
  raiseIf (result.candidateCount ≠ response.topMatches.length)
    (invalid "candidate_count must match hybrid response")
  raiseIf (request.maximumCandidates < result.candidateCount)
    (invalid "candidate_count must not exceed maximum_candidates")
  raiseIf (result.items.length ≠ result.candidateCount)
    (invalid "rerank items must cover every hybrid candidate")
  raiseIf (¬itemIds.Nodup) (invalid "rerank item chunk IDs must be unique")
  raiseIf (itemIds.toFinset ≠ (response.topMatches.map (identity casefold)).toFinset)
    (invalid "rerank items must preserve the hybrid candidate set")
  raiseIf (¬∀ item ∈ result.items,
      original casefold response (identity casefold item.hybridMatch) = some item.hybridMatch)
    (invalid "rerank item must preserve exact hybrid match")
  raiseIf (result.evaluatedCount ≠ expectedEvaluated)
    (invalid "evaluated_count must match rerank items")
  raiseIf (result.unevaluatedCount ≠ result.candidateCount - expectedEvaluated)
    (invalid "unevaluated_count must match rerank items")
  raiseIf (result.items.map (·.finalRank) ≠ List.range' 1 result.items.length)
    (invalid "final rerank positions must be contiguous from one")
  raiseIf (ordering ≠ ordering.mergeSort fun first second => first ≤ second)
    (invalid "rerank items violate deterministic relevance ordering")
  raiseIf ((request.budget.maximumAttempts < result.usage.attempts ∨
      request.budget.maximumRecordedTokens < result.usage.recordedTokens ∨
      request.budget.maximumElapsedSeconds < result.usage.elapsedSeconds) ∧
      result.budgetExhausted = false)
    (invalid "over-budget usage must mark budget_exhausted")
  raiseIf (result.unevaluatedCount ≠ 0 ∧ result.budgetExhausted = false)
    (invalid "unevaluated candidates require budget_exhausted")

/-- The ranks that `_result` gives to the items in their order. -/
def ranked (items : List CrossSourceEvidenceRerankItem) : List CrossSourceEvidenceRerankItem :=
  ((ordered items).zipIdx 1).map fun item => { item.1 with finalRank := item.2 }

/-- `_result` -/
def newResult (items : List CrossSourceEvidenceRerankItem) (usage : BudgetUsage)
    (budgetExhausted : Bool) : Except Raised CrossSourceEvidenceRerankingResult := do
  let evaluatedCount := (ranked items).countP isEvaluated
  let result : CrossSourceEvidenceRerankingResult :=
    ⟨ranked items, usage, budgetExhausted, response.topMatches.length, evaluatedCount,
      (ranked items).length - evaluatedCount⟩
  validateResult casefold response request result
  return result

variable (evaluator : EvidenceRelevanceEvaluator)

def rerankEach (usage : BudgetUsage) (starts : List BudgetUsage) :
    Except Raised (CrossSourceEvidenceRerankingResult × List BudgetUsage) := do
  let budget := executionBudget request.budget
  let state ← evaluateEach budget evaluator request.question request.objective (·.text)
    evaluated unevaluated (ensureWithinBudget budget) 0 (.first _ usage starts) response.topMatches
  let result ← newResult casefold response request (state.evaluated ++ state.remaining)
    state.usage state.budgetExhausted
  return (result, state.starts)

/-- What the `try` statement around the batched call makes of an answer. -/
def checkedBatch (itemIds : List String)
    (outcome : Except Raised EvidenceRelevanceBatchEvaluationResult) :
    Except Raised EvidenceRelevanceBatchEvaluationResult := do
  let result ← outcome
  raiseIf ((result.judgments.map Prod.fst).toFinset ≠ itemIds.toFinset)
    ⟨.structuredResponseParseError, "batched reranking item IDs did not match candidates"⟩
  return result

/-- `rerank`, with the usages at which the evaluator was called. -/
def rerank : Except Raised (CrossSourceEvidenceRerankingResult × List BudgetUsage) := do
  let candidates := response.topMatches
  raiseIf (request.maximumCandidates < candidates.length)
    ⟨.valueError, "hybrid candidates exceed maximum_candidates"⟩
  if candidates = [] then
    return (← newResult casefold response request [] .none false, [])
  let budget := executionBudget request.budget
  match evaluator.evaluateBatch with
  | none => rerankEach casefold response request evaluator .none []
  | some evaluateBatch =>
    let unevaluatedResult (starts : List BudgetUsage) := do
      let result ← newResult casefold response request (candidates.map unevaluated) .none true
      return (result, starts)
    match ensureCanStartAttempt budget .none with
    | .error _ => unevaluatedResult []
    | .ok _ =>
      let items := (itemIds candidates.length).zip candidates
      let call := evaluateBatch request.question request.objective
        (items.map fun item => (item.1, item.2.text))
      match checkedBatch (itemIds candidates.length) call.outcome with
      | .error failure =>
        if failure.cls ∈ executionBudgetErrors then unevaluatedResult [.none]
        else if failure.cls ∈ batchFallbackErrors then do
          let usage ← recordAttempt .none 0 (max 0 call.seconds)
          rerankEach casefold response request evaluator usage [.none]
        else .error failure
      | .ok result => do
          let usage ← recordReport .none result.toCallReport
          let items ← batchItems result evaluated items
          let reranked ← newResult casefold response request items usage
            (exhausts (ensureWithinBudget budget usage))
          return (reranked, [.none])

end BoundedCrossSourceEvidenceReranker

end AgenticLab.EvidenceReranking
