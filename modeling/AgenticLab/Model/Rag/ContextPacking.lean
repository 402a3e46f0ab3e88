import AgenticLab.Model.Rag.DocumentChunker
import Mathlib.Data.Prod.Lex
import Mathlib.Data.String.Basic

/-! # Packing retrievals into a context

`DeterministicRagContextPacker` of `app/research/deterministic_rag_context_packer.py` with
`app/schemas/rag_context_packing.py`, and `build_rag_context` of `app/rag/context_builder.py` with
`app/schemas/rag_context.py` and `app/schemas/retrieval_result.py`. -/

namespace AgenticLab.RagContextPacking

/-- A value of a `metadata` dictionary. Values that are no texts are only compared. -/
inductive MetadataValue (δ : Type) where
  | text (value : String)
  | other (value : δ)
  deriving DecidableEq

abbrev Metadata (δ : Type) := List (String × MetadataValue δ)

/-- A finite score, as a number and as `:.6f` writes it. -/
structure RetrievalScore where
  value : ℚ
  fixed : String
  deriving DecidableEq

structure RetrievalResult (δ : Type) where
  chunk : DocumentChunk (Metadata δ)
  score : RetrievalScore
  rank : ℕ
  deriving DecidableEq

variable {δ : Type}

structure RetrievalResult.IsValid (result : RetrievalResult δ) : Prop where
  chunk_valid : DocumentChunker.newDocumentChunk result.chunk = .ok result.chunk
  score_ge : -1 ≤ result.score.value
  score_le : result.score.value ≤ 1
  rank_pos : 1 ≤ result.rank

/-! ## The context -/

structure RagCitation where
  citationId : String
  documentId : String
  chunkId : String
  rank : ℕ
  score : RetrievalScore
  startChar : ℕ
  endChar : ℕ
  source : Option String

/-- The fields of the model, then `validate_character_range`. -/
def RagCitation.validate (citation : RagCitation) : Except Raised Unit := do
  raiseIf (citation.citationId.length < 1)
    ⟨.validationError, "citation_id: String should have at least 1 character"⟩
  raiseIf (citation.documentId.length < 1)
    ⟨.validationError, "document_id: String should have at least 1 character"⟩
  raiseIf (citation.chunkId.length < 1)
    ⟨.validationError, "chunk_id: String should have at least 1 character"⟩
  raiseIf (citation.rank < 1) ⟨.validationError, "rank: Input should be greater than or equal to 1"⟩
  raiseIf (citation.score.value < -1)
    ⟨.validationError, "score: Input should be greater than or equal to -1"⟩
  raiseIf (1 < citation.score.value)
    ⟨.validationError, "score: Input should be less than or equal to 1"⟩
  raiseIf (citation.endChar ≤ 0) ⟨.validationError, "end_char: Input should be greater than 0"⟩
  raiseIf (citation.endChar ≤ citation.startChar)
    ⟨.validationError, "citation end_char must be greater than start_char"⟩

structure RagContext where
  contextText : String
  citations : List RagCitation

/-- `validate_context` -/
def RagContext.validate (context : RagContext) : Except Raised Unit := do
  raiseIf (context.citations ≠ [] ∧ isBlank context.contextText = true)
    ⟨.validationError, "RAG context text is required when citations exist"⟩
  raiseIf (context.citations = [] ∧ context.contextText ≠ "")
    ⟨.validationError, "RAG context text must be empty without citations"⟩
  raiseIf (¬(context.citations.map fun citation => citation.citationId).Nodup)
    ⟨.validationError, "RAG citation IDs must be unique"⟩

/-- `metadata.get(key)`, where it is a text that is not blank. -/
def usableText (metadata : Metadata δ) (key : String) : Option String :=
  match metadata.lookup key with
  | some (.text value) => if isBlank value = true then none else some (strip value)
  | _ => none

def sourceFromMetadata (metadata : Metadata δ) : Option String :=
  ["source", "filename", "title"].findSome? (usableText metadata)

def citationId (position : ℕ) : String := "S" ++ toString position

def citationOf (position : ℕ) (result : RetrievalResult δ) : RagCitation where
  citationId := citationId position
  documentId := result.chunk.documentId
  chunkId := result.chunk.chunkId
  rank := result.rank
  score := result.score
  startChar := result.chunk.startChar
  endChar := result.chunk.endChar
  source := sourceFromMetadata result.chunk.metadata

def headerParts (position : ℕ) (result : RetrievalResult δ) : List String :=
  ["[" ++ citationId position ++ "]", "document_id=" ++ result.chunk.documentId,
    "chunk_id=" ++ result.chunk.chunkId, "score=" ++ result.score.fixed] ++
  match sourceFromMetadata result.chunk.metadata with
  | some source => ["source=" ++ source]
  | none => []

def contextBlock (position : ℕ) (result : RetrievalResult δ) : String :=
  "\n".intercalate [" | ".intercalate (headerParts position result), result.chunk.text]

def buildBlocks : ℕ → List (RetrievalResult δ) → Except Raised (List RagCitation × List String)
  | _, [] => .ok ([], [])
  | position, result :: results => do
      (citationOf position result).validate
      let (citations, blocks) ← buildBlocks (position + 1) results
      return (citationOf position result :: citations, contextBlock position result :: blocks)

/-- The order of the keys `(rank, chunk_id)`. -/
def rendersBefore (first second : RetrievalResult δ) : Bool :=
  decide (toLex (first.rank, first.chunk.chunkId) ≤ toLex (second.rank, second.chunk.chunkId))

def buildRagContext (results : List (RetrievalResult δ)) (minimumScore : Option ℚ) :
    Except Raised RagContext := do
  let selected := results.filter fun result =>
    minimumScore.all fun minimum => minimum ≤ result.score.value
  if selected = [] then
    return ⟨"", []⟩
  let (citations, blocks) ← buildBlocks 1 (selected.mergeSort rendersBefore)
  let context : RagContext := ⟨"\n\n".intercalate blocks, citations⟩
  context.validate
  return context

/-! ## Requests and results -/

inductive OmissionReason where
  | itemLimit
  | utf8ByteLimit
  | estimatedTokenLimit
  deriving DecidableEq, Repr

structure PackingBudget where
  maximumItems : ℕ
  maximumUtf8Bytes : ℕ
  maximumEstimatedTokens : ℕ
  tokenEstimatorId : String
  deriving DecidableEq

/-- What the validators of a request have checked. -/
structure PackingRequest (casefold : Casefold) (δ : Type) where
  candidates : List (RetrievalResult δ)
  budget : PackingBudget
  candidates_valid : ∀ candidate ∈ candidates, candidate.IsValid
  length_le : candidates.length ≤ 100
  identities_nodup : (candidates.map fun candidate => casefold candidate.chunk.chunkId).Nodup
  ranks_eq : candidates.map (fun candidate => candidate.rank) = List.range' 1 candidates.length

structure PackedItem (δ : Type) where
  retrieval : RetrievalResult δ
  originalPosition : ℕ
  packedRank : ℕ
  incrementalUtf8Bytes : ℤ
  incrementalEstimatedTokens : ℤ

def PackedItem.validate (item : PackedItem δ) : Except Raised Unit := do
  raiseIf (item.originalPosition < 1)
    ⟨.validationError, "original_position: Input should be greater than or equal to 1"⟩
  raiseIf (item.packedRank < 1)
    ⟨.validationError, "packed_rank: Input should be greater than or equal to 1"⟩
  raiseIf (item.incrementalUtf8Bytes < 1)
    ⟨.validationError, "incremental_utf8_bytes: Input should be greater than or equal to 1"⟩
  raiseIf (item.incrementalEstimatedTokens < 0)
    ⟨.validationError, "incremental_estimated_tokens: Input should be greater than or equal to 0"⟩

structure OmittedItem (δ : Type) where
  retrieval : RetrievalResult δ
  originalPosition : ℕ
  reasons : List OmissionReason

/-- `list(RagContextOmissionReason).index` -/
def OmissionReason.index : OmissionReason → ℕ
  | .itemLimit => 0
  | .utf8ByteLimit => 1
  | .estimatedTokenLimit => 2

/-- The fields of the model, then `validate_reasons`. -/
def OmittedItem.validate (item : OmittedItem δ) : Except Raised Unit := do
  raiseIf (item.originalPosition < 1)
    ⟨.validationError, "original_position: Input should be greater than or equal to 1"⟩
  raiseIf (item.reasons.length < 1)
    ⟨.validationError, "reasons: List should have at least 1 item after validation"⟩
  raiseIf (3 < item.reasons.length)
    ⟨.validationError, "reasons: List should have at most 3 items after validation"⟩
  raiseIf (¬item.reasons.Nodup) ⟨.validationError, "context omission reasons must be unique"⟩
  raiseIf (item.reasons ≠ item.reasons.mergeSort fun first second => first.index ≤ second.index)
    ⟨.validationError, "context omission reasons must use canonical order"⟩

structure PackingUsage where
  candidateCount : ℕ
  includedCount : ℕ
  omittedCount : ℕ
  contextUtf8Bytes : ℤ
  estimatedTokens : ℤ
  deriving DecidableEq

def PackingUsage.validate (usage : PackingUsage) : Except Raised Unit := do
  raiseIf (usage.contextUtf8Bytes < 0)
    ⟨.validationError, "context_utf8_bytes: Input should be greater than or equal to 0"⟩
  raiseIf (usage.estimatedTokens < 0)
    ⟨.validationError, "estimated_tokens: Input should be greater than or equal to 0"⟩

structure PackingResult (casefold : Casefold) (δ : Type) where
  request : PackingRequest casefold δ
  included : List (PackedItem δ)
  omitted : List (OmittedItem δ)
  usage : PackingUsage
  wasTruncated : Bool

namespace PackingResult

variable {casefold : Casefold} (result : PackingResult casefold δ)

def classified : List (ℕ × RetrievalResult δ) :=
  (result.included.map fun item => (item.originalPosition, item.retrieval)) ++
    result.omitted.map fun item => (item.originalPosition, item.retrieval)

/-- The usage that `validate_result` expects. -/
def expectedUsage : PackingUsage where
  candidateCount := result.request.candidates.length
  includedCount := result.included.length
  omittedCount := result.omitted.length
  contextUtf8Bytes := (result.included.map fun item => item.incrementalUtf8Bytes).sum
  estimatedTokens := (result.included.map fun item => item.incrementalEstimatedTokens).sum

/-- `sorted(positions)` -/
def sorted (positions : List ℕ) : List ℕ := positions.mergeSort fun first second => first ≤ second

/-- `validate_result` -/
def validate [DecidableEq δ] : Except Raised Unit := do
  let candidates := result.request.candidates
  let positions := result.classified.map Prod.fst
  raiseIf (¬positions.Nodup)
    ⟨.validationError, "each context candidate must be classified exactly once"⟩
  raiseIf (sorted positions ≠ List.range' 1 candidates.length)
    ⟨.validationError, "included and omitted items must cover every candidate"⟩
  raiseIf (∃ item ∈ result.classified, candidates[item.1 - 1]? ≠ some item.2)
    ⟨.validationError, "classified item must preserve the exact candidate"⟩
  let includedPositions := result.included.map fun item => item.originalPosition
  raiseIf (includedPositions ≠ sorted includedPositions)
    ⟨.validationError, "included items must preserve candidate order"⟩
  let omittedPositions := result.omitted.map fun item => item.originalPosition
  raiseIf (omittedPositions ≠ sorted omittedPositions)
    ⟨.validationError, "omitted items must preserve candidate order"⟩
  raiseIf ((result.included.map fun item => item.packedRank) ≠
      List.range' 1 result.included.length)
    ⟨.validationError, "packed ranks must be contiguous from one"⟩
  result.expectedUsage.validate
  raiseIf (result.usage ≠ result.expectedUsage)
    ⟨.validationError, "context packing usage must match classified items"⟩
  let budget := result.request.budget
  raiseIf (budget.maximumItems < result.usage.includedCount)
    ⟨.validationError, "included context items exceed budget"⟩
  raiseIf (budget.maximumUtf8Bytes < result.usage.contextUtf8Bytes)
    ⟨.validationError, "packed UTF-8 bytes exceed budget"⟩
  raiseIf (budget.maximumEstimatedTokens < result.usage.estimatedTokens)
    ⟨.validationError, "packed estimated tokens exceed budget"⟩
  raiseIf (result.wasTruncated ≠ decide (result.omitted ≠ []))
    ⟨.validationError, "was_truncated must reflect omitted candidates"⟩

end PackingResult

/-! ## The packer -/

structure TokenEstimator where
  estimatorId : String
  estimateTokens : String → ℤ

def conservativeUtf8TokenEstimator : TokenEstimator where
  estimatorId := "conservative-utf8-byte-token-estimate-v1"
  estimateTokens text := text.utf8ByteSize

structure DeterministicRagContextPacker where
  tokenEstimator : TokenEstimator

namespace DeterministicRagContextPacker

variable (packer : DeterministicRagContextPacker)

def estimate (text : String) : Except Raised ℤ := do
  raiseIf (packer.tokenEstimator.estimateTokens text < 0)
    ⟨.valueError, "token estimator must return a nonnegative integer"⟩
  return packer.tokenEstimator.estimateTokens text

def omissionReasons (budget : PackingBudget) (packedRank : ℕ) (utf8Bytes : ℕ) (tokens : ℤ) :
    List OmissionReason :=
  (if budget.maximumItems < packedRank then [.itemLimit] else []) ++
    (if budget.maximumUtf8Bytes < utf8Bytes then [.utf8ByteLimit] else []) ++
    (if (budget.maximumEstimatedTokens : ℤ) < tokens then [.estimatedTokenLimit] else [])

/-- The variables of the loop of `pack`. -/
structure PackState (δ : Type) where
  included : List (PackedItem δ)
  omitted : List (OmittedItem δ)
  packedRetrievals : List (RetrievalResult δ)
  currentBytes : ℤ
  currentTokens : ℤ

def packCandidate (budget : PackingBudget) (position : ℕ) (candidate : RetrievalResult δ)
    (state : PackState δ) : Except Raised (PackState δ) := do
  let packedRank := state.included.length + 1
  let prospectiveRetrieval := { candidate with rank := packedRank }
  let context ← buildRagContext (state.packedRetrievals ++ [prospectiveRetrieval]) none
  let prospectiveBytes := context.contextText.utf8ByteSize
  let prospectiveTokens ← packer.estimate context.contextText
  let reasons := omissionReasons budget packedRank prospectiveBytes prospectiveTokens
  if reasons ≠ [] then
    let item : OmittedItem δ := ⟨candidate, position, reasons⟩
    item.validate
    return { state with omitted := state.omitted ++ [item] }
  let item : PackedItem δ := ⟨candidate, position, packedRank, prospectiveBytes - state.currentBytes,
    prospectiveTokens - state.currentTokens⟩
  item.validate
  return { state with
    included := state.included ++ [item]
    packedRetrievals := state.packedRetrievals ++ [prospectiveRetrieval]
    currentBytes := prospectiveBytes
    currentTokens := prospectiveTokens }

def packCandidates (budget : PackingBudget) :
    ℕ → List (RetrievalResult δ) → PackState δ → Except Raised (PackState δ)
  | _, [], state => .ok state
  | position, candidate :: candidates, state => do
      packCandidates budget (position + 1) candidates
        (← packer.packCandidate budget position candidate state)

def pack [DecidableEq δ] {casefold : Casefold} (request : PackingRequest casefold δ) :
    Except Raised (PackingResult casefold δ) := do
  raiseIf (packer.tokenEstimator.estimatorId ≠ request.budget.tokenEstimatorId)
    ⟨.valueError, "token estimator_id must match the packing budget"⟩
  let state ← packer.packCandidates request.budget 1 request.candidates ⟨[], [], [], 0, 0⟩
  let usage : PackingUsage := ⟨request.candidates.length, state.included.length,
    state.omitted.length, state.currentBytes, state.currentTokens⟩
  usage.validate
  let result : PackingResult casefold δ :=
    ⟨request, state.included, state.omitted, usage, decide (state.omitted ≠ [])⟩
  result.validate
  return result

end DeterministicRagContextPacker

end AgenticLab.RagContextPacking
