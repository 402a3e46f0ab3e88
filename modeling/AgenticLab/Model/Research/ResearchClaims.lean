import AgenticLab.Model.Research.EvidenceReranking

/-! # Evidence, claims, their citations and the services that make and verify them
(`app/schemas/research_evidence.py`, `app/schemas/research_claim.py`,
`app/research/semantic_citation_verification_service.py`,
`app/research/generative_pipeline_claim_builder.py`) -/

namespace AgenticLab.ResearchClaims

def invalid (message : String) : Raised := ⟨.validationError, message⟩

/-! ## Evidence -/

inductive ResearchEvidenceStance where
  | supports
  | contradicts
  | neutral
  deriving DecidableEq

structure ResearchEvidence where
  evidenceId : String
  requestId : String
  taskId : String
  sourceId : String
  documentId : String
  sectionId : Option String
  excerpt : String
  startCharacter : ℕ
  endCharacter : ℕ
  stance : ResearchEvidenceStance
  relevanceScore : ℚ
  confidenceScore : ℚ
  rationale : Option String
  metadata : List (String × String)
  deriving DecidableEq

/-- `validate_evidence` behind the constraints of the fields. -/
def ResearchEvidence.validate (evidence : ResearchEvidence) : Except Raised Unit := do
  raiseIf (evidence.endCharacter < 1)
    (invalid "end_character: Input should be greater than or equal to 1")
  raiseIf (evidence.relevanceScore < 0 ∨ 1 < evidence.relevanceScore)
    (invalid "relevance_score: Input should be between 0 and 1")
  raiseIf (evidence.confidenceScore < 0 ∨ 1 < evidence.confidenceScore)
    (invalid "confidence_score: Input should be between 0 and 1")
  requireTexts [("evidence_id", evidence.evidenceId), ("request_id", evidence.requestId),
    ("task_id", evidence.taskId), ("source_id", evidence.sourceId),
    ("document_id", evidence.documentId), ("excerpt", evidence.excerpt)]
  requireOptionalTexts [("section_id", evidence.sectionId)]
  raiseIf (evidence.endCharacter ≤ evidence.startCharacter)
    (invalid "end_character must be greater than start_character")
  requireOptionalTexts [("rationale", evidence.rationale)]
  validateMetadata evidence.metadata

/-- A section, with the parts that evidence refers to. -/
structure DocumentSection where
  sectionId : String
  startCharacter : ℕ
  endCharacter : ℕ
  deriving DecidableEq

/-- A document, with the parts that evidence refers to. -/
structure ResearchSourceDocument where
  documentId : String
  isRead : Bool
  taskId : String
  sourceId : String
  content : String
  sections : List DocumentSection
  deriving DecidableEq

structure ResearchSourceDocumentSet where
  requestId : String
  documents : List ResearchSourceDocument
  deriving DecidableEq

structure ResearchEvidenceSet where
  requestId : String
  documentSet : ResearchSourceDocumentSet
  evidence : List ResearchEvidence
  deriving DecidableEq

section

variable (casefold : Casefold)

/-- The item a dictionary holds under a normalized id, where a later item replaces an earlier one. -/
def byId {α : Type} (id : α → String) (items : List α) (itemId : String) : Option α :=
  items.reverse.find? fun item => normalizeId casefold (id item) = normalizeId casefold itemId

def validateDocumentReference (evidence : ResearchEvidence) (document : ResearchSourceDocument) :
    Except Raised Unit := do
  raiseIf (document.isRead = false) (invalid "evidence cannot reference a failed document")
  raiseIf (evidence.taskId ≠ document.taskId)
    (invalid "evidence task_id must match the document task_id")
  raiseIf (evidence.sourceId ≠ document.sourceId)
    (invalid "evidence source_id must match the document source_id")
  raiseIf (document.content.toList.length < evidence.endCharacter)
    (invalid "evidence character range must be within document content")
  raiseIf (textSlice document.content evidence.startCharacter evidence.endCharacter ≠
      evidence.excerpt)
    (invalid "evidence excerpt must match the document character range")
  match evidence.sectionId with
  | none => return ()
  | some sectionId =>
    match document.sections.find? fun documentSection =>
      normalizeId casefold documentSection.sectionId = normalizeId casefold sectionId with
    | none => .error (invalid "evidence section_id must reference an existing document section")
    | some documentSection =>
      raiseIf (evidence.startCharacter < documentSection.startCharacter ∨
          documentSection.endCharacter < evidence.endCharacter)
        (invalid "evidence range must be within the referenced section")

/-- The body of the loop over the evidence of `validate_evidence_set`. -/
def validateItem (set : ResearchEvidenceSet) (item : ResearchEvidence) : Except Raised Unit := do
  raiseIf (item.requestId ≠ set.requestId)
    (invalid "all evidence request IDs must match the evidence set request_id")
  match byId casefold (·.documentId) set.documentSet.documents item.documentId with
  | none => .error (invalid "all evidence must reference existing documents")
  | some document => validateDocumentReference casefold item document

def validateItems (set : ResearchEvidenceSet) : List ResearchEvidence → Except Raised Unit
  | [] => .ok ()
  | item :: items => do
      validateItem casefold set item
      validateItems set items

def rangeKey (item : ResearchEvidence) : String × ℕ × ℕ :=
  (normalizeId casefold item.documentId, item.startCharacter, item.endCharacter)

/-- `validate_evidence_set` -/
def ResearchEvidenceSet.validate (set : ResearchEvidenceSet) : Except Raised Unit := do
  raiseIf (isBlank set.requestId) (invalid "request_id must not be blank")
  raiseIf (set.documentSet.requestId ≠ set.requestId)
    (invalid "document set request_id must match evidence set request_id")
  raiseIf (¬(set.evidence.map fun item => normalizeId casefold item.evidenceId).Nodup)
    (invalid "evidence IDs must be unique")
  validateItems casefold set set.evidence
  raiseIf (¬(set.evidence.map (rangeKey casefold)).Nodup)
    (invalid "evidence document ranges must be unique")

structure ResearchEvidenceSet.Valid (set : ResearchEvidenceSet) : Prop where
  items : ∀ item ∈ set.evidence, item.validate = .ok ()
  set : set.validate casefold = .ok ()

/-- The position a dictionary holds for a key, where a later position replaces an earlier one. -/
def lastPosition {α : Type} (hasKey : α → Bool) (items : List α) : ℕ :=
  items.length - 1 - items.reverse.findIdx hasKey

/-- `document_positions[item.document_id.strip().casefold()]` -/
def documentPosition (set : ResearchEvidenceSet) (item : ResearchEvidence) : ℕ :=
  lastPosition (fun document =>
    normalizeId casefold document.documentId = normalizeId casefold item.documentId)
    set.documentSet.documents

/-- `original_positions[item.evidence_id]` -/
def originalPosition (set : ResearchEvidenceSet) (item : ResearchEvidence) : ℕ :=
  lastPosition (fun other => other.evidenceId = item.evidenceId) set.evidence

/-- The sort key of `ordered_evidence`. -/
def evidenceKey (set : ResearchEvidenceSet) (item : ResearchEvidence) : ℕ ×ₗ ℕ ×ₗ ℕ ×ₗ ℕ :=
  toLex (documentPosition casefold set item, toLex (item.startCharacter,
    toLex (item.endCharacter, originalPosition set item)))

def orderedEvidence (set : ResearchEvidenceSet) : List ResearchEvidence :=
  set.evidence.mergeSort fun first second =>
    evidenceKey casefold set first ≤ evidenceKey casefold set second

/-! ## Claims -/

inductive ResearchClaimStatus where
  | draft
  | supported
  | contested
  | rejected
  deriving DecidableEq

structure ResearchCitation where
  citationId : String
  evidenceId : String
  sourceId : String
  documentId : String
  excerpt : String
  startCharacter : ℕ
  endCharacter : ℕ
  label : Option String
  metadata : List (String × String)
  deriving DecidableEq

/-- `validate_citation` behind the constraints of the fields. -/
def ResearchCitation.validate (citation : ResearchCitation) : Except Raised Unit := do
  raiseIf (citation.endCharacter < 1)
    (invalid "end_character: Input should be greater than or equal to 1")
  requireTexts [("citation_id", citation.citationId), ("evidence_id", citation.evidenceId),
    ("source_id", citation.sourceId), ("document_id", citation.documentId),
    ("excerpt", citation.excerpt)]
  raiseIf (citation.endCharacter ≤ citation.startCharacter)
    (invalid "end_character must be greater than start_character")
  requireOptionalTexts [("label", citation.label)]
  validateMetadata citation.metadata

structure ResearchClaim where
  claimId : String
  requestId : String
  taskId : String
  text : String
  status : ResearchClaimStatus
  confidenceScore : ℚ
  citations : List ResearchCitation
  supportingEvidenceIds : List String
  contradictingEvidenceIds : List String
  rationale : Option String
  metadata : List (String × String)
  deriving DecidableEq

def normalizedIds (ids : List String) : List String := ids.map (normalizeId casefold)

/-- `_normalized_ids` -/
def requireIds (fieldName : String) (ids : List String) : Except Raised Unit := do
  raiseIf (ids.any isBlank) (invalid (fieldName ++ " must not contain blank values"))
  raiseIf (¬(normalizedIds casefold ids).Nodup)
    (invalid (fieldName ++ " must not contain duplicates"))

/-- `validate_claim` behind the constraints of the fields. -/
def ResearchClaim.validate (claim : ResearchClaim) : Except Raised Unit := do
  let citationIds := normalizedIds casefold (claim.citations.map (·.citationId))
  let cited := normalizedIds casefold (claim.citations.map (·.evidenceId))
  let supporting := normalizedIds casefold claim.supportingEvidenceIds
  let contradicting := normalizedIds casefold claim.contradictingEvidenceIds
  raiseIf (claim.confidenceScore < 0 ∨ 1 < claim.confidenceScore)
    (invalid "confidence_score: Input should be between 0 and 1")
  raiseIf (claim.citations = []) (invalid "citations: List should have at least 1 item")
  requireTexts [("claim_id", claim.claimId), ("request_id", claim.requestId),
    ("task_id", claim.taskId), ("text", claim.text)]
  requireOptionalTexts [("rationale", claim.rationale)]
  raiseIf (¬citationIds.Nodup) (invalid "citation IDs must be unique within a claim")
  raiseIf (¬cited.Nodup) (invalid "citation evidence IDs must be unique within a claim")
  requireIds casefold "supporting_evidence_ids" claim.supportingEvidenceIds
  requireIds casefold "contradicting_evidence_ids" claim.contradictingEvidenceIds
  raiseIf (∃ id ∈ supporting, id ∈ contradicting)
    (invalid "supporting and contradicting evidence must not overlap")
  raiseIf (¬supporting ⊆ cited) (invalid "supporting evidence IDs must reference claim citations")
  raiseIf (¬contradicting ⊆ cited)
    (invalid "contradicting evidence IDs must reference claim citations")
  raiseIf (claim.status = .supported ∧ supporting = [])
    (invalid "supported claim must contain supporting evidence")
  raiseIf (claim.status = .contested ∧ contradicting = [])
    (invalid "contested claim must contain contradicting evidence")
  validateMetadata claim.metadata

structure ResearchClaimSet where
  requestId : String
  evidenceSet : ResearchEvidenceSet
  claims : List ResearchClaim
  deriving DecidableEq

/-- The body of the loop over the citations of `_validate_claim_citations`. -/
def validateCitation (set : ResearchEvidenceSet) (claim : ResearchClaim)
    (citation : ResearchCitation) : Except Raised Unit :=
  match byId casefold (·.evidenceId) set.evidence citation.evidenceId with
  | none => .error (invalid "all citations must reference existing evidence")
  | some evidence => do
      raiseIf (evidence.taskId ≠ claim.taskId)
        (invalid "citation evidence task_id must match the claim task_id")
      raiseIf (citation.sourceId ≠ evidence.sourceId)
        (invalid "citation source_id must match the evidence source_id")
      raiseIf (citation.documentId ≠ evidence.documentId)
        (invalid "citation document_id must match the evidence document_id")
      raiseIf (citation.excerpt ≠ evidence.excerpt)
        (invalid "citation excerpt must match the evidence excerpt")
      raiseIf (citation.startCharacter ≠ evidence.startCharacter ∨
          citation.endCharacter ≠ evidence.endCharacter)
        (invalid "citation character range must match the evidence range")

def validateCitations (set : ResearchEvidenceSet) (claim : ResearchClaim) :
    List ResearchCitation → Except Raised Unit
  | [] => .ok ()
  | citation :: citations => do
      validateCitation casefold set claim citation
      validateCitations set claim citations

def stanceAllows (set : ResearchEvidenceSet) (allows : ResearchEvidenceStance → Bool)
    (id : String) : Bool :=
  (byId casefold (·.evidenceId) set.evidence id).all fun evidence => allows evidence.stance

def validateClaimCitations (set : ResearchEvidenceSet) (claim : ResearchClaim) :
    Except Raised Unit := do
  validateCitations casefold set claim claim.citations
  raiseIf (¬claim.supportingEvidenceIds.all (stanceAllows casefold set (· ≠ .contradicts)))
    (invalid "supporting evidence must not have a contradicting stance")
  raiseIf (¬claim.contradictingEvidenceIds.all (stanceAllows casefold set (· = .contradicts)))
    (invalid "contradicting evidence must have a contradicting stance")

def validateClaims (set : ResearchClaimSet) : List ResearchClaim → Except Raised Unit
  | [] => .ok ()
  | claim :: claims => do
      raiseIf (claim.requestId ≠ set.requestId)
        (invalid "all claim request IDs must match the claim set request_id")
      validateClaimCitations casefold set.evidenceSet claim
      validateClaims set claims

/-- `validate_claim_set` -/
def ResearchClaimSet.validate (set : ResearchClaimSet) : Except Raised Unit := do
  raiseIf (isBlank set.requestId) (invalid "request_id must not be blank")
  raiseIf (set.evidenceSet.requestId ≠ set.requestId)
    (invalid "evidence set request_id must match claim set request_id")
  raiseIf (¬(normalizedIds casefold (set.claims.map (·.claimId))).Nodup)
    (invalid "claim IDs must be unique")
  validateClaims casefold set set.claims

structure ResearchClaimSet.Valid (set : ResearchClaimSet) : Prop where
  evidence : set.evidenceSet.Valid casefold
  citations : ∀ claim ∈ set.claims, ∀ citation ∈ claim.citations, citation.validate = .ok ()
  claims : ∀ claim ∈ set.claims, claim.validate casefold = .ok ()
  set : set.validate casefold = .ok ()

end

/-! ## `SemanticCitationVerificationService` -/

open EvidenceReranking

inductive SemanticCitationSupportLevel where
  | fullySupported
  | partiallySupported
  | unsupported
  | contradicted
  deriving DecidableEq

inductive ResearchCitationDecision where
  | verified
  | needsRevision
  | rejected
  deriving DecidableEq

/-- The decision that `_validate_support_decision` expects. -/
def expectedDecision : SemanticCitationSupportLevel → ResearchCitationDecision
  | .fullySupported => .verified
  | .partiallySupported => .needsRevision
  | .unsupported => .rejected
  | .contradicted => .rejected

/-- A judgment that pydantic accepts. -/
structure SemanticCitationJudgment (casefold : Casefold) where
  supportLevel : SemanticCitationSupportLevel
  entailmentScore : ℚ
  rationale : String
  issues : List String
  score_range : 0 ≤ entailmentScore ∧ entailmentScore ≤ 1
  rationale_isBlank : isBlank rationale = false
  issues_isBlank : issues.any isBlank = false
  issues_nodup : (normalizedIds casefold issues).Nodup

structure SemanticCitationEvaluationResult (casefold : Casefold) extends CallReport where
  judgment : SemanticCitationJudgment casefold
  decision : ResearchCitationDecision

structure SemanticCitationBatchEvaluationResult (casefold : Casefold) extends CallReport where
  judgments : List (String × SemanticCitationJudgment casefold)
  decisions : List (String × ResearchCitationDecision)

/-- What a batched call does, with the seconds that pass on `perf_counter`. -/
structure CitationBatchCall (casefold : Casefold) where
  seconds : ℚ
  outcome : Except Raised (SemanticCitationBatchEvaluationResult casefold)

/-- An evaluator, whose single evaluations are numbered as they are called. -/
structure SemanticCitationEvaluator (casefold : Casefold) where
  evaluate (call : ℕ) (claimText evidenceExcerpt : String) :
    SemanticCitationEvaluationResult casefold
  evaluateBatch : Option (List (String × String × String) → CitationBatchCall casefold)

structure ResearchCitationVerification where
  verificationId : String
  claimId : String
  citationId : String
  evidenceId : String
  sourceId : String
  decision : ResearchCitationDecision
  supportLevel : Option SemanticCitationSupportLevel
  entailmentScore : ℚ
  traceabilityScore : ℚ
  citationAccuracyScore : ℚ
  rationale : String
  issues : List String
  metadata : List (String × String)
  deriving DecidableEq

def isScore (score : ℚ) : Bool := 0 ≤ score && score ≤ 1

/-- `validate_verification` behind the constraints of the fields. -/
def ResearchCitationVerification.validate (casefold : Casefold)
    (verification : ResearchCitationVerification) : Except Raised Unit := do
  raiseIf (isScore verification.entailmentScore = false)
    (invalid "entailment_score: Input should be between 0 and 1")
  raiseIf (isScore verification.traceabilityScore = false)
    (invalid "traceability_score: Input should be between 0 and 1")
  raiseIf (isScore verification.citationAccuracyScore = false)
    (invalid "citation_accuracy_score: Input should be between 0 and 1")
  requireTexts [("verification_id", verification.verificationId),
    ("claim_id", verification.claimId), ("citation_id", verification.citationId),
    ("evidence_id", verification.evidenceId), ("source_id", verification.sourceId),
    ("rationale", verification.rationale)]
  raiseIf (verification.issues.any isBlank) (invalid "issues must not contain blank values")
  raiseIf (¬(normalizedIds casefold verification.issues).Nodup)
    (invalid "issues must not contain duplicates")
  raiseIf (verification.supportLevel.any fun level =>
      decide (verification.decision ≠ expectedDecision level))
    (invalid "decision must match semantic support_level")
  validateMetadata verification.metadata

structure CitedPair where
  claim : ResearchClaim
  citation : ResearchCitation
  evidence : ResearchEvidence

/-- What `verify` returns, the usage it leaves in `last_usage`, and how often it called the
evaluator. -/
structure VerificationRun where
  verifications : List ResearchCitationVerification
  lastUsage : BudgetUsage
  calls : ℕ

structure SemanticCitationVerificationService (casefold : Casefold) where
  evaluator : SemanticCitationEvaluator casefold
  /-- The values of the factory, numbered as they are made. -/
  verificationIdFactory : ℕ → String

namespace SemanticCitationVerificationService

variable {casefold : Casefold} (service : SemanticCitationVerificationService casefold)

def buildVerification (number : ℕ) (pair : CitedPair)
    (judgment : SemanticCitationJudgment casefold) (decision : ResearchCitationDecision)
    (responseId : String) : Except Raised ResearchCitationVerification := do
  let verificationId := strip (service.verificationIdFactory number)
  raiseIf (verificationId = "") ⟨.valueError, "verification_id factory returned blank value"⟩
  let verification : ResearchCitationVerification :=
    ⟨verificationId, pair.claim.claimId, pair.citation.citationId, pair.evidence.evidenceId,
      pair.evidence.sourceId, decision, some judgment.supportLevel, judgment.entailmentScore, 1, 1,
      judgment.rationale, judgment.issues, [("response_id", responseId)]⟩
  verification.validate casefold
  return verification

/-- `_verify_sequential`, from a call on. -/
def verifySequential (number : ℕ) (run : VerificationRun) :
    List CitedPair → Except Raised VerificationRun
  | [] => .ok run
  | pair :: pairs => do
      let result := service.evaluator.evaluate number pair.claim.text pair.evidence.excerpt
      let usage ← recordReport run.lastUsage result.toCallReport
      let verification ← service.buildVerification number pair result.judgment result.decision
        result.responseId
      verifySequential (number + 1) ⟨run.verifications ++ [verification], usage, run.calls + 1⟩ pairs

/-- `batch_result.judgments[item_id]` -/
def itemOf {α : Type} (items : List (String × α)) (itemId : String) : Except Raised α :=
  match items.lookup itemId with
  | some item => .ok item
  | none => .error ⟨.keyError, itemId⟩

def verifyItems (result : SemanticCitationBatchEvaluationResult casefold) (number : ℕ) :
    List (String × CitedPair) → Except Raised (List ResearchCitationVerification)
  | [] => .ok []
  | (itemId, pair) :: rest => do
      let judgment ← itemOf result.judgments itemId
      let decision ← itemOf result.decisions itemId
      let verification ← service.buildVerification number pair judgment decision result.responseId
      return verification :: (← verifyItems result (number + 1) rest)

def citationItems (pairs : List CitedPair) : List (String × String × String) :=
  ((itemIds pairs.length).zip pairs).map fun item =>
    (item.1, item.2.claim.text, item.2.evidence.excerpt)

def verifyBatchCapable (evaluateBatch : List (String × String × String) → CitationBatchCall casefold)
    (pairs : List CitedPair) : Except Raised VerificationRun :=
  let call := evaluateBatch (citationItems pairs)
  match call.outcome with
  | .error failure =>
    if failure.cls ∈ batchFallbackErrors then do
      let usage ← recordAttempt .none 0 (max 0 call.seconds)
      service.verifySequential 0 ⟨[], usage, 1⟩ pairs
    else .error failure
  | .ok result => do
      let usage ← recordReport .none result.toCallReport
      let verifications ← service.verifyItems result 0 ((itemIds pairs.length).zip pairs)
      return ⟨verifications, usage, 1⟩

/-- The evidence that the dictionary of `verify` holds under an id as it is written. -/
def evidenceById (set : ResearchEvidenceSet) (evidenceId : String) : Option ResearchEvidence :=
  set.evidence.reverse.find? fun evidence => evidence.evidenceId = evidenceId

def citations (claims : List ResearchClaim) : List (ResearchClaim × ResearchCitation) :=
  claims.flatMap fun claim => claim.citations.map fun citation => (claim, citation)

def pairsOf (set : ResearchEvidenceSet) :
    List (ResearchClaim × ResearchCitation) → Except Raised (List CitedPair)
  | [] => .ok []
  | (claim, citation) :: rest =>
    match evidenceById set citation.evidenceId with
    | none => .error ⟨.valueError, "citation must reference existing evidence"⟩
    | some evidence => do return ⟨claim, citation, evidence⟩ :: (← pairsOf set rest)

def verify (claimSet : ResearchClaimSet) (evidenceSet : ResearchEvidenceSet) :
    Except Raised VerificationRun := do
  raiseIf (claimSet.requestId ≠ evidenceSet.requestId)
    ⟨.valueError, "claim_set and evidence_set request_id must match"⟩
  let pairs ← pairsOf evidenceSet (citations claimSet.claims)
  if pairs = [] then return ⟨[], .none, 0⟩
  match service.evaluator.evaluateBatch with
  | some evaluateBatch => service.verifyBatchCapable evaluateBatch pairs
  | none => service.verifySequential 0 ⟨[], .none, 0⟩ pairs

end SemanticCitationVerificationService

/-! ## `GenerativePipelineClaimBuilder` -/

/-- A proposal that pydantic accepts. -/
structure GeneratedClaimProposal where
  text : String
  rationale : String
  text_isBlank : isBlank text = false
  rationale_isBlank : isBlank rationale = false

structure GeneratedClaimProposalResult extends CallReport where
  proposal : GeneratedClaimProposal

structure GeneratedClaimProposalBatchResult extends CallReport where
  proposals : List (String × GeneratedClaimProposal)

/-- A generator, whose single generations are numbered as they are called. -/
structure EvidenceClaimGenerator where
  generate (call : ℕ) (evidence : ResearchEvidence) : GeneratedClaimProposalResult
  generateBatch :
    Option (List (String × ResearchEvidence) → Except Raised GeneratedClaimProposalBatchResult)

/-- What a build returns, with the usages it leaves behind. -/
structure ClaimBuild where
  claimSet : ResearchClaimSet
  lastUsage : BudgetUsage
  lastApiUsage : BudgetUsage

structure GenerativePipelineClaimBuilder where
  generator : EvidenceClaimGenerator
  budget : Option ExecutionBudget

namespace GenerativePipelineClaimBuilder

/-- `if self._budget is not None: ensure_...(budget=self._budget, usage=usage)` -/
def ensure (check : ExecutionBudget → BudgetUsage → Except Raised Unit)
    (budget : Option ExecutionBudget) (usage : BudgetUsage) : Except Raised Unit :=
  match budget with
  | none => .ok ()
  | some budget => check budget usage

/-- `if self._budget is not None: logical_usage = record_attempt(...)` -/
def recordLogical (budget : Option ExecutionBudget) (usage : BudgetUsage) (recordedTokens : ℤ)
    (elapsedSeconds : ℚ) : Except Raised BudgetUsage :=
  match budget with
  | none => .ok usage
  | some _ => recordAttempt usage recordedTokens elapsedSeconds

def eligible (budget : Option ExecutionBudget) (position : ℕ) (usage : BudgetUsage) :
    List ResearchEvidence → Except Raised (List (ℕ × ResearchEvidence) × BudgetUsage)
  | [] => .ok ([], usage)
  | evidence :: later =>
    match ensure ensureCanStartAttempt budget usage with
    | .error _ => .ok ([], usage)
    | .ok _ => do
        let next ← recordLogical budget usage 0 0
        let (rest, final) ← eligible budget (position + 1) next later
        return ((position, evidence) :: rest, final)

section

variable (casefold : Casefold)

/-- `ResearchClaimSet(...)` -/
def newClaimSet (evidenceSet : ResearchEvidenceSet) (claims : List ResearchClaim) :
    Except Raised ResearchClaimSet := do
  let claimSet : ResearchClaimSet := ⟨evidenceSet.requestId, evidenceSet, claims⟩
  claimSet.validate casefold
  return claimSet

def claimFromProposal (evidence : ResearchEvidence) (position : ℕ)
    (proposal : GeneratedClaimProposal) (report : CallReport) : Except Raised ResearchClaim := do
  let citation : ResearchCitation :=
    ⟨evidence.requestId ++ "-citation-" ++ paddedNumber position, evidence.evidenceId,
      evidence.sourceId, evidence.documentId, evidence.excerpt, evidence.startCharacter,
      evidence.endCharacter, none, [("builder", "generative-pipeline")]⟩
  citation.validate
  let claim : ResearchClaim :=
    ⟨evidence.requestId ++ "-claim-" ++ paddedNumber position, evidence.requestId, evidence.taskId,
      proposal.text, .draft, evidence.confidenceScore, [citation], [], [], some proposal.rationale,
      [("builder", "generative-pipeline"), ("generator_response_id", report.responseId)] ++
        report.requestId.toList.map fun requestId => ("generator_request_id", requestId)⟩
  claim.validate casefold
  return claim

variable (builder : GenerativePipelineClaimBuilder)

/-- The loop of `_build_sequential` from a call on, with the claims and usages so far. -/
def sequentialClaims (call : ℕ) (claims : List ResearchClaim) (logical api : BudgetUsage) :
    List (ℕ × ResearchEvidence) → Except Raised (List ResearchClaim × BudgetUsage × BudgetUsage)
  | [] => .ok (claims, logical, api)
  | (position, evidence) :: later =>
    match ensure ensureCanStartAttempt builder.budget logical with
    | .error _ => .ok (claims, logical, api)
    | .ok _ => do
        let result := builder.generator.generate call evidence
        let claim ← claimFromProposal casefold evidence position result.proposal result.toCallReport
        let api ← recordReport api result.toCallReport
        let logical ← recordLogical builder.budget logical result.recordedTokens
          result.elapsedSeconds
        match ensure ensureWithinBudget builder.budget logical with
        | .error _ => .ok (claims ++ [claim], logical, api)
        | .ok _ => sequentialClaims (call + 1) (claims ++ [claim]) logical api later

def buildSequential (evidenceSet : ResearchEvidenceSet) (items : List (ℕ × ResearchEvidence))
    (initialApiUsage : BudgetUsage) : Except Raised ClaimBuild := do
  let (claims, logical, api) ← builder.sequentialClaims casefold 0 [] .none initialApiUsage items
  return ⟨← newClaimSet casefold evidenceSet claims, logical, api⟩

def batchClaims (result : GeneratedClaimProposalBatchResult) :
    List (String × ℕ × ResearchEvidence) → Except Raised (List ResearchClaim)
  | [] => .ok []
  | (itemId, position, evidence) :: rest => do
      let proposal ← SemanticCitationVerificationService.itemOf result.proposals itemId
      let claim ← claimFromProposal casefold evidence position proposal result.toCallReport
      return claim :: (← batchClaims result rest)

/-- `_build` -/
def buildFrom (evidenceSet : ResearchEvidenceSet) (startPosition : ℕ) :
    Except Raised ClaimBuild := do
  let (items, logical) ← eligible builder.budget startPosition .none
    (orderedEvidence casefold evidenceSet)
  if items = [] then return ⟨← newClaimSet casefold evidenceSet [], .none, .none⟩
  match builder.generator.generateBatch with
  | none => builder.buildSequential casefold evidenceSet items .none
  | some generateBatch =>
    let batch := (itemIds items.length).zip items
    match generateBatch (batch.map fun item => (item.1, item.2.2)) with
    | .error failure =>
      if failure.cls = .structuredClaimGenerationError then do
        let usage ← recordAttempt .none 0 0
        builder.buildSequential casefold evidenceSet items usage
      else .error failure
    | .ok result => do
        let claims ← batchClaims casefold result batch
        let api ← recordReport .none result.toCallReport
        let last : BudgetUsage :=
          ⟨logical.attempts, result.recordedTokens.toNat, result.elapsedSeconds.toNNRat⟩
        return ⟨← newClaimSet casefold evidenceSet claims, last, api⟩

def build (evidenceSet : ResearchEvidenceSet) : Except Raised ClaimBuild :=
  builder.buildFrom casefold evidenceSet 1

def buildIncremental (evidenceSet : ResearchEvidenceSet) (startPosition : ℤ) :
    Except Raised ClaimBuild := do
  raiseIf (startPosition < 1) ⟨.valueError, "start_position must be greater than zero"⟩
  builder.buildFrom casefold evidenceSet startPosition.toNat

end

end GenerativePipelineClaimBuilder

end AgenticLab.ResearchClaims
