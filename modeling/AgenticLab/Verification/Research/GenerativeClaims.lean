import AgenticLab.Verification.Research.CitationVerification

/-! # What generated claims cite -/

namespace AgenticLab.ResearchClaims

open EvidenceReranking SemanticCitationVerificationService GenerativePipelineClaimBuilder

/-! ## Numbered ids -/

theorem strip_append {text suffix : String} {first last : Char} {middle : List Char}
    (hsuffix : suffix.toList = first :: middle ++ [last]) (hfirst : isSpace first = false)
    (hlast : isSpace last = false) :
    strip (text ++ suffix) = String.ofList (text.toList.dropWhile isSpace) ++ suffix := by
  have hdrop : (text.toList ++ suffix.toList).dropWhile isSpace =
      text.toList.dropWhile isSpace ++ suffix.toList := by
    have hkeep : suffix.toList.dropWhile isSpace = suffix.toList := by
      rw [hsuffix, List.cons_append, List.dropWhile_cons_of_neg (by simp [hfirst])]
    rw [List.dropWhile_append, hkeep]
    split_ifs with hempty
    · rw [List.isEmpty_iff.mp hempty, List.nil_append]
    · rfl
  rw [← String.toList_inj, strip, String.toList_ofList, String.toList_append, hdrop,
    String.toList_append, String.toList_ofList, hsuffix, ← List.append_assoc, List.reverse_append,
    List.reverse_singleton, List.singleton_append, List.dropWhile_cons_of_neg (by simp [hlast])]
  simp

/-- What the ids of claims rely on of `casefold`. -/
structure CasefoldFacts (casefold : Casefold) : Prop where
  append : ∀ first second, casefold (first ++ second) = casefold first ++ casefold second
  keeps : ∀ text : String, (∀ character ∈ text.toList,
    character.isLower = true ∨ character.isDigit = true ∨ character = '-') → casefold text = text

theorem isDigit_of_mem_paddedNumber {number : ℕ} {character : Char}
    (h : character ∈ (paddedNumber number).toList) : character.isDigit = true := by
  rw [paddedNumber_toList, List.mem_append, List.mem_replicate] at h
  rcases h with ⟨-, rfl⟩ | hdigit
  · rfl
  · exact Nat.isDigit_of_mem_toDigits (by decide) (by decide) hdigit

structure IsLabel (label : String) : Prop where
  dash : ∃ rest, label.toList = '-' :: rest
  kept : ∀ character ∈ label.toList,
    character.isLower = true ∨ character.isDigit = true ∨ character = '-'

variable {casefold : Casefold} {label request : String}

theorem normalizeId_numbered (hcasefold : CasefoldFacts casefold)
    (hlabel : IsLabel label) (request : String) (number : ℕ) :
    normalizeId casefold (request ++ label ++ paddedNumber number) =
      casefold (String.ofList (request.toList.dropWhile isSpace)) ++
        (label ++ paddedNumber number) := by
  obtain ⟨rest, hrest⟩ := hlabel.dash
  obtain ⟨digits, last, hlast⟩ : ∃ digits last,
      (paddedNumber number).toList = digits ++ [last] := by
    rcases List.eq_nil_or_concat (paddedNumber number).toList with hnil | ⟨digits, last, h⟩
    · rw [paddedNumber_toList, List.append_eq_nil_iff] at hnil
      exact absurd hnil.2 Nat.toDigits_ne_nil
    · exact ⟨digits, last, by rw [h, List.concat_eq_append]⟩
  have hdigit : last.isDigit = true :=
    @isDigit_of_mem_paddedNumber number last (by rw [hlast]; simp)
  have hshape : (label ++ paddedNumber number).toList = '-' :: (rest ++ digits) ++ [last] := by
    rw [String.toList_append, hrest, hlast]
    simp
  have hkept : casefold (label ++ paddedNumber number) = label ++ paddedNumber number := by
    refine hcasefold.keeps _ fun character hmem => ?_
    rw [String.toList_append, List.mem_append] at hmem
    rcases hmem with hletter | hnumber
    · exact hlabel.kept character hletter
    · exact .inr (.inl (isDigit_of_mem_paddedNumber hnumber))
  rw [normalizeId, String.append_assoc, strip_append hshape (by decide) (isSpace_of_isDigit hdigit),
    hcasefold.append, hkept]

theorem normalizeId_numbered_injective (hcasefold : CasefoldFacts casefold)
    (hlabel : IsLabel label) (request : String) : Function.Injective fun number =>
      normalizeId casefold (request ++ label ++ paddedNumber number) := by
  intro number other h
  simp only [normalizeId_numbered hcasefold hlabel] at h
  rw [← String.toList_inj, String.toList_append, String.toList_append, String.toList_append,
    String.toList_append] at h
  exact paddedNumber_injective (String.toList_inj.mp
    (List.append_cancel_left (List.append_cancel_left h)))

theorem isLabel_claim : IsLabel "-claim-" := by
  refine ⟨⟨"claim-".toList, by decide⟩, ?_⟩
  simp

theorem isLabel_citation : IsLabel "-citation-" := by
  refine ⟨⟨"citation-".toList, by decide⟩, ?_⟩
  simp

structure Identified (report : CallReport) : Prop where
  responseId : isBlank report.responseId = false
  requestId : report.requestId.any isBlank = false

def citationAt (evidence : ResearchEvidence) (position : ℕ) : ResearchCitation :=
  ⟨evidence.requestId ++ "-citation-" ++ paddedNumber position, evidence.evidenceId,
    evidence.sourceId, evidence.documentId, evidence.excerpt, evidence.startCharacter,
    evidence.endCharacter, none, [("builder", "generative-pipeline")]⟩

structure ClaimAt (casefold : Casefold) (evidence : ResearchEvidence) (position : ℕ)
    (claim : ResearchClaim) : Prop where
  claimId : claim.claimId = evidence.requestId ++ "-claim-" ++ paddedNumber position
  requestId : claim.requestId = evidence.requestId
  taskId : claim.taskId = evidence.taskId
  citations : claim.citations = [citationAt evidence position]
  supporting : claim.supportingEvidenceIds = []
  contradicting : claim.contradictingEvidenceIds = []
  valid : claim.validate casefold = .ok ()

variable {evidence : ResearchEvidence}

theorem citationAt_validate (h : evidence.Named) (position : ℕ) :
    (citationAt evidence position).validate = .ok () := by
  have hid : isBlank (evidence.requestId ++ "-citation-" ++ paddedNumber position) = false := by
    rw [String.append_assoc]
    exact isBlank_append h.requestId
  have htexts : requireTexts [("citation_id", (citationAt evidence position).citationId),
      ("evidence_id", evidence.evidenceId), ("source_id", evidence.sourceId),
      ("document_id", evidence.documentId), ("excerpt", evidence.excerpt)] = .ok () := by
    rw [requireTexts_eq_ok]
    simp [citationAt, hid, h.evidenceId, h.sourceId, h.documentId, h.excerpt]
  have hmetadata : validateMetadata [("builder", "generative-pipeline")] = .ok () := by
    decide +kernel
  have hrange := h.range
  have hpositive : ¬evidence.endCharacter < 1 := by omega
  rw [ResearchCitation.validate, raiseIf_bind_eq_ok, bind_eq_ok]
  refine ⟨hpositive, (), htexts, raiseIf_bind_eq_ok.mpr ⟨not_le.mpr hrange, ?_⟩⟩
  exact bind_eq_ok.mpr ⟨(), rfl, hmetadata⟩

theorem claimFromProposal_returns (h : evidence.Named)
    (position : ℕ) (proposal : GeneratedClaimProposal) {report : CallReport}
    (hreport : Identified report) : ∃ claim,
      claimFromProposal casefold evidence position proposal report = .ok claim ∧
        ClaimAt casefold evidence position claim := by
  have hid : isBlank (evidence.requestId ++ "-claim-" ++ paddedNumber position) = false := by
    rw [String.append_assoc]
    exact isBlank_append h.requestId
  have htexts : requireTexts [
      ("claim_id", evidence.requestId ++ "-claim-" ++ paddedNumber position),
      ("request_id", evidence.requestId), ("task_id", evidence.taskId),
      ("text", proposal.text)] = .ok () := by
    rw [requireTexts_eq_ok]
    simp [hid, h.requestId, h.taskId, proposal.text_isBlank]
  have hmetadata : validateMetadata ([("builder", "generative-pipeline"),
      ("generator_response_id", report.responseId)] ++
        report.requestId.toList.map fun requestId => ("generator_request_id", requestId)) =
      .ok () := by
    rw [validateMetadata_eq_ok]
    have hkeys : isBlank "builder" = false ∧ isBlank "generative-pipeline" = false ∧
        isBlank "generator_response_id" = false ∧ isBlank "generator_request_id" = false := by
      decide +kernel
    intro member hmem
    rcases List.mem_append.mp hmem with hfixed | hrequest
    · simp only [List.mem_cons, List.not_mem_nil, or_false] at hfixed
      rcases hfixed with rfl | rfl
      · exact ⟨hkeys.1, hkeys.2.1⟩
      · exact ⟨hkeys.2.2.1, hreport.responseId⟩
    · obtain ⟨requestId, hrequestId, rfl⟩ := List.mem_map.mp hrequest
      have hnamed := hreport.requestId
      rw [Option.mem_toList.mp hrequestId] at hnamed
      exact ⟨hkeys.2.2.2, hnamed⟩
  have hrationale : requireOptionalTexts [("rationale", some proposal.rationale)] = .ok () := by
    rw [requireOptionalTexts_eq_ok]
    simp [proposal.rationale_isBlank]
  have hconfidence : ¬(evidence.confidenceScore < 0 ∨ 1 < evidence.confidenceScore) := by
    rw [not_or, not_lt, not_lt]
    exact h.confidence
  have hcitation := citationAt_validate h position
  rw [citationAt] at hcitation
  rw [claimFromProposal]
  dsimp only
  rw [hcitation, ok_bind]
  refine ⟨_, bind_eq_ok.mpr ⟨(), ?valid, rfl⟩, ⟨rfl, rfl, rfl, rfl, rfl, rfl, ?valid⟩⟩
  rw [ResearchClaim.validate]
  simp only [raiseIf, hconfidence, htexts, hrationale, normalizedIds, requireIds, ok_bind]
  simpa using hmetadata

/-! ## Builds -/

def numbered (start : ℕ) (evidence : List ResearchEvidence) : List (ℕ × ResearchEvidence) :=
  (List.range' start evidence.length).zip evidence

theorem numbered_cons (start : ℕ) (first : ResearchEvidence) (later : List ResearchEvidence) :
    numbered start (first :: later) = (start, first) :: numbered (start + 1) later := rfl

theorem map_fst_numbered (start : ℕ) (evidence : List ResearchEvidence) :
    (numbered start evidence).map Prod.fst = List.range' start evidence.length :=
  List.map_fst_zip (by simp)

theorem map_snd_numbered (start : ℕ) (evidence : List ResearchEvidence) :
    (numbered start evidence).map Prod.snd = evidence :=
  List.map_snd_zip (by simp)

theorem take_numbered (start n : ℕ) (evidence : List ResearchEvidence) :
    (numbered start evidence).take n = numbered start (evidence.take n) := by
  induction evidence generalizing start n with
  | nil => simp [numbered]
  | cons first later ih =>
    cases n with
    | zero => rfl
    | succ n => rw [numbered_cons, List.take_succ_cons, ih, List.take_succ_cons, numbered_cons]

def Affords (budget : Option ExecutionBudget) (attempts count : ℕ) : Prop :=
  ∀ limit, budget = some limit → attempts ≤ limit.maxAttempts → attempts + count ≤ limit.maxAttempts

theorem eligible_returns (budget : Option ExecutionBudget) (position : ℕ) (usage : BudgetUsage)
    (evidence : List ResearchEvidence) : ∃ count final,
      eligible budget position usage evidence =
        .ok (numbered position (evidence.take count), final) ∧
      Affords budget usage.attempts count := by
  induction evidence generalizing position usage with
  | nil => exact ⟨0, usage, rfl, fun _ _ h => h⟩
  | cons first later ih =>
    rw [eligible]
    cases hstart : ensure ensureCanStartAttempt budget usage with
    | error failure => exact ⟨0, usage, rfl, fun _ _ h => h⟩
    | ok _ =>
      cases budget with
      | none =>
        obtain ⟨count, final, hrest, -⟩ := ih (position + 1) usage
        refine ⟨count + 1, final, ?_, fun _ h => nomatch h⟩
        rw [recordLogical, ok_bind, hrest, List.take_succ_cons, numbered_cons]
        rfl
      | some limit =>
        have hrecord : recordLogical (some limit) usage 0 0 = .ok (usage.record 0 0) :=
          raiseIf_bind_eq_ok.mpr ⟨lt_irrefl 0, raiseIf_bind_eq_ok.mpr ⟨lt_irrefl 0, rfl⟩⟩
        have hattempts := (ensureCanStartAttempt_eq_ok.mp hstart).attempts
        obtain ⟨count, final, hrest, haffords⟩ := ih (position + 1) (usage.record 0 0)
        refine ⟨count + 1, final, ?_, ?_⟩
        · rw [hrecord, ok_bind, hrest, List.take_succ_cons, numbered_cons]
          rfl
        · rintro _ ⟨⟩ -
          have hrest := haffords limit rfl hattempts
          rw [BudgetUsage.record] at hrest
          dsimp only at hrest
          omega

/-- What a generator does: a batch answers for every item or raises a generation error, and every
answer is identified and reports its usage. -/
structure Behaves (generator : EvidenceClaimGenerator) : Prop where
  single : ∀ call evidence, Identified (generator.generate call evidence).toCallReport ∧
    Reported (generator.generate call evidence).toCallReport
  error : ∀ generateBatch items failure, generator.generateBatch = some generateBatch →
    generateBatch items = .error failure → failure.cls = .structuredClaimGenerationError
  batch : ∀ generateBatch items result, generator.generateBatch = some generateBatch →
    generateBatch items = .ok result → Identified result.toCallReport ∧
      Reported result.toCallReport ∧
      ∀ item ∈ items, ∃ proposal, result.proposals.lookup item.1 = some proposal

abbrev ClaimsFor (casefold : Casefold) (items : List (ℕ × ResearchEvidence))
    (claims : List ResearchClaim) : Prop :=
  List.Forall₂ (fun item claim => ClaimAt casefold item.2 item.1 claim) items claims

variable {builder : GenerativePipelineClaimBuilder} (hgenerator : Behaves builder.generator)

include hgenerator

theorem sequentialClaims_returns {call : ℕ} {claims : List ResearchClaim}
    {logical api : BudgetUsage} {items : List (ℕ × ResearchEvidence)}
    (hitems : ∀ item ∈ items, item.2.Named) : ∃ count made final,
      builder.sequentialClaims casefold call claims logical api items =
        .ok (claims ++ made, final) ∧
      ClaimsFor casefold (items.take count) made := by
  induction items generalizing call claims logical api with
  | nil => exact ⟨0, [], (logical, api), by rw [sequentialClaims, List.append_nil], .nil⟩
  | cons item later ih =>
    obtain ⟨position, evidence⟩ := item
    obtain ⟨hevidence, hlater⟩ := List.forall_mem_cons.mp hitems
    rw [sequentialClaims]
    cases ensure ensureCanStartAttempt builder.budget logical with
    | error failure =>
      exact ⟨0, [], (logical, api), by rw [List.append_nil], .nil⟩
    | ok _ =>
      obtain ⟨hidentified, hreported⟩ := hgenerator.single call evidence
      obtain ⟨claim, hclaim, hat⟩ := claimFromProposal_returns hevidence position
        (builder.generator.generate call evidence).proposal hidentified
      have hlogical : ∃ next, recordLogical builder.budget logical
          (builder.generator.generate call evidence).recordedTokens
          (builder.generator.generate call evidence).elapsedSeconds = .ok next := by
        cases builder.budget with
        | none => exact ⟨logical, rfl⟩
        | some limit => exact ⟨_, recordReport_eq_ok.mpr ⟨hreported, rfl⟩⟩
      obtain ⟨next, hnext⟩ := hlogical
      dsimp only
      rw [hclaim, ok_bind, recordReport_eq_ok.mpr ⟨hreported, rfl⟩, ok_bind, hnext, ok_bind]
      cases ensure ensureWithinBudget builder.budget next with
      | error failure =>
        exact ⟨1, [claim], (next, _), rfl, .cons hat (by rw [List.take_zero]; exact .nil)⟩
      | ok _ =>
        obtain ⟨count, made, final, hmade, hfor⟩ := ih hlater
        refine ⟨count + 1, claim :: made, final, ?_, .cons hat hfor⟩
        dsimp only
        rw [hmade, List.append_assoc, List.singleton_append]

omit hgenerator in
theorem batchClaims_returns {result : GeneratedClaimProposalBatchResult}
    (hidentified : Identified result.toCallReport) {items : List (String × ℕ × ResearchEvidence)}
    (hanswers : ∀ item ∈ items, ∃ proposal, result.proposals.lookup item.1 = some proposal)
    (hitems : ∀ item ∈ items, item.2.2.Named) : ∃ claims,
      batchClaims casefold result items = .ok claims ∧
        ClaimsFor casefold (items.map Prod.snd) claims := by
  induction items with
  | nil => exact ⟨[], rfl, .nil⟩
  | cons item later ih =>
    obtain ⟨itemId, position, evidence⟩ := item
    obtain ⟨⟨proposal, hproposal⟩, hanswers⟩ := List.forall_mem_cons.mp hanswers
    obtain ⟨hevidence, hlater⟩ := List.forall_mem_cons.mp hitems
    obtain ⟨claim, hclaim, hat⟩ := @claimFromProposal_returns casefold evidence hevidence position
      proposal _ hidentified
    obtain ⟨claims, hclaims, hfor⟩ := ih hanswers hlater
    have hitem : itemOf result.proposals itemId = .ok proposal := by
      rw [itemOf, hproposal]
    refine ⟨claim :: claims, ?_, .cons hat hfor⟩
    rw [batchClaims, hitem, ok_bind, hclaim, ok_bind, hclaims, ok_bind]
    rfl

/-! ## Claim sets over evidence -/

omit hgenerator

variable {set : ResearchEvidenceSet} {items : List (ℕ × ResearchEvidence)}
  {claims : List ResearchClaim}

theorem requestId_of_valid (hvalid : set.Valid casefold)
    (hmem : evidence ∈ set.evidence) : evidence.requestId = set.requestId := by
  have hitem := (ResearchEvidenceSet.validate_eq_ok.mp hvalid.set).items evidence hmem
  rw [validateItem, raiseIf_bind_eq_ok] at hitem
  exact not_not.mp hitem.1

theorem mem_of_claimsFor (hfor : ClaimsFor casefold items claims) {claim : ResearchClaim}
    (hmem : claim ∈ claims) : ∃ item ∈ items, ClaimAt casefold item.2 item.1 claim := by
  induction hfor with
  | nil => cases hmem
  | @cons item claim items claims hat hrest ih =>
    rcases List.mem_cons.mp hmem with rfl | hmem
    · exact ⟨item, List.mem_cons_self, hat⟩
    · obtain ⟨other, hother, hotherAt⟩ := ih hmem
      exact ⟨other, List.mem_cons_of_mem _ hother, hotherAt⟩

theorem claimIds_of_claimsFor (hfor : ClaimsFor casefold items claims)
    (hrequest : ∀ item ∈ items, item.2.requestId = request) :
    normalizedIds casefold (claims.map (·.claimId)) = (items.map Prod.fst).map fun number =>
      normalizeId casefold (request ++ "-claim-" ++ paddedNumber number) := by
  induction hfor with
  | nil => rfl
  | cons hat hrest ih =>
    obtain ⟨hfirst, hlater⟩ := List.forall_mem_cons.mp hrequest
    rw [normalizedIds] at ih
    rw [normalizedIds, List.map_cons, List.map_cons, hat.claimId, hfirst, ih hlater, List.map_cons,
      List.map_cons]

theorem citationIds_of_claimsFor (hfor : ClaimsFor casefold items claims)
    (hrequest : ∀ item ∈ items, item.2.requestId = request) :
    normalizedIds casefold ((citations claims).map (·.2.citationId)) =
      (items.map Prod.fst).map fun number =>
        normalizeId casefold (request ++ "-citation-" ++ paddedNumber number) := by
  induction hfor with
  | nil => rfl
  | @cons item claim items claims hat hrest ih =>
    obtain ⟨hfirst, hlater⟩ := List.forall_mem_cons.mp hrequest
    have hcitations : citations (claim :: claims) =
        (claim, citationAt item.2 item.1) :: citations claims := by
      rw [citations, List.flatMap_cons, hat.citations]
      rfl
    rw [normalizedIds] at ih
    rw [normalizedIds, hcitations, List.map_cons, List.map_cons, ih hlater, List.map_cons,
      List.map_cons, citationAt, hfirst]

theorem claimSet_valid (hcasefold : CasefoldFacts casefold) (hvalid : set.Valid casefold)
    (hfor : ClaimsFor casefold items claims) (hpositions : (items.map Prod.fst).Nodup)
    (hitems : ∀ item ∈ items, item.2 ∈ set.evidence) :
    (⟨set.requestId, set, claims⟩ : ResearchClaimSet).Valid casefold := by
  have hrequest : ∀ item ∈ items, item.2.requestId = set.requestId :=
    fun item hmem => requestId_of_valid hvalid (hitems item hmem)
  have hchecked := ResearchEvidenceSet.validate_eq_ok.mp hvalid.set
  refine ⟨hvalid, fun claim hmem citation hcitation => ?_, fun claim hmem => ?_,
    ResearchClaimSet.validate_eq_ok.mpr ⟨hchecked.requestId, rfl, ?_, fun claim hmem => ?_⟩⟩
  · obtain ⟨item, hitem, hat⟩ := mem_of_claimsFor hfor hmem
    rw [hat.citations, List.mem_singleton] at hcitation
    rw [hcitation]
    exact citationAt_validate
      (ResearchEvidence.named_of_validate (hvalid.items item.2 (hitems item hitem))) item.1
  · obtain ⟨item, -, hat⟩ := mem_of_claimsFor hfor hmem
    exact hat.valid
  · rw [claimIds_of_claimsFor hfor hrequest]
    exact hpositions.map (normalizeId_numbered_injective hcasefold isLabel_claim _)
  · obtain ⟨item, hitem, hat⟩ := mem_of_claimsFor hfor hmem
    refine ⟨hat.requestId.trans (hrequest item hitem), fun citation hcitation => ?_, ?_, ?_⟩
    · rw [hat.citations, List.mem_singleton] at hcitation
      rw [hcitation]
      exact ⟨item.2, (byId_eq_some hchecked.ids).mpr ⟨hitems item hitem, rfl⟩,
        ⟨hat.taskId.symm, rfl, rfl, rfl, rfl, rfl⟩⟩
    · rw [hat.supporting]
      rfl
    · rw [hat.contradicting]
      rfl

def Builds (casefold : Casefold) (set : ResearchEvidenceSet) (items : List (ℕ × ResearchEvidence))
    (outcome : Except Raised ClaimBuild) : Prop :=
  ∃ build count, outcome = .ok build ∧ build.claimSet.evidenceSet = set ∧
    build.claimSet.Valid casefold ∧ ClaimsFor casefold (items.take count) build.claimSet.claims

theorem newClaimSet_eq_ok (h : (⟨set.requestId, set, claims⟩ : ResearchClaimSet).Valid casefold) :
    newClaimSet casefold set claims = .ok ⟨set.requestId, set, claims⟩ :=
  bind_eq_ok.mpr ⟨(), h.set, rfl⟩

include hgenerator

theorem buildSequential_builds (hcasefold : CasefoldFacts casefold) (hvalid : set.Valid casefold)
    (hpositions : (items.map Prod.fst).Nodup) (hitems : ∀ item ∈ items, item.2 ∈ set.evidence)
    (api : BudgetUsage) :
    Builds casefold set items (builder.buildSequential casefold set items api) := by
  have hnamed : ∀ item ∈ items, item.2.Named := fun item hmem =>
    ResearchEvidence.named_of_validate (hvalid.items item.2 (hitems item hmem))
  obtain ⟨count, made, ⟨logical, final⟩, hmade, hfor⟩ := @sequentialClaims_returns casefold builder
    hgenerator 0 [] .none api items hnamed
  have hset := claimSet_valid hcasefold hvalid hfor
    (hpositions.sublist ((List.take_sublist _ _).map _))
    fun item hmem => hitems item (List.mem_of_mem_take hmem)
  refine ⟨⟨⟨set.requestId, set, made⟩, logical, final⟩, count, ?_, rfl, hset, hfor⟩
  rw [buildSequential, hmade, ok_bind]
  dsimp only
  rw [List.nil_append, newClaimSet_eq_ok hset]
  rfl

theorem buildFrom_builds (hcasefold : CasefoldFacts casefold) (hvalid : set.Valid casefold)
    (start : ℕ) : ∃ count, Affords builder.budget 0 count ∧
      Builds casefold set (numbered start ((orderedEvidence casefold set).take count))
        (builder.buildFrom casefold set start) := by
  obtain ⟨count, logical, heligible, haffords⟩ :=
    eligible_returns builder.budget start .none (orderedEvidence casefold set)
  refine ⟨count, haffords, ?_⟩
  have hpositions : ((numbered start ((orderedEvidence casefold set).take count)).map
      Prod.fst).Nodup := by
    rw [map_fst_numbered]
    exact List.nodup_range'
  have hitems : ∀ item ∈ numbered start ((orderedEvidence casefold set).take count),
      item.2 ∈ set.evidence := by
    intro item hmem
    have htake := List.mem_of_mem_take (List.of_mem_zip hmem).2
    exact (List.mergeSort_perm _ _).mem_iff.mp htake
  generalize numbered start ((orderedEvidence casefold set).take count) = items at *
  unfold buildFrom
  rw [heligible, ok_bind]
  dsimp only
  by_cases hempty : items = []
  · have hset := @claimSet_valid casefold set [] [] hcasefold hvalid .nil List.nodup_nil (by simp)
    rw [if_pos hempty, newClaimSet_eq_ok hset]
    exact ⟨⟨⟨set.requestId, set, []⟩, .none, .none⟩, 0, rfl, rfl, hset, .nil⟩
  · rw [if_neg hempty]
    cases hbatch : builder.generator.generateBatch with
    | none => exact buildSequential_builds hgenerator hcasefold hvalid hpositions hitems .none
    | some generateBatch =>
      dsimp only
      cases houtcome : generateBatch (((itemIds items.length).zip items).map fun item =>
          (item.1, item.2.2)) with
      | error failure =>
        have hrecord : recordAttempt .none 0 0 = .ok (BudgetUsage.none.record 0 0) :=
          raiseIf_bind_eq_ok.mpr ⟨lt_irrefl 0, raiseIf_bind_eq_ok.mpr ⟨lt_irrefl 0, rfl⟩⟩
        dsimp only
        rw [if_pos (hgenerator.error _ _ failure hbatch houtcome), hrecord, ok_bind]
        exact buildSequential_builds hgenerator hcasefold hvalid hpositions hitems _
      | ok result =>
        obtain ⟨hidentified, hreported, hanswers⟩ :=
          hgenerator.batch _ _ result hbatch houtcome
        have hsecond : ((itemIds items.length).zip items).map Prod.snd = items :=
          map_snd_zip_itemIds items
        have hlookup : ∀ item ∈ (itemIds items.length).zip items,
            ∃ proposal, result.proposals.lookup item.1 = some proposal :=
          fun item hmem => hanswers _ (List.mem_map.mpr ⟨item, hmem, rfl⟩)
        have hnamed : ∀ item ∈ (itemIds items.length).zip items, item.2.2.Named :=
          fun item hmem => ResearchEvidence.named_of_validate
            (hvalid.items item.2.2 (hitems item.2 (List.of_mem_zip hmem).2))
        obtain ⟨claims, hclaims, hfor⟩ := batchClaims_returns hidentified hlookup hnamed
        rw [hsecond] at hfor
        have hset := claimSet_valid hcasefold hvalid hfor hpositions hitems
        dsimp only
        rw [hclaims, ok_bind, recordReport_eq_ok.mpr ⟨hreported, rfl⟩, ok_bind,
          newClaimSet_eq_ok hset]
        refine ⟨_, items.length, rfl, rfl, hset, ?_⟩
        rw [List.take_length]
        exact hfor

/-! ## Provenance -/

structure Cites (evidence : ResearchEvidence) (claim : ResearchClaim) : Prop where
  citation : ∃ citation, claim.citations = [citation] ∧
    citation.evidenceId = evidence.evidenceId ∧ Repeats claim citation evidence
  requestId : claim.requestId = evidence.requestId

structure Covers (casefold : Casefold) (budget : Option ExecutionBudget)
    (set : ResearchEvidenceSet) (claimSet : ResearchClaimSet) : Prop where
  evidenceSet : claimSet.evidenceSet = set
  valid : claimSet.Valid casefold
  cites : List.Forall₂ Cites ((orderedEvidence casefold set).take claimSet.claims.length)
    claimSet.claims
  length : ∀ limit, budget = some limit → claimSet.claims.length ≤ limit.maxAttempts

omit hgenerator in
theorem ClaimAt.cites {position : ℕ} {claim : ResearchClaim}
    (h : ClaimAt casefold evidence position claim) : Cites evidence claim :=
  ⟨⟨citationAt evidence position, h.citations, rfl, h.taskId.symm, rfl, rfl, rfl, rfl, rfl⟩,
    h.requestId⟩

omit hgenerator in
theorem cites_of_claimsFor {start : ℕ} {evidence : List ResearchEvidence}
    (hfor : ClaimsFor casefold (numbered start evidence) claims) :
    List.Forall₂ Cites evidence claims := by
  have hcites : List.Forall₂ Cites ((numbered start evidence).map Prod.snd) claims := by
    rw [List.forall₂_map_left_iff]
    exact hfor.imp fun _ _ hat => hat.cites
  rwa [map_snd_numbered] at hcites

theorem buildFrom_covers (hcasefold : CasefoldFacts casefold) (hvalid : set.Valid casefold)
    (start : ℕ) : ∃ build, builder.buildFrom casefold set start = .ok build ∧
      Covers casefold builder.budget set build.claimSet ∧
      ClaimsFor casefold (numbered start
        ((orderedEvidence casefold set).take build.claimSet.claims.length))
        build.claimSet.claims := by
  obtain ⟨count, haffords, build, taken, hbuild, hset, hbuilt, hfor⟩ :=
    buildFrom_builds hgenerator hcasefold hvalid start
  rw [take_numbered, List.take_take] at hfor
  have hlength : build.claimSet.claims.length =
      ((orderedEvidence casefold set).take (min taken count)).length :=
    (cites_of_claimsFor hfor).length_eq.symm
  have htake : (orderedEvidence casefold set).take build.claimSet.claims.length =
      (orderedEvidence casefold set).take (min taken count) := by
    rw [hlength, List.length_take, ← List.take_eq_take_min]
  rw [← htake] at hfor
  refine ⟨build, hbuild, ⟨hset, hbuilt, cites_of_claimsFor hfor, fun limit hlimit => ?_⟩, hfor⟩
  have hcount := haffords limit hlimit (Nat.zero_le _)
  rw [List.length_take] at hlength
  omega

omit hgenerator

structure DisjointEvidence (casefold : Casefold) (set new : ResearchEvidenceSet) : Prop where
  ids : ∀ item ∈ set.evidence, ∀ other ∈ new.evidence,
    normalizeId casefold item.evidenceId ≠ normalizeId casefold other.evidenceId
  ranges : ∀ item ∈ set.evidence, ∀ other ∈ new.evidence,
    rangeKey casefold item ≠ rangeKey casefold other

def evidenceUnion (set new : ResearchEvidenceSet) : ResearchEvidenceSet :=
  ⟨set.requestId, set.documentSet, set.evidence ++ new.evidence⟩

variable {new : ResearchEvidenceSet}

theorem evidenceUnion_valid (hvalid : set.Valid casefold)
    (hnew : new.Valid casefold) (hdocuments : new.documentSet = set.documentSet)
    (hdisjoint : DisjointEvidence casefold set new) : (evidenceUnion set new).Valid casefold := by
  have hset := ResearchEvidenceSet.validate_eq_ok.mp hvalid.set
  have hnewSet := ResearchEvidenceSet.validate_eq_ok.mp hnew.set
  have hrequest : new.requestId = set.requestId :=
    hnewSet.documents.symm.trans ((congrArg _ hdocuments).trans hset.documents)
  refine ⟨fun item hmem => ?_,
    ResearchEvidenceSet.validate_eq_ok.mpr ⟨hset.requestId, hset.documents, ?_, ?_, ?_⟩⟩
  · rcases List.mem_append.mp hmem with hold | hadded
    · exact hvalid.items item hold
    · exact hnew.items item hadded
  · rw [evidenceUnion, List.map_append, List.nodup_append]
    refine ⟨hset.ids, hnewSet.ids, fun id hid other hother => ?_⟩
    obtain ⟨item, hitem, rfl⟩ := List.mem_map.mp hid
    obtain ⟨added, hadded, rfl⟩ := List.mem_map.mp hother
    exact hdisjoint.ids item hitem added hadded
  · intro item hmem
    rcases List.mem_append.mp hmem with hold | hadded
    · exact hset.items item hold
    · have hitem := hnewSet.items item hadded
      rw [validateItem, hrequest, hdocuments] at hitem
      exact hitem
  · rw [evidenceUnion, List.map_append, List.nodup_append]
    refine ⟨hset.ranges, hnewSet.ranges, fun range hrange other hother => ?_⟩
    obtain ⟨item, hitem, rfl⟩ := List.mem_map.mp hrange
    obtain ⟨added, hadded, rfl⟩ := List.mem_map.mp hother
    exact hdisjoint.ranges item hitem added hadded

structure Together (casefold : Casefold) (set : ResearchEvidenceSet) (claims : List ResearchClaim) :
    Prop where
  valid : (⟨set.requestId, set, claims⟩ : ResearchClaimSet).Valid casefold
  claimIds : (normalizedIds casefold (claims.map (·.claimId))).Nodup
  citationIds : (normalizedIds casefold ((citations claims).map (·.2.citationId))).Nodup

theorem builds_together {later : GenerativePipelineClaimBuilder}
    (hgenerator : Behaves builder.generator) (hlater : Behaves later.generator)
    (hcasefold : CasefoldFacts casefold) (hvalid : set.Valid casefold) (hnew : new.Valid casefold)
    (hdocuments : new.documentSet = set.documentSet)
    (hdisjoint : DisjointEvidence casefold set new) : ∃ first second,
      builder.build casefold set = .ok first ∧
      later.buildIncremental casefold new (first.claimSet.claims.length + 1) = .ok second ∧
      Together casefold (evidenceUnion set new)
        (first.claimSet.claims ++ second.claimSet.claims) := by
  obtain ⟨first, hfirst, -, hfirstFor⟩ := buildFrom_covers hgenerator hcasefold hvalid 1
  obtain ⟨second, hsecond, -, hsecondFor⟩ :=
    buildFrom_covers hlater hcasefold hnew (first.claimSet.claims.length + 1)
  have hstart : ¬((first.claimSet.claims.length : ℤ) + 1 < 1) := by omega
  have hfor := List.rel_append hfirstFor hsecondFor
  have hunion := evidenceUnion_valid hvalid hnew hdocuments hdisjoint
  have hpositions : ((numbered 1
        ((orderedEvidence casefold set).take first.claimSet.claims.length) ++
      numbered (first.claimSet.claims.length + 1)
        ((orderedEvidence casefold new).take second.claimSet.claims.length)).map
          Prod.fst).Nodup := by
    have hlength := (cites_of_claimsFor hfirstFor).length_eq
    rw [List.map_append, map_fst_numbered, map_fst_numbered, hlength, Nat.add_comm,
      List.range'_append_1]
    exact List.nodup_range'
  have hitems : ∀ item ∈ numbered 1
        ((orderedEvidence casefold set).take first.claimSet.claims.length) ++
      numbered (first.claimSet.claims.length + 1)
        ((orderedEvidence casefold new).take second.claimSet.claims.length),
      item.2 ∈ (evidenceUnion set new).evidence := by
    intro item hmem
    rcases List.mem_append.mp hmem with hold | hadded
    · have htake := List.mem_of_mem_take (List.of_mem_zip hold).2
      exact List.mem_append_left _ ((List.mergeSort_perm _ _).mem_iff.mp htake)
    · have htake := List.mem_of_mem_take (List.of_mem_zip hadded).2
      exact List.mem_append_right _ ((List.mergeSort_perm _ _).mem_iff.mp htake)
  have hrequest := fun item hmem => requestId_of_valid hunion (hitems item hmem)
  refine ⟨first, second, hfirst, ?_, claimSet_valid hcasefold hunion hfor hpositions hitems, ?_, ?_⟩
  · rw [buildIncremental, raiseIf, if_neg hstart, ok_bind]
    exact hsecond
  · rw [claimIds_of_claimsFor hfor hrequest]
    exact hpositions.map (normalizeId_numbered_injective hcasefold isLabel_claim _)
  · rw [citationIds_of_claimsFor hfor hrequest]
    exact hpositions.map (normalizeId_numbered_injective hcasefold isLabel_citation _)

/-- Builds cite a prefix of the ordered evidence, and a build that continues another one goes
together with it. -/
theorem generated_claims_keep_provenance (casefold : Casefold)
    (hcasefold : CasefoldFacts casefold) :
    (∀ (builder : GenerativePipelineClaimBuilder) (set : ResearchEvidenceSet),
      Behaves builder.generator → set.Valid casefold →
        (∃ result, builder.build casefold set = .ok result ∧
          Covers casefold builder.budget set result.claimSet) ∧
        ∀ startPosition : ℤ, 1 ≤ startPosition → ∃ result,
          builder.buildIncremental casefold set startPosition = .ok result ∧
            Covers casefold builder.budget set result.claimSet) ∧
    ∀ (builder later : GenerativePipelineClaimBuilder) (set new : ResearchEvidenceSet),
      Behaves builder.generator → Behaves later.generator → set.Valid casefold →
        new.Valid casefold → new.documentSet = set.documentSet →
        DisjointEvidence casefold set new → ∃ first second,
          builder.build casefold set = .ok first ∧
          later.buildIncremental casefold new (first.claimSet.claims.length + 1) = .ok second ∧
          Together casefold (evidenceUnion set new)
            (first.claimSet.claims ++ second.claimSet.claims) := by
  refine ⟨fun builder set hgenerator hvalid => ⟨?_, fun startPosition hstart => ?_⟩,
    fun builder later set new hgenerator hlater hvalid hnew hdocuments hdisjoint =>
      builds_together hgenerator hlater hcasefold hvalid hnew hdocuments hdisjoint⟩
  · obtain ⟨result, hresult, hcovers, -⟩ := buildFrom_covers hgenerator hcasefold hvalid 1
    exact ⟨result, hresult, hcovers⟩
  · obtain ⟨result, hresult, hcovers, -⟩ :=
      buildFrom_covers hgenerator hcasefold hvalid startPosition.toNat
    rw [buildIncremental, raiseIf, if_neg (not_lt.mpr hstart), ok_bind]
    exact ⟨result, hresult, hcovers⟩

theorem casefoldFacts_ascii : CasefoldFacts asciiCasefold where
  append first second := by
    rw [← String.toList_inj, String.toList_append]
    simp only [asciiCasefold, String.toList_ofList, String.toList_append, List.map_append]
  keeps _ htext := asciiCasefold_eq_self htext

theorem sampleTokens_pos : 1 ≤ 5 := by decide

def sampleBuilder : GenerativePipelineClaimBuilder where
  generator := ⟨fun _ _ => ⟨⟨"response", none, some 7, 1⟩, ⟨"statement", "rationale",
    by decide +kernel, rationale_isBlank⟩⟩, none⟩
  budget := some ⟨1, 5, 60, Nat.one_pos, sampleTokens_pos, by norm_num⟩

theorem sampleBuilder_behaves : Behaves sampleBuilder.generator where
  single _ _ := by
    have hresponse : isBlank "response" = false := by decide +kernel
    have htokens : (0 : ℤ) ≤ 7 := by decide
    exact ⟨⟨hresponse, rfl⟩, htokens, zero_le_one⟩
  error _ _ _ hbatch := nomatch hbatch
  batch _ _ _ hbatch := nomatch hbatch

def newEvidenceSet : ResearchEvidenceSet :=
  ⟨"request", sampleEvidenceSet.documentSet,
    [⟨"E-2", "request", "task", "source", "document", none, "tex", 0, 3, .neutral, 1, 1, none, []⟩]⟩

theorem newEvidenceSet_valid : newEvidenceSet.Valid asciiCasefold := by
  refine ⟨fun item hmem => ?_, by decide +kernel⟩
  rw [List.mem_singleton.mp hmem]
  decide +kernel

theorem newEvidenceSet_disjoint :
    DisjointEvidence asciiCasefold sampleEvidenceSet newEvidenceSet where
  ids := by decide +kernel
  ranges := by decide +kernel

theorem generated_claims_sample : ∃ first second,
    sampleBuilder.build asciiCasefold sampleEvidenceSet = .ok first ∧
    sampleBuilder.buildIncremental asciiCasefold newEvidenceSet
      (first.claimSet.claims.length + 1) = .ok second ∧
    Together asciiCasefold (evidenceUnion sampleEvidenceSet newEvidenceSet)
      (first.claimSet.claims ++ second.claimSet.claims) :=
  (generated_claims_keep_provenance asciiCasefold casefoldFacts_ascii).2 sampleBuilder sampleBuilder
    sampleEvidenceSet newEvidenceSet sampleBuilder_behaves sampleBuilder_behaves
    sampleEvidenceSet_valid newEvidenceSet_valid rfl newEvidenceSet_disjoint

end AgenticLab.ResearchClaims
