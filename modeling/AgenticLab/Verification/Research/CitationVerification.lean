import AgenticLab.Verification.Research.ClaimSets

/-! # Which claim sets the citation verification service verifies -/

namespace AgenticLab.ResearchClaims

open EvidenceReranking SemanticCitationVerificationService

variable {casefold : Casefold}

def CitedPair.query (pair : CitedPair) : String × String := (pair.claim.text, pair.evidence.excerpt)

structure CitedPair.Named (pair : CitedPair) : Prop where
  claimId : isBlank pair.claim.claimId = false
  citationId : isBlank pair.citation.citationId = false
  evidenceId : isBlank pair.evidence.evidenceId = false
  sourceId : isBlank pair.evidence.sourceId = false

def Found (set : ResearchEvidenceSet) (cited : ResearchClaim × ResearchCitation)
    (pair : CitedPair) : Prop :=
  (pair.claim, pair.citation) = cited ∧ evidenceById set cited.2.evidenceId = some pair.evidence

variable {set : ResearchEvidenceSet} {cited : List (ResearchClaim × ResearchCitation)}
  {pairs : List CitedPair}

theorem pairsOf_eq_ok : pairsOf set cited = .ok pairs ↔ List.Forall₂ (Found set) cited pairs := by
  induction cited generalizing pairs with
  | nil => simp [pairsOf, eq_comm]
  | cons first rest ih =>
    obtain ⟨claim, citation⟩ := first
    rw [pairsOf, List.forall₂_cons_left_iff]
    cases hevidence : evidenceById set citation.evidenceId with
    | none =>
      refine iff_of_false (by simp) ?_
      rintro ⟨pair, later, ⟨-, hfound⟩, -⟩
      exact absurd (hevidence.symm.trans hfound) (by simp)
    | some evidence =>
      dsimp only
      rw [bind_eq_ok]
      constructor
      · rintro ⟨later, hlater, heq⟩
        exact ⟨_, later, ⟨rfl, hevidence⟩, ih.mp hlater, (Except.ok.inj heq).symm⟩
      · rintro ⟨⟨_, _, found⟩, later, ⟨hpair, hfound⟩, hlater, rfl⟩
        obtain ⟨rfl, rfl⟩ := Prod.mk.inj hpair
        obtain rfl : evidence = found := Option.some.inj (hevidence.symm.trans hfound)
        exact ⟨later, ih.mpr hlater, rfl⟩

theorem pairsOf_returns : (∃ pairs, pairsOf set cited = .ok pairs) ↔
      ∀ item ∈ cited, ∃ evidence ∈ set.evidence, evidence.evidenceId = item.2.evidenceId := by
  induction cited with
  | nil => simp [pairsOf]
  | cons first rest ih =>
    obtain ⟨claim, citation⟩ := first
    rw [List.forall_mem_cons, ← ih, pairsOf]
    cases hevidence : evidenceById set citation.evidenceId with
    | none =>
      refine iff_of_false (by simp) ?_
      rintro ⟨⟨evidence, hmem, hid⟩, -⟩
      exact absurd hid (by simpa using List.find?_eq_none.mp hevidence evidence (by simpa))
    | some evidence =>
      have hmem := List.mem_of_find?_eq_some hevidence
      have hid := List.find?_some hevidence
      have hexists : ∃ evidence ∈ set.evidence, evidence.evidenceId = citation.evidenceId :=
        ⟨evidence, List.mem_reverse.mp hmem, of_decide_eq_true hid⟩
      simp [bind_eq_ok, hexists]

/-! ## Judgments -/

structure Fitting (responseId : String) (judgment : SemanticCitationJudgment casefold)
    (decision : ResearchCitationDecision) : Prop where
  responseId : isBlank responseId = false
  decision : decision = expectedDecision judgment.supportLevel

structure Carries (pair : CitedPair) (judgment : SemanticCitationJudgment casefold)
    (decision : ResearchCitationDecision) (verification : ResearchCitationVerification) : Prop where
  claimId : verification.claimId = pair.claim.claimId
  citationId : verification.citationId = pair.citation.citationId
  evidenceId : verification.evidenceId = pair.evidence.evidenceId
  sourceId : verification.sourceId = pair.evidence.sourceId
  decision : verification.decision = decision
  supportLevel : verification.supportLevel = some judgment.supportLevel
  entailmentScore : verification.entailmentScore = judgment.entailmentScore
  rationale : verification.rationale = judgment.rationale
  issues : verification.issues = judgment.issues

/-- Where a judgment on a claim text and an excerpt comes from: a single evaluation of them, or
the only item of a batch that has its id. -/
inductive JudgedOn (evaluator : SemanticCitationEvaluator casefold) (query : String × String)
    (judgment : SemanticCitationJudgment casefold) (decision : ResearchCitationDecision) : Prop
  | single (call : ℕ) (hjudgment : (evaluator.evaluate call query.1 query.2).judgment = judgment)
      (hdecision : (evaluator.evaluate call query.1 query.2).decision = decision)
  | batch (evaluateBatch : List (String × String × String) → CitationBatchCall casefold)
      (items : List (String × String × String))
      (result : SemanticCitationBatchEvaluationResult casefold) (itemId : String)
      (hbatch : evaluator.evaluateBatch = some evaluateBatch)
      (houtcome : (evaluateBatch items).outcome = .ok result)
      (hids : (items.map Prod.fst).Nodup) (hitem : (itemId, query) ∈ items)
      (hjudgment : result.judgments.lookup itemId = some judgment)
      (hdecision : result.decisions.lookup itemId = some decision)

def Verified (evaluator : SemanticCitationEvaluator casefold) (pair : CitedPair)
    (verification : ResearchCitationVerification) : Prop :=
  ∃ judgment decision, Carries pair judgment decision verification ∧
    JudgedOn evaluator pair.query judgment decision

variable {service : SemanticCitationVerificationService casefold}
  (hfactory : ∀ number, isBlank (service.verificationIdFactory number) = false)

include hfactory

variable {number : ℕ}

theorem buildVerification_returns {pair : CitedPair} (hpair : pair.Named)
    {judgment : SemanticCitationJudgment casefold} {decision : ResearchCitationDecision}
    {responseId : String} :
    (∃ verification, service.buildVerification number pair judgment decision responseId =
      .ok verification) ↔ Fitting responseId judgment decision := by
  have hfresh : strip (service.verificationIdFactory number) ≠ "" := by
    simpa [isBlank] using hfactory number
  have hstripped : isBlank (strip (service.verificationIdFactory number)) = false :=
    (isBlank_strip _).trans (hfactory number)
  have hone : isScore 1 = true := by decide +kernel
  have hscore : isScore judgment.entailmentScore = true := by
    simpa [isScore] using judgment.score_range
  have htexts : requireTexts [("verification_id", strip (service.verificationIdFactory number)),
      ("claim_id", pair.claim.claimId), ("citation_id", pair.citation.citationId),
      ("evidence_id", pair.evidence.evidenceId), ("source_id", pair.evidence.sourceId),
      ("rationale", judgment.rationale)] = .ok () := by
    rw [requireTexts_eq_ok]
    simp [hstripped, hpair.claimId, hpair.citationId, hpair.evidenceId, hpair.sourceId,
      judgment.rationale_isBlank]
  have hmetadata : validateMetadata [("response_id", responseId)] = .ok () ↔
      isBlank responseId = false := by
    have hkey : isBlank "response_id" = false := by decide +kernel
    simp [validateMetadata_eq_ok, hkey]
  have hissues : ¬(judgment.issues.any isBlank = true) := by simp [judgment.issues_isBlank]
  rw [buildVerification]
  simp only [ResearchCitationVerification.validate, bind_eq_ok, htexts]
  simp only [hfresh, hone, hscore, hissues, judgment.issues_nodup, hmetadata, raiseIf_eq_ok,
    Bool.false_eq_true, not_false_eq_true, not_true_eq_false, reduceCtorEq, exists_const, true_and,
    ne_eq, exists_and_left, Option.any_some, decide_eq_true_eq, not_not, pure_eq_ok,
    Except.ok.injEq, exists_eq', and_true]
  constructor
  · rintro ⟨hdecision, hid⟩
    exact ⟨hid, hdecision⟩
  · intro h
    exact ⟨h.decision, h.responseId⟩

omit hfactory in
theorem carries_of_buildVerification {pair : CitedPair}
    {judgment : SemanticCitationJudgment casefold} {decision : ResearchCitationDecision}
    {responseId : String} {verification : ResearchCitationVerification}
    (h : service.buildVerification number pair judgment decision responseId = .ok verification) :
    Carries pair judgment decision verification := by
  rw [buildVerification] at h
  obtain ⟨-, h⟩ := raiseIf_bind_eq_ok.mp h
  obtain ⟨_, -, heq⟩ := bind_eq_ok.mp h
  obtain rfl := Except.ok.inj heq
  exact ⟨rfl, rfl, rfl, rfl, rfl, rfl, rfl, rfl, rfl⟩

def SinglesFit (evaluator : SemanticCitationEvaluator casefold) (number : ℕ)
    (queries : List (String × String)) : Prop :=
  ∀ item ∈ queries.zipIdx number,
    Reported (evaluator.evaluate item.2 item.1.1 item.1.2).toCallReport ∧
      Fitting (evaluator.evaluate item.2 item.1.1 item.1.2).responseId
        (evaluator.evaluate item.2 item.1.1 item.1.2).judgment
        (evaluator.evaluate item.2 item.1.1 item.1.2).decision

theorem verifySequential_returns {run : VerificationRun} (hpairs : ∀ pair ∈ pairs, pair.Named) :
    (∃ final, service.verifySequential number run pairs = .ok final) ↔
      SinglesFit service.evaluator number (pairs.map CitedPair.query) := by
  induction pairs generalizing number run with
  | nil => simp [verifySequential, SinglesFit]
  | cons pair pairs ih =>
    obtain ⟨hpair, hpairs⟩ := List.forall_mem_cons.mp hpairs
    rw [verifySequential, SinglesFit, List.map_cons, List.zipIdx_cons, List.forall_mem_cons]
    dsimp only
    simp only [bind_eq_ok, recordReport_eq_ok]
    constructor
    · rintro ⟨final, usage, ⟨hreported, -⟩, verification, hbuild, hrest⟩
      exact ⟨⟨hreported, (buildVerification_returns hfactory hpair).mp ⟨_, hbuild⟩⟩,
        (ih hpairs).mp ⟨final, hrest⟩⟩
    · rintro ⟨⟨hreported, hfitting⟩, hrest⟩
      obtain ⟨verification, hbuild⟩ := (buildVerification_returns hfactory hpair).mpr hfitting
      obtain ⟨final, hfinal⟩ := (ih hpairs).mpr hrest
      exact ⟨final, _, ⟨hreported, rfl⟩, verification, hbuild, hfinal⟩

omit hfactory in
theorem verifySequential_eq_ok {run final : VerificationRun}
    (h : service.verifySequential number run pairs = .ok final)
    (hcalls : run.lastUsage.attempts = run.calls) :
    (∃ made, final.verifications = run.verifications ++ made ∧
      List.Forall₂ (Verified service.evaluator) pairs made) ∧
      final.lastUsage.attempts = final.calls := by
  induction pairs generalizing number run with
  | nil =>
    obtain rfl := Except.ok.inj h
    exact ⟨⟨[], (List.append_nil _).symm, .nil⟩, hcalls⟩
  | cons pair pairs ih =>
    rw [verifySequential] at h
    obtain ⟨usage, hrecord, h⟩ := bind_eq_ok.mp h
    obtain ⟨-, rfl⟩ := recordReport_eq_ok.mp hrecord
    obtain ⟨verification, hbuild, h⟩ := bind_eq_ok.mp h
    obtain ⟨⟨made, hmade, hverified⟩, hfinal⟩ := ih h (congrArg (· + 1) hcalls)
    refine ⟨⟨verification :: made, ?_, .cons ?_ hverified⟩, hfinal⟩
    · rw [hmade, List.append_assoc, List.singleton_append]
    · exact ⟨_, _, carries_of_buildVerification hbuild, .single number rfl rfl⟩

/-! ## Batches -/

def Answers (result : SemanticCitationBatchEvaluationResult casefold) (itemId : String) : Prop :=
  ∃ judgment decision, result.judgments.lookup itemId = some judgment ∧
    result.decisions.lookup itemId = some decision ∧ Fitting result.responseId judgment decision

omit hfactory in
theorem itemOf_eq_ok {α : Type} {items : List (String × α)} {itemId : String} {item : α} :
    itemOf items itemId = .ok item ↔ items.lookup itemId = some item := by
  rw [itemOf]
  cases items.lookup itemId <;> simp

theorem verifyItems_returns {result : SemanticCitationBatchEvaluationResult casefold}
    {items : List (String × CitedPair)} (hitems : ∀ item ∈ items, item.2.Named) :
    (∃ verifications, service.verifyItems result number items = .ok verifications) ↔
      ∀ item ∈ items, Answers result item.1 := by
  induction items generalizing number with
  | nil => simp [verifyItems]
  | cons item items ih =>
    obtain ⟨itemId, pair⟩ := item
    obtain ⟨hpair, hitems⟩ := List.forall_mem_cons.mp hitems
    rw [verifyItems, List.forall_mem_cons]
    simp only [bind_eq_ok, itemOf_eq_ok]
    constructor
    · rintro ⟨_, judgment, hjudgment, decision, hdecision, verification, hbuild, rest, hrest, -⟩
      exact ⟨⟨judgment, decision, hjudgment, hdecision,
        (buildVerification_returns hfactory hpair).mp ⟨_, hbuild⟩⟩,
        (ih hitems).mp ⟨rest, hrest⟩⟩
    · rintro ⟨⟨judgment, decision, hjudgment, hdecision, hfitting⟩, hanswers⟩
      obtain ⟨verification, hbuild⟩ := (buildVerification_returns hfactory hpair).mpr hfitting
      obtain ⟨rest, hrest⟩ := (ih hitems).mpr hanswers
      exact ⟨_, judgment, hjudgment, decision, hdecision, verification, hbuild, rest, hrest, rfl⟩

omit hfactory in
theorem verifyItems_eq_ok {result : SemanticCitationBatchEvaluationResult casefold}
    {items : List (String × CitedPair)} {verifications : List ResearchCitationVerification}
    (h : service.verifyItems result number items = .ok verifications) :
    List.Forall₂ (fun item verification => ∃ judgment decision,
      result.judgments.lookup item.1 = some judgment ∧
      result.decisions.lookup item.1 = some decision ∧
      Carries item.2 judgment decision verification) items verifications := by
  induction items generalizing number verifications with
  | nil =>
    obtain rfl := Except.ok.inj h
    exact .nil
  | cons item items ih =>
    obtain ⟨itemId, pair⟩ := item
    rw [verifyItems] at h
    obtain ⟨judgment, hjudgment, h⟩ := bind_eq_ok.mp h
    obtain ⟨decision, hdecision, h⟩ := bind_eq_ok.mp h
    obtain ⟨verification, hbuild, h⟩ := bind_eq_ok.mp h
    obtain ⟨rest, hrest, heq⟩ := bind_eq_ok.mp h
    obtain rfl := Except.ok.inj heq
    exact .cons ⟨judgment, decision, itemOf_eq_ok.mp hjudgment, itemOf_eq_ok.mp hdecision,
      carries_of_buildVerification hbuild⟩ (ih hrest)

def BatchFits (evaluator : SemanticCitationEvaluator casefold) (call : CitationBatchCall casefold)
    (queries : List (String × String)) : Prop :=
  match call.outcome with
  | .error failure => failure.cls ∈ batchFallbackErrors ∧ SinglesFit evaluator 0 queries
  | .ok result => Reported result.toCallReport ∧ ∀ itemId ∈ itemIds queries.length,
      Answers result itemId

variable {evaluateBatch : List (String × String × String) → CitationBatchCall casefold}
  {pairs : List CitedPair} {run : VerificationRun}

omit hfactory in
theorem citationItems_eq (pairs : List CitedPair) : citationItems pairs =
    (itemIds (pairs.map CitedPair.query).length).zip (pairs.map CitedPair.query) := by
  rw [List.length_map, List.zip_map_right]
  rfl

theorem verifyBatchCapable_returns (hpairs : ∀ pair ∈ pairs, pair.Named) :
    (∃ run, service.verifyBatchCapable evaluateBatch pairs = .ok run) ↔
      BatchFits service.evaluator (evaluateBatch (citationItems pairs))
        (pairs.map CitedPair.query) := by
  unfold verifyBatchCapable BatchFits
  dsimp only
  cases (evaluateBatch (citationItems pairs)).outcome with
  | error failure =>
    dsimp only
    by_cases hfalls : failure.cls ∈ batchFallbackErrors
    · rw [if_pos hfalls, recordAttempt_fallback, ok_bind, verifySequential_returns hfactory hpairs]
      exact (and_iff_right hfalls).symm
    · rw [if_neg hfalls]
      exact iff_of_false (by simp) fun h => hfalls h.1
  | ok result =>
    have hitems : ∀ item ∈ (itemIds pairs.length).zip pairs, item.2.Named :=
      fun item hmem => hpairs item.2 (List.of_mem_zip hmem).2
    have hanswers : (∀ item ∈ (itemIds pairs.length).zip pairs, Answers result item.1) ↔
        ∀ itemId ∈ itemIds pairs.length, Answers result itemId := by
      rw [← map_fst_zip_itemIds pairs, List.forall_mem_map, map_fst_zip_itemIds]
    dsimp only
    rw [List.length_map, ← hanswers, ← verifyItems_returns hfactory hitems]
    simp only [bind_eq_ok, recordReport_eq_ok]
    constructor
    · rintro ⟨_, _, ⟨hreported, -⟩, verifications, hverifications, -⟩
      exact ⟨hreported, verifications, hverifications⟩
    · rintro ⟨hreported, verifications, hverifications⟩
      exact ⟨_, _, ⟨hreported, rfl⟩, verifications, hverifications, rfl⟩

omit hfactory in
theorem verifyBatchCapable_eq_ok (hbatch : service.evaluator.evaluateBatch = some evaluateBatch)
    (h : service.verifyBatchCapable evaluateBatch pairs = .ok run) :
    List.Forall₂ (Verified service.evaluator) pairs run.verifications ∧
      run.lastUsage.attempts = run.calls := by
  unfold verifyBatchCapable at h
  dsimp only at h
  cases houtcome : (evaluateBatch (citationItems pairs)).outcome with
  | error failure =>
    rw [houtcome] at h
    dsimp only at h
    split_ifs at h
    rw [recordAttempt_fallback, ok_bind] at h
    obtain ⟨⟨made, hmade, hverified⟩, hcalls⟩ := verifySequential_eq_ok h rfl
    rw [hmade]
    exact ⟨hverified, hcalls⟩
  | ok result =>
    rw [houtcome] at h
    obtain ⟨usage, hrecord, h⟩ := bind_eq_ok.mp h
    obtain ⟨-, rfl⟩ := recordReport_eq_ok.mp hrecord
    obtain ⟨verifications, hverifications, heq⟩ := bind_eq_ok.mp h
    obtain rfl := Except.ok.inj heq
    refine ⟨?_, rfl⟩
    have hmade := verifyItems_eq_ok hverifications
    have hids : ((citationItems pairs).map Prod.fst).Nodup := by
      rw [citationItems_eq, map_fst_zip_itemIds]
      exact nodup_itemIds _
    have hverified : List.Forall₂ (Verified service.evaluator)
        (((itemIds pairs.length).zip pairs).map Prod.snd) verifications := by
      rw [List.forall₂_map_left_iff]
      refine ((List.forall₂_and_left _ _).mpr ⟨fun _ hmem => hmem, hmade⟩).imp ?_
      rintro item verification ⟨hmem, judgment, decision, hjudgment, hdecision, hcarries⟩
      have hitem : (item.1, item.2.query) ∈ citationItems pairs :=
        List.mem_map.mpr ⟨item, hmem, rfl⟩
      exact ⟨judgment, decision, hcarries,
        .batch evaluateBatch _ result item.1 hbatch houtcome hids hitem hjudgment hdecision⟩
    rwa [map_snd_zip_itemIds] at hverified

/-! ## Claim sets -/

variable {claimSet : ResearchClaimSet} {cited : ResearchClaim × ResearchCitation} {pair : CitedPair}

omit hfactory

theorem exists_named_of_valid (hvalid : claimSet.Valid casefold)
    (hmem : cited ∈ citations claimSet.claims) : ∃ evidence,
      byId casefold (·.evidenceId) claimSet.evidenceSet.evidence cited.2.evidenceId =
        some evidence ∧ Repeats cited.1 cited.2 evidence := by
  obtain ⟨claim, hclaim, hpaired⟩ := List.mem_flatMap.mp hmem
  obtain ⟨citation, hcitation, rfl⟩ := List.mem_map.mp hpaired
  exact ((ResearchClaimSet.validate_eq_ok.mp hvalid.set).claims claim hclaim).citations citation
    hcitation

theorem Found.named (hvalid : claimSet.Valid casefold) (hmem : cited ∈ citations claimSet.claims)
    (hfound : Found claimSet.evidenceSet cited pair) :
    byId casefold (·.evidenceId) claimSet.evidenceSet.evidence cited.2.evidenceId =
        some pair.evidence ∧ pair.query = (cited.1.text, cited.2.excerpt) ∧ pair.Named := by
  obtain ⟨claim, hclaim, hpaired⟩ := List.mem_flatMap.mp hmem
  obtain ⟨citation, hcitation, rfl⟩ := List.mem_map.mp hpaired
  obtain ⟨hpair, hevidence⟩ := hfound
  obtain ⟨hpairClaim, hpairCitation⟩ := Prod.mk.inj hpair
  rw [evidenceById] at hevidence
  have hevidenceMem := List.mem_reverse.mp (List.mem_of_find?_eq_some hevidence)
  have hsame := List.find?_some hevidence
  have hid : pair.evidence.evidenceId = citation.evidenceId := of_decide_eq_true hsame
  have hchecked := ResearchEvidenceSet.validate_eq_ok.mp hvalid.evidence.set
  have hnamed : byId casefold (·.evidenceId) claimSet.evidenceSet.evidence citation.evidenceId =
      some pair.evidence :=
    (byId_eq_some hchecked.ids).mpr ⟨hevidenceMem, congrArg (normalizeId casefold) hid⟩
  obtain ⟨other, hother, hrepeats⟩ := exists_named_of_valid hvalid hmem
  obtain rfl : pair.evidence = other := Option.some.inj (hnamed.symm.trans hother)
  have hevidenceNamed := ResearchEvidence.named_of_validate
    (hvalid.evidence.items pair.evidence hevidenceMem)
  refine ⟨hnamed, ?_, ?_, ?_, hevidenceNamed.evidenceId, hevidenceNamed.sourceId⟩
  · rw [CitedPair.query, hpairClaim, hrepeats.excerpt]
  · rw [hpairClaim]
    exact ResearchClaim.claimId_of_validate (hvalid.claims claim hclaim)
  · rw [hpairCitation]
    exact ResearchCitation.citationId_of_validate (hvalid.citations claim hclaim citation hcitation)

def VerifiedCitation (evaluator : SemanticCitationEvaluator casefold) (set : ResearchEvidenceSet)
    (cited : ResearchClaim × ResearchCitation) (verification : ResearchCitationVerification) : Prop :=
  ∃ evidence, byId casefold (·.evidenceId) set.evidence cited.2.evidenceId = some evidence ∧
    Verified evaluator ⟨cited.1, cited.2, evidence⟩ verification

def Verifies (service : SemanticCitationVerificationService casefold)
    (claimSet : ResearchClaimSet) : Prop :=
  ∃ run, service.verify claimSet claimSet.evidenceSet = .ok run ∧
    List.Forall₂ (VerifiedCitation service.evaluator claimSet.evidenceSet)
      (citations claimSet.claims) run.verifications ∧
    run.lastUsage.attempts = run.calls

def queries (claims : List ResearchClaim) : List (String × String) :=
  (citations claims).map fun cited => (cited.1.text, cited.2.excerpt)

def WritesIds (claimSet : ResearchClaimSet) : Prop :=
  ∀ cited ∈ citations claimSet.claims, ∃ evidence ∈ claimSet.evidenceSet.evidence,
    evidence.evidenceId = cited.2.evidenceId

def AnswersFit (evaluator : SemanticCitationEvaluator casefold)
    (queries : List (String × String)) : Prop :=
  match evaluator.evaluateBatch with
  | none => SinglesFit evaluator 0 queries
  | some evaluateBatch =>
    BatchFits evaluator (evaluateBatch ((itemIds queries.length).zip queries)) queries

theorem pairs_of_found (hvalid : claimSet.Valid casefold)
    {items : List (ResearchClaim × ResearchCitation)}
    (hitems : ∀ item ∈ items, item ∈ citations claimSet.claims)
    (hfound : List.Forall₂ (Found claimSet.evidenceSet) items pairs) :
    pairs.map CitedPair.query = items.map (fun cited => (cited.1.text, cited.2.excerpt)) ∧
      (∀ pair ∈ pairs, pair.Named) ∧
      ∀ (evaluator : SemanticCitationEvaluator casefold) verifications,
        List.Forall₂ (Verified evaluator) pairs verifications →
        List.Forall₂ (VerifiedCitation evaluator claimSet.evidenceSet) items verifications := by
  induction hfound with
  | nil =>
    refine ⟨rfl, by simp, fun evaluator verifications h => ?_⟩
    cases h
    exact .nil
  | @cons cited pair items pairs hpair hrest ih =>
    obtain ⟨hfirst, hitems⟩ := List.forall_mem_cons.mp hitems
    obtain ⟨hnamed, hquery, hids⟩ := hpair.named hvalid hfirst
    obtain ⟨hqueries, hall, hverified⟩ := ih hitems
    refine ⟨by rw [List.map_cons, List.map_cons, hquery, hqueries],
      List.forall_mem_cons.mpr ⟨hids, hall⟩, fun evaluator verifications h => ?_⟩
    cases h with
    | cons hhead htail =>
      have hsame : (⟨cited.1, cited.2, pair.evidence⟩ : CitedPair) = pair := by rw [← hpair.1]
      exact .cons ⟨pair.evidence, hnamed, hsame ▸ hhead⟩ (hverified evaluator _ htail)

include hfactory in
theorem verifies_iff (hvalid : claimSet.Valid casefold) :
    Verifies service claimSet ↔ WritesIds claimSet ∧
      (queries claimSet.claims ≠ [] → AnswersFit service.evaluator (queries claimSet.claims)) := by
  have hrequest : ¬claimSet.requestId ≠ claimSet.evidenceSet.requestId :=
    not_not.mpr (ResearchClaimSet.validate_eq_ok.mp hvalid.set).evidence.symm
  unfold Verifies verify
  rw [raiseIf, if_neg hrequest, ok_bind]
  by_cases hwrites : WritesIds claimSet
  · obtain ⟨pairs, hpairs⟩ := pairsOf_returns.mpr hwrites
    obtain ⟨hqueries, hnamed, hverified⟩ :=
      pairs_of_found hvalid (fun _ hmem => hmem) (pairsOf_eq_ok.mp hpairs)
    rw [hpairs, ok_bind, and_iff_right hwrites, queries, ← hqueries]
    by_cases hempty : pairs = []
    · subst hempty
      simp only [if_true, List.map_nil, ne_eq, not_true_eq_false, false_imp_iff, iff_true]
      exact ⟨_, rfl, hverified service.evaluator [] .nil, rfl⟩
    · have hne : pairs.map CitedPair.query ≠ [] := by simpa using hempty
      rw [if_neg hempty, AnswersFit]
      simp only [hne, ne_eq, not_false_eq_true, forall_const]
      cases hbatch : service.evaluator.evaluateBatch with
      | none =>
        dsimp only
        rw [← verifySequential_returns hfactory hnamed]
        constructor
        · rintro ⟨run, hrun, -⟩
          exact ⟨run, hrun⟩
        · rintro ⟨run, hrun⟩
          obtain ⟨⟨made, hmade, hmadeVerified⟩, hcalls⟩ := verifySequential_eq_ok hrun rfl
          rw [List.nil_append] at hmade
          exact ⟨run, hrun, hverified _ _ (hmade ▸ hmadeVerified), hcalls⟩
      | some evaluateBatch =>
        dsimp only
        rw [← citationItems_eq, ← verifyBatchCapable_returns hfactory hnamed]
        constructor
        · rintro ⟨run, hrun, -⟩
          exact ⟨run, hrun⟩
        · rintro ⟨run, hrun⟩
          obtain ⟨hmade, hcalls⟩ := verifyBatchCapable_eq_ok hbatch hrun
          exact ⟨run, hrun, hverified _ _ hmade, hcalls⟩
  · refine iff_of_false ?_ fun h => hwrites h.1
    rintro ⟨run, hrun, -⟩
    obtain ⟨pairs, hpairs, -⟩ := bind_eq_ok.mp hrun
    exact hwrites (pairsOf_returns.mp ⟨pairs, hpairs⟩)

/-- A valid claim set is verified exactly where its citations write the ids of the evidence as the
evidence does and the answers about them are kept. -/
theorem citations_verified_iff (casefold : Casefold)
    (service : SemanticCitationVerificationService casefold) (claimSet : ResearchClaimSet)
    (hfactory : ∀ number, isBlank (service.verificationIdFactory number) = false)
    (hvalid : claimSet.Valid casefold) :
    Verifies service claimSet ↔ WritesIds claimSet ∧
      (queries claimSet.claims ≠ [] → AnswersFit service.evaluator (queries claimSet.claims)) :=
  verifies_iff hfactory hvalid

/-- Evidence under the id `E-1`. -/
def sampleEvidenceSet : ResearchEvidenceSet :=
  ⟨"request", ⟨"request", [⟨"document", true, "task", "source", "text", []⟩]⟩,
    [⟨"E-1", "request", "task", "source", "document", none, "text", 0, 4, .supports, 1, 1, none, []⟩]⟩

def claimsCiting (evidenceId : String) : ResearchClaimSet :=
  ⟨"request", sampleEvidenceSet, [⟨"claim", "request", "task", "statement", .draft, 1,
    [⟨"citation", evidenceId, "source", "document", "text", 0, 4, none, []⟩], [], [], none, []⟩]⟩

theorem sampleEvidenceSet_valid : sampleEvidenceSet.Valid asciiCasefold := by
  refine ⟨fun item hmem => ?_, by decide +kernel⟩
  rw [List.mem_singleton.mp hmem]
  decide +kernel

theorem claimsCiting_valid {evidenceId : String}
    (hcitation : ∀ claim ∈ (claimsCiting evidenceId).claims, ∀ citation ∈ claim.citations,
      citation.validate = .ok ())
    (hclaim : ∀ claim ∈ (claimsCiting evidenceId).claims, claim.validate asciiCasefold = .ok ())
    (hset : (claimsCiting evidenceId).validate asciiCasefold = .ok ()) :
    (claimsCiting evidenceId).Valid asciiCasefold :=
  ⟨sampleEvidenceSet_valid, hcitation, hclaim, hset⟩

theorem unit_range : (0 : ℚ) ≤ 1 ∧ (1 : ℚ) ≤ 1 := by decide +kernel

theorem rationale_isBlank : isBlank "rationale" = false := by decide +kernel

def agreeingService : SemanticCitationVerificationService asciiCasefold :=
  ⟨⟨fun _ _ _ => ⟨⟨"response", none, none, 0⟩,
    ⟨.fullySupported, 1, "rationale", [], unit_range, rationale_isBlank, by simp, by
      simp [normalizedIds]⟩, .verified⟩, none⟩, fun number => "verification-" ++ toString number⟩

theorem agreeingService_names (number : ℕ) :
    isBlank (agreeingService.verificationIdFactory number) = false :=
  isBlank_append (by decide +kernel)

theorem citations_verified_sample : Verifies agreeingService (claimsCiting "E-1") := by
  have hvalid : (claimsCiting "E-1").Valid asciiCasefold :=
    claimsCiting_valid (by decide +kernel) (by decide +kernel) (by decide +kernel)
  refine (citations_verified_iff asciiCasefold agreeingService (claimsCiting "E-1")
    agreeingService_names hvalid).mpr ⟨?_, fun _ => ?_⟩
  · intro cited hmem
    rw [List.mem_singleton.mp hmem]
    exact ⟨_, List.mem_singleton_self _, rfl⟩
  · intro item hmem
    rw [List.mem_singleton.mp hmem]
    exact ⟨⟨le_rfl, le_rfl⟩, ⟨by decide +kernel, rfl⟩⟩

/-- A citation may write the id of its evidence in other letters, and is not verified then. -/
theorem citations_not_verified : (claimsCiting "e-1").Valid asciiCasefold ∧
    ¬Verifies agreeingService (claimsCiting "e-1") := by
  have hvalid : (claimsCiting "e-1").Valid asciiCasefold :=
    claimsCiting_valid (by decide +kernel) (by decide +kernel) (by decide +kernel)
  refine ⟨hvalid, fun h => ?_⟩
  obtain ⟨hwrites, -⟩ := (verifies_iff agreeingService_names hvalid).mp h
  obtain ⟨evidence, hmem, hid⟩ := hwrites _ List.mem_cons_self
  rw [List.mem_singleton.mp hmem] at hid
  exact absurd hid (by decide)

end AgenticLab.ResearchClaims
