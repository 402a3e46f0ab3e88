import AgenticLab.Library.KeyedStore
import AgenticLab.Model.Research.ResearchClaims
import AgenticLab.Verification.Research.EvidenceReranking

/-! # What valid evidence and valid claims say -/

namespace AgenticLab.ResearchClaims

open EvidenceReranking

theorem paddedNumber_toList (number : ℕ) :
    (paddedNumber number).toList =
      List.replicate (3 - (Nat.toDigits 10 number).length) '0' ++ Nat.toDigits 10 number := by
  rw [paddedNumber, String.toList_append, String.toList_ofList]
  exact congrArg _ String.toList_ofList

theorem paddedNumber_injective : Function.Injective paddedNumber := by
  intro number other h
  rw [← String.toList_inj, paddedNumber_toList, paddedNumber_toList] at h
  have hdigits := congrArg (fun digits => Nat.ofDigitChars 10 digits 0) h
  simpa only [Nat.ofDigitChars_append, Nat.ofDigitChars_replicate_zero, Nat.mul_zero,
    Nat.ofDigitChars_ten_toDigits] using hdigits

theorem itemId_injective : Function.Injective itemId := by
  intro index other h
  rw [itemId, itemId, ← String.toList_inj, String.toList_append, String.toList_append] at h
  exact paddedNumber_injective (String.toList_inj.mp (List.append_cancel_left h))

theorem nodup_itemIds (count : ℕ) : (itemIds count).Nodup :=
  (List.nodup_range' (h := by decide)).map itemId_injective

@[simp] theorem length_itemIds (count : ℕ) : (itemIds count).length = count := by simp [itemIds]

variable {casefold : Casefold}

theorem byId_eq_some {α : Type} {id : α → String} {items : List α}
    (hnodup : (items.map fun item => normalizeId casefold (id item)).Nodup) {key : String}
    {item : α} : byId casefold id items key = some item ↔
      item ∈ items ∧ normalizeId casefold (id item) = normalizeId casefold key :=
  KeyedStore.find?_reverse_eq_some hnodup

variable {set : ResearchEvidenceSet}

theorem validateItems_eq_ok {items : List ResearchEvidence} :
    validateItems casefold set items = .ok () ↔
      ∀ item ∈ items, validateItem casefold set item = .ok () := by
  induction items with
  | nil => simp [validateItems]
  | cons item items ih =>
    rw [validateItems, bind_eq_ok, List.forall_mem_cons, ih]
    exact ⟨fun ⟨_, hitem, hitems⟩ => ⟨hitem, hitems⟩, fun ⟨hitem, hitems⟩ => ⟨(), hitem, hitems⟩⟩

/-- What `validate_evidence_set` has checked. -/
structure ResearchEvidenceSet.Checked (casefold : Casefold) (set : ResearchEvidenceSet) : Prop where
  requestId : isBlank set.requestId = false
  documents : set.documentSet.requestId = set.requestId
  ids : (set.evidence.map fun item => normalizeId casefold item.evidenceId).Nodup
  items : ∀ item ∈ set.evidence, validateItem casefold set item = .ok ()
  ranges : (set.evidence.map (rangeKey casefold)).Nodup

theorem ResearchEvidenceSet.validate_eq_ok :
    set.validate casefold = .ok () ↔ set.Checked casefold := by
  rw [ResearchEvidenceSet.validate, raiseIf_bind_eq_ok, raiseIf_bind_eq_ok, raiseIf_bind_eq_ok,
    bind_eq_ok, Bool.not_eq_true, not_not, not_not]
  constructor
  · rintro ⟨hrequest, hdocuments, hids, _, hitems, hranges⟩
    exact ⟨hrequest, hdocuments, hids, validateItems_eq_ok.mp hitems,
      not_not.mp (raiseIf_eq_ok.mp hranges)⟩
  · intro h
    exact ⟨h.requestId, h.documents, h.ids, (), validateItems_eq_ok.mpr h.items,
      raiseIf_eq_ok.mpr (not_not.mpr h.ranges)⟩

structure ResearchEvidence.Named (evidence : ResearchEvidence) : Prop where
  evidenceId : isBlank evidence.evidenceId = false
  requestId : isBlank evidence.requestId = false
  taskId : isBlank evidence.taskId = false
  sourceId : isBlank evidence.sourceId = false
  documentId : isBlank evidence.documentId = false
  excerpt : isBlank evidence.excerpt = false
  range : evidence.startCharacter < evidence.endCharacter
  confidence : 0 ≤ evidence.confidenceScore ∧ evidence.confidenceScore ≤ 1

theorem ResearchEvidence.named_of_validate {evidence : ResearchEvidence}
    (h : evidence.validate = .ok ()) : evidence.Named := by
  rw [ResearchEvidence.validate, raiseIf_bind_eq_ok, raiseIf_bind_eq_ok, raiseIf_bind_eq_ok,
    bind_eq_ok] at h
  obtain ⟨-, -, hconfidence, _, htexts, h⟩ := h
  obtain ⟨_, -, h⟩ := bind_eq_ok.mp h
  obtain ⟨hrange, -⟩ := raiseIf_bind_eq_ok.mp h
  have htexts := requireTexts_eq_ok.mp htexts
  simp only [List.forall_mem_cons, List.not_mem_nil, false_imp_iff, implies_true, and_true]
    at htexts
  obtain ⟨hevidence, hrequest, htask, hsource, hdocument, hexcerpt⟩ := htexts
  push Not at hconfidence
  exact ⟨hevidence, hrequest, htask, hsource, hdocument, hexcerpt, not_le.mp hrange, hconfidence⟩

variable {citation : ResearchCitation}

theorem ResearchCitation.citationId_of_validate
    (h : citation.validate = .ok ()) : isBlank citation.citationId = false := by
  rw [ResearchCitation.validate, raiseIf_bind_eq_ok, bind_eq_ok] at h
  obtain ⟨-, _, htexts, -⟩ := h
  exact requireTexts_eq_ok.mp htexts ("citation_id", citation.citationId) List.mem_cons_self

variable {claim : ResearchClaim}

theorem ResearchClaim.claimId_of_validate
    (h : claim.validate casefold = .ok ()) : isBlank claim.claimId = false := by
  rw [ResearchClaim.validate] at h
  obtain ⟨-, h⟩ := raiseIf_bind_eq_ok.mp h
  obtain ⟨-, h⟩ := raiseIf_bind_eq_ok.mp h
  obtain ⟨_, htexts, -⟩ := bind_eq_ok.mp h
  exact requireTexts_eq_ok.mp htexts ("claim_id", claim.claimId) List.mem_cons_self

structure Repeats (claim : ResearchClaim) (citation : ResearchCitation)
    (evidence : ResearchEvidence) : Prop where
  taskId : evidence.taskId = claim.taskId
  sourceId : citation.sourceId = evidence.sourceId
  documentId : citation.documentId = evidence.documentId
  excerpt : citation.excerpt = evidence.excerpt
  startCharacter : citation.startCharacter = evidence.startCharacter
  endCharacter : citation.endCharacter = evidence.endCharacter

theorem validateCitation_eq_ok : validateCitation casefold set claim citation = .ok () ↔
      ∃ evidence, byId casefold (·.evidenceId) set.evidence citation.evidenceId = some evidence ∧
        Repeats claim citation evidence := by
  unfold validateCitation
  cases byId casefold (·.evidenceId) set.evidence citation.evidenceId with
  | none => simp
  | some evidence =>
    simp only [raiseIf_bind_eq_ok, raiseIf_eq_ok, not_not, not_or, Option.some.injEq,
      exists_eq_left']
    exact ⟨fun ⟨htask, hsource, hdocument, hexcerpt, hstart, hend⟩ =>
      ⟨htask, hsource, hdocument, hexcerpt, hstart, hend⟩,
      fun h => ⟨h.taskId, h.sourceId, h.documentId, h.excerpt, h.startCharacter, h.endCharacter⟩⟩

theorem validateCitations_eq_ok
    {citations : List ResearchCitation} : validateCitations casefold set claim citations = .ok () ↔
      ∀ citation ∈ citations, validateCitation casefold set claim citation = .ok () := by
  induction citations with
  | nil => simp [validateCitations]
  | cons citation citations ih =>
    rw [validateCitations, bind_eq_ok, List.forall_mem_cons, ih]
    exact ⟨fun ⟨_, hfirst, hrest⟩ => ⟨hfirst, hrest⟩, fun ⟨hfirst, hrest⟩ => ⟨(), hfirst, hrest⟩⟩

/-- What `validate_claim_set` has checked about one claim. -/
structure ClaimChecked (casefold : Casefold) (set : ResearchClaimSet) (claim : ResearchClaim) :
    Prop where
  requestId : claim.requestId = set.requestId
  citations : ∀ citation ∈ claim.citations, ∃ evidence,
    byId casefold (·.evidenceId) set.evidenceSet.evidence citation.evidenceId = some evidence ∧
      Repeats claim citation evidence
  supporting : claim.supportingEvidenceIds.all
    (stanceAllows casefold set.evidenceSet (· ≠ .contradicts)) = true
  contradicting : claim.contradictingEvidenceIds.all
    (stanceAllows casefold set.evidenceSet (· = .contradicts)) = true

variable {set : ResearchClaimSet}

theorem validateClaimCitations_eq_ok :
    claim.requestId = set.requestId ∧
        validateClaimCitations casefold set.evidenceSet claim = .ok () ↔
      ClaimChecked casefold set claim := by
  rw [validateClaimCitations, bind_eq_ok]
  simp only [raiseIf_bind_eq_ok, raiseIf_eq_ok, not_not]
  constructor
  · rintro ⟨hrequest, _, hcitations, hsupporting, hcontradicting⟩
    refine ⟨hrequest, fun citation hmem => ?_, hsupporting, hcontradicting⟩
    exact validateCitation_eq_ok.mp (validateCitations_eq_ok.mp hcitations citation hmem)
  · intro h
    refine ⟨h.requestId, (), validateCitations_eq_ok.mpr fun citation hmem => ?_, h.supporting,
      h.contradicting⟩
    exact validateCitation_eq_ok.mpr (h.citations citation hmem)

theorem validateClaims_eq_ok {claims : List ResearchClaim} :
    validateClaims casefold set claims = .ok () ↔
      ∀ claim ∈ claims, ClaimChecked casefold set claim := by
  induction claims with
  | nil => simp [validateClaims]
  | cons claim claims ih =>
    rw [validateClaims, raiseIf_bind_eq_ok, not_not, bind_eq_ok, List.forall_mem_cons, ← ih,
      ← validateClaimCitations_eq_ok]
    exact ⟨fun ⟨hrequest, _, hclaim, hrest⟩ => ⟨⟨hrequest, hclaim⟩, hrest⟩,
      fun ⟨⟨hrequest, hclaim⟩, hrest⟩ => ⟨hrequest, (), hclaim, hrest⟩⟩

/-- What `validate_claim_set` has checked. -/
structure ResearchClaimSet.Checked (casefold : Casefold) (set : ResearchClaimSet) : Prop where
  requestId : isBlank set.requestId = false
  evidence : set.evidenceSet.requestId = set.requestId
  ids : (normalizedIds casefold (set.claims.map (·.claimId))).Nodup
  claims : ∀ claim ∈ set.claims, ClaimChecked casefold set claim

theorem ResearchClaimSet.validate_eq_ok :
    set.validate casefold = .ok () ↔ set.Checked casefold := by
  rw [ResearchClaimSet.validate, raiseIf_bind_eq_ok, raiseIf_bind_eq_ok, raiseIf_bind_eq_ok,
    Bool.not_eq_true, not_not, not_not, validateClaims_eq_ok]
  exact ⟨fun ⟨hrequest, hevidence, hids, hclaims⟩ => ⟨hrequest, hevidence, hids, hclaims⟩,
    fun h => ⟨h.requestId, h.evidence, h.ids, h.claims⟩⟩

end AgenticLab.ResearchClaims
