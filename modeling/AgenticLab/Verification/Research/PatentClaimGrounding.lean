import AgenticLab.Model.Research.PatentClaimGrounding

/-! # Which claim elements are grounded -/

namespace AgenticLab.PatentClaimGrounding

variable {texts : WordTexts} {claim : PatentClaim}
  {decomposition : PatentClaimDecomposition texts}

def EmbedsInParts (candidate source : List String) : Prop :=
  ∃ words, words.Sublist source ∧ List.Forall₂ (fun token word => isPart token word = true)
    candidate words

variable {candidate source : List String}

theorem scan_iff : scan candidate source = true ↔ EmbedsInParts candidate source := by
  fun_induction scan candidate source with
  | case1 source => exact iff_of_true rfl ⟨[], List.nil_sublist source, .nil⟩
  | case2 token candidate =>
    refine iff_of_false Bool.false_ne_true ?_
    rintro ⟨words, hsublist, hparts⟩
    rw [List.sublist_nil.mp hsublist] at hparts
    cases hparts
  | case3 token candidate word source hpart ih =>
    rw [ih]
    constructor
    · rintro ⟨words, hsublist, hparts⟩
      exact ⟨word :: words, hsublist.cons_cons word, .cons hpart hparts⟩
    · rintro ⟨words, hsublist, hparts⟩
      cases hparts with
      | cons _ hrest => exact ⟨_, hsublist.tail, hrest⟩
  | case4 token candidate word source hpart ih =>
    rw [ih]
    constructor
    · rintro ⟨words, hsublist, hparts⟩
      exact ⟨words, hsublist.cons word, hparts⟩
    · rintro ⟨words, hsublist, hparts⟩
      cases hsublist with
      | cons _ hskips => exact ⟨words, hskips, hparts⟩
      | cons_cons _ _ =>
        -- The first word that is taken contains the token, which this one does not.
        cases hparts with
        | cons hfits _ => exact absurd hfits hpart

theorem EmbedsInParts.exists_word (h : EmbedsInParts candidate source) :
    ∀ token ∈ candidate, ∃ word ∈ source, token.toList <:+: word.toList := by
  obtain ⟨words, hsublist, hparts⟩ := h
  intro token htoken
  obtain ⟨index, hindex, rfl⟩ := List.getElem_of_mem htoken
  have hpart := hparts.get hindex (hparts.length_eq ▸ hindex)
  exact ⟨_, hsublist.subset (List.get_mem _ _), of_decide_eq_true hpart⟩

theorem validateElements_eq_ok_iff {sourceTokens : List String}
    {elements : List PatentClaimElement} :
    validateElements texts sourceTokens elements = .ok () ↔ ∀ element ∈ elements,
      tokens texts element.text ≠ [] ∧ EmbedsInParts (tokens texts element.text) sourceTokens := by
  induction elements with
  | nil => exact iff_of_true rfl nofun
  | cons element elements ih =>
    rw [validateElements, raiseIf_bind_eq_ok, raiseIf_bind_eq_ok, ih, List.forall_mem_cons,
      ← scan_iff]
    constructor
    · rintro ⟨htokens, hsequence, hrest⟩
      rw [Bool.not_eq_false, isOrderedSubsequence, if_neg htokens] at hsequence
      exact ⟨⟨htokens, hsequence⟩, hrest⟩
    · rintro ⟨⟨htokens, hsequence⟩, hrest⟩
      refine ⟨htokens, ?_, hrest⟩
      rwa [Bool.not_eq_false, isOrderedSubsequence, if_neg htokens]

variable (claim decomposition) in
structure SameIdentity : Prop where
  claimNumber : decomposition.claimNumber = claim.claimNumber
  providerPosition : decomposition.providerPosition = claim.providerPosition
  text : decomposition.originalClaimText = claim.text

variable (claim decomposition) in
def Accepts : Prop := validate claim decomposition = .ok decomposition

variable (claim decomposition) in
def GroundedInParts : Prop := ∀ element ∈ decomposition.elements,
  tokens texts element.text ≠ [] ∧
    EmbedsInParts (tokens texts element.text) (tokens texts claim.text)

variable (claim decomposition) in
def GroundedInWords : Prop := ∀ element ∈ decomposition.elements,
  tokens texts element.text ≠ [] ∧ (tokens texts element.text).Sublist (tokens texts claim.text)

theorem accepts_iff_groundedInParts (h : SameIdentity claim decomposition) :
    Accepts claim decomposition ↔ GroundedInParts claim decomposition := by
  rw [Accepts, validate, raiseIf_bind_eq_ok, raiseIf_bind_eq_ok, raiseIf_bind_eq_ok,
    raiseIf_bind_eq_ok, bind_eq_ok]
  constructor
  · rintro ⟨_, _, _, _, _, helements, _⟩
    exact validateElements_eq_ok_iff.mp helements
  · intro hgrounded
    refine ⟨not_not.mpr h.claimNumber, not_not.mpr h.providerPosition, not_not.mpr h.text, ?_,
      (), validateElements_eq_ok_iff.mpr hgrounded, rfl⟩
    -- The claim has words, because its first element has.
    intro hnone
    obtain ⟨element, helement⟩ := List.exists_mem_of_ne_nil _ decomposition.elements_nonempty
    obtain ⟨htokens, words, hsublist, hparts⟩ := hgrounded element helement
    rw [hnone] at hsublist
    rw [List.sublist_nil.mp hsublist] at hparts
    exact htokens (List.forall₂_nil_right_iff.mp hparts)

/-- An accepted element embeds word by word, each of its words as part of a word of the claim. -/
theorem validate_grounds (h : SameIdentity claim decomposition) :
    (Accepts claim decomposition ↔ GroundedInParts claim decomposition) ∧
      (Accepts claim decomposition → ∀ element ∈ decomposition.elements,
        ∀ token ∈ tokens texts element.text,
          ∃ word ∈ tokens texts claim.text, token.toList <:+: word.toList) := by
  refine ⟨accepts_iff_groundedInParts h, fun hok element helement => ?_⟩
  exact ((accepts_iff_groundedInParts h).mp hok element helement).2.exists_word

def asciiTexts : WordTexts := ⟨asciiCasefold, Char.isAlphanum⟩

def invalidClaim : PatentClaim := ⟨⟨1, Nat.one_pos⟩, ⟨1, Nat.one_pos⟩, "An invalid claim", by decide⟩

def validElement : PatentClaimDecomposition asciiTexts where
  claimNumber := ⟨1, Nat.one_pos⟩
  providerPosition := ⟨1, Nat.one_pos⟩
  originalClaimText := "An invalid claim"
  elements := [⟨⟨1, Nat.one_pos⟩, "valid claim", by unfold IsClaimText; decide⟩]
  text_valid := by unfold IsClaimText; decide
  elements_nonempty := by simp
  numbers_contiguous := rfl
  texts_nodup := by simp

theorem validElement_sameIdentity : SameIdentity invalidClaim validElement := ⟨rfl, rfl, rfl⟩

theorem validate_grounds_validElement : SameIdentity invalidClaim validElement ∧
    ((Accepts invalidClaim validElement ↔ GroundedInParts invalidClaim validElement) ∧
      (Accepts invalidClaim validElement → ∀ element ∈ validElement.elements,
        ∀ token ∈ tokens asciiTexts element.text,
          ∃ word ∈ tokens asciiTexts invalidClaim.text, token.toList <:+: word.toList)) :=
  ⟨validElement_sameIdentity, validate_grounds validElement_sameIdentity⟩

theorem accepts_part_of_word : SameIdentity invalidClaim validElement ∧
    Accepts invalidClaim validElement ∧ ¬GroundedInWords invalidClaim validElement ∧
    "valid" ∉ tokens asciiTexts invalidClaim.text := by
  have hclaim : tokens asciiTexts "An invalid claim" = ["an", "invalid", "claim"] := by
    decide +kernel
  have helement : tokens asciiTexts "valid claim" = ["valid", "claim"] := by decide +kernel
  refine ⟨validElement_sameIdentity, ?_, ?_, ?_⟩
  · refine (accepts_iff_groundedInParts validElement_sameIdentity).mpr ?_
    intro element hmem
    obtain rfl := List.mem_singleton.mp hmem
    change tokens asciiTexts "valid claim" ≠ [] ∧
      EmbedsInParts (tokens asciiTexts "valid claim") (tokens asciiTexts "An invalid claim")
    rw [helement, hclaim, ← scan_iff]
    decide +kernel
  · intro hgrounded
    have hsublist := (hgrounded _ List.mem_cons_self).2
    change (tokens asciiTexts "valid claim").Sublist (tokens asciiTexts "An invalid claim")
      at hsublist
    rw [helement, hclaim] at hsublist
    revert hsublist
    decide
  · change "valid" ∉ tokens asciiTexts "An invalid claim"
    rw [hclaim]
    decide

end AgenticLab.PatentClaimGrounding
