import AgenticLab.Model.Fields
import AgenticLab.Model.Application.Values
import Mathlib.Data.List.Infix

/-! # Grounding of claim elements

`app/research/patent_claim_decomposition_grounding_validator.py` with
`app/schemas/patent_claim_decomposition.py` and what it reads of `app/schemas/patent_claims.py`. -/

namespace AgenticLab

/-- What the validator takes from Python's texts. -/
structure WordTexts where
  casefold : Casefold
  /-- `str.isalnum` for one character -/
  isAlnum : Char → Bool

/-- `ord(character) < 32 or ord(character) == 127` -/
def isControl (character : Char) : Bool := character.toNat < 32 || character.toNat == 127

def IsClaimText (text : String) : Prop :=
  text = strip text ∧ text ≠ "" ∧ text.toList.any isControl = false

structure PatentClaim where
  claimNumber : PositiveInt
  providerPosition : PositiveInt
  text : String
  text_notBlank : isBlank text = false

structure PatentClaimElement where
  elementNumber : PositiveInt
  text : String
  text_valid : IsClaimText text

structure PatentClaimDecomposition (texts : WordTexts) where
  claimNumber : PositiveInt
  providerPosition : PositiveInt
  originalClaimText : String
  elements : List PatentClaimElement
  text_valid : IsClaimText originalClaimText
  elements_nonempty : elements ≠ []
  numbers_contiguous : (elements.map fun element => element.elementNumber.val) =
    List.range' 1 elements.length
  texts_nodup : (elements.map fun element => texts.casefold element.text).Nodup

namespace PatentClaimGrounding

variable (texts : WordTexts)

/-- `\w` -/
def WordTexts.isWord (character : Char) : Bool := texts.isAlnum character || character == '_'

/-- `_tokens`: the longest runs of word characters. -/
def tokens (text : String) : List String :=
  ((text.toList.splitOnP fun character => !WordTexts.isWord texts character).filter
    fun run => run ≠ []).map fun run => texts.casefold (String.ofList run)

/-- `token in word` -/
def isPart (token word : String) : Bool := decide (token.toList <:+: word.toList)

/-- The loops of `_is_ordered_subsequence`, with the words from `source_index` on. -/
def scan : List String → List String → Bool
  | [], _ => true
  | _ :: _, [] => false
  | token :: candidate, word :: source =>
    if isPart token word then scan candidate source else scan (token :: candidate) source

def isOrderedSubsequence (candidate source : List String) : Bool :=
  if candidate = [] then false else scan candidate source

def groundingError (message : String) : Raised :=
  ⟨.external "PatentClaimDecompositionGroundingError" .runtimeOrValueError, message⟩

def validateElements (sourceTokens : List String) : List PatentClaimElement → Except Raised Unit
  | [] => .ok ()
  | element :: elements => do
      raiseIf (tokens texts element.text = [])
        (groundingError "claim element did not contain lexical tokens")
      raiseIf (isOrderedSubsequence (tokens texts element.text) sourceTokens = false)
        (groundingError
          "claim element introduced wording or order not grounded in the source patent claim")
      validateElements sourceTokens elements

variable {texts} in
def validate (claim : PatentClaim) (decomposition : PatentClaimDecomposition texts) :
    Except Raised (PatentClaimDecomposition texts) := do
  raiseIf (decomposition.claimNumber ≠ claim.claimNumber)
    (groundingError "claim number drifted from source patent claim")
  raiseIf (decomposition.providerPosition ≠ claim.providerPosition)
    (groundingError "provider position drifted from source patent claim")
  raiseIf (decomposition.originalClaimText ≠ claim.text)
    (groundingError "original claim text drifted from source patent claim")
  raiseIf (tokens texts claim.text = [])
    (groundingError "source patent claim did not contain lexical tokens")
  validateElements texts (tokens texts claim.text) decomposition.elements
  return decomposition

end PatentClaimGrounding

end AgenticLab
