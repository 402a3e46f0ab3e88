import AgenticLab.Library.Grouping
import AgenticLab.Library.ParentPointers
import AgenticLab.Model.Application.Values

/-! # Groups of duplicate works

`group_duplicate_scholarly_works` of `app/research/scholarly_identifier_normalizer.py` with what
it reads of `app/schemas/scholarly_work.py`. -/

namespace AgenticLab

open ParentPointers (Forest)

inductive ScholarlyIdentifierType where
  | doi
  | arxiv
  | pmid
  | pmcid
  | openalex
  | provider
  | other
  deriving DecidableEq, Repr

def ScholarlyIdentifierType.value : ScholarlyIdentifierType → String
  | doi => "doi"
  | arxiv => "arxiv"
  | pmid => "pmid"
  | pmcid => "pmcid"
  | openalex => "openalex"
  | provider => "provider"
  | other => "other"

/-- What the grouping reads of an identifier, with `validate_identifier`. -/
structure ScholarlyIdentifier where
  identifierType : ScholarlyIdentifierType
  normalizedValue : String
  provider : Option String
  normalizedValue_notBlank : isBlank normalizedValue = false
  provider_notBlank : ∀ name ∈ provider, isBlank name = false
  provider_isSome : provider.isSome ↔ identifierType = .provider

/-- The other fields of a work are kept with it. -/
structure ScholarlyWork (δ : Type) where
  workId : String
  identifiers : List ScholarlyIdentifier
  details : δ

namespace ScholarlyIdentifierNormalizer

variable {δ : Type} (casefold : Casefold)

/-- `scholarly_identifier_identity_key`. The schema keeps its exception from being raised. -/
def identityKey (identifier : ScholarlyIdentifier) : List String :=
  if h : identifier.identifierType = .provider then
    [identifier.identifierType.value,
      casefold (strip (identifier.provider.get (identifier.provider_isSome.mpr h))),
      strip identifier.normalizedValue]
  else [identifier.identifierType.value, casefold (strip identifier.normalizedValue)]

def identityKeys (work : ScholarlyWork δ) : List (List String) :=
  work.identifiers.map (identityKey casefold)

def areScholarlyWorksDuplicates (left right : ScholarlyWork δ) : Bool :=
  (identityKeys casefold left).any fun key => key ∈ identityKeys casefold right

/-- `owner_by_key` and `parents` -/
structure Links where
  ownerByKey : List String → Option ℕ
  forest : Forest ℕ

def Links.start : Links := ⟨fun _ => none, .discrete⟩

def Links.add (links : Links) (index : ℕ) (key : List String) : Links :=
  let previous := (links.ownerByKey key).getD index
  ⟨Function.update links.ownerByKey key (some previous), links.forest.union previous index⟩

/-- The loop over the works, from the one at `index` on. -/
def linkWorks : ℕ → List (ScholarlyWork δ) → Links → Links
  | _, [], links => links
  | index, work :: works, links =>
    linkWorks (index + 1) works
      ((identityKeys casefold work).foldl (fun links key => links.add index key) links)

/-- The loop that collects the members, from the work at `index` on. -/
def collectMembers : ℕ → List (ScholarlyWork δ) → Forest ℕ → List (ℕ × List (ScholarlyWork δ)) →
    List (ℕ × List (ScholarlyWork δ))
  | _, [], _, groups => groups
  | index, work :: works, forest, groups =>
    let (root, halved) := forest.find index
    -- `members_by_root[find(index)].append(work)`
    collectMembers (index + 1) works halved (Grouping.append root work groups)

def groupDuplicateScholarlyWorks (works : List (ScholarlyWork δ)) :
    Except Raised (List (List (ScholarlyWork δ))) := do
  raiseIf (¬(works.map fun work => normalizeId casefold work.workId).Nodup)
    ⟨.valueError, "work IDs must be unique"⟩
  let links := linkWorks casefold 0 works .start
  return (collectMembers 0 works links.forest []).map Prod.snd

end ScholarlyIdentifierNormalizer

end AgenticLab
