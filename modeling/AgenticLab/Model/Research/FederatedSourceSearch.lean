import AgenticLab.Library.Runs
import AgenticLab.Model.Application.Values
import Mathlib.Data.Prod.Lex

/-! # The federated source search

`FederatedResearchSourceSearcher` of `app/research/federated_research_source_searcher.py` with what
it uses of `app/schemas/research_source_candidate.py` and `app/schemas/research_search_query.py`. -/

namespace AgenticLab.FederatedSearch

open Interleaving

/-- What `urlsplit` finds in a url. Reading `port` may raise a `ValueError`. -/
structure SplitResult where
  scheme : String
  netloc : String
  path : String
  query : String
  hostname : Option String
  port : Except String (Option ℕ)

/-- What the platform does with texts. `urlsplit` may raise a `ValueError`. -/
structure SearchTexts where
  casefold : Casefold
  urlsplit : String → Except String SplitResult
  urlunsplit : String → String → String → String → String → String

variable (texts : SearchTexts)

/-- `value.strip().casefold()` -/
def SearchTexts.key (value : String) : String := normalizeId texts.casefold value

/-- `path.rstrip("/")` -/
def rstripSlashes (path : String) : String :=
  String.ofList (path.toList.reverse.dropWhile (· = '/')).reverse

/-- `normalized_url`, with the message of a `ValueError`. -/
def SearchTexts.normalizedUrl (url : String) : Except String String := do
  let parsed ← texts.urlsplit (strip url)
  let scheme := texts.casefold parsed.scheme
  let hostname := match parsed.hostname with
    | some hostname => texts.casefold hostname
    | none => ""
  let port ← parsed.port
  let netloc := match port with
    | none => hostname
    | some port =>
      if ¬(scheme = "http" ∧ port = 80) ∧ ¬(scheme = "https" ∧ port = 443) then
        hostname ++ ":" ++ toString port
      else hostname
  let path := if parsed.path = "" then "/" else parsed.path
  let path := if path ≠ "/" then rstripSlashes path else path
  return texts.urlunsplit scheme netloc path parsed.query ""

inductive ResearchSearchQueryPriority where
  | low
  | medium
  | high
  | critical
  deriving DecidableEq, Repr

def ResearchSearchQueryPriority.toNat : ResearchSearchQueryPriority → ℕ
  | .low => 10
  | .medium => 20
  | .high => 30
  | .critical => 40

/-- `details` holds the fields that the search only compares. -/
structure ResearchSearchQuery (Details : Type) where
  queryId : String
  requestId : String
  taskId : String
  priority : ResearchSearchQueryPriority
  details : Details
  queryId_nonblank : isBlank queryId = false
  deriving DecidableEq

variable (Details TaskGraph : Type)

/-- What the search relies on of `validate_query_set`. -/
structure ResearchSearchQuerySet where
  requestId : String
  taskGraph : TaskGraph
  queries : List (ResearchSearchQuery Details)
  request_nonblank : isBlank requestId = false
  queryIds_nodup : (queries.map fun query => texts.key query.queryId).Nodup
  deriving DecidableEq

variable {texts Details TaskGraph}

/-- The key `(-int(query.priority), original_position[query.query_id])`. -/
def queryOrder (queries : List (ResearchSearchQuery Details))
    (query : ResearchSearchQuery Details) : ℤ ×ₗ ℕ :=
  toLex (-(query.priority.toNat : ℤ), (queries.map fun other => other.queryId).idxOf query.queryId)

def ResearchSearchQuerySet.orderedQueries
    (querySet : ResearchSearchQuerySet texts Details TaskGraph) :
    List (ResearchSearchQuery Details) :=
  querySet.queries.mergeSort fun first second =>
    queryOrder querySet.queries first ≤ queryOrder querySet.queries second

/-! ## Candidates -/

/-- What the search reads of a candidate. -/
structure ResearchSourceCandidate where
  sourceId : String
  requestId : String
  taskId : String
  queryId : String
  url : String
  rank : ℕ
  deriving DecidableEq

variable (texts Details TaskGraph) in
structure ResearchSourceCandidateSet where
  requestId : String
  querySet : ResearchSearchQuerySet texts Details TaskGraph
  candidates : List ResearchSourceCandidate

variable (texts) in
/-- The loop over the candidates of `validate_candidate_set`. -/
def validateQueryReferences (queries : List (ResearchSearchQuery Details)) :
    List ResearchSourceCandidate → Except Raised Unit
  | [] => .ok ()
  | candidate :: candidates =>
    match queries.find? fun query => texts.key query.queryId = texts.key candidate.queryId with
    | none => .error ⟨.validationError, "all candidates must reference existing queries"⟩
    | some query => do
        raiseIf (texts.key candidate.taskId ≠ texts.key query.taskId)
          ⟨.validationError, "candidate task_id must match the referenced query task_id"⟩
        validateQueryReferences queries candidates

variable (texts) in
/-- The `normalized_url` of each candidate, where a `ValueError` makes the set invalid. -/
def validateUrls : List ResearchSourceCandidate → Except Raised (List String)
  | [] => .ok []
  | candidate :: candidates =>
    match texts.normalizedUrl candidate.url with
    | .error message => .error ⟨.validationError, message⟩
    | .ok url => do return url :: (← validateUrls candidates)

namespace ResearchSourceCandidateSet

variable (set : ResearchSourceCandidateSet texts Details TaskGraph)

/-- `validate_candidate_set` -/
def validate : Except Raised Unit := do
  raiseIf (isBlank set.requestId) ⟨.validationError, "request_id must not be blank"⟩
  raiseIf (set.querySet.requestId ≠ set.requestId)
    ⟨.validationError, "query set request_id must match candidate set request_id"⟩
  raiseIf (¬(set.candidates.map fun candidate => texts.key candidate.sourceId).Nodup)
    ⟨.validationError, "source IDs must be unique"⟩
  raiseIf (∃ candidate ∈ set.candidates, candidate.requestId ≠ set.requestId)
    ⟨.validationError, "all candidate request IDs must match the candidate set request_id"⟩
  validateQueryReferences texts set.querySet.queries set.candidates
  let urls ← validateUrls texts set.candidates
  raiseIf (¬((set.candidates.map fun candidate => texts.key candidate.queryId).zip urls).Nodup)
    ⟨.validationError, "candidates for the same query must not contain duplicate URLs"⟩
  raiseIf (¬(set.candidates.map fun candidate =>
      (texts.key candidate.queryId, candidate.rank)).Nodup)
    ⟨.validationError, "candidate ranks must be unique within each query"⟩

/-- The key of `ordered_candidates`. In a valid set every candidate has a query. -/
def candidateOrder (candidate : ResearchSourceCandidate) : ℕ ×ₗ ℕ ×ₗ ℕ :=
  toLex ((set.querySet.orderedQueries.map fun query => texts.key query.queryId).idxOf
      (texts.key candidate.queryId),
    toLex (candidate.rank,
      (set.candidates.map fun other => other.sourceId).idxOf candidate.sourceId))

def orderedCandidates : List ResearchSourceCandidate :=
  set.candidates.mergeSort fun first second => set.candidateOrder first ≤ set.candidateOrder second

def candidatesForQuery (queryId : String) : Except Raised (List ResearchSourceCandidate) := do
  raiseIf (isBlank queryId) ⟨.valueError, "query_id must not be blank"⟩
  return set.orderedCandidates.filter fun candidate =>
    texts.key candidate.queryId = texts.key queryId

end ResearchSourceCandidateSet

/-! ## The searcher -/

variable (texts Details TaskGraph) in
abbrev ResearchSourceSearcher :=
  ResearchSearchQuerySet texts Details TaskGraph →
    Except Raised (ResearchSourceCandidateSet texts Details TaskGraph)

variable (texts Details TaskGraph) in
structure FederatedResearchSourceSearcher where
  webSearcher : ResearchSourceSearcher texts Details TaskGraph
  localSearcher : ResearchSourceSearcher texts Details TaskGraph

/-- The variables of the loop over the queries. -/
structure SearchState where
  merged : List ResearchSourceCandidate
  seenSourceIds : List String

/-- The variables of the loops over the candidates of one query. -/
structure QueryState extends SearchState where
  seenUrls : List String
  nextRank : ℕ

variable (texts) in
def visitCandidate (state : QueryState) :
    Option ResearchSourceCandidate → Except Raised QueryState
  | none => .ok state
  | some candidate =>
    match texts.normalizedUrl candidate.url with
    | .error message => .error ⟨.valueError, message⟩
    | .ok urlKey =>
      if texts.key candidate.sourceId ∈ state.seenSourceIds ∨ urlKey ∈ state.seenUrls then
        .ok state
      else
        .ok {
          merged := state.merged ++ [{ candidate with rank := state.nextRank }]
          seenSourceIds := state.seenSourceIds ++ [texts.key candidate.sourceId]
          seenUrls := state.seenUrls ++ [urlKey]
          nextRank := state.nextRank + 1 }

variable (texts) in
def visitPair (state : QueryState)
    (pair : Option ResearchSourceCandidate × Option ResearchSourceCandidate) :
    Except Raised QueryState := do
  let state ← visitCandidate texts state pair.1
  visitCandidate texts state pair.2

variable (texts) in
def visitPairs : List (Option ResearchSourceCandidate × Option ResearchSourceCandidate) →
    QueryState → Except Raised QueryState
  | [], state => .ok state
  | pair :: pairs, state => do visitPairs pairs (← visitPair texts state pair)

def mergeQueries (webResult localResult : ResearchSourceCandidateSet texts Details TaskGraph) :
    List (ResearchSearchQuery Details) → SearchState → Except Raised SearchState
  | [], state => .ok state
  | query :: queries, state => do
      let webCandidates ← webResult.candidatesForQuery query.queryId
      let localCandidates ← localResult.candidatesForQuery query.queryId
      let state ← visitPairs texts (zipLongest webCandidates localCandidates)
        { state with seenUrls := [], nextRank := 1 }
      mergeQueries webResult localResult queries state.toSearchState

section

variable [DecidableEq Details] [DecidableEq TaskGraph]

def validateChildResult (childName : String)
    (result : ResearchSourceCandidateSet texts Details TaskGraph)
    (querySet : ResearchSearchQuerySet texts Details TaskGraph) : Except Raised Unit := do
  raiseIf (result.requestId ≠ querySet.requestId)
    ⟨.valueError, childName ++ " candidate set request_id does not match"⟩
  raiseIf (result.querySet ≠ querySet)
    ⟨.valueError, childName ++ " candidate set query_set does not match"⟩

def FederatedResearchSourceSearcher.search
    (searcher : FederatedResearchSourceSearcher texts Details TaskGraph)
    (querySet : ResearchSearchQuerySet texts Details TaskGraph) :
    Except Raised (ResearchSourceCandidateSet texts Details TaskGraph) := do
  let webResult ← searcher.webSearcher querySet
  let localResult ← searcher.localSearcher querySet
  validateChildResult "web" webResult querySet
  validateChildResult "local" localResult querySet
  let state ← mergeQueries webResult localResult querySet.orderedQueries ⟨[], []⟩
  let set : ResearchSourceCandidateSet texts Details TaskGraph :=
    ⟨querySet.requestId, querySet, state.merged⟩
  set.validate
  return set

end

end AgenticLab.FederatedSearch
