import AgenticLab.Library.FloatValue
import AgenticLab.Model.Application.Values

/-! # The budgeted source search

`PipelineSourceSearchAdapter` of `app/research/pipeline_source_adapters.py` with
`app/schemas/research_search_budget.py` and what it uses of `research_search_query.py`,
`research_source_search.py` and `research_source_candidate.py`. -/

namespace AgenticLab

/-- `Field(ge=0.0)` only looks for values below zero. -/
structure ResearchSearchBudget where
  maximumProviderCalls : ℕ
  maximumCredits : FloatValue
  maximumLatencyMs : ℕ
  defaultCreditPerCall : FloatValue
  calls_positive : 1 ≤ maximumProviderCalls
  credits_valid : ¬maximumCredits < 0
  default_valid : ¬defaultCreditPerCall < 0

structure ResearchSearchUsage where
  providerCallCount : ℕ
  creditUsed : FloatValue
  latencyUsedMs : ℕ
  unreportedCreditCallCount : ℕ
  blockedQueryCount : ℕ
  deriving DecidableEq

/-- `ResearchSearchUsage()` -/
def ResearchSearchUsage.start : ResearchSearchUsage := ⟨0, 0, 0, 0, 0⟩

/-! ## Queries and candidates -/

structure ResearchSearchQuery where
  queryId : String
  requestId : String
  taskId : String
  queryText : String
  maximumResults : ℕ

structure ResearchSourceCandidate where
  sourceId : String
  requestId : String
  taskId : String
  queryId : String
  url : String
  rank : ℕ

/-- What the platform does with texts: `casefold`, the urls of `normalized_url` and `float`. -/
structure SearchTexts where
  casefold : Casefold
  normalizeUrl : String → String
  float : String → Option FloatValue

variable (texts : SearchTexts)

def SearchTexts.key (value : String) : String := normalizeId texts.casefold value

/-- What the adapter reads of a query set, with `validate_query_set`. -/
structure ResearchSearchQuerySet where
  requestId : String
  queries : List ResearchSearchQuery
  request_nonblank : isBlank requestId = false
  queryIds_nodup : (queries.map fun query => texts.key query.queryId).Nodup
  requestIds_eq : ∀ query ∈ queries, query.requestId = requestId

/-- What the adapter reads of a result, with `validate_result`. -/
structure ResearchSourceSearchResult where
  query : ResearchSearchQuery
  candidates : List ResearchSourceCandidate
  durationMs : ℕ
  usageCredits : Option String
  candidates_query : ∀ candidate ∈ candidates, candidate.requestId = query.requestId ∧
    candidate.taskId = query.taskId ∧ candidate.queryId = query.queryId
  sourceIds_nodup : (candidates.map fun candidate => texts.key candidate.sourceId).Nodup
  urls_nodup : (candidates.map fun candidate => texts.normalizeUrl candidate.url).Nodup
  ranks_nodup : (candidates.map fun candidate => candidate.rank).Nodup

structure ResearchSourceCandidateSet where
  requestId : String
  querySet : ResearchSearchQuerySet texts
  candidates : List ResearchSourceCandidate

/-- The loop over the candidates of `validate_candidate_set`. -/
def validateQueryReferences (queries : List ResearchSearchQuery) :
    List ResearchSourceCandidate → Except Raised Unit
  | [] => .ok ()
  | candidate :: candidates =>
    match queries.find? fun query => texts.key query.queryId = texts.key candidate.queryId with
    | none => .error ⟨.validationError, "all candidates must reference existing queries"⟩
    | some query => do
        raiseIf (texts.key candidate.taskId ≠ texts.key query.taskId)
          ⟨.validationError, "candidate task_id must match the referenced query task_id"⟩
        validateQueryReferences queries candidates

variable {texts}

/-- `validate_candidate_set` -/
def ResearchSourceCandidateSet.validate (set : ResearchSourceCandidateSet texts) :
    Except Raised Unit := do
  raiseIf (isBlank set.requestId) ⟨.validationError, "request_id must not be blank"⟩
  raiseIf (set.querySet.requestId ≠ set.requestId)
    ⟨.validationError, "query set request_id must match candidate set request_id"⟩
  raiseIf (¬(set.candidates.map fun candidate => texts.key candidate.sourceId).Nodup)
    ⟨.validationError, "source IDs must be unique"⟩
  raiseIf (∃ candidate ∈ set.candidates, candidate.requestId ≠ set.requestId)
    ⟨.validationError, "all candidate request IDs must match the candidate set request_id"⟩
  validateQueryReferences texts set.querySet.queries set.candidates
  raiseIf (¬(set.candidates.map fun candidate =>
      (texts.key candidate.queryId, texts.normalizeUrl candidate.url)).Nodup)
    ⟨.validationError, "candidates for the same query must not contain duplicate URLs"⟩
  raiseIf (¬(set.candidates.map fun candidate => (texts.key candidate.queryId, candidate.rank)).Nodup)
    ⟨.validationError, "candidate ranks must be unique within each query"⟩

/-! ## The adapter -/

variable (texts) in
/-- A call of the provider: its number and the query that it is given. -/
abbrev ResearchSourceSearchTool := ℕ → ResearchSearchQuery → ResearchSourceSearchResult texts

variable (texts) in
structure PipelineSourceSearchAdapter where
  searchTool : ResearchSourceSearchTool texts
  maximumCandidates : Option ℕ
  minimumResultsPerQuery : Option ℕ
  budget : Option ResearchSearchBudget
  candidates_positive : ∀ maximum ∈ maximumCandidates, 1 ≤ maximum
  results_positive : ∀ minimum ∈ minimumResultsPerQuery, 1 ≤ minimum

variable (texts) in
structure ProviderCall where
  usage : ResearchSearchUsage
  query : ResearchSearchQuery
  result : ResearchSourceSearchResult texts

variable (texts) in
/-- `_usage`, with its earlier values and the calls that were made, the latest ones first. -/
structure SearchWorld where
  usage : ResearchSearchUsage
  earlier : List ResearchSearchUsage
  calls : List (ProviderCall texts)

def SearchWorld.start : SearchWorld texts := ⟨.start, [], []⟩

def SearchWorld.update (world : SearchWorld texts) (usage : ResearchSearchUsage) :
    SearchWorld texts :=
  { world with usage := usage, earlier := world.usage :: world.earlier }

namespace PipelineSourceSearchAdapter

variable (adapter : PipelineSourceSearchAdapter texts)

def canStartProviderCall (usage : ResearchSearchUsage) : Bool :=
  match adapter.budget with
  | none => true
  | some budget =>
    if budget.maximumProviderCalls ≤ usage.providerCallCount then false
    else if budget.maximumCredits < usage.creditUsed + budget.defaultCreditPerCall then false
    else usage.latencyUsedMs < budget.maximumLatencyMs

def defaultCredit : FloatValue :=
  match adapter.budget with
  | none => 0
  | some budget => budget.defaultCreditPerCall

def creditOf (result : ResearchSourceSearchResult texts) : FloatValue × Bool :=
  match result.usageCredits.bind texts.float with
  | some credit => (credit, true)
  | none => (adapter.defaultCredit, false)

def recordProviderResult (usage : ResearchSearchUsage)
    (result : ResearchSourceSearchResult texts) : ResearchSearchUsage :=
  { usage with
    providerCallCount := usage.providerCallCount + 1
    creditUsed := usage.creditUsed + (adapter.creditOf result).1
    latencyUsedMs := usage.latencyUsedMs + result.durationMs
    unreportedCreditCallCount :=
      usage.unreportedCreditCallCount + if (adapter.creditOf result).2 then 0 else 1 }

def searchQuery (query : ResearchSearchQuery) : ResearchSearchQuery :=
  match adapter.minimumResultsPerQuery with
  | none => query
  | some minimum => { query with maximumResults := max query.maximumResults minimum }

def isFull (candidates : List ResearchSourceCandidate) : Bool :=
  adapter.maximumCandidates.any fun maximum => maximum ≤ candidates.length

/-- The loop over the candidates of a result. `seen_source_ids` holds the keys of `candidates`. -/
def addCandidates : List ResearchSourceCandidate → List ResearchSourceCandidate →
    List ResearchSourceCandidate
  | [], candidates => candidates
  | candidate :: rest, candidates =>
    if texts.key candidate.sourceId ∈ candidates.map fun seen => texts.key seen.sourceId then
      addCandidates rest candidates
    else if adapter.isFull (candidates ++ [candidate]) then candidates ++ [candidate]
    else addCandidates rest (candidates ++ [candidate])

def callProvider (query : ResearchSearchQuery) (world : SearchWorld texts) :
    ResearchSourceSearchResult texts × SearchWorld texts :=
  let result := adapter.searchTool world.calls.length (adapter.searchQuery query)
  (result, { world.update (adapter.recordProviderResult world.usage result) with
    calls := ⟨world.usage, adapter.searchQuery query, result⟩ :: world.calls })

def searchQueries : List ResearchSearchQuery → List ResearchSourceCandidate → SearchWorld texts →
    List ResearchSourceCandidate × SearchWorld texts
  | [], candidates, world => (candidates, world)
  | query :: queries, candidates, world =>
    if adapter.canStartProviderCall world.usage = false then
      (candidates, world.update
        { world.usage with blockedQueryCount := world.usage.blockedQueryCount + 1 })
    else
      let (result, next) := adapter.callProvider query world
      let candidates := adapter.addCandidates result.candidates candidates
      if adapter.isFull candidates then (candidates, next)
      else searchQueries queries candidates next

def search (querySet : ResearchSearchQuerySet texts) (world : SearchWorld texts) :
    Except Raised (ResearchSourceCandidateSet texts) × SearchWorld texts :=
  let (candidates, next) := adapter.searchQueries querySet.queries [] world
  let set : ResearchSourceCandidateSet texts := ⟨querySet.requestId, querySet, candidates⟩
  (set.validate.map fun _ => set, next)

def searchAll : List (ResearchSearchQuerySet texts) → SearchWorld texts →
    List (Except Raised (ResearchSourceCandidateSet texts)) × SearchWorld texts
  | [], world => ([], world)
  | querySet :: querySets, world =>
    let (answer, next) := adapter.search querySet world
    let (answers, last) := searchAll querySets next
    (answer :: answers, last)

end PipelineSourceSearchAdapter

end AgenticLab
