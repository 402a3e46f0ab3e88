import AgenticLab.Model.Research.PatentClaimGrounding

/-! # CQL queries of a patent concept plan

`app/research/epo_ops_patent_cql_planner.py` and `app/research/patent_search_query_planner.py`, with
`app/schemas/patent_technical_concept.py`, `app/schemas/patent_search_query.py` and what they read
of `app/schemas/patent_research_request.py`. -/

namespace AgenticLab

/-- `datetime.date` -/
structure CalendarDate where
  year : ℕ
  month : ℕ
  day : ℕ
  valid : isCalendarTime year month day 0 0 0 0 = true

structure PatentResearchRequest where
  question : String
  objective : String
  priorArtCutoffDate : Option CalendarDate
  question_notBlank : isBlank question = false
  objective_notBlank : isBlank objective = false

inductive PatentTechnicalConceptRole where
  | primary
  | alternate
  deriving DecidableEq

/-- Its terms pass the checks of `IsClaimText`, and none is too long. -/
structure PatentTechnicalConcept (casefold : Casefold) where
  role : PatentTechnicalConceptRole
  terms : List String
  terms_length : 1 ≤ terms.length ∧ terms.length ≤ 4
  terms_valid : ∀ term ∈ terms, IsClaimText term ∧ term.length ≤ 80
  terms_nodup : (terms.map casefold).Nodup

def PatentTechnicalConcept.duplicateKey {casefold : Casefold}
    (concept : PatentTechnicalConcept casefold) : List String :=
  (concept.terms.map casefold).mergeSort

structure PatentTechnicalConceptPlan (casefold : Casefold) where
  request : PatentResearchRequest
  concepts : List (PatentTechnicalConcept casefold)
  concepts_length : 1 ≤ concepts.length ∧ concepts.length ≤ 2
  first_primary : ∀ concept ∈ concepts[0]?, concept.role = .primary
  second_alternate : ∀ concept ∈ concepts[1]?, concept.role = .alternate
  keys_nodup : (concepts.map (·.duplicateKey)).Nodup
  grounded : ∀ concept ∈ concepts, ∀ term ∈ concept.terms, (casefold term).toList <:+:
    (casefold (request.question ++ "\n" ++ request.objective)).toList

inductive PatentSearchQueryPurpose where
  | primary
  | alternate
  deriving DecidableEq

structure PatentSearchQuery where
  cqlQuery : String
  purpose : PatentSearchQueryPurpose

namespace PatentSearchQuery

/-- The constraint of `cql_query`, and `validate_query`. -/
def validate (query : PatentSearchQuery) : Except Raised Unit := do
  raiseIf (512 < query.cqlQuery.length)
    ⟨.validationError, "cql_query: String should have at most 512 characters"⟩
  raiseIf (isBlank query.cqlQuery = true) ⟨.validationError, "cql_query must not be blank"⟩
  raiseIf (query.cqlQuery.toList.any isControl = true)
    ⟨.validationError, "cql_query must not contain control characters"⟩

def duplicateKey (query : PatentSearchQuery) : String := strip query.cqlQuery

end PatentSearchQuery

structure PatentSearchQueryPlan where
  request : PatentResearchRequest
  queries : List PatentSearchQuery

/-- The constraints of `queries`, and `validate_plan`. -/
def PatentSearchQueryPlan.validate (plan : PatentSearchQueryPlan) : Except Raised Unit := do
  raiseIf (plan.queries.length < 1)
    ⟨.validationError, "queries: Tuple should have at least 1 item after validation"⟩
  raiseIf (2 < plan.queries.length)
    ⟨.validationError, "queries: Tuple should have at most 2 items after validation"⟩
  raiseIf (∃ query ∈ plan.queries[0]?, query.purpose ≠ .primary)
    ⟨.validationError, "first patent search query must be primary"⟩
  raiseIf (∃ query ∈ plan.queries[1]?, query.purpose ≠ .alternate)
    ⟨.validationError, "second patent search query must be alternate"⟩
  raiseIf (¬(plan.queries.map (·.duplicateKey)).Nodup)
    ⟨.validationError, "patent search queries must not contain exact duplicates"⟩

/-- `plan`, for a sequence that is no text. -/
def PatentSearchQueryPlanner.plan (request : PatentResearchRequest) (cqlQueries : List String) :
    Except Raised PatentSearchQueryPlan := do
  raiseIf (cqlQueries = []) ⟨.valueError, "at least one patent CQL query is required"⟩
  raiseIf (2 < cqlQueries.length)
    ⟨.valueError, "patent query planning supports at most two CQL candidates"⟩
  let queries := (cqlQueries.zip [.primary, .alternate]).map
    fun (cqlQuery, purpose) => (⟨cqlQuery, purpose⟩ : PatentSearchQuery)
  queries.forM PatentSearchQuery.validate
  let plan : PatentSearchQueryPlan := ⟨request, queries⟩
  plan.validate
  return plan

namespace EpoOpsPatentCqlPlanner

def renderTermClause (term : String) : Except Raised String := do
  raiseIf (term.toList.any (128 ≤ ·.toNat) = true)
    ⟨.valueError, "EPO OPS first-slice CQL planning requires ASCII technical terms because the ta " ++
      "index targets English title/abstract content and automatic translation is not enabled"⟩
  let found := ['"', '#', '*', '?'].filter fun character => term.toList.contains character
  raiseIf (found ≠ [])
    ⟨.valueError, "patent technical term contains EPO CQL metacharacters that are unsupported by " ++
      "the first slice: " ++ ", ".intercalate (found.map fun character =>
        "'" ++ String.singleton character ++ "'")⟩
  return "ta all \"" ++ term ++ "\""

/-- `strftime("%Y%m%d")` -/
def dateText (date : CalendarDate) : String :=
  String.ofList (fourDigits date.year ++ twoDigits date.month ++ twoDigits date.day)

def renderConceptQuery (terms : List String) (cutoffDate : Option CalendarDate) :
    Except Raised String := do
  let clauses ← terms.mapM renderTermClause
  return " and ".intercalate
    (clauses ++ cutoffDate.toList.map fun date => "pd < " ++ dateText date)

def plan {casefold : Casefold} (conceptPlan : PatentTechnicalConceptPlan casefold) :
    Except Raised PatentSearchQueryPlan := do
  let cqlQueries ← conceptPlan.concepts.mapM fun concept =>
    renderConceptQuery concept.terms conceptPlan.request.priorArtCutoffDate
  PatentSearchQueryPlanner.plan conceptPlan.request cqlQueries

end EpoOpsPatentCqlPlanner

end AgenticLab
