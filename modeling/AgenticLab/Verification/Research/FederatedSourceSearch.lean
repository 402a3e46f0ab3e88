import AgenticLab.Library.KeepFirst
import AgenticLab.Library.Parts
import AgenticLab.Model.Research.FederatedSourceSearch

/-! # Federation loses nothing but duplicates -/

namespace AgenticLab.FederatedSearch

open Interleaving KeepFirst Parts

variable {texts : SearchTexts} {Details TaskGraph : Type}

variable (texts) in
/-- The `normalized_url` of a candidate of a valid set. -/
def urlOf (candidate : ResearchSourceCandidate) : String :=
  match texts.normalizedUrl candidate.url with
  | .ok url => url
  | .error _ => ""

variable (texts) in
def HasUrl (candidate : ResearchSourceCandidate) : Prop :=
  texts.normalizedUrl candidate.url = .ok (urlOf texts candidate)

variable (texts) in
def Refers (queries : List (ResearchSearchQuery Details)) (candidate : ResearchSourceCandidate) :
    Prop :=
  ∃ query, queries.find? (fun query => texts.key query.queryId = texts.key candidate.queryId) =
    some query ∧ texts.key candidate.taskId = texts.key query.taskId

variable {candidates : List ResearchSourceCandidate}

theorem validateQueryReferences_eq_ok_iff {queries : List (ResearchSearchQuery Details)}
    {u : Unit} :
    validateQueryReferences texts queries candidates = .ok u ↔
      ∀ candidate ∈ candidates, Refers texts queries candidate := by
  induction candidates with
  | nil => exact iff_of_true rfl nofun
  | cons candidate candidates ih =>
    rw [validateQueryReferences, List.forall_mem_cons, ← ih, Refers]
    cases queries.find? fun query => texts.key query.queryId = texts.key candidate.queryId with
    | none => simp
    | some query => simp [raiseIf_bind_eq_ok]

theorem validateUrls_eq_ok_iff {urls : List String} :
    validateUrls texts candidates = .ok urls ↔
      (∀ candidate ∈ candidates, HasUrl texts candidate) ∧ urls = candidates.map (urlOf texts) := by
  induction candidates generalizing urls with
  | nil => simp [validateUrls, eq_comm]
  | cons candidate candidates ih =>
    rw [validateUrls, List.forall_mem_cons, List.map_cons, HasUrl, urlOf]
    cases texts.normalizedUrl candidate.url with
    | error message => simp
    | ok url =>
      rw [bind_eq_ok]
      constructor
      · rintro ⟨rest, hrest, hurls⟩
        obtain ⟨hall, rfl⟩ := ih.mp hrest
        exact ⟨⟨rfl, hall⟩, (Except.ok.inj hurls).symm⟩
      · rintro ⟨⟨-, hall⟩, rfl⟩
        exact ⟨_, ih.mpr ⟨hall, rfl⟩, rfl⟩

structure Valid (set : ResearchSourceCandidateSet texts Details TaskGraph) : Prop where
  request_nonblank : isBlank set.requestId = false
  requestId_eq : set.querySet.requestId = set.requestId
  sourceIds_nodup : (set.candidates.map fun candidate => texts.key candidate.sourceId).Nodup
  requestIds_eq : ∀ candidate ∈ set.candidates, candidate.requestId = set.requestId
  refers : ∀ candidate ∈ set.candidates, Refers texts set.querySet.queries candidate
  hasUrl : ∀ candidate ∈ set.candidates, HasUrl texts candidate
  urls_nodup : (set.candidates.map fun candidate =>
    (texts.key candidate.queryId, urlOf texts candidate)).Nodup
  ranks_nodup : (set.candidates.map fun candidate =>
    (texts.key candidate.queryId, candidate.rank)).Nodup

theorem validate_eq_ok_iff {set : ResearchSourceCandidateSet texts Details TaskGraph} :
    set.validate = .ok () ↔ Valid set := by
  have hzip : ((set.candidates.map fun candidate => texts.key candidate.queryId).zip
      (set.candidates.map (urlOf texts))) =
      set.candidates.map fun candidate => (texts.key candidate.queryId, urlOf texts candidate) :=
    List.zip_map' ..
  simp only [ResearchSourceCandidateSet.validate, raiseIf_eq_ok, bind_eq_ok, exists_const,
    validateQueryReferences_eq_ok_iff, validateUrls_eq_ok_iff, not_not, not_exists, not_and]
  constructor
  · rintro ⟨hblank, hrequest, hids, hrequests, hrefers, urls, ⟨hurls, rfl⟩, hnodup, hranks⟩
    rw [hzip] at hnodup
    exact ⟨Bool.eq_false_iff.mpr hblank, hrequest, hids, hrequests, hrefers, hurls, hnodup, hranks⟩
  · rintro ⟨hblank, hrequest, hids, hrequests, hrefers, hurls, hnodup, hranks⟩
    refine ⟨Bool.eq_false_iff.mp hblank, hrequest, hids, hrequests, hrefers, _, ⟨hurls, rfl⟩,
      ?_, hranks⟩
    rw [hzip]
    exact hnodup

/-- Where a candidate comes from. -/
inductive Child where
  | web
  | files
  deriving DecidableEq, Repr

abbrev Visit := Child × ResearchSourceCandidate

variable (texts) in
def idKey (visit : Visit) : String := texts.key visit.2.sourceId

variable (texts) in
def queryKey (visit : Visit) : String := texts.key visit.2.queryId

variable (texts) in
def Clash (earlier later : Visit) : Prop :=
  idKey texts earlier = idKey texts later ∨
    queryKey texts earlier = queryKey texts later ∧ urlOf texts earlier.2 = urlOf texts later.2

instance : DecidableRel (Clash texts) := fun _ _ => inferInstanceAs (Decidable (_ ∨ _))

variable (texts) in
def ofQuery (query : ResearchSearchQuery Details) : List Visit → List Visit :=
  part (queryKey texts) (texts.key query.queryId)

def candidatesOf (set : ResearchSourceCandidateSet texts Details TaskGraph)
    (query : ResearchSearchQuery Details) : List ResearchSourceCandidate :=
  set.orderedCandidates.filter fun candidate =>
    texts.key candidate.queryId = texts.key query.queryId

def visitsOf (web files : ResearchSourceCandidateSet texts Details TaskGraph)
    (query : ResearchSearchQuery Details) : List Visit :=
  interleave ((candidatesOf web query).map fun candidate => (.web, candidate))
    ((candidatesOf files query).map fun candidate => (.files, candidate))

def visits (web files : ResearchSourceCandidateSet texts Details TaskGraph)
    (queries : List (ResearchSearchQuery Details)) : List Visit :=
  queries.flatMap (visitsOf web files)

section

variable {set web files : ResearchSourceCandidateSet texts Details TaskGraph}
  {query : ResearchSearchQuery Details} {queries : List (ResearchSearchQuery Details)}
  {candidate : ResearchSourceCandidate}

theorem candidatesForQuery_eq : set.candidatesForQuery query.queryId =
    .ok (candidatesOf set query) := by
  rw [ResearchSourceCandidateSet.candidatesForQuery, raiseIf_bind_eq_ok]
  exact ⟨Bool.eq_false_iff.mp query.queryId_nonblank, rfl⟩

theorem mem_candidatesOf : candidate ∈ candidatesOf set query ↔
    candidate ∈ set.candidates ∧ texts.key candidate.queryId = texts.key query.queryId := by
  rw [candidatesOf, List.mem_filter, decide_eq_true_iff]
  exact and_congr_left fun _ => List.mem_mergeSort

theorem mem_visitsOf_web : (Child.web, candidate) ∈ visitsOf web files query ↔
    candidate ∈ candidatesOf web query := by
  rw [visitsOf, (interleave_perm _ _).mem_iff]
  simp

theorem mem_visitsOf_files : (Child.files, candidate) ∈ visitsOf web files query ↔
    candidate ∈ candidatesOf files query := by
  rw [visitsOf, (interleave_perm _ _).mem_iff]
  simp

theorem mem_visitsOf {visit : Visit} (h : visit ∈ visitsOf web files query) :
    (visit.2 ∈ web.candidates ∨ visit.2 ∈ files.candidates) ∧
      queryKey texts visit = texts.key query.queryId := by
  obtain ⟨child, candidate⟩ := visit
  cases child with
  | web =>
    have hcandidate := mem_candidatesOf.mp (mem_visitsOf_web.mp h)
    exact ⟨.inl hcandidate.1, hcandidate.2⟩
  | files =>
    have hcandidate := mem_candidatesOf.mp (mem_visitsOf_files.mp h)
    exact ⟨.inr hcandidate.1, hcandidate.2⟩

end

/-! ## The candidates of one query -/

def rankFrom : ℕ → List Visit → List ResearchSourceCandidate
  | _, [] => []
  | rank, visit :: visits => { visit.2 with rank := rank } :: rankFrom (rank + 1) visits

theorem rankFrom_concat (rank : ℕ) (visits : List Visit) (visit : Visit) :
    rankFrom rank (visits ++ [visit]) =
      rankFrom rank visits ++ [{ visit.2 with rank := rank + visits.length }] := by
  induction visits generalizing rank with
  | nil => rfl
  | cons first visits ih =>
    rw [List.cons_append, rankFrom, ih, rankFrom, List.length_cons, List.cons_append,
      Nat.add_assoc, Nat.add_comm 1]

theorem map_rank_rankFrom (rank : ℕ) (visits : List Visit) :
    (rankFrom rank visits).map (fun candidate => candidate.rank) =
      List.range' rank visits.length := by
  induction visits generalizing rank with
  | nil => rfl
  | cons first visits ih => rw [rankFrom, List.map_cons, ih, List.length_cons, List.range'_succ]

theorem map_rankFrom {β : Type} (f : ResearchSourceCandidate → β)
    (h : ∀ candidate rank, f { candidate with rank := rank } = f candidate) (rank : ℕ)
    (visits : List Visit) : (rankFrom rank visits).map f = visits.map fun visit => f visit.2 := by
  induction visits generalizing rank with
  | nil => rfl
  | cons first visits ih => rw [rankFrom, List.map_cons, ih, List.map_cons, h]

variable (texts) in
/-- The variables behind visits of which `now` are kept for the query and `before` for earlier
ones. -/
def stateOf (merged : List ResearchSourceCandidate) (before now : List Visit) : QueryState where
  merged := merged ++ rankFrom 1 now
  seenSourceIds := (before ++ now).map (idKey texts)
  seenUrls := now.map fun visit => urlOf texts visit.2
  nextRank := now.length + 1

section

variable {merged : List ResearchSourceCandidate} {before now : List Visit} {key : String}

theorem clash_iff {visit : Visit} (hbefore : ∀ earlier ∈ before, queryKey texts earlier ≠ key)
    (hnow : ∀ earlier ∈ now, queryKey texts earlier = key) (hvisit : queryKey texts visit = key) :
    (idKey texts visit ∈ (before ++ now).map (idKey texts) ∨
        urlOf texts visit.2 ∈ now.map fun earlier => urlOf texts earlier.2) ↔
      ∃ earlier ∈ before ++ now, Clash texts earlier visit := by
  constructor
  · rintro (hid | hurl)
    · obtain ⟨earlier, hmem, heq⟩ := List.mem_map.mp hid
      exact ⟨earlier, hmem, .inl heq⟩
    · obtain ⟨earlier, hmem, heq⟩ := List.mem_map.mp hurl
      exact ⟨earlier, List.mem_append_right before hmem,
        .inr ⟨(hnow earlier hmem).trans hvisit.symm, heq⟩⟩
  · rintro ⟨earlier, hmem, heq | ⟨hquery, heq⟩⟩
    · exact .inl (List.mem_map.mpr ⟨earlier, hmem, heq⟩)
    · rcases List.mem_append.mp hmem with h | h
      · exact absurd (hquery.trans hvisit) (hbefore earlier h)
      · exact .inr (List.mem_map.mpr ⟨earlier, h, heq⟩)

theorem visitCandidate_stateOf {visit : Visit} (hurl : HasUrl texts visit.2)
    (hbefore : ∀ earlier ∈ before, queryKey texts earlier ≠ key)
    (hnow : ∀ earlier ∈ now, queryKey texts earlier = key) (hvisit : queryKey texts visit = key) :
    visitCandidate texts (stateOf texts merged before now) (some visit.2) =
      .ok (if ∃ earlier ∈ before ++ now, Clash texts earlier visit then
        stateOf texts merged before now else stateOf texts merged before (now ++ [visit])) := by
  have hstate : stateOf texts merged before (now ++ [visit]) = {
      merged := (stateOf texts merged before now).merged ++
        [{ visit.2 with rank := (stateOf texts merged before now).nextRank }]
      seenSourceIds := (stateOf texts merged before now).seenSourceIds ++ [idKey texts visit]
      seenUrls := (stateOf texts merged before now).seenUrls ++ [urlOf texts visit.2]
      nextRank := (stateOf texts merged before now).nextRank + 1 } := by
    simp [stateOf, rankFrom_concat, Nat.add_comm]
  rw [visitCandidate, hurl, apply_ite Except.ok, hstate]
  simp only [← clash_iff hbefore hnow hvisit]
  rfl

variable (texts) in
def visitAll : List Visit → QueryState → Except Raised QueryState
  | [], state => .ok state
  | visit :: visits, state => do
      visitAll visits (← visitCandidate texts state (some visit.2))

theorem visitPairs_zipLongest (first second : List Visit) (state : QueryState) :
    visitPairs texts (zipLongest (first.map Prod.snd) (second.map Prod.snd)) state =
      visitAll texts (interleave first second) state := by
  fun_induction interleave first second generalizing state with
  | case1 second =>
    rw [List.map_nil, zipLongest]
    induction second generalizing state with
    | nil => rfl
    | cons visit second ih =>
      simp only [List.map_cons, visitPairs, visitPair, visitCandidate.eq_1, ok_bind, visitAll]
      exact congrArg _ (funext fun state => ih state)
  | case2 visit first =>
    rw [List.map_cons, List.map_nil, zipLongest, ← List.map_cons]
    generalize visit :: first = rest
    induction rest generalizing state with
    | nil => rfl
    | cons visit rest ih =>
      simp only [List.map_cons, visitPairs, visitPair, visitCandidate.eq_1, visitAll, bind_assoc]
      exact congrArg _ (funext fun state => ih state)
  | case3 visit first other second ih =>
    simp only [List.map_cons, zipLongest, visitPairs, visitPair, visitAll, bind_assoc, ih]

theorem visitAll_stateOf {visits : List Visit} (hurls : ∀ visit ∈ visits, HasUrl texts visit.2)
    (hbefore : ∀ earlier ∈ before, queryKey texts earlier ≠ key)
    (hnow : ∀ earlier ∈ now, queryKey texts earlier = key)
    (hvisits : ∀ visit ∈ visits, queryKey texts visit = key) :
    ∃ more, visitAll texts visits (stateOf texts merged before now) =
        .ok (stateOf texts merged before (now ++ more)) ∧
      keep (Clash texts) (before ++ now) visits = (before ++ now) ++ more := by
  induction visits generalizing now with
  | nil => exact ⟨[], by simp [visitAll], by simp [keep]⟩
  | cons visit visits ih =>
    have hvisit := hvisits visit List.mem_cons_self
    have hrest := fun other hmem => hvisits other (List.mem_cons_of_mem visit hmem)
    have hresturls := fun other hmem => hurls other (List.mem_cons_of_mem visit hmem)
    rw [visitAll, visitCandidate_stateOf (hurls visit List.mem_cons_self) hbefore hnow hvisit,
      ok_bind, keep]
    split
    case isTrue hclash => exact ih hresturls hnow hrest
    case isFalse hfree =>
      have hconcat : ∀ earlier ∈ now ++ [visit], queryKey texts earlier = key := by
        intro earlier hmem
        rcases List.mem_append.mp hmem with h | h
        · exact hnow earlier h
        · rw [List.mem_singleton.mp h]
          exact hvisit
      obtain ⟨more, hall, hkeep⟩ := ih hresturls hconcat hrest
      refine ⟨visit :: more, ?_, ?_⟩
      · rw [hall, List.append_assoc, List.singleton_append]
      · rw [List.append_assoc, hkeep]
        simp

end

section

variable {web files : ResearchSourceCandidateSet texts Details TaskGraph}
  {query : ResearchSearchQuery Details} {queries : List (ResearchSearchQuery Details)}
  {merged : List ResearchSourceCandidate} {before now more : List Visit}

theorem mem_visits {visit : Visit} (h : visit ∈ visits web files queries) :
    visit.2 ∈ web.candidates ∨ visit.2 ∈ files.candidates := by
  obtain ⟨query, -, hvisit⟩ := List.mem_flatMap.mp h
  exact (mem_visitsOf hvisit).1

theorem queryKey_of_mem_visitsOf (query : ResearchSearchQuery Details) :
    ∀ visit ∈ visitsOf web files query, queryKey texts visit = texts.key query.queryId :=
  fun _ hmem => (mem_visitsOf hmem).2

theorem visitPairs_candidatesOf (state : QueryState) :
    visitPairs texts (zipLongest (candidatesOf web query) (candidatesOf files query)) state =
      visitAll texts (visitsOf web files query) state := by
  rw [visitsOf, ← visitPairs_zipLongest]
  simp

variable (texts) in
def rankedBy (queries : List (ResearchSearchQuery Details)) (kept : List Visit) :
    List ResearchSourceCandidate :=
  queries.flatMap fun query => rankFrom 1 (ofQuery texts query kept)

theorem mergeQueries_eq
    (hnodup : (queries.map fun query => texts.key query.queryId).Nodup)
    (hurls : ∀ visit ∈ visits web files queries, HasUrl texts visit.2)
    (hbefore : ∀ earlier ∈ before, ∀ query ∈ queries,
      queryKey texts earlier ≠ texts.key query.queryId) :
    ∃ more, mergeQueries web files queries ⟨merged, before.map (idKey texts)⟩ =
        .ok ⟨merged ++ rankedBy texts queries more, (before ++ more).map (idKey texts)⟩ ∧
      keep (Clash texts) before (visits web files queries) = before ++ more := by
  induction queries generalizing merged before with
  | nil => exact ⟨[], by simp [mergeQueries, rankedBy], by simp [visits, keep]⟩
  | cons query queries ih =>
    have hstart : (⟨⟨merged, before.map (idKey texts)⟩, [], 1⟩ : QueryState) =
        stateOf texts merged before [] := by
      simp [stateOf, rankFrom]
    obtain ⟨now, hnow, hkeep⟩ := @visitAll_stateOf texts merged before []
      (texts.key query.queryId) (visitsOf web files query)
      (fun visit hmem => hurls visit (List.mem_append_left _ hmem))
      (fun earlier hmem => hbefore earlier hmem query List.mem_cons_self)
      (fun _ h => absurd h List.not_mem_nil)
      (queryKey_of_mem_visitsOf query)
    rw [List.nil_append] at hnow
    rw [List.append_nil] at hkeep
    have hnowkey : ∀ visit ∈ now, queryKey texts visit = texts.key query.queryId :=
      fun visit hmem =>
        queryKey_of_mem_visitsOf query visit ((sublist_of_keep_eq hkeep).subset hmem)
    have hbefore' : ∀ earlier ∈ before ++ now, ∀ other ∈ queries,
        queryKey texts earlier ≠ texts.key other.queryId := by
      intro earlier hmem other hother
      rcases List.mem_append.mp hmem with h | h
      · exact hbefore earlier h other (List.mem_cons_of_mem query hother)
      · rw [hnowkey earlier h]
        exact (label_ne_of_nodup hnodup hother).symm
    obtain ⟨more, hmerge, hrest⟩ := @ih (merged ++ rankFrom 1 now) (before ++ now)
      (List.nodup_cons.mp hnodup).2 (fun visit hmem => hurls visit (List.mem_append_right _ hmem))
      hbefore'
    have hmorekey : ∀ visit ∈ more, queryKey texts visit ≠ texts.key query.queryId :=
      fun visit hmem => key_ne_of_mem_flatMap queryKey_of_mem_visitsOf hnodup visit
        ((sublist_of_keep_eq hrest).subset hmem)
    have hranked : rankedBy texts (query :: queries) (now ++ more) =
        rankFrom 1 now ++ rankedBy texts queries more := by
      rw [rankedBy, List.flatMap_cons, ofQuery, part_append_of_eq hnowkey hmorekey]
      exact congrArg _ (flatMap_part_append (fun _ => rankFrom 1) hnowkey hnodup)
    refine ⟨now ++ more, ?_, ?_⟩
    · rw [mergeQueries, candidatesForQuery_eq, ok_bind, candidatesForQuery_eq, ok_bind,
        visitPairs_candidatesOf, hstart, hnow, ok_bind, hranked, ← List.append_assoc,
        ← List.append_assoc]
      exact hmerge
    · rw [visits, List.flatMap_cons, keep_append, hkeep, ← List.append_assoc]
      exact hrest

end

section

variable {web files : ResearchSourceCandidateSet texts Details TaskGraph}
  {query : ResearchSearchQuery Details} {queries : List (ResearchSearchQuery Details)}
  {kept : List Visit} {candidate : ResearchSourceCandidate}

theorem mem_rankFrom {rank : ℕ} {visits : List Visit} (h : candidate ∈ rankFrom rank visits) :
    ∃ visit ∈ visits, ∃ rank, candidate = { visit.2 with rank := rank } := by
  induction visits generalizing rank with
  | nil => exact absurd h List.not_mem_nil
  | cons visit visits ih =>
    rcases List.mem_cons.mp h with rfl | hrest
    · exact ⟨visit, List.mem_cons_self, rank, rfl⟩
    · obtain ⟨other, hother, hrank⟩ := ih hrest
      exact ⟨other, List.mem_cons_of_mem visit hother, hrank⟩

theorem mem_rankedBy (h : candidate ∈ rankedBy texts queries kept) :
    ∃ visit ∈ kept, ∃ rank, candidate = { visit.2 with rank := rank } := by
  obtain ⟨query, -, hmem⟩ := List.mem_flatMap.mp h
  obtain ⟨visit, hvisit, hrank⟩ := mem_rankFrom hmem
  exact ⟨visit, (mem_part.mp hvisit).1, hrank⟩

theorem queryKey_of_mem_ranked (kept : List Visit) (query : ResearchSearchQuery Details) :
    ∀ candidate ∈ rankFrom 1 (ofQuery texts query kept),
      texts.key candidate.queryId = texts.key query.queryId := by
  intro candidate hmem
  obtain ⟨visit, hvisit, rank, rfl⟩ := mem_rankFrom hmem
  exact (mem_part.mp hvisit).2

theorem map_rankedBy {β : Type} (f : ResearchSourceCandidate → β)
    (h : ∀ candidate rank, f { candidate with rank := rank } = f candidate)
    (hnodup : (queries.map fun query => texts.key query.queryId).Nodup)
    (hkept : kept.Sublist (visits web files queries)) :
    (rankedBy texts queries kept).map f = kept.map fun visit => f visit.2 := by
  rw [rankedBy, List.map_flatMap]
  simp only [map_rankFrom f h]
  rw [← List.map_flatMap]
  exact congrArg _ (flatMap_part_eq queryKey_of_mem_visitsOf hnodup hkept)

theorem ranks_rankedBy (hnodup : (queries.map fun query => texts.key query.queryId).Nodup) :
    ((rankedBy texts queries kept).map fun candidate =>
      (texts.key candidate.queryId, candidate.rank)).Nodup := by
  rw [rankedBy, List.map_flatMap, List.nodup_flatMap]
  constructor
  · intro query _
    refine List.Nodup.of_map Prod.snd ?_
    rw [List.map_map]
    change ((rankFrom 1 _).map fun candidate => candidate.rank).Nodup
    rw [map_rank_rankFrom]
    exact List.nodup_range'
  · refine (List.pairwise_map.mp hnodup).imp fun {first second} hne => ?_
    intro pair hfirst hsecond
    obtain ⟨candidate, hcandidate, rfl⟩ := List.mem_map.mp hfirst
    obtain ⟨other, hother, heq⟩ := List.mem_map.mp hsecond
    refine hne ?_
    rw [← queryKey_of_mem_ranked kept first candidate hcandidate,
      ← queryKey_of_mem_ranked kept second other hother]
    exact (congrArg Prod.fst heq).symm

theorem part_rankedBy (hnodup : (queries.map fun query => texts.key query.queryId).Nodup)
    (hquery : query ∈ queries) :
    part (fun candidate => texts.key candidate.queryId) (texts.key query.queryId)
      (rankedBy texts queries kept) = rankFrom 1 (ofQuery texts query kept) :=
  part_flatMap (queryKey_of_mem_ranked kept) hnodup hquery

end

/-! ## The search -/

def visitsOfSearch (querySet : ResearchSearchQuerySet texts Details TaskGraph)
    (web files : ResearchSourceCandidateSet texts Details TaskGraph) : List Visit :=
  visits web files querySet.orderedQueries

def webCandidate : Visit → Option ResearchSourceCandidate
  | (.web, candidate) => some candidate
  | (.files, _) => none

def fileCandidate : Visit → Option ResearchSourceCandidate
  | (.web, _) => none
  | (.files, candidate) => some candidate

structure Federates (querySet : ResearchSearchQuerySet texts Details TaskGraph)
    (web files merged : ResearchSourceCandidateSet texts Details TaskGraph) (kept : List Visit) :
    Prop where
  valid : merged.validate = .ok ()
  querySet_eq : merged.querySet = querySet
  candidates_eq : merged.candidates = rankedBy texts querySet.orderedQueries kept
  ranks : ∀ query ∈ querySet.queries,
    (part (fun candidate => texts.key candidate.queryId) (texts.key query.queryId)
      merged.candidates).map (fun candidate => candidate.rank) =
        List.range' 1 (ofQuery texts query kept).length
  /-- The candidates are visited in turns, and those that are kept stay in this order. -/
  turns : ∀ query ∈ querySet.queries,
    List.Sublist (ofQuery texts query kept) (visitsOf web files query)
  web_order : ∀ query ∈ querySet.queries,
    List.Sublist ((ofQuery texts query kept).filterMap webCandidate) (candidatesOf web query)
  files_order : ∀ query ∈ querySet.queries,
    List.Sublist ((ofQuery texts query kept).filterMap fileCandidate) (candidatesOf files query)
  web_visited : ∀ candidate,
    (Child.web, candidate) ∈ visitsOfSearch querySet web files ↔ candidate ∈ web.candidates
  files_visited : ∀ candidate,
    (Child.files, candidate) ∈ visitsOfSearch querySet web files ↔ candidate ∈ files.candidates
  missing_iff : ∀ before visit after,
    visitsOfSearch querySet web files = before ++ visit :: after →
      (visit ∉ kept ↔ ∃ earlier ∈ before, earlier ∈ kept ∧ Clash texts earlier visit)

section

variable {querySet : ResearchSearchQuerySet texts Details TaskGraph}
  {web files : ResearchSourceCandidateSet texts Details TaskGraph}
  {candidate : ResearchSourceCandidate}

theorem orderedQueries_perm : querySet.orderedQueries.Perm querySet.queries :=
  List.mergeSort_perm _ _

theorem nodup_orderedQueries :
    (querySet.orderedQueries.map fun query => texts.key query.queryId).Nodup :=
  (orderedQueries_perm.map _).nodup_iff.mpr querySet.queryIds_nodup

theorem exists_query_of_refers {queries : List (ResearchSearchQuery Details)}
    (h : Refers texts queries candidate) :
    ∃ query ∈ queries, texts.key candidate.queryId = texts.key query.queryId := by
  obtain ⟨query, hfind, -⟩ := h
  have hkey := List.find?_some hfind
  rw [decide_eq_true_iff] at hkey
  exact ⟨query, List.mem_of_find?_eq_some hfind, hkey.symm⟩

variable {set : ResearchSourceCandidateSet texts Details TaskGraph}

theorem exists_candidatesOf_iff (hvalid : Valid set) (hset : set.querySet = querySet) :
    (∃ query ∈ querySet.orderedQueries, candidate ∈ candidatesOf set query) ↔
      candidate ∈ set.candidates := by
  constructor
  · rintro ⟨query, -, hmem⟩
    exact (mem_candidatesOf.mp hmem).1
  · intro hmem
    obtain ⟨query, hquery, hkey⟩ := exists_query_of_refers (hvalid.refers candidate hmem)
    rw [hset] at hquery
    exact ⟨query, orderedQueries_perm.mem_iff.mpr hquery, mem_candidatesOf.mpr ⟨hmem, hkey⟩⟩

theorem nodup_candidatesOf
    (hvalid : Valid set) (query : ResearchSearchQuery Details) : (candidatesOf set query).Nodup :=
  ((List.mergeSort_perm set.candidates _).nodup_iff.mpr (hvalid.sourceIds_nodup.of_map _)).filter _

theorem nodup_visitsOf (hweb : Valid web) (hfiles : Valid files)
    (query : ResearchSearchQuery Details) : (visitsOf web files query).Nodup := by
  rw [visitsOf, (interleave_perm _ _).nodup_iff, List.nodup_append]
  refine ⟨(nodup_candidatesOf hweb query).map (Prod.mk_right_injective _),
    (nodup_candidatesOf hfiles query).map (Prod.mk_right_injective _), ?_⟩
  intro first hfirst second hsecond heq
  obtain ⟨candidate, -, rfl⟩ := List.mem_map.mp hfirst
  obtain ⟨other, -, rfl⟩ := List.mem_map.mp hsecond
  have hchild : Child.web = Child.files := congrArg Prod.fst heq
  cases hchild

theorem nodup_visitsOfSearch (hweb : Valid web) (hfiles : Valid files) :
    (visitsOfSearch querySet web files).Nodup := by
  rw [visitsOfSearch, visits, List.nodup_flatMap]
  refine ⟨fun query _ => nodup_visitsOf hweb hfiles query, ?_⟩
  refine (List.pairwise_map.mp nodup_orderedQueries).imp fun {first second} hne => ?_
  intro visit hfirst hsecond
  exact hne ((queryKey_of_mem_visitsOf first visit hfirst).symm.trans
    (queryKey_of_mem_visitsOf second visit hsecond))

variable {kept : List Visit}

theorem valid_rankedBy (hweb : Valid web) (hfiles : Valid files)
    (hwebSet : web.querySet = querySet) (hfilesSet : files.querySet = querySet)
    (hkept : kept.Sublist (visitsOfSearch querySet web files))
    (hfree : kept.Pairwise fun earlier later => ¬Clash texts earlier later) :
    Valid (⟨querySet.requestId, querySet, rankedBy texts querySet.orderedQueries kept⟩ :
      ResearchSourceCandidateSet texts Details TaskGraph) := by
  have hrequest : ∀ {set : ResearchSourceCandidateSet texts Details TaskGraph}, Valid set →
      set.querySet = querySet → set.requestId = querySet.requestId := by
    rintro set hvalid rfl
    exact hvalid.requestId_eq.symm
  have hchild : ∀ visit ∈ kept, visit.2.requestId = querySet.requestId ∧
      Refers texts querySet.queries visit.2 ∧ HasUrl texts visit.2 := by
    intro visit hmem
    rcases mem_visits (hkept.subset hmem) with h | h
    · rw [← hrequest hweb hwebSet, ← hwebSet]
      exact ⟨hweb.requestIds_eq _ h, hweb.refers _ h, hweb.hasUrl _ h⟩
    · rw [← hrequest hfiles hfilesSet, ← hfilesSet]
      exact ⟨hfiles.requestIds_eq _ h, hfiles.refers _ h, hfiles.hasUrl _ h⟩
  refine ⟨querySet.request_nonblank, rfl, ?ids, ?requests, ?refers, ?hasUrl, ?urls,
    ranks_rankedBy nodup_orderedQueries⟩
  case ids =>
    rw [map_rankedBy _ (fun _ _ => rfl) nodup_orderedQueries hkept]
    exact List.pairwise_map.mpr (hfree.imp fun hclash heq => hclash (.inl heq))
  case requests =>
    intro candidate hmem
    obtain ⟨visit, hvisit, rank, rfl⟩ := mem_rankedBy hmem
    exact (hchild visit hvisit).1
  case refers =>
    intro candidate hmem
    obtain ⟨visit, hvisit, rank, rfl⟩ := mem_rankedBy hmem
    exact (hchild visit hvisit).2.1
  case hasUrl =>
    intro candidate hmem
    obtain ⟨visit, hvisit, rank, rfl⟩ := mem_rankedBy hmem
    exact (hchild visit hvisit).2.2
  case urls =>
    rw [map_rankedBy _ (fun _ _ => rfl) nodup_orderedQueries hkept]
    refine List.pairwise_map.mpr (hfree.imp fun hclash heq => hclash (.inr ?_))
    exact ⟨congrArg Prod.fst heq, congrArg Prod.snd heq⟩

theorem ofQuery_sublist (hkept : kept.Sublist (visitsOfSearch querySet web files))
    {query : ResearchSearchQuery Details} (hquery : query ∈ querySet.queries) :
    List.Sublist (ofQuery texts query kept) (visitsOf web files query) := by
  have hpart := part_flatMap (@queryKey_of_mem_visitsOf texts Details TaskGraph web files)
    nodup_orderedQueries (orderedQueries_perm.mem_iff.mpr hquery)
  rw [← hpart]
  exact hkept.filter _

theorem federates_keep (hweb : Valid web) (hfiles : Valid files) (hwebSet : web.querySet = querySet)
    (hfilesSet : files.querySet = querySet) :
    Federates querySet web files ⟨querySet.requestId, querySet, rankedBy texts
        querySet.orderedQueries (keep (Clash texts) [] (visitsOfSearch querySet web files))⟩
      (keep (Clash texts) [] (visitsOfSearch querySet web files)) := by
  have hkept : (keep (Clash texts) [] (visitsOfSearch querySet web files)).Sublist
      (visitsOfSearch querySet web files) := keep_nil_sublist
  have hfree := @pairwise_keep _ (Clash texts) _ [] (visitsOfSearch querySet web files) .nil
  refine ⟨validate_eq_ok_iff.mpr (valid_rankedBy hweb hfiles hwebSet hfilesSet hkept hfree), rfl, rfl,
    ?ranks, fun query hquery => ofQuery_sublist hkept hquery, ?web, ?files, ?webVisited,
    ?filesVisited, ?missing⟩
  case ranks =>
    intro query hquery
    rw [part_rankedBy nodup_orderedQueries (orderedQueries_perm.mem_iff.mpr hquery),
      map_rank_rankFrom]
  case web =>
    intro query hquery
    refine ((ofQuery_sublist hkept hquery).filterMap webCandidate).trans ?_
    rw [visitsOf, filterMap_interleave_left]
    · simp [List.filterMap_map, Function.comp_def, webCandidate]
    · intro visit hmem
      obtain ⟨candidate, -, rfl⟩ := List.mem_map.mp hmem
      rfl
  case files =>
    intro query hquery
    refine ((ofQuery_sublist hkept hquery).filterMap fileCandidate).trans ?_
    rw [visitsOf, filterMap_interleave_right]
    · simp [List.filterMap_map, Function.comp_def, fileCandidate]
    · intro visit hmem
      obtain ⟨candidate, -, rfl⟩ := List.mem_map.mp hmem
      rfl
  case webVisited =>
    intro candidate
    rw [visitsOfSearch, visits, List.mem_flatMap, ← exists_candidatesOf_iff hweb hwebSet]
    simp only [mem_visitsOf_web]
  case filesVisited =>
    intro candidate
    rw [visitsOfSearch, visits, List.mem_flatMap, ← exists_candidatesOf_iff hfiles hfilesSet]
    simp only [mem_visitsOf_files]
  case missing =>
    intro before visit after heq
    rw [heq]
    exact not_mem_keep_iff (heq ▸ nodup_visitsOfSearch hweb hfiles)

variable [DecidableEq Details] [DecidableEq TaskGraph]

theorem validateChildResult_eq_ok (childName : String) (hvalid : Valid set)
    (hset : set.querySet = querySet) : validateChildResult childName set querySet = .ok () := by
  subst hset
  refine raiseIf_bind_eq_ok.mpr ⟨not_not.mpr hvalid.requestId_eq.symm, raiseIf_eq_ok.mpr ?_⟩
  exact not_not.mpr rfl

theorem search_eq {searcher : FederatedResearchSourceSearcher texts Details TaskGraph}
    (hwebAnswer : searcher.webSearcher querySet = .ok web)
    (hfilesAnswer : searcher.localSearcher querySet = .ok files)
    (hweb : Valid web) (hfiles : Valid files) (hwebSet : web.querySet = querySet)
    (hfilesSet : files.querySet = querySet) :
    searcher.search querySet = .ok ⟨querySet.requestId, querySet, rankedBy texts
      querySet.orderedQueries (keep (Clash texts) [] (visitsOfSearch querySet web files))⟩ := by
  have hurls : ∀ visit ∈ visits web files querySet.orderedQueries, HasUrl texts visit.2 := by
    intro visit hmem
    exact (mem_visits hmem).elim (hweb.hasUrl _) (hfiles.hasUrl _)
  obtain ⟨more, hmerge, hkeep⟩ := @mergeQueries_eq texts Details TaskGraph web files
    querySet.orderedQueries [] [] nodup_orderedQueries hurls nofun
  rw [List.nil_append] at hkeep
  rw [FederatedResearchSourceSearcher.search, hwebAnswer, hfilesAnswer, ok_bind, ok_bind,
    validateChildResult_eq_ok "web" hweb hwebSet, validateChildResult_eq_ok "local" hfiles hfilesSet,
    ok_bind, ok_bind]
  refine bind_eq_ok.mpr ⟨_, hmerge, ?_⟩
  have hvalid := (federates_keep hweb hfiles hwebSet hfilesSet).valid
  rw [visitsOfSearch, hkeep] at hvalid ⊢
  exact bind_eq_ok.mpr ⟨(), hvalid, rfl⟩

end

/-- A search returns a valid set that holds every candidate that clashes with none before it, in
the order in which the children take turns. -/
theorem search_federates [DecidableEq Details] [DecidableEq TaskGraph]
    (searcher : FederatedResearchSourceSearcher texts Details TaskGraph)
    (querySet : ResearchSearchQuerySet texts Details TaskGraph)
    (web files : ResearchSourceCandidateSet texts Details TaskGraph)
    (hwebAnswer : searcher.webSearcher querySet = .ok web)
    (hfilesAnswer : searcher.localSearcher querySet = .ok files)
    (hweb : web.validate = .ok ()) (hfiles : files.validate = .ok ())
    (hwebSet : web.querySet = querySet) (hfilesSet : files.querySet = querySet) :
    ∃ merged kept, searcher.search querySet = .ok merged ∧
      Federates querySet web files merged kept := by
  rw [validate_eq_ok_iff] at hweb hfiles
  exact ⟨_, _, search_eq hwebAnswer hfilesAnswer hweb hfiles hwebSet hfilesSet,
    federates_keep hweb hfiles hwebSet hfilesSet⟩

/-- Urls with a scheme of `https`, a host and a path. -/
def sampleSplit (url : String) : SplitResult :=
  let rest := url.toList.drop "https://".length
  let host := String.ofList (rest.takeWhile (· ≠ '/'))
  ⟨"https", host, String.ofList (rest.dropWhile (· ≠ '/')), "", some host, .ok none⟩

def sampleTexts : SearchTexts where
  casefold := asciiCasefold
  urlsplit url := .ok (sampleSplit url)
  urlunsplit scheme netloc path _ _ := scheme ++ "://" ++ netloc ++ path

def sampleQuery : ResearchSearchQuery Unit := ⟨"q1", "r1", "t1", .medium, (), by decide +kernel⟩

def sampleQuerySet : ResearchSearchQuerySet sampleTexts Unit Unit :=
  ⟨"r1", (), [sampleQuery], by decide +kernel, by simp⟩

def sampleCandidate (sourceId url : String) (rank : ℕ) : ResearchSourceCandidate :=
  ⟨sourceId, "r1", "t1", "q1", url, rank⟩

def sampleSet (candidates : List ResearchSourceCandidate) :
    ResearchSourceCandidateSet sampleTexts Unit Unit :=
  ⟨"r1", sampleQuerySet, candidates⟩

def sampleWeb : ResearchSourceCandidateSet sampleTexts Unit Unit :=
  sampleSet [sampleCandidate "s1" "https://a.example/1" 1,
    sampleCandidate "s2" "https://a.example/2" 2]

def sampleFiles : ResearchSourceCandidateSet sampleTexts Unit Unit :=
  sampleSet [sampleCandidate "S1" "https://b.example/1" 1,
    sampleCandidate "s3" "https://b.example/2" 2]

def sampleSearcher : FederatedResearchSourceSearcher sampleTexts Unit Unit where
  webSearcher _ := .ok sampleWeb
  localSearcher _ := .ok sampleFiles

theorem orderedQueries_sampleQuerySet : sampleQuerySet.orderedQueries = [sampleQuery] :=
  List.mergeSort_singleton _

theorem orderedCandidates_sampleSet {first second : ResearchSourceCandidate}
    (h : (sampleSet [first, second]).candidateOrder first ≤
      (sampleSet [first, second]).candidateOrder second) :
    (sampleSet [first, second]).orderedCandidates = [first, second] := by
  exact List.mergeSort_of_pairwise (List.pairwise_pair.mpr (decide_eq_true h))

theorem orderedCandidates_sampleWeb : sampleWeb.orderedCandidates = sampleWeb.candidates := by
  refine orderedCandidates_sampleSet ?_
  unfold ResearchSourceCandidateSet.candidateOrder
  rw [show (sampleSet _).querySet.orderedQueries = [sampleQuery] from orderedQueries_sampleQuerySet]
  decide +kernel

theorem orderedCandidates_sampleFiles : sampleFiles.orderedCandidates = sampleFiles.candidates := by
  refine orderedCandidates_sampleSet ?_
  unfold ResearchSourceCandidateSet.candidateOrder
  rw [show (sampleSet _).querySet.orderedQueries = [sampleQuery] from orderedQueries_sampleQuerySet]
  decide +kernel

theorem validate_sampleWeb : sampleWeb.validate = .ok () := by decide +kernel

theorem validate_sampleFiles : sampleFiles.validate = .ok () := by decide +kernel

/-- Both web candidates come before the local one, which waits behind the duplicate. -/
theorem search_not_alternating :
    sampleWeb.validate = .ok () ∧ sampleFiles.validate = .ok () ∧
      sampleSearcher.search sampleQuerySet = .ok (sampleSet
        [sampleCandidate "s1" "https://a.example/1" 1, sampleCandidate "s2" "https://a.example/2" 2,
          sampleCandidate "s3" "https://b.example/2" 3]) ∧
      interleave [sampleCandidate "s1" "https://a.example/1" 1,
          sampleCandidate "s2" "https://a.example/2" 2]
        [sampleCandidate "s3" "https://b.example/2" 3] ≠
        [sampleCandidate "s1" "https://a.example/1" 1, sampleCandidate "s2" "https://a.example/2" 2,
          sampleCandidate "s3" "https://b.example/2" 3] := by
  refine ⟨validate_sampleWeb, validate_sampleFiles, ?_, by decide +kernel⟩
  refine (@search_eq sampleTexts Unit Unit sampleQuerySet sampleWeb sampleFiles _ _ sampleSearcher
    rfl rfl (validate_eq_ok_iff.mp validate_sampleWeb) (validate_eq_ok_iff.mp validate_sampleFiles)
    rfl rfl).trans ?_
  rw [visitsOfSearch, orderedQueries_sampleQuerySet, visits, List.flatMap_singleton, visitsOf,
    candidatesOf, candidatesOf, orderedCandidates_sampleWeb, orderedCandidates_sampleFiles]
  refine congrArg Except.ok (congrArg sampleSet ?_)
  decide +kernel

theorem search_federates_sample : ∃ merged kept, sampleSearcher.search sampleQuerySet = .ok merged ∧
    Federates sampleQuerySet sampleWeb sampleFiles merged kept :=
  search_federates sampleSearcher sampleQuerySet sampleWeb sampleFiles rfl rfl validate_sampleWeb
    validate_sampleFiles rfl rfl

end AgenticLab.FederatedSearch
