import AgenticLab.Model.Research.PipelineSourceSearch
import Mathlib.Data.List.Infix
import Mathlib.Data.List.Nodup

/-! # The search budget is kept -/

namespace AgenticLab

variable {texts : SearchTexts}

/-- The constraints of the fields. The counters are natural numbers. -/
def ResearchSearchUsage.Valid (usage : ResearchSearchUsage) : Prop := 0 ≤ usage.creditUsed

structure ResearchSearchUsage.Precedes (earlier later : ResearchSearchUsage) : Prop where
  calls : earlier.providerCallCount ≤ later.providerCallCount
  credit : earlier.creditUsed ≤ later.creditUsed
  latency : earlier.latencyUsedMs ≤ later.latencyUsedMs

structure ResearchSearchBudget.Open (budget : ResearchSearchBudget) (usage : ResearchSearchUsage) :
    Prop where
  calls : usage.providerCallCount < budget.maximumProviderCalls
  credit : usage.creditUsed + budget.defaultCreditPerCall ≤ budget.maximumCredits
  latency : usage.latencyUsedMs < budget.maximumLatencyMs

/-- No limit is a `nan`. -/
structure ResearchSearchBudget.Numeric (budget : ResearchSearchBudget) : Prop where
  credits : budget.maximumCredits ≠ .nan
  default : budget.defaultCreditPerCall ≠ .nan

/-- A credit that the result reports is no negative number and no `nan`. -/
def ProviderCall.Honest (call : ProviderCall texts) : Prop :=
  ∀ credit ∈ call.result.usageCredits.bind texts.float, 0 ≤ credit

structure ProviderCall.Answered (call : ProviderCall texts) : Prop where
  queryId : call.result.query.queryId = call.query.queryId
  requestId : call.result.query.requestId = call.query.requestId
  taskId : call.result.query.taskId = call.query.taskId

structure SearchWorld.Bounded (budget : ResearchSearchBudget) (world : SearchWorld texts) :
    Prop where
  valid : ∀ usage ∈ world.usage :: world.earlier, usage.Valid
  monotone : (world.usage :: world.earlier).Pairwise fun later earlier => earlier.Precedes later
  closed : (world.usage :: world.earlier).Pairwise fun later earlier =>
    budget.Open later → budget.Open earlier
  count : world.usage.providerCallCount = world.calls.length
  counted : ∀ call earlier, call :: earlier <:+ world.calls →
    call.usage.providerCallCount = earlier.length
  bounded : world.calls.length ≤ budget.maximumProviderCalls
  started : ∀ call ∈ world.calls, budget.Open call.usage

/-! ## Usage -/

section

variable {budget : ResearchSearchBudget} {earlier later : ResearchSearchUsage}

theorem ResearchSearchBudget.Numeric.default_nonneg (h : budget.Numeric) :
    0 ≤ budget.defaultCreditPerCall :=
  FloatValue.le_of_not_lt nofun h.default budget.default_valid

theorem ResearchSearchUsage.Precedes.trans {last : ResearchSearchUsage}
    (h : earlier.Precedes later) (h' : later.Precedes last) : earlier.Precedes last :=
  ⟨h.calls.trans h'.calls, FloatValue.le_trans h.credit h'.credit, h.latency.trans h'.latency⟩

theorem ResearchSearchUsage.Precedes.open_of_open (h : earlier.Precedes later)
    (hbudget : budget.Numeric) (hvalid : earlier.Valid) (hopen : budget.Open later) :
    budget.Open earlier := by
  refine ⟨h.calls.trans_lt hopen.calls, ?_, h.latency.trans_lt hopen.latency⟩
  have hcredit : earlier.creditUsed + budget.defaultCreditPerCall ≤
      later.creditUsed + budget.defaultCreditPerCall :=
    FloatValue.add_le_add_right hvalid hbudget.default_nonneg h.credit
  exact FloatValue.le_trans hcredit hopen.credit

theorem SearchWorld.Bounded.pairwise_update {world : SearchWorld texts} (h : world.Bounded budget)
    (hbudget : budget.Numeric) {usage : ResearchSearchUsage} (hnext : world.usage.Precedes usage) :
    (usage :: world.usage :: world.earlier).Pairwise (fun later earlier => earlier.Precedes later) ∧
      (usage :: world.usage :: world.earlier).Pairwise fun later earlier =>
        budget.Open later → budget.Open earlier := by
  have hall : ∀ old ∈ world.usage :: world.earlier, old.Precedes usage := by
    intro old hold
    rcases List.mem_cons.mp hold with rfl | hold
    · exact hnext
    · exact ((List.pairwise_cons.mp h.monotone).1 old hold).trans hnext
  exact ⟨List.pairwise_cons.mpr ⟨hall, h.monotone⟩, List.pairwise_cons.mpr
    ⟨fun old hold hopen => (hall old hold).open_of_open hbudget (h.valid old hold) hopen, h.closed⟩⟩

end

namespace PipelineSourceSearchAdapter

variable {adapter : PipelineSourceSearchAdapter texts} {budget : ResearchSearchBudget}
  {world : SearchWorld texts}

theorem open_of_canStart (hadapter : adapter.budget = some budget) (hbudget : budget.Numeric)
    {usage : ResearchSearchUsage} (hvalid : usage.Valid)
    (h : adapter.canStartProviderCall usage = true) : budget.Open usage := by
  simp only [canStartProviderCall, hadapter] at h
  split at h
  next => cases h
  next hcalls =>
    split at h
    next => cases h
    next hcredits =>
      have hsum : 0 ≤ usage.creditUsed + budget.defaultCreditPerCall :=
        FloatValue.zero_le_add hvalid hbudget.default_nonneg
      have hnumber : usage.creditUsed + budget.defaultCreditPerCall ≠ .nan := by
        intro hnan
        rw [hnan] at hsum
        exact FloatValue.not_le_nan 0 hsum
      exact ⟨not_le.mp hcalls, FloatValue.le_of_not_lt hnumber hbudget.credits hcredits,
        of_decide_eq_true h⟩

theorem credit_nonneg (hadapter : adapter.budget = some budget) (hbudget : budget.Numeric)
    {call : ProviderCall texts} (hcall : call.Honest) : 0 ≤ (adapter.creditOf call.result).1 := by
  rw [creditOf]
  split
  next credit hcredit => exact hcall credit hcredit
  next =>
    rw [defaultCredit, hadapter]
    exact hbudget.default_nonneg

theorem callProvider_bounded (hadapter : adapter.budget = some budget) (hbudget : budget.Numeric)
    (h : world.Bounded budget) (query : ResearchSearchQuery)
    (hstart : adapter.canStartProviderCall world.usage = true)
    (hhonest : ∀ call ∈ (adapter.callProvider query world).2.calls, call.Honest) :
    (adapter.callProvider query world).2.Bounded budget := by
  have hvalid : world.usage.Valid := h.valid _ List.mem_cons_self
  have hopen := open_of_canStart hadapter hbudget hvalid hstart
  have hcredit := credit_nonneg hadapter hbudget (hhonest _ List.mem_cons_self)
  have hnext : world.usage.Precedes (adapter.recordProviderResult world.usage
      (adapter.callProvider query world).1) :=
    ⟨Nat.le_succ _, FloatValue.le_add_right hvalid hcredit, Nat.le_add_right _ _⟩
  obtain ⟨hmonotone, hclosed⟩ := h.pairwise_update hbudget hnext
  refine ⟨?_, hmonotone, hclosed, ?_, ?_, ?_, ?_⟩
  · exact List.forall_mem_cons.mpr ⟨FloatValue.zero_le_add hvalid hcredit, h.valid⟩
  · exact congrArg (· + 1) h.count
  · intro call earlier hsuffix
    rcases List.suffix_cons_iff.mp hsuffix with heq | hsuffix
    · rw [List.cons.injEq] at heq
      rw [heq.1, heq.2]
      exact h.count
    · exact h.counted call earlier hsuffix
  · have hcalls := hopen.calls
    rw [h.count] at hcalls
    exact hcalls
  · exact List.forall_mem_cons.mpr ⟨hopen, h.started⟩

theorem blocked_bounded (hbudget : budget.Numeric) (h : world.Bounded budget) :
    (world.update { world.usage with
      blockedQueryCount := world.usage.blockedQueryCount + 1 }).Bounded budget := by
  have hvalid : world.usage.Valid := h.valid _ List.mem_cons_self
  have hnext : world.usage.Precedes { world.usage with
      blockedQueryCount := world.usage.blockedQueryCount + 1 } :=
    ⟨le_rfl, FloatValue.le_refl hvalid, le_rfl⟩
  obtain ⟨hmonotone, hclosed⟩ := h.pairwise_update hbudget hnext
  exact ⟨List.forall_mem_cons.mpr ⟨hvalid, h.valid⟩, hmonotone, hclosed, h.count, h.counted,
    h.bounded, h.started⟩

theorem calls_suffix (queries : List ResearchSearchQuery)
    (candidates : List ResearchSourceCandidate) (world : SearchWorld texts) :
    world.calls <:+ (adapter.searchQueries queries candidates world).2.calls := by
  induction queries generalizing candidates world with
  | nil => exact List.suffix_rfl
  | cons query queries ih =>
    rw [searchQueries]
    split
    · exact List.suffix_rfl
    · dsimp only
      split
      · exact List.suffix_cons _ _
      · have hcall : world.calls <:+ (adapter.callProvider query world).2.calls :=
          List.suffix_cons _ _
        exact hcall.trans (ih _ _)

theorem searchQueries_bounded (hadapter : adapter.budget = some budget) (hbudget : budget.Numeric)
    (queries : List ResearchSearchQuery) (candidates : List ResearchSourceCandidate)
    (h : world.Bounded budget)
    (hhonest : ∀ call ∈ (adapter.searchQueries queries candidates world).2.calls, call.Honest) :
    (adapter.searchQueries queries candidates world).2.Bounded budget := by
  induction queries generalizing candidates world with
  | nil => exact h
  | cons query queries ih =>
    rw [searchQueries] at hhonest ⊢
    split at hhonest
    next hblocked =>
      rw [if_pos hblocked]
      exact blocked_bounded hbudget h
    next hstart =>
      rw [if_neg hstart]
      have hstart : adapter.canStartProviderCall world.usage = true := by simpa using hstart
      dsimp only at hhonest ⊢
      split at hhonest
      next hfull =>
        rw [if_pos hfull]
        exact callProvider_bounded hadapter hbudget h query hstart hhonest
      next hfull =>
        rw [if_neg hfull]
        refine ih _ (callProvider_bounded hadapter hbudget h query hstart fun call hcall => ?_)
          hhonest
        exact hhonest call ((calls_suffix _ _ _).subset hcall)

/-! ## Candidates -/

variable (texts) in
def Distinct (first second : ResearchSourceCandidate) : Prop :=
  texts.key first.sourceId ≠ texts.key second.sourceId ∧
    (texts.key first.queryId = texts.key second.queryId →
      texts.normalizeUrl first.url ≠ texts.normalizeUrl second.url ∧ first.rank ≠ second.rank)

variable (adapter) in
def Unfilled (candidates : List ResearchSourceCandidate) : Prop :=
  ∀ maximum ∈ adapter.maximumCandidates, candidates.length < maximum

structure Collected (adapter : PipelineSourceSearchAdapter texts) (done : List ResearchSearchQuery)
    (candidates : List ResearchSourceCandidate) : Prop where
  distinct : candidates.Pairwise (Distinct texts)
  known : ∀ candidate ∈ candidates, ∃ query ∈ done, candidate.queryId = query.queryId ∧
    candidate.taskId = query.taskId ∧ candidate.requestId = query.requestId
  short : ∀ maximum ∈ adapter.maximumCandidates, candidates.length ≤ maximum

variable {candidates : List ResearchSourceCandidate}

theorem isFull_eq_false_iff : adapter.isFull candidates = false ↔ Unfilled adapter candidates := by
  rw [isFull, Unfilled]
  cases adapter.maximumCandidates <;> simp

theorem unfilled_of_not_isFull
    (h : ¬adapter.isFull candidates = true) : Unfilled adapter candidates :=
  isFull_eq_false_iff.mp (Bool.eq_false_iff.mpr h)

theorem addCandidates_spec (found candidates : List ResearchSourceCandidate)
    (hroom : Unfilled adapter candidates) :
    ∃ added, adapter.addCandidates found candidates = candidates ++ added ∧
      added.Sublist found ∧
      (∀ candidate ∈ added, texts.key candidate.sourceId ∉
        candidates.map fun seen => texts.key seen.sourceId) ∧
      ∀ maximum ∈ adapter.maximumCandidates, (candidates ++ added).length ≤ maximum := by
  induction found generalizing candidates with
  | nil =>
    refine ⟨[], by simp [addCandidates], .slnil, by simp, fun maximum hmaximum => ?_⟩
    simpa using (hroom maximum hmaximum).le
  | cons candidate found ih =>
    rw [addCandidates]
    split
    next =>
      obtain ⟨added, heq, hsublist, hnew, hlength⟩ := ih candidates hroom
      exact ⟨added, heq, hsublist.cons _, hnew, hlength⟩
    next hfresh =>
      split
      next =>
        refine ⟨[candidate], rfl, (List.nil_sublist found).cons_cons _, ?_, ?_⟩
        · simpa using hfresh
        · intro maximum hmaximum
          rw [List.length_append]
          exact hroom maximum hmaximum
      next hfull =>
        obtain ⟨added, heq, hsublist, hnew, hlength⟩ :=
          ih (candidates ++ [candidate]) (unfilled_of_not_isFull hfull)
        refine ⟨candidate :: added, by simp [heq], hsublist.cons_cons _, ?_, ?_⟩
        · refine List.forall_mem_cons.mpr ⟨hfresh, fun other hother => ?_⟩
          have hother := hnew other hother
          rw [List.map_append, List.mem_append, not_or] at hother
          exact hother.1
        · intro maximum hmaximum
          simpa using hlength maximum hmaximum

theorem pairwise_distinct (result : ResearchSourceSearchResult texts) :
    result.candidates.Pairwise (Distinct texts) := by
  have hsource := List.pairwise_map.mp result.sourceIds_nodup
  have hurl := List.pairwise_map.mp result.urls_nodup
  have hrank := List.pairwise_map.mp result.ranks_nodup
  exact (hsource.and (hurl.and hrank)).imp fun h => ⟨h.1, fun _ => h.2⟩

theorem Collected.append {done : List ResearchSearchQuery} {query : ResearchSearchQuery}
    {result : ResearchSourceSearchResult texts}
    (h : Collected adapter done candidates) (hroom : Unfilled adapter candidates)
    (hnew : texts.key query.queryId ∉ done.map fun query => texts.key query.queryId)
    (hquery : result.query.queryId = query.queryId)
    (hrequest : result.query.requestId = query.requestId)
    (htask : result.query.taskId = query.taskId) :
    Collected adapter (done ++ [query]) (adapter.addCandidates result.candidates candidates) := by
  obtain ⟨added, heq, hsublist, hfresh, hlength⟩ :=
    addCandidates_spec result.candidates candidates hroom
  rw [heq]
  have hadded : ∀ candidate ∈ added, candidate.queryId = query.queryId ∧
      candidate.taskId = query.taskId ∧ candidate.requestId = query.requestId := by
    intro candidate hcandidate
    have hsame := result.candidates_query candidate (hsublist.subset hcandidate)
    exact ⟨hsame.2.2.trans hquery, hsame.2.1.trans htask, hsame.1.trans hrequest⟩
  refine ⟨?_, ?_, hlength⟩
  · refine List.pairwise_append.mpr
      ⟨h.distinct, (pairwise_distinct result).sublist hsublist, fun old hold candidate hmem => ?_⟩
    refine ⟨fun hsource => ?_, fun hkeys => ?_⟩
    · exact hfresh candidate hmem (List.mem_map.mpr ⟨old, hold, hsource⟩)
    · obtain ⟨earlier, hearlier, hid, _⟩ := h.known old hold
      rw [(hadded candidate hmem).1, hid] at hkeys
      exact absurd (List.mem_map.mpr ⟨earlier, hearlier, hkeys⟩) hnew
  · intro candidate hcandidate
    rcases List.mem_append.mp hcandidate with hold | hmem
    · obtain ⟨earlier, hearlier, hids⟩ := h.known candidate hold
      exact ⟨earlier, List.mem_append_left _ hearlier, hids⟩
    · exact ⟨query, by simp, hadded candidate hmem⟩

theorem searchQueries_collected (queries done : List ResearchSearchQuery)
    (candidates : List ResearchSourceCandidate)
    (hkeys : ((done ++ queries).map fun query => texts.key query.queryId).Nodup)
    (h : Collected adapter done candidates) (hroom : Unfilled adapter candidates)
    (hanswered : ∀ call ∈ (adapter.searchQueries queries candidates world).2.calls, call.Answered) :
    Collected adapter (done ++ queries) (adapter.searchQueries queries candidates world).1 := by
  have hgrow : ∀ {before later list}, Collected adapter before list →
      Collected adapter (before ++ later) list := fun hbefore =>
    ⟨hbefore.distinct, fun candidate hcandidate =>
      have ⟨query, hquery, hids⟩ := hbefore.known candidate hcandidate
      ⟨query, List.mem_append_left _ hquery, hids⟩, hbefore.short⟩
  induction queries generalizing done candidates world with
  | nil => simpa [searchQueries] using h
  | cons query queries ih =>
    rw [searchQueries] at hanswered ⊢
    split at hanswered
    next hblocked =>
      rw [if_pos hblocked]
      exact hgrow h
    next hstart =>
      rw [if_neg hstart]
      have hnew : texts.key query.queryId ∉ done.map fun query => texts.key query.queryId := by
        rw [List.map_append, List.nodup_append] at hkeys
        intro hmem
        exact hkeys.2.2 _ hmem _ (by simp) rfl
      have hids : (adapter.searchQuery query).queryId = query.queryId ∧
          (adapter.searchQuery query).requestId = query.requestId ∧
          (adapter.searchQuery query).taskId = query.taskId := by
        rw [searchQuery]
        split <;> simp
      dsimp only at hanswered ⊢
      have hcall : (⟨world.usage, adapter.searchQuery query,
          (adapter.callProvider query world).1⟩ : ProviderCall texts).Answered := by
        refine hanswered _ ?_
        split
        · exact List.mem_cons_self
        · exact (calls_suffix _ _ _).subset List.mem_cons_self
      have hadded := h.append hroom hnew (hcall.queryId.trans hids.1)
        (hcall.requestId.trans hids.2.1) (hcall.taskId.trans hids.2.2)
      rw [List.append_cons] at hkeys ⊢
      split at hanswered
      next hfull =>
        rw [if_pos hfull]
        exact hgrow hadded
      next hfull =>
        rw [if_neg hfull]
        exact ih _ _ hkeys hadded (unfilled_of_not_isFull hfull) hanswered

theorem validateQueryReferences_eq_ok {queries : List ResearchSearchQuery}
    (hkeys : (queries.map fun query => texts.key query.queryId).Nodup)
    (candidates : List ResearchSourceCandidate)
    (h : ∀ candidate ∈ candidates, ∃ query ∈ queries, candidate.queryId = query.queryId ∧
      candidate.taskId = query.taskId) :
    validateQueryReferences texts queries candidates = .ok () := by
  induction candidates with
  | nil => rfl
  | cons candidate candidates ih =>
    rw [validateQueryReferences]
    obtain ⟨query, hquery, hid, htask⟩ := h candidate List.mem_cons_self
    split
    next hfind =>
      have hnone := List.find?_eq_none.mp hfind query hquery
      exact absurd (decide_eq_true (congrArg texts.key hid.symm)) hnone
    next other hfind =>
      have hsame : other = query := by
        refine List.inj_on_of_nodup_map hkeys (List.mem_of_find?_eq_some hfind) hquery ?_
        have hkey : texts.key other.queryId = texts.key candidate.queryId := by
          simpa using List.find?_some hfind
        exact hkey.trans (congrArg texts.key hid)
      rw [hsame, htask, raiseIf, if_neg (not_not.mpr rfl)]
      exact ih fun other hother => h other (List.mem_cons_of_mem _ hother)

variable {querySet : ResearchSearchQuerySet texts}

theorem Collected.validate_eq_ok (h : Collected adapter querySet.queries candidates) :
    (ResearchSourceCandidateSet.mk querySet.requestId querySet candidates).validate = .ok () := by
  have hsource : (candidates.map fun candidate => texts.key candidate.sourceId).Nodup :=
    List.pairwise_map.mpr (h.distinct.imp fun hpair => hpair.1)
  have hrequest : ¬∃ candidate ∈ candidates, candidate.requestId ≠ querySet.requestId := by
    rintro ⟨candidate, hcandidate, hne⟩
    obtain ⟨query, hquery, _, _, hid⟩ := h.known candidate hcandidate
    exact hne (hid.trans (querySet.requestIds_eq query hquery))
  have hreferences : validateQueryReferences texts querySet.queries candidates = .ok () := by
    refine validateQueryReferences_eq_ok querySet.queryIds_nodup candidates fun candidate hmem => ?_
    obtain ⟨query, hquery, hid, htask, _⟩ := h.known candidate hmem
    exact ⟨query, hquery, hid, htask⟩
  have hurl : (candidates.map fun candidate =>
      (texts.key candidate.queryId, texts.normalizeUrl candidate.url)).Nodup := by
    refine List.pairwise_map.mpr (h.distinct.imp fun hpair heq => ?_)
    rw [Prod.mk.injEq] at heq
    exact (hpair.2 heq.1).1 heq.2
  have hrank : (candidates.map fun candidate =>
      (texts.key candidate.queryId, candidate.rank)).Nodup := by
    refine List.pairwise_map.mpr (h.distinct.imp fun hpair heq => ?_)
    rw [Prod.mk.injEq] at heq
    exact (hpair.2 heq.1).2 heq.2
  have hpass : ∀ {condition : Prop} [Decidable condition] {raised : Raised}, ¬condition →
      raiseIf condition raised = .ok () := fun h => if_neg h
  rw [ResearchSourceCandidateSet.validate, hpass (by simp [querySet.request_nonblank]),
    hpass (not_not.mpr rfl), hpass (not_not.mpr hsource), hpass hrequest, hreferences,
    hpass (not_not.mpr hurl), hpass (not_not.mpr hrank)]
  rfl

variable {set : ResearchSourceCandidateSet texts}

theorem search_returned (h : (adapter.search querySet world).1 = .ok set) :
    set.validate = .ok () ∧
      set.candidates = (adapter.searchQueries querySet.queries [] world).1 := by
  rw [search] at h
  cases hvalidate : (ResearchSourceCandidateSet.mk querySet.requestId querySet
      (adapter.searchQueries querySet.queries [] world).1).validate with
  | error raised => simp [hvalidate, Except.map] at h
  | ok done =>
    simp only [hvalidate, Except.map, Except.ok.injEq] at h
    exact ⟨h ▸ hvalidate, h ▸ rfl⟩

theorem searchQueries_short (queries : List ResearchSearchQuery)
    (candidates : List ResearchSourceCandidate) (hroom : Unfilled adapter candidates) :
    ∀ maximum ∈ adapter.maximumCandidates,
      (adapter.searchQueries queries candidates world).1.length ≤ maximum := by
  induction queries generalizing candidates world with
  | nil => exact fun maximum hmaximum => (hroom maximum hmaximum).le
  | cons query queries ih =>
    rw [searchQueries]
    split
    next => exact fun maximum hmaximum => (hroom maximum hmaximum).le
    next =>
      dsimp only
      obtain ⟨added, heq, _, _, hlength⟩ :=
        addCandidates_spec (adapter.callProvider query world).1.candidates candidates hroom
      split
      next =>
        rw [heq]
        exact hlength
      next hfull => exact ih _ (unfilled_of_not_isFull hfull)

theorem unfilled_nil : Unfilled adapter [] := fun maximum hmaximum =>
  adapter.candidates_positive maximum hmaximum

theorem collected_nil : Collected adapter [] [] :=
  ⟨.nil, by simp, fun maximum _ => Nat.zero_le maximum⟩

theorem search_eq_ok (querySet : ResearchSearchQuerySet texts)
    (hanswered : ∀ call ∈ (adapter.search querySet world).2.calls, call.Answered) :
    ∃ set, (adapter.search querySet world).1 = .ok set := by
  have hcollected : Collected adapter querySet.queries
      (adapter.searchQueries querySet.queries [] world).1 := by
    simpa using searchQueries_collected querySet.queries [] [] querySet.queryIds_nodup
      collected_nil unfilled_nil hanswered
  have hvalid := hcollected.validate_eq_ok
  simp only [search, hvalid]
  exact ⟨_, rfl⟩

structure Returned (adapter : PipelineSourceSearchAdapter texts)
    (set : ResearchSourceCandidateSet texts) : Prop where
  valid : set.validate = .ok ()
  unique : (set.candidates.map fun candidate => texts.key candidate.sourceId).Nodup
  short : ∀ maximum ∈ adapter.maximumCandidates, set.candidates.length ≤ maximum

theorem returned_of_search
    (h : (adapter.search querySet world).1 = .ok set) : Returned adapter set := by
  obtain ⟨hvalid, hcandidates⟩ := search_returned h
  refine ⟨hvalid, ?_, ?_⟩
  · simp only [ResearchSourceCandidateSet.validate, raiseIf_bind_eq_ok, not_not] at hvalid
    exact hvalid.2.2.1
  · rw [hcandidates]
    exact searchQueries_short _ _ unfilled_nil

theorem searchAll_calls_suffix (querySets : List (ResearchSearchQuerySet texts))
    (world : SearchWorld texts) : world.calls <:+ (adapter.searchAll querySets world).2.calls := by
  induction querySets generalizing world with
  | nil => exact List.suffix_rfl
  | cons querySet querySets ih => exact (calls_suffix querySet.queries [] world).trans (ih _)

theorem searchAll_bounded (hadapter : adapter.budget = some budget) (hbudget : budget.Numeric)
    (querySets : List (ResearchSearchQuerySet texts)) (h : world.Bounded budget)
    (hhonest : ∀ call ∈ (adapter.searchAll querySets world).2.calls, call.Honest) :
    (adapter.searchAll querySets world).2.Bounded budget := by
  induction querySets generalizing world with
  | nil => exact h
  | cons querySet querySets ih =>
    refine ih (searchQueries_bounded hadapter hbudget querySet.queries [] h ?_) hhonest
    exact fun call hcall => hhonest call ((searchAll_calls_suffix querySets _).subset hcall)

theorem searchAll_returned (querySets : List (ResearchSearchQuerySet texts))
    (world : SearchWorld texts) : ∀ answer ∈ (adapter.searchAll querySets world).1,
      ∀ set, answer = .ok set → Returned adapter set := by
  induction querySets generalizing world with
  | nil => simp [searchAll]
  | cons querySet querySets ih =>
    exact List.forall_mem_cons.mpr ⟨fun set hset => returned_of_search hset, ih _⟩

theorem searchAll_eq_ok (querySets : List (ResearchSearchQuerySet texts))
    (hanswered : ∀ call ∈ (adapter.searchAll querySets world).2.calls, call.Answered) :
    ∀ answer ∈ (adapter.searchAll querySets world).1, ∃ set, answer = .ok set := by
  induction querySets generalizing world with
  | nil => simp [searchAll]
  | cons querySet querySets ih =>
    refine List.forall_mem_cons.mpr ⟨search_eq_ok querySet fun call hcall => ?_, ih hanswered⟩
    exact hanswered call ((searchAll_calls_suffix querySets _).subset hcall)

theorem start_bounded (budget : ResearchSearchBudget) :
    (SearchWorld.start : SearchWorld texts).Bounded budget where
  valid := by simp [SearchWorld.start, ResearchSearchUsage.Valid, ResearchSearchUsage.start,
    FloatValue.zero_eq]
  monotone := List.pairwise_singleton _ _
  closed := List.pairwise_singleton _ _
  count := rfl
  counted := by simp [SearchWorld.start]
  bounded := Nat.zero_le _
  started := by simp [SearchWorld.start]

/-- In a run in which no credit is reported that is negative or a `nan` the budget is kept. -/
theorem searchAll_kept (hadapter : adapter.budget = some budget) (hbudget : budget.Numeric)
    (querySets : List (ResearchSearchQuerySet texts))
    (hhonest : ∀ call ∈ (adapter.searchAll querySets .start).2.calls, call.Honest) :
    (adapter.searchAll querySets .start).2.Bounded budget ∧
      (∀ answer ∈ (adapter.searchAll querySets .start).1, ∀ set, answer = .ok set →
        Returned adapter set) ∧
      ((∀ call ∈ (adapter.searchAll querySets .start).2.calls, call.Answered) →
        ∀ answer ∈ (adapter.searchAll querySets .start).1, ∃ set, answer = .ok set) :=
  ⟨searchAll_bounded hadapter hbudget querySets (start_bounded budget) hhonest,
    searchAll_returned querySets _, searchAll_eq_ok querySets⟩

def sampleTexts : SearchTexts where
  casefold := asciiCasefold
  normalizeUrl := id
  float text := if text = "-5" then some (.finite (-5)) else if text = "2" then some 2 else none

def sampleBudget : ResearchSearchBudget := ⟨2, 1, 1000, 1, Nat.two_pos, by decide, by decide⟩

def sampleQuery : ResearchSearchQuery := ⟨"q", "r", "t", "solar cells", 5⟩

def sampleQuerySet : ResearchSearchQuerySet sampleTexts :=
  ⟨"r", [sampleQuery], by decide, by simp, by simp [sampleQuery]⟩

def reportingAdapter (credit : String) : PipelineSourceSearchAdapter sampleTexts where
  searchTool _ query := ⟨query, [], 10, some credit, by simp, List.nodup_nil, List.nodup_nil, List.nodup_nil⟩
  maximumCandidates := none
  minimumResultsPerQuery := none
  budget := some sampleBudget
  candidates_positive := by simp
  results_positive := by simp

/-- The usage is below zero after `"-5"`. -/
theorem searchAll_not_kept : ((reportingAdapter "-5").searchAll [sampleQuerySet] .start).2.usage =
      ⟨1, .finite (-5), 10, 0, 0⟩ ∧
    ¬((reportingAdapter "-5").searchAll [sampleQuerySet] .start).2.Bounded sampleBudget := by
  have husage : ((reportingAdapter "-5").searchAll [sampleQuerySet] .start).2.usage =
      ⟨1, .finite (-5), 10, 0, 0⟩ := by decide +kernel
  refine ⟨husage, fun h => ?_⟩
  have hvalid := h.valid _ List.mem_cons_self
  rw [husage] at hvalid
  exact absurd hvalid (by decide : ¬(0 : FloatValue) ≤ .finite (-5))

theorem searchAll_kept_of_two :
    ((reportingAdapter "2").searchAll [sampleQuerySet, sampleQuerySet] .start).2.Bounded
        sampleBudget ∧
      ((reportingAdapter "2").searchAll [sampleQuerySet, sampleQuerySet] .start).2.usage =
        ⟨1, 2, 10, 0, 1⟩ := by
  have hcredit : ∀ call ∈ ((reportingAdapter "2").searchAll
      [sampleQuerySet, sampleQuerySet] .start).2.calls, call.result.usageCredits = some "2" := by
    decide +kernel
  have hnumeric : sampleBudget.Numeric := ⟨by decide, by decide⟩
  refine ⟨(searchAll_kept rfl hnumeric _ fun call hcall => ?_).1, by decide +kernel⟩
  rw [ProviderCall.Honest, hcredit call hcall]
  simpa [sampleTexts] using (by decide : (0 : FloatValue) ≤ 2)

end PipelineSourceSearchAdapter

end AgenticLab
