import AgenticLab.Model.Application.ReliabilityQueryService
import Mathlib.Algebra.BigOperators.Group.Finset.Basic

/-! # Reliability snapshots of large repositories -/

namespace AgenticLab

namespace ApplicationReliabilityQueryService

/-- A total, the counts of the statuses, and rates, each beside the property it is the rate of. -/
structure Tally (ρ σ : Type) where
  total : ℕ
  countOf : σ → ℕ
  rates : List (ℚ × (ρ → Bool))

section

variable {ρ σ : Type} [DecidableEq σ]

structure Counted (records : List ρ) (status : ρ → σ) (statuses : List σ) (tally : Tally ρ σ) :
    Prop where
  total_eq : tally.total = records.length
  counts_eq : ∀ value, tally.countOf value = counts status records value
  sum_eq : (statuses.map tally.countOf).sum = tally.total
  rates_eq : ∀ entry ∈ tally.rates, entry.1 = rate (records.countP entry.2) records.length

variable {status : ρ → σ} {statuses : List σ} {tally : Tally ρ σ}

theorem Counted.perm {records others : List ρ}
    (h : Counted records status statuses tally) (hperm : records.Perm others) :
    Counted others status statuses tally where
  total_eq := h.total_eq.trans hperm.length_eq
  counts_eq := fun value => (h.counts_eq value).trans (hperm.countP_eq _)
  sum_eq := h.sum_eq
  rates_eq := by
    intro entry hentry
    rw [h.rates_eq entry hentry, hperm.countP_eq, hperm.length_eq]

theorem sum_counts (hnodup : statuses.Nodup) (hall : ∀ value, value ∈ statuses) (status : ρ → σ)
    (records : List ρ) : (statuses.map (counts status records)).sum = records.length := by
  have hcount : ∀ value, counts status records value =
      (records.map status : Multiset σ).count value := by
    intro value
    rw [Multiset.coe_count, List.count, List.countP_map]
    rfl
  calc
    (statuses.map (counts status records)).sum
        = ∑ value ∈ statuses.toFinset, counts status records value :=
          (List.sum_toFinset _ hnodup).symm
    _ = ∑ value ∈ statuses.toFinset, (records.map status : Multiset σ).count value :=
          Finset.sum_congr rfl fun value _ => hcount value
    _ = Multiset.card (records.map status : Multiset σ) :=
          Multiset.sum_count_eq_card fun value _ => List.mem_toFinset.mpr (hall value)
    _ = records.length := by rw [Multiset.coe_card, List.length_map]

theorem counted_of {records : List ρ} (hnodup : statuses.Nodup) (hall : ∀ value, value ∈ statuses)
    (htotal : tally.total = records.length) (hcounts : tally.countOf = counts status records)
    (hrates : ∀ entry ∈ tally.rates, entry.1 = rate (records.countP entry.2) records.length) :
    Counted records status statuses tally where
  total_eq := htotal
  counts_eq := congrFun hcounts
  sum_eq := by rw [hcounts, htotal, sum_counts hnodup hall]
  rates_eq := hrates

theorem counted_page_iff (tally : List ρ → Tally ρ σ)
    (hself : ∀ records, Counted records status statuses (tally records)) (matching : List ρ)
    (before : ρ → ρ → Bool) :
    Counted matching status statuses
        (tally ((matching.mergeSort before).take snapshotPageSize)) ↔
      matching.length ≤ snapshotPageSize := by
  have hperm := List.mergeSort_perm matching before
  constructor
  · intro h
    have htotal := h.total_eq.symm.trans (hself _).total_eq
    rw [List.length_take, hperm.length_eq] at htotal
    omega
  · intro hle
    refine (hself _).perm ?_
    rw [List.take_of_length_le (hperm.length_eq.trans_le hle)]
    exact hperm

end

/-! ## The metrics of a list of records -/

open ApplicationExecutionStatus in
def executionStatuses : List ApplicationExecutionStatus :=
  [pending, queued, running, succeeded, failed, cancellationRequested, cancelled, timedOut]

def executionTally (metrics : ApplicationExecutionReliabilityMetrics) :
    Tally ApplicationExecutionRecord ApplicationExecutionStatus where
  total := metrics.total
  countOf
    | .pending => metrics.pending
    | .queued => metrics.queued
    | .running => metrics.running
    | .succeeded => metrics.succeeded
    | .failed => metrics.failed
    | .cancellationRequested => metrics.cancellationRequested
    | .cancelled => metrics.cancelled
    | .timedOut => metrics.timedOut
  rates :=
    [(metrics.successRate, fun record => record.status = .succeeded),
      (metrics.failureRate, fun record => record.status = .failed),
      (metrics.cancellationRate, fun record => record.status = .cancelled),
      (metrics.timeoutRate, fun record => record.status = .timedOut),
      (metrics.retryRate, fun record => 1 < record.attemptNumber.val)]

theorem counted_executionMetrics (records : List ApplicationExecutionRecord) :
    Counted records (·.status) executionStatuses (executionTally (executionMetrics records)) := by
  refine counted_of (by decide) (fun value => by cases value <;> decide) rfl ?_ ?_
  · funext value
    cases value <;> rfl
  · simp only [executionTally, List.forall_mem_cons]
    exact ⟨rfl, rfl, rfl, rfl, rfl, fun _ hmem => absurd hmem List.not_mem_nil⟩

open ApplicationEvaluationStatus in
def evaluationStatuses : List ApplicationEvaluationStatus := [passed, failed, error, skipped]

def evaluationTally (metrics : ApplicationEvaluationReliabilityMetrics) :
    Tally ApplicationEvaluationRecord ApplicationEvaluationStatus where
  total := metrics.total
  countOf
    | .passed => metrics.passed
    | .failed => metrics.failed
    | .error => metrics.error
    | .skipped => metrics.skipped
  rates :=
    [(metrics.passRate, fun record => record.status = .passed),
      (metrics.errorRate, fun record => record.status = .error),
      (metrics.blockingRate, fun record => !record.blockingViolations.isEmpty)]

theorem counted_evaluationMetrics (records : List ApplicationEvaluationRecord) :
    Counted records (·.status) evaluationStatuses
      (evaluationTally (evaluationMetrics records)) := by
  refine counted_of (by decide) (fun value => by cases value <;> decide) rfl ?_ ?_
  · funext value
    cases value <;> rfl
  · simp only [evaluationTally, List.forall_mem_cons]
    exact ⟨rfl, rfl, rfl, fun _ hmem => absurd hmem List.not_mem_nil⟩

open ApplicationGuardrailDecision in
def guardrailDecisions : List ApplicationGuardrailDecision := [allowed, warned, blocked]

def guardrailTally (metrics : ApplicationGuardrailReliabilityMetrics) :
    Tally ApplicationGuardrailRecord ApplicationGuardrailDecision where
  total := metrics.total
  countOf
    | .allowed => metrics.allowed
    | .warned => metrics.warned
    | .blocked => metrics.blocked
  rates :=
    [(metrics.allowRate, fun record => record.decision = .allowed),
      (metrics.warningRate, fun record => record.decision = .warned),
      (metrics.blockingRate, fun record => record.decision = .blocked)]

theorem counted_guardrailMetrics (records : List ApplicationGuardrailRecord) :
    Counted records (·.decision) guardrailDecisions
      (guardrailTally (guardrailMetrics records)) := by
  refine counted_of (by decide) (fun value => by cases value <;> decide) rfl ?_ ?_
  · funext value
    cases value <;> rfl
  · simp only [guardrailTally, List.forall_mem_cons]
    exact ⟨rfl, rfl, rfl, fun _ hmem => absurd hmem List.not_mem_nil⟩

open ApplicationJobStatus in
def jobStatuses : List ApplicationJobStatus :=
  [pending, scheduled, queued, leased, running, succeeded, failed, retryScheduled,
    cancellationRequested, cancelled, deadLettered]

open ApplicationJobStatus in
/-- The statuses of `completion_rate`. -/
def completedStatuses : List ApplicationJobStatus := [succeeded, failed, cancelled, deadLettered]

def jobTally (metrics : ApplicationJobReliabilityMetrics) :
    Tally ApplicationJobRecord ApplicationJobStatus where
  total := metrics.total
  countOf
    | .pending => metrics.pending
    | .scheduled => metrics.scheduled
    | .queued => metrics.queued
    | .leased => metrics.leased
    | .running => metrics.running
    | .succeeded => metrics.succeeded
    | .failed => metrics.failed
    | .retryScheduled => metrics.retryScheduled
    | .cancellationRequested => metrics.cancellationRequested
    | .cancelled => metrics.cancelled
    | .deadLettered => metrics.deadLettered
  rates :=
    [(metrics.completionRate, fun record => record.status ∈ completedStatuses),
      (metrics.successRate, fun record => record.status = .succeeded),
      (metrics.failureRate, fun record => record.status = .failed),
      (metrics.deadLetterRate, fun record => record.status = .deadLettered),
      (metrics.retryRate, fun record => 1 < record.attemptNumber.val)]

theorem countP_completed (records : List ApplicationJobRecord) :
    (records.countP fun record => record.status ∈ completedStatuses) =
      counts (·.status) records .succeeded + counts (·.status) records .failed +
        counts (·.status) records .cancelled + counts (·.status) records .deadLettered := by
  induction records with
  | nil => rfl
  | cons record records ih =>
    have hstatus : ∀ value : ApplicationJobStatus,
        (if decide (value ∈ completedStatuses) = true then 1 else 0) =
          (if decide (value = .succeeded) = true then 1 else 0) +
            (if decide (value = .failed) = true then 1 else 0) +
            (if decide (value = .cancelled) = true then 1 else 0) +
            (if decide (value = .deadLettered) = true then 1 else 0) := by
      intro value
      cases value <;> rfl
    simp only [counts, List.countP_cons] at ih ⊢
    rw [ih, hstatus record.status]
    omega

theorem counted_jobMetrics (records : List ApplicationJobRecord) :
    Counted records (·.status) jobStatuses (jobTally (jobMetrics records)) := by
  refine counted_of (by decide) (fun value => by cases value <;> decide) rfl ?_ ?_
  · funext value
    cases value <;> rfl
  · simp only [jobTally, List.forall_mem_cons]
    refine ⟨?_, rfl, rfl, rfl, rfl, fun _ hmem => absurd hmem List.not_mem_nil⟩
    rw [countP_completed]
    rfl

/-! ## Snapshots -/

variable {casefold : Casefold}

structure CountsAll (repositories : ReliabilityRepositories casefold)
    (query : ApplicationReliabilityQuery) (snapshot : ApplicationReliabilitySnapshot) : Prop where
  executions : Counted (query.matchingExecutions repositories.executions) (·.status)
    executionStatuses (executionTally snapshot.executions)
  evaluations : Counted (query.matchingEvaluations repositories.evaluations) (·.status)
    evaluationStatuses (evaluationTally snapshot.evaluations)
  guardrails : Counted (query.matchingGuardrails repositories.guardrails) (·.decision)
    guardrailDecisions (guardrailTally snapshot.guardrails)
  jobs : Counted (query.matchingJobs repositories.jobs) (·.status) jobStatuses
    (jobTally snapshot.jobs)

theorem query_eq_ok {repositories : ReliabilityRepositories casefold}
    {reliabilityQuery : ApplicationReliabilityQuery} {snapshotId : String} {now : Datetime}
    {snapshot : ApplicationReliabilitySnapshot} :
    query repositories reliabilityQuery snapshotId now = .ok snapshot ↔
      isBlank snapshotId = false ∧ now.isNaive = false ∧
        snapshot = snapshotOf repositories reliabilityQuery snapshotId now := by
  rw [query, raiseIf_bind_eq_ok, raiseIf_bind_eq_ok, Bool.not_eq_true, Bool.not_eq_true]
  exact and_congr_right' (and_congr_right' ⟨fun h => (Except.ok.inj h).symm, fun h => h ▸ rfl⟩)

theorem counted_guardrails_iff (repository : InMemoryApplicationGuardrailRepository casefold)
    (reliabilityQuery : ApplicationReliabilityQuery) :
    Counted (reliabilityQuery.matchingGuardrails repository) (·.decision) guardrailDecisions
        (guardrailTally (guardrailMetrics (reliabilityQuery.listGuardrails repository))) ↔
      (reliabilityQuery.matchingGuardrails repository).length ≤ 200 :=
  counted_page_iff (fun records => guardrailTally (guardrailMetrics records))
    counted_guardrailMetrics _ _

/-- A snapshot counts every record exactly when no repository has more than a page of them. -/
theorem query_countsAll_iff {repositories : ReliabilityRepositories casefold}
    {reliabilityQuery : ApplicationReliabilityQuery} {snapshotId : String} {now : Datetime}
    {snapshot : ApplicationReliabilitySnapshot}
    (h : query repositories reliabilityQuery snapshotId now = .ok snapshot) :
    CountsAll repositories reliabilityQuery snapshot ↔
      (reliabilityQuery.matchingExecutions repositories.executions).length ≤ 200 ∧
      (reliabilityQuery.matchingEvaluations repositories.evaluations).length ≤ 200 ∧
      (reliabilityQuery.matchingGuardrails repositories.guardrails).length ≤ 200 ∧
      (reliabilityQuery.matchingJobs repositories.jobs).length ≤ 200 := by
  obtain ⟨_, _, rfl⟩ := query_eq_ok.mp h
  have hexecutions := counted_page_iff (fun records => executionTally (executionMetrics records))
    counted_executionMetrics (reliabilityQuery.matchingExecutions repositories.executions)
    (ApplicationReliabilityQuery.newestFirst casefold (·.createdAt) (·.executionId))
  have hevaluations := counted_page_iff
    (fun records => evaluationTally (evaluationMetrics records)) counted_evaluationMetrics
    (reliabilityQuery.matchingEvaluations repositories.evaluations)
    (ApplicationReliabilityQuery.newestFirst casefold (·.finishedAt) (·.evaluationId))
  have hguardrails := counted_guardrails_iff repositories.guardrails reliabilityQuery
  have hjobs := counted_page_iff (fun records => jobTally (jobMetrics records)) counted_jobMetrics
    (reliabilityQuery.matchingJobs repositories.jobs)
    fun a b => reliabilityQuery.jobQuery.sortsBefore casefold b a
  constructor
  · intro hall
    exact ⟨hexecutions.mp hall.executions, hevaluations.mp hall.evaluations,
      hguardrails.mp hall.guardrails, hjobs.mp hall.jobs⟩
  · rintro ⟨hexecutionsLe, hevaluationsLe, hguardrailsLe, hjobsLe⟩
    exact {
      executions := hexecutions.mpr hexecutionsLe
      evaluations := hevaluations.mpr hevaluationsLe
      guardrails := hguardrails.mpr hguardrailsLe
      jobs := hjobs.mpr hjobsLe }

def noFilter : ApplicationReliabilityQuery := ⟨none, none, rfl⟩

def firstNoon : Datetime := ⟨43200000000, some 0, by decide⟩

def vacant : ReliabilityRepositories asciiCasefold := ⟨.empty, .empty, .empty, .empty⟩

theorem query_countsAll_vacant_iff :
    CountsAll vacant noFilter (snapshotOf vacant noFilter "snapshot" firstNoon) ↔
      (noFilter.matchingExecutions vacant.executions).length ≤ 200 ∧
      (noFilter.matchingEvaluations vacant.evaluations).length ≤ 200 ∧
      (noFilter.matchingGuardrails vacant.guardrails).length ≤ 200 ∧
      (noFilter.matchingJobs vacant.jobs).length ≤ 200 :=
  query_countsAll_iff (query_eq_ok.mpr ⟨by decide, by decide, rfl⟩)

def guardrailId (n : ℕ) : String := String.ofList (List.replicate (n + 1) 'a')

def guardrail (n : ℕ) : ApplicationGuardrailRecord where
  guardrailEvaluationId := guardrailId n
  requestId := "request"
  workspaceId := "workspace"
  decision := .allowed
  violations := []
  totalViolationCount := 0
  blockingViolationCount := 0
  warningViolationCount := 0
  evaluatedAt := firstNoon
  valid := rfl

theorem normalizeId_guardrailId (n : ℕ) :
    normalizeId asciiCasefold (guardrailId n) = guardrailId n := by
  have hspace : isSpace 'a' = false := by decide
  have hlower : Char.toLower 'a' = 'a' := by decide
  have hdrop : (List.replicate (n + 1) 'a').dropWhile isSpace = List.replicate (n + 1) 'a' := by
    rw [List.replicate_succ, List.dropWhile_cons, hspace]
    rfl
  rw [normalizeId, strip, asciiCasefold, guardrailId, String.toList_ofList, String.toList_ofList,
    hdrop, List.reverse_replicate, hdrop, List.reverse_replicate, List.map_replicate, hlower]

/-- The records of `guardrail` for the numbers below 201. -/
def crowded : ReliabilityRepositories asciiCasefold where
  executions := .empty
  evaluations := .empty
  guardrails :=
    { records := (List.range 201).map guardrail
      nodup := by
        rw [List.map_map]
        refine List.Nodup.map (fun n m heq => ?_) List.nodup_range
        have htexts : guardrailId n = guardrailId m :=
          (normalizeId_guardrailId n).symm.trans (heq.trans (normalizeId_guardrailId m))
        have hlength := congrArg (fun text => text.toList.length) htexts
        simpa [guardrailId] using hlength }
  jobs := .empty

theorem snapshot_misses_record :
    query crowded noFilter "snapshot" firstNoon =
        .ok (snapshotOf crowded noFilter "snapshot" firstNoon) ∧
      ¬CountsAll crowded noFilter (snapshotOf crowded noFilter "snapshot" firstNoon) := by
  refine ⟨query_eq_ok.mpr ⟨by decide, by decide, rfl⟩, fun h => ?_⟩
  have hle := (counted_guardrails_iff crowded.guardrails noFilter).mp h.guardrails
  have hall : noFilter.matchingGuardrails crowded.guardrails = (List.range 201).map guardrail :=
    List.filter_eq_self.mpr fun _ _ => rfl
  rw [hall, List.length_map, List.length_range] at hle
  exact absurd hle (by decide)

end ApplicationReliabilityQueryService

end AgenticLab
