import AgenticLab.Model.ExecutionControl

/-! # When a decision to stop is taken back -/

namespace AgenticLab.ExecutionControlEvaluator

variable {policy : TimeoutPolicy} {decisionId : String} {snapshot : ExecutionRuntimeSnapshot}
  {now later : Datetime} {decision : ExecutionControlDecision}

/-! ## One decision -/

def LimitReached (policy : TimeoutPolicy) (snapshot : ExecutionRuntimeSnapshot) (now : Datetime) :
    Prop :=
  (∃ deadline ∈ snapshot.deadlineAt, deadline ≤ now) ∨
    (∃ limit ∈ policy.hardTimeoutSeconds, limit ≤ elapsedSeconds snapshot now) ∧
      policy.cancelOnHardTimeout = true

def Expired (policy : TimeoutPolicy) (cancellation : CancellationRequest) (now : Datetime) : Prop :=
  cancellation.mode = .force ∨
    policy.cancellationGracePeriodSeconds ≤ totalSeconds cancellation.requestedAt now

def Stops (policy : TimeoutPolicy) (snapshot : ExecutionRuntimeSnapshot) (now : Datetime) : Prop :=
  snapshot.status.isTerminal = true ∨
    match snapshot.cancellationRequest with
    | none => LimitReached policy snapshot now
    | some cancellation => Expired policy cancellation now

/-- What the evaluator checks before it decides. -/
structure Evaluable (policy : TimeoutPolicy) (decisionId : String)
    (snapshot : ExecutionRuntimeSnapshot) (now : Datetime) : Prop where
  aware : now.isNaive = false
  subject : snapshot.subjectType = policy.subjectType
  decisionId : isBlank decisionId = false
  started : snapshot.status.isTerminal = false → ∀ started ∈ snapshot.startedAt, started ≤ now
  requested : snapshot.status.isTerminal = false →
    ∀ cancellation ∈ snapshot.cancellationRequest, cancellation.requestedAt ≤ now

variable {kind : ExecutionControlDecisionType}

theorem buildDecision_returns
    (reason : ExecutionControlReason) (h : isBlank decisionId = false) : ∃ decision,
      buildDecision policy decisionId snapshot now kind reason kind.isStopping = .ok decision ∧
        decision.shouldStop = kind.isStopping := by
  have hsummary : isBlank ("Execution control completed with decision " ++ kind.value ++
      " because " ++ reason.value ++ ".") = false :=
    isBlank_append (isBlank_append (isBlank_append (isBlank_append (by decide +kernel))))
  unfold buildDecision
  refine ⟨_, raiseIf_bind_eq_ok.mpr ⟨by simp [h], bind_eq_ok.mpr ⟨(), ?_, rfl⟩⟩, rfl⟩
  unfold ExecutionControlDecision.validate
  refine raiseIf_bind_eq_ok.mpr ⟨by simp [elapsedSeconds], bind_eq_ok.mpr ⟨(), ?_, by simp⟩⟩
  exact requireTexts_eq_ok.mpr (by
    simp [h, policy.policyId_isBlank, snapshot.executionId_isBlank, hsummary])

theorem decisionId_of_ok {reason : ExecutionControlReason} {shouldStop : Bool}
    (h : buildDecision policy decisionId snapshot now kind reason shouldStop = .ok decision) :
    isBlank decisionId = false := by
  rw [buildDecision, raiseIf_bind_eq_ok] at h
  simpa using h.1

theorem evaluate_eq (decisionId : String) (haware : now.isNaive = false)
    (hsubject : snapshot.subjectType = policy.subjectType)
    (hstarted : snapshot.status.isTerminal = false → ∀ started ∈ snapshot.startedAt, started ≤ now)
    (hrequested : snapshot.status.isTerminal = false →
      ∀ cancellation ∈ snapshot.cancellationRequest, cancellation.requestedAt ≤ now) :
    ∃ kind reason, evaluate policy decisionId snapshot now =
        buildDecision policy decisionId snapshot now kind reason kind.isStopping ∧
      (kind.isStopping = true ↔ Stops policy snapshot now) := by
  have hnow : raiseIf (now.isNaive = true)
      (ExecutionControlEvaluatorError "now must be timezone-aware") = .ok () := by simp [haware]
  have htype : raiseIf (snapshot.subjectType ≠ policy.subjectType) (ExecutionControlEvaluatorError
      "snapshot subject_type must match timeout policy") = .ok () := by simp [hsubject]
  rw [evaluate, hnow, ok_bind, htype, ok_bind, Stops]
  by_cases hterminal : snapshot.status.isTerminal = true
  · rw [if_pos hterminal]
    exact ⟨_, _, rfl, iff_of_true rfl (.inl hterminal)⟩
  have hstart : raiseIf (∃ started ∈ snapshot.startedAt, now < started)
      (ExecutionControlEvaluatorError "now must not precede started_at") = .ok () := by
    simpa using hstarted (by simpa using hterminal)
  rw [if_neg hterminal, hstart, ok_bind, or_iff_right hterminal]
  cases hcancellation : snapshot.cancellationRequest with
  | none =>
      dsimp only
      rw [evaluateLimits, LimitReached]
      split_ifs with hdeadline hhard
      · exact ⟨_, _, rfl, iff_of_true rfl (.inl hdeadline)⟩
      · exact ⟨_, _, rfl, iff_of_true rfl (.inr hhard)⟩
      · exact ⟨_, _, rfl, iff_of_false Bool.false_ne_true (not_or.mpr ⟨hdeadline, hhard⟩)⟩
      · exact ⟨_, _, rfl, iff_of_false Bool.false_ne_true (not_or.mpr ⟨hdeadline, hhard⟩)⟩
  | some cancellation =>
      have hrequest : raiseIf (now < cancellation.requestedAt) (ExecutionControlEvaluatorError
          "now must not precede cancellation request") = .ok () := by
        simpa using hrequested (by simpa using hterminal) cancellation hcancellation
      dsimp only
      rw [hrequest, ok_bind, Expired]
      split_ifs with hforce hgrace
      · exact ⟨_, _, rfl, iff_of_true rfl (.inl hforce)⟩
      · exact ⟨_, _, rfl, iff_of_true rfl (.inr hgrace)⟩
      · exact ⟨_, _, rfl, iff_of_false Bool.false_ne_true (not_or.mpr ⟨hforce, hgrace⟩)⟩

theorem evaluate_returns (h : Evaluable policy decisionId snapshot now) : ∃ decision,
    evaluate policy decisionId snapshot now = .ok decision ∧
      (decision.shouldStop = true ↔ Stops policy snapshot now) := by
  obtain ⟨kind, reason, hevaluate, hstops⟩ :=
    evaluate_eq decisionId h.aware h.subject h.started h.requested
  obtain ⟨decision, hbuild, hshould⟩ := buildDecision_returns reason h.decisionId
  exact ⟨decision, hevaluate.trans hbuild, by rw [hshould, hstops]⟩

theorem evaluable_of_ok (h : evaluate policy decisionId snapshot now = .ok decision) :
    Evaluable policy decisionId snapshot now := by
  have hevaluated := h
  obtain ⟨haware, h⟩ := raiseIf_bind_eq_ok.mp h
  obtain ⟨hsubject, h⟩ := raiseIf_bind_eq_ok.mp h
  rw [Bool.not_eq_true] at haware
  have hchecks : snapshot.status.isTerminal = false →
      (∀ started ∈ snapshot.startedAt, started ≤ now) ∧
        ∀ cancellation ∈ snapshot.cancellationRequest, cancellation.requestedAt ≤ now := by
    intro hterminal
    rw [if_neg (by simp [hterminal])] at h
    obtain ⟨hstarted, h⟩ := raiseIf_bind_eq_ok.mp h
    refine ⟨by simpa using hstarted, fun cancellation hcancellation => ?_⟩
    rw [Option.mem_def.mp hcancellation] at h
    exact Datetime.not_lt.mp (raiseIf_bind_eq_ok.mp h).1
  obtain ⟨kind, reason, hevaluate, -⟩ := evaluate_eq decisionId haware
    (not_not.mp hsubject) (fun hterminal => (hchecks hterminal).1)
    fun hterminal => (hchecks hterminal).2
  exact ⟨haware, not_not.mp hsubject, decisionId_of_ok (hevaluate.symm.trans hevaluated),
    fun hterminal => (hchecks hterminal).1, fun hterminal => (hchecks hterminal).2⟩

theorem shouldStop_iff (h : evaluate policy decisionId snapshot now = .ok decision) :
    decision.shouldStop = true ↔ Stops policy snapshot now := by
  obtain ⟨other, hother, hstops⟩ := evaluate_returns (evaluable_of_ok h)
  rwa [← Except.ok.inj (h.symm.trans hother)] at hstops

theorem totalSeconds_le {earlier : Datetime} (h : now ≤ later) :
    totalSeconds earlier now ≤ totalSeconds earlier later := by
  have hinstant : (now.instant : ℚ) ≤ later.instant := Int.cast_le.mpr h
  unfold totalSeconds
  gcongr

theorem elapsedSeconds_le (h : now ≤ later) :
    elapsedSeconds snapshot now ≤ elapsedSeconds snapshot later := by
  unfold elapsedSeconds
  cases snapshot.finishedAt with
  | none => exact max_le_max_left 0 (totalSeconds_le h)
  | some finished => exact le_refl _

theorem Stops.mono (hle : now ≤ later) (h : Stops policy snapshot now) :
    Stops policy snapshot later := by
  refine h.imp id fun h => ?_
  cases hcancellation : snapshot.cancellationRequest with
  | none =>
      rw [hcancellation] at h
      rcases h with ⟨deadline, hdeadline, hreached⟩ | ⟨⟨limit, hlimit, hreached⟩, henabled⟩
      · exact .inl ⟨deadline, hdeadline, hreached.trans hle⟩
      · exact .inr ⟨⟨limit, hlimit, hreached.trans (elapsedSeconds_le hle)⟩, henabled⟩
  | some cancellation =>
      rw [hcancellation] at h
      exact h.imp id fun hgrace => hgrace.trans (totalSeconds_le hle)

/-- A decision to stop stays. Beside a new request it stays exactly where the limits are not
reached, or the request has expired. -/
theorem stop_decisions_iff (policy : TimeoutPolicy) (snapshot : ExecutionRuntimeSnapshot) :
    (∀ firstId secondId earlier later first second, earlier ≤ later →
      evaluate policy firstId snapshot earlier = .ok first →
      evaluate policy secondId snapshot later = .ok second →
      first.shouldStop = true → second.shouldStop = true) ∧
    ∀ decisionId now decision (cancellation : CancellationRequest),
      snapshot.status.isTerminal = false → snapshot.cancellationRequest = none →
      evaluate policy decisionId snapshot now = .ok decision → cancellation.requestedAt ≤ now →
      ∃ cancelled, evaluate policy decisionId
          { snapshot with cancellationRequest := some cancellation } now = .ok cancelled ∧
        ((decision.shouldStop = true → cancelled.shouldStop = true) ↔
          (LimitReached policy snapshot now → Expired policy cancellation now)) := by
  constructor
  · intro firstId secondId earlier later first second hle hfirst hsecond hstop
    exact (shouldStop_iff hsecond).mpr (((shouldStop_iff hfirst).mp hstop).mono hle)
  · intro decisionId now decision cancellation hterminal hnone hdecision hrequested
    have hevaluable := evaluable_of_ok hdecision
    have hcancelled : Evaluable policy decisionId
        { snapshot with cancellationRequest := some cancellation } now := by
      refine ⟨hevaluable.aware, hevaluable.subject, hevaluable.decisionId, hevaluable.started, ?_⟩
      rintro - _ ⟨⟩
      exact hrequested
    obtain ⟨cancelled, hok, hstops⟩ := evaluate_returns hcancelled
    refine ⟨cancelled, hok, ?_⟩
    rw [shouldStop_iff hdecision, hstops, Stops, Stops, hnone]
    simp only [hterminal, Bool.false_eq_true, false_or]

def sampleTime (second : ℕ) (h : second * 1000000 < maxWall) : Datetime :=
  ⟨second * 1000000, some 0, h⟩

def samplePolicy : TimeoutPolicy where
  policyId := "policy"
  subjectType := .agent
  softTimeoutSeconds := none
  hardTimeoutSeconds := some 300
  cancellationGracePeriodSeconds := 10
  warnOnSoftTimeout := false
  cancelOnHardTimeout := true
  policyId_isBlank := by decide +kernel
  timeouts_pos := by simp
  grace_nonneg := by norm_num
  timeout_given := by simp
  soft_lt_hard := by simp
  warn_requires := by simp
  cancel_requires := by simp

def sampleSnapshot : ExecutionRuntimeSnapshot where
  executionId := "execution"
  subjectId := "agent"
  subjectType := .agent
  status := .running
  createdAt := sampleTime 0 (by decide)
  startedAt := some (sampleTime 0 (by decide))
  finishedAt := none
  deadlineAt := none
  cancellationRequest := none
  executionId_isBlank := by decide +kernel
  subjectId_isBlank := by decide +kernel
  aware := by decide
  started_of_created := by decide
  finished_of_started := by simp
  finished_iff := by decide

def sampleRequest : CancellationRequest := ⟨sampleTime 3600 (by decide), .graceful, rfl⟩

/-- The request lets it run on. -/
theorem stop_taken_back :
    (evaluate samplePolicy "first" sampleSnapshot (sampleTime 3600 (by decide))).map
        (·.shouldStop) = .ok true ∧
      (evaluate samplePolicy "second"
        { sampleSnapshot with cancellationRequest := some sampleRequest }
        (sampleTime 3600 (by decide))).map (·.shouldStop) = .ok false := by
  decide +kernel

end AgenticLab.ExecutionControlEvaluator
