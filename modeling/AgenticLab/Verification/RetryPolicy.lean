import AgenticLab.Model.RetryPolicy
import Mathlib.Tactic.Positivity

/-! # When a retry is decided, and after how long -/

namespace AgenticLab.RetryPolicyEvaluator

variable {casefold : Casefold} {policy : RetryPolicy casefold} {failure : RetryFailureContext}
  {decisionId : String} {fraction : ℚ} {decision : RetryDecision} {attemptNumber : ℕ}

/-! ## The delay -/

def BackoffInRange (policy : RetryPolicy casefold) (attemptNumber : ℕ) : Prop :=
  match policy.backoffStrategy with
  | .fixed => True
  | .linear => attemptNumber < doubleLimit
  | .exponential => (attemptNumber - 1 : ℕ) < doubleLimit ∧
      policy.multiplier ^ (attemptNumber - 1) < doubleLimit

theorem baseBackoffDelay_returns_iff (attemptNumber : ℕ) :
    (∃ delay, baseBackoffDelay policy attemptNumber = .ok delay) ↔
      BackoffInRange policy attemptNumber := by
  unfold baseBackoffDelay BackoffInRange
  cases policy.backoffStrategy <;> simp [power, toFloat, bind_eq_ok]

theorem capped_le (delay : Option ℚ) : capped policy delay ≤ policy.maximumDelaySeconds := by
  cases delay with
  | none => exact le_refl _
  | some delay => exact min_le_right _ _

theorem maximum_nonneg (policy : RetryPolicy casefold) : 0 ≤ policy.maximumDelaySeconds :=
  policy.base_nonneg.trans policy.base_le_maximum

theorem capped_product_nonneg {factor : ℚ} (h : 0 ≤ factor) :
    0 ≤ capped policy (product policy.baseDelaySeconds factor) := by
  unfold product
  split_ifs
  · exact maximum_nonneg policy
  · exact le_min (mul_nonneg policy.base_nonneg h) (maximum_nonneg policy)

theorem capped_product_mono {factor later : ℚ} (h : factor ≤ later) :
    capped policy (product policy.baseDelaySeconds factor) ≤
      capped policy (product policy.baseDelaySeconds later) := by
  have hle := mul_le_mul_of_nonneg_left h policy.base_nonneg
  by_cases hlater : doubleLimit ≤ policy.baseDelaySeconds * later
  · rw [product, product, if_pos hlater]
    exact capped_le _
  · rw [product, product, if_neg hlater, if_neg fun hfirst => hlater (hfirst.trans hle)]
    exact min_le_min_right _ hle

def backoffFactor (policy : RetryPolicy casefold) (attemptNumber : ℕ) : ℚ :=
  match policy.backoffStrategy with
  | .fixed => 1
  | .linear => attemptNumber
  | .exponential => policy.multiplier ^ (attemptNumber - 1)

theorem backoffFactor_nonneg (attemptNumber : ℕ) : 0 ≤ backoffFactor policy attemptNumber := by
  have hmultiplier : 0 ≤ policy.multiplier := zero_le_one.trans policy.multiplier_ge
  unfold backoffFactor
  cases policy.backoffStrategy <;> simp only <;> positivity

theorem backoffFactor_mono {later : ℕ} (h : attemptNumber ≤ later) :
    backoffFactor policy attemptNumber ≤ backoffFactor policy later := by
  unfold backoffFactor
  cases policy.backoffStrategy with
  | fixed => exact le_refl _
  | linear => exact Nat.cast_le.mpr h
  | exponential => exact pow_le_pow_right₀ policy.multiplier_ge (Nat.sub_le_sub_right h 1)

theorem baseBackoffDelay_eq {delay : Option ℚ}
    (h : baseBackoffDelay policy attemptNumber = .ok delay) :
    delay = product policy.baseDelaySeconds (backoffFactor policy attemptNumber) := by
  unfold baseBackoffDelay at h
  unfold backoffFactor
  cases hstrategy : policy.backoffStrategy with
  | fixed =>
    rw [hstrategy] at h
    have hlimit := policy.base_le_maximum.trans_lt policy.maximum_lt
    rw [← Except.ok.inj h, product, mul_one, if_neg (not_le.mpr hlimit)]
  | linear =>
    rw [hstrategy] at h
    obtain ⟨value, hvalue, h⟩ := bind_eq_ok.mp h
    obtain ⟨-, hvalue⟩ := raiseIf_bind_eq_ok.mp hvalue
    rw [← Except.ok.inj h, Except.ok.inj hvalue]
  | exponential =>
    rw [hstrategy] at h
    obtain ⟨value, hvalue, h⟩ := bind_eq_ok.mp h
    obtain ⟨-, -, hvalue⟩ := bind_eq_ok.mp hvalue
    obtain ⟨-, hvalue⟩ := raiseIf_bind_eq_ok.mp hvalue
    rw [← Except.ok.inj h, Except.ok.inj hvalue]

theorem applyJitter_bounds {delay jittered : ℚ}
    (h : applyJitter policy fraction delay = .ok jittered) (hdelay : 0 ≤ delay) :
    0 ≤ jittered ∧ jittered ≤ delay := by
  unfold applyJitter at h
  split_ifs at h
  · obtain rfl := Except.ok.inj h
    exact ⟨hdelay, le_refl _⟩
  · obtain ⟨hfraction, h⟩ := raiseIf_bind_eq_ok.mp h
    obtain rfl := Except.ok.inj h
    obtain ⟨hzero, hone⟩ := not_not.mp hfraction
    exact ⟨mul_nonneg hdelay hzero, mul_le_of_le_one_right hdelay hone⟩
  · obtain ⟨hfraction, h⟩ := raiseIf_bind_eq_ok.mp h
    obtain rfl := Except.ok.inj h
    obtain ⟨hzero, hone⟩ := not_not.mp hfraction
    have hhalf := div_nonneg hdelay zero_le_two
    have hrest := mul_le_of_le_one_right hhalf hone
    exact ⟨add_nonneg hhalf (mul_nonneg hhalf hzero), by linarith⟩

theorem applyJitter_returns (hfraction : 0 ≤ fraction ∧ fraction ≤ 1) (delay : ℚ) :
    ∃ jittered, applyJitter policy fraction delay = .ok jittered := by
  unfold applyJitter
  split_ifs
  · exact ⟨_, rfl⟩
  all_goals exact ⟨_, raiseIf_bind_eq_ok.mpr ⟨not_not.mpr hfraction, rfl⟩⟩

theorem delay_bounds {seconds : ℚ} {used : Bool}
    (h : delay policy fraction failure = .ok (seconds, used)) :
    0 ≤ seconds ∧ (used = false → seconds ≤ policy.maximumDelaySeconds) ∧
      (used = true → ∀ limit ∈ policy.retryAfterMaxSeconds, seconds ≤ limit) := by
  unfold delay at h
  cases hafter : retryAfter policy failure with
  | some after =>
    rw [hafter] at h
    obtain ⟨rfl, rfl⟩ := Prod.mk.inj (Except.ok.inj h)
    have hnonneg : 0 ≤ after := by
      unfold retryAfter at hafter
      split_ifs at hafter
      exact failure.retryAfter_nonneg after hafter
    cases hlimit : policy.retryAfterMaxSeconds with
    | none => exact ⟨hnonneg, nofun, fun _ => nofun⟩
    | some limit =>
      refine ⟨le_min hnonneg (policy.retryAfterMax_nonneg limit hlimit), nofun, ?_⟩
      rintro - _ ⟨⟩
      exact min_le_right _ _
  | none =>
    rw [hafter] at h
    obtain ⟨delay, hdelay, h⟩ := bind_eq_ok.mp h
    obtain ⟨jittered, hjittered, h⟩ := bind_eq_ok.mp h
    obtain ⟨rfl, rfl⟩ := Prod.mk.inj (Except.ok.inj h)
    obtain rfl := baseBackoffDelay_eq hdelay
    obtain ⟨hnonneg, hle⟩ := applyJitter_bounds hjittered
      (capped_product_nonneg (backoffFactor_nonneg failure.attemptNumber.val))
    exact ⟨hnonneg, fun _ => hle.trans (capped_le _), nofun⟩

theorem delay_eq_capped (hjitter : policy.jitterStrategy = .none) {seconds : ℚ}
    (h : delay policy fraction failure = .ok (seconds, false)) :
    seconds = capped policy
      (product policy.baseDelaySeconds (backoffFactor policy failure.attemptNumber.val)) := by
  unfold delay at h
  cases hafter : retryAfter policy failure with
  | some after =>
    rw [hafter] at h
    exact absurd (Prod.mk.inj (Except.ok.inj h)).2 nofun
  | none =>
    rw [hafter] at h
    obtain ⟨delay, hdelay, h⟩ := bind_eq_ok.mp h
    obtain rfl := baseBackoffDelay_eq hdelay
    rw [applyJitter, if_pos hjitter] at h
    exact (Prod.mk.inj (Except.ok.inj h)).1.symm

theorem delay_returns_iff (hfraction : 0 ≤ fraction ∧ fraction ≤ 1) :
    (∃ result, delay policy fraction failure = .ok result) ↔
      (retryAfter policy failure = none →
        BackoffInRange policy failure.attemptNumber.val) := by
  unfold delay
  cases hafter : retryAfter policy failure with
  | some after => exact iff_of_true ⟨_, rfl⟩ nofun
  | none =>
    rw [← baseBackoffDelay_returns_iff]
    constructor
    · rintro ⟨result, h⟩ -
      obtain ⟨delay, hdelay, -⟩ := bind_eq_ok.mp h
      exact ⟨delay, hdelay⟩
    · intro h
      obtain ⟨delay, hdelay⟩ := h rfl
      obtain ⟨jittered, hjittered⟩ := applyJitter_returns hfraction (capped policy delay)
      exact ⟨_, bind_eq_ok.mpr ⟨delay, hdelay, bind_eq_ok.mpr ⟨jittered, hjittered, rfl⟩⟩⟩

/-! ## The decision -/

theorem stopDecision_returns (failure : RetryFailureContext) {reason : RetryStopReason}
    (hid : isBlank decisionId = false) (h : reason ≠ .none) :
    ∃ decision, stopDecision policy decisionId failure reason = .ok decision := by
  have hsummary : isBlank ("Retry stopped because " ++ reason.value ++ ".") = false :=
    isBlank_append (isBlank_append (by decide +kernel))
  refine ⟨_, bind_eq_ok.mpr ⟨decisionId, raiseIf_bind_eq_ok.mpr ⟨by simp [hid], rfl⟩,
    bind_eq_ok.mpr ⟨(), ?_, rfl⟩⟩⟩
  have htexts : requireTexts [("decision_id", decisionId), ("policy_id", policy.policyId),
      ("failure_id", failure.failureId),
      ("summary", "Retry stopped because " ++ reason.value ++ ".")] = .ok () :=
    requireTexts_eq_ok.mpr (by
      simp [hid, policy.policyId_isBlank, failure.failureId_isBlank, hsummary])
  simp [RetryDecision.validate, raiseIf_bind_eq_ok, htexts, h]

theorem evaluate_returns_iff (hid : isBlank decisionId = false)
    (hfraction : 0 ≤ fraction ∧ fraction ≤ 1) :
    (∃ decision, evaluate policy decisionId fraction failure = .ok decision) ↔
      (stopReason policy failure = .none →
        (retryAfter policy failure = none → BackoffInRange policy failure.attemptNumber.val) ∧
          failure.attemptNumber.val + 1 < 10 ^ maxStrDigits) := by
  by_cases hstop : stopReason policy failure = .none
  · rw [evaluate, if_neg (not_not.mpr hstop), ← delay_returns_iff hfraction]
    constructor
    · rintro ⟨decision, h⟩ -
      obtain ⟨result, hdelay, h⟩ := bind_eq_ok.mp h
      obtain ⟨_, -, h⟩ := bind_eq_ok.mp h
      obtain ⟨_, htext, -⟩ := bind_eq_ok.mp h
      exact ⟨⟨result, hdelay⟩, not_le.mp (raiseIf_bind_eq_ok.mp htext).1⟩
    · intro h
      obtain ⟨⟨⟨seconds, used⟩, hdelay⟩, hattempt⟩ := h hstop
      have hseconds := (delay_bounds hdelay).1
      have hnumber : intText (failure.attemptNumber.val + 1) =
          .ok (toString (failure.attemptNumber.val + 1)) :=
        raiseIf_bind_eq_ok.mpr ⟨not_le.mpr hattempt, rfl⟩
      have hsummary : isBlank ("Retry allowed for attempt " ++
          toString (failure.attemptNumber.val + 1) ++ " after " ++ fourPlaces seconds ++
          " seconds.") = false :=
        isBlank_append (isBlank_append (isBlank_append (isBlank_append (by decide +kernel))))
      refine ⟨_, bind_eq_ok.mpr ⟨_, hdelay, bind_eq_ok.mpr ⟨decisionId,
        raiseIf_bind_eq_ok.mpr ⟨by simp [hid], rfl⟩, bind_eq_ok.mpr ⟨_, hnumber,
          bind_eq_ok.mpr ⟨(), ?_, rfl⟩⟩⟩⟩⟩
      have htexts : requireTexts [("decision_id", decisionId), ("policy_id", policy.policyId),
          ("failure_id", failure.failureId), ("summary", "Retry allowed for attempt " ++
            toString (failure.attemptNumber.val + 1) ++ " after " ++ fourPlaces seconds ++
            " seconds.")] = .ok () :=
        requireTexts_eq_ok.mpr (by
          simp only [List.forall_mem_cons, hid, policy.policyId_isBlank,
            failure.failureId_isBlank, hsummary]
          simp)
      have hpos : 1 ≤ failure.attemptNumber.val := failure.attemptNumber.property
      refine raiseIf_bind_eq_ok.mpr ⟨?_, raiseIf_bind_eq_ok.mpr
        ⟨by simpa using hseconds, bind_eq_ok.mpr ⟨(), htexts, ?_⟩⟩⟩
      · rintro ⟨_, ⟨⟩, hlt⟩
        exact absurd hlt (not_lt.mpr (Nat.succ_le_succ hpos))
      simp [raiseIf_bind_eq_ok]
  · rw [evaluate, if_pos hstop]
    exact iff_of_true (stopDecision_returns failure hid hstop) fun h => absurd h hstop

theorem evaluate_cases (h : evaluate policy decisionId fraction failure = .ok decision) :
    decision.nextAttempt = none ∧ decision.delaySeconds = none ∨
      stopReason policy failure = .none ∧
        decision.nextAttempt = some (failure.attemptNumber.val + 1) ∧
        ∃ seconds, delay policy fraction failure = .ok (seconds, decision.usedRetryAfter) ∧
          decision.delaySeconds = some seconds := by
  unfold evaluate at h
  split_ifs at h with hstop
  · obtain ⟨_, -, h⟩ := bind_eq_ok.mp h
    obtain ⟨_, -, h⟩ := bind_eq_ok.mp h
    obtain rfl := Except.ok.inj h
    exact .inl ⟨rfl, rfl⟩
  · obtain ⟨⟨seconds, used⟩, hdelay, h⟩ := bind_eq_ok.mp h
    obtain ⟨_, -, h⟩ := bind_eq_ok.mp h
    obtain ⟨_, -, h⟩ := bind_eq_ok.mp h
    obtain ⟨_, -, h⟩ := bind_eq_ok.mp h
    obtain rfl := Except.ok.inj h
    exact .inr ⟨not_not.mp hstop, rfl, seconds, hdelay, rfl⟩

theorem lt_maximumAttempts (h : stopReason policy failure = .none) :
    failure.attemptNumber.val < policy.maximumAttempts.val := by
  unfold stopReason at h
  dsimp only at h
  split_ifs at h with _ hattempts
  exact not_le.mp hattempts

inductive RetriedInTurn (policy : RetryPolicy casefold) : ℕ → List RetryFailureContext → Prop where
  | nil (attemptNumber : ℕ) : RetriedInTurn policy attemptNumber []
  | cons {decisionId fraction decision next} (failure : RetryFailureContext) {failures} :
      evaluate policy decisionId fraction failure = .ok decision →
      decision.nextAttempt = some next → RetriedInTurn policy next failures →
      RetriedInTurn policy failure.attemptNumber.val (failure :: failures)

theorem RetriedInTurn.length_add_le {failures : List RetryFailureContext}
    (h : RetriedInTurn policy attemptNumber failures) (hne : failures ≠ []) :
    failures.length + attemptNumber ≤ policy.maximumAttempts.val := by
  induction h with
  | nil => exact absurd rfl hne
  | cons failure hdecision hnext hrest ih =>
    rcases evaluate_cases hdecision with ⟨hnone, -⟩ | ⟨hstop, hattempt, -⟩
    · exact absurd (hnone.symm.trans hnext) nofun
    · obtain rfl := Option.some.inj (hattempt.symm.trans hnext)
      have hlt := lt_maximumAttempts hstop
      rename_i failures
      cases failures with
      | nil => simp; omega
      | cons _ _ =>
        have hrest := ih (List.cons_ne_nil _ _)
        simp only [List.length_cons] at hrest ⊢
        omega

/-- A decision is returned exactly where its numbers are in range. All delays are bounded, they
never decrease, and there are less retries than attempts. -/
theorem retry_decisions_iff (policy : RetryPolicy casefold) :
    (∀ decisionId fraction failure, isBlank decisionId = false → 0 ≤ fraction ∧ fraction ≤ 1 →
      ((∃ decision, evaluate policy decisionId fraction failure = .ok decision) ↔
        (stopReason policy failure = .none →
          (retryAfter policy failure = none → BackoffInRange policy failure.attemptNumber.val) ∧
            failure.attemptNumber.val + 1 < 10 ^ maxStrDigits))) ∧
    (∀ decisionId fraction failure decision,
      evaluate policy decisionId fraction failure = .ok decision →
      ∀ seconds ∈ decision.delaySeconds, 0 ≤ seconds ∧
        (decision.usedRetryAfter = false → seconds ≤ policy.maximumDelaySeconds) ∧
        (decision.usedRetryAfter = true → ∀ limit ∈ policy.retryAfterMaxSeconds, seconds ≤ limit)) ∧
    (policy.jitterStrategy = .none →
      ∀ firstId secondId fraction other (first second : RetryDecision)
        (failure later : RetryFailureContext),
      evaluate policy firstId fraction failure = .ok first →
      evaluate policy secondId other later = .ok second →
      first.usedRetryAfter = false → second.usedRetryAfter = false →
      failure.attemptNumber.val ≤ later.attemptNumber.val →
      ∀ seconds ∈ first.delaySeconds, ∀ laterSeconds ∈ second.delaySeconds,
        seconds ≤ laterSeconds) ∧
    ∀ attemptNumber failures, 1 ≤ attemptNumber → RetriedInTurn policy attemptNumber failures →
      failures.length ≤ policy.maximumAttempts.val - 1 := by
  refine ⟨fun _ _ _ hid hfraction => evaluate_returns_iff hid hfraction, ?_, ?_, ?_⟩
  · intro decisionId fraction failure decision h seconds hseconds
    rcases evaluate_cases h with ⟨-, hnone⟩ | ⟨-, -, delay, hdelay, hsome⟩
    · exact absurd (hnone.symm.trans hseconds) nofun
    · obtain rfl := Option.some.inj (hsome.symm.trans hseconds)
      exact delay_bounds hdelay
  · intro hjitter firstId secondId fraction other first second failure later hfirst hsecond
      hunused hlaterUnused hle seconds hseconds laterSeconds hlaterSeconds
    rcases evaluate_cases hfirst with ⟨-, hnone⟩ | ⟨-, -, _, hdelay, hsome⟩
    · exact absurd (hnone.symm.trans hseconds) nofun
    rcases evaluate_cases hsecond with ⟨-, hnone⟩ | ⟨-, -, _, hlater, hlaterSome⟩
    · exact absurd (hnone.symm.trans hlaterSeconds) nofun
    obtain rfl := Option.some.inj (hsome.symm.trans hseconds)
    obtain rfl := Option.some.inj (hlaterSome.symm.trans hlaterSeconds)
    rw [hunused] at hdelay
    rw [hlaterUnused] at hlater
    rw [delay_eq_capped hjitter hdelay, delay_eq_capped hjitter hlater]
    exact capped_product_mono (backoffFactor_mono hle)
  · intro attemptNumber failures hpos h
    rcases eq_or_ne failures [] with rfl | hne
    · exact Nat.zero_le _
    · have hlength := h.length_add_le hne
      omega

def samplePolicy : RetryPolicy asciiCasefold where
  policyId := "retry-policy"
  maximumAttempts := ⟨2000, by decide⟩
  baseDelaySeconds := 1
  maximumDelaySeconds := 60
  backoffStrategy := .exponential
  multiplier := 2
  jitterStrategy := .none
  allowedCategories := []
  deniedCategories := []
  allowedErrorCodes := []
  deniedErrorCodes := []
  respectRetryAfter := true
  retryAfterMaxSeconds := none
  policyId_isBlank := by decide +kernel
  base_nonneg := by decide
  base_le_maximum := by decide +kernel
  maximum_lt := by decide +kernel
  multiplier_ge := by decide +kernel
  categories_nodup := by simp
  categories_disjoint := by simp
  codes_isBlank := by simp
  codes_nodup := by simp
  retryAfterMax_nonneg := by simp
  retryAfterMax_respects := by simp

def sampleFailure (attemptNumber : PositiveInt) : RetryFailureContext where
  failureId := "failure"
  category := .timeout
  errorCode := "timeout"
  retryable := true
  attemptNumber := attemptNumber
  retryAfterSeconds := none
  failureId_isBlank := by decide +kernel
  errorCode_isBlank := by decide +kernel
  retryAfter_nonneg := by simp

theorem retry_overflows :
    (evaluate samplePolicy "decision" 0 (sampleFailure ⟨1024, by decide⟩)).map
        (·.delaySeconds) = .ok (some 60) ∧
      evaluate samplePolicy "decision" 0 (sampleFailure ⟨1025, by decide⟩) =
        .error ⟨.overflowError, "Numerical result out of range"⟩ := by
  decide +kernel

end AgenticLab.RetryPolicyEvaluator
