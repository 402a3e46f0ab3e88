import AgenticLab.Library.SeparatedFields
import AgenticLab.Model.Research.BoundedResearchPlanningLoop
import Mathlib.Tactic.IntervalCases

/-! # When the bounded research loop ends with a result -/

namespace AgenticLab

theorem isNormalized_of_ends {text : String} {first last : Char} {middle : List Char}
    (htext : text.toList = first :: middle ++ [last]) (hfirst : isSpace first = false)
    (hlast : isSpace last = false) : isNormalized text = true := by
  have hblank : isBlank text = false := by
    rw [Bool.eq_false_iff, Ne, isBlank_iff, htext]
    intro hall
    exact Bool.false_ne_true (hfirst.symm.trans (hall first (by simp)))
  simp [isNormalized, hblank, strip_eq_self htext hfirst hlast]

namespace BoundedResearchPlanningLoop

theorem fourDigits_toList (value : ℕ) :
    (fourDigits value).toList =
      List.replicate (4 - (Nat.toDigits 10 value).length) '0' ++ Nat.toDigits 10 value := by
  rw [fourDigits, String.toList_ofList, List.leftpad]

theorem isDigit_of_mem_fourDigits {value : ℕ} {character : Char}
    (h : character ∈ (fourDigits value).toList) : character.isDigit = true := by
  rw [fourDigits_toList, List.mem_append, List.mem_replicate] at h
  rcases h with ⟨-, rfl⟩ | hdigit
  · rfl
  · exact Nat.isDigit_of_mem_toDigits (by decide) (by decide) hdigit

theorem fourDigits_injective : Function.Injective fourDigits := by
  intro value other h
  have hread : ∀ value, Nat.ofDigitChars 10 (fourDigits value).toList 0 = value := fun value => by
    rw [fourDigits_toList, Nat.ofDigitChars_append, Nat.ofDigitChars_replicate_zero, Nat.mul_zero,
      Nat.ofDigitChars_ten_toDigits]
  rw [← hread value, h, hread other]

theorem observationId_toList (roundNumber position : ℕ) :
    (observationId roundNumber position).toList = "round-".toList ++
      ((fourDigits roundNumber).toList ++ '-' ::
        ("observation-".toList ++ (fourDigits position).toList)) := by
  simp [observationId]

theorem observationId_inj {roundNumber position otherRound otherPosition : ℕ}
    (h : observationId roundNumber position = observationId otherRound otherPosition) :
    roundNumber = otherRound ∧ position = otherPosition := by
  have hdash : ∀ value, '-' ∉ (fourDigits value).toList := fun value hmem =>
    absurd (isDigit_of_mem_fourDigits hmem) (by decide)
  rw [← String.toList_inj, observationId_toList, observationId_toList] at h
  obtain ⟨hround, hrest⟩ := SeparatedFields.split_injective (hdash _) (hdash _)
    (List.append_cancel_left h)
  exact ⟨fourDigits_injective (String.toList_inj.mp hround),
    fourDigits_injective (String.toList_inj.mp (List.append_cancel_left hrest))⟩

theorem isNormalized_observationId (roundNumber position : ℕ) :
    isNormalized (observationId roundNumber position) = true := by
  obtain ⟨before, last, hlast⟩ :
      ∃ before last, (fourDigits position).toList = before ++ [last] := by
    rcases List.eq_nil_or_concat (fourDigits position).toList with hnil | ⟨before, last, h⟩
    · rw [fourDigits_toList, List.append_eq_nil_iff] at hnil
      exact absurd hnil.2 Nat.toDigits_ne_nil
    · exact ⟨before, last, by rw [h, List.concat_eq_append]⟩
  have hdigit : last.isDigit = true :=
    isDigit_of_mem_fourDigits (by rw [hlast]; exact List.mem_append_right _ List.mem_cons_self)
  have htext : (observationId roundNumber position).toList =
      'r' :: ("ound-".toList ++ ((fourDigits roundNumber).toList ++ '-' ::
        ("observation-".toList ++ before))) ++ [last] := by
    rw [observationId_toList, hlast]
    simp
  exact isNormalized_of_ends htext (by decide) (isSpace_of_isDigit hdigit)

end BoundedResearchPlanningLoop

/-! ## Tool results -/

structure StatesUsage (metadata : List (String × MetadataValue)) (usage : ResearchAgentRoundUsage) :
    Prop where
  toolCalls : usage.toolCalls = 1
  providerCalls : metadata.lookup "provider_calls" = some (.int usage.providerCalls)
  recordedTokens : metadata.lookup "recorded_tokens" = some (.int usage.recordedTokens)
  elapsedSeconds :
    metadata.lookup "elapsed_seconds" = some (.float (some usage.elapsedSeconds)) ∨
      ∃ whole : ℕ, metadata.lookup "elapsed_seconds" = some (.int whole) ∧
        usage.elapsedSeconds = whole
  externalRequests : metadata.lookup "external_requests" = some (.int usage.externalRequests)

namespace GroundedToolResult

variable {result : GroundedToolResult}

structure WellFormed (result : GroundedToolResult) : Prop where
  toolName : result.toolName = boundedGroundedAnswerToolName
  failed : result.status = .failed → ∃ code retryable,
    result.metadata.lookup "error_code" = some (.str code) ∧ isBlank code = false ∧
      result.metadata.lookup "retryable" = some (.bool retryable)
  succeeded : result.status = .succeeded →
    ∃ output usage, result.output = some output ∧ StatesUsage result.metadata usage

def FailureFits (result : GroundedToolResult) : Prop :=
  result.status = .failed → ∀ code, result.metadata.lookup "error_code" = some (.str code) →
    ∀ message, result.errorMessage = some message →
      code.length ≤ 200 ∧ message.length ≤ 2000 ∧ isNormalized code = true ∧
        isNormalized message = true

theorem exists_message (h : result.status = .failed) :
    ∃ message, result.errorMessage = some message := by
  refine Option.ne_none_iff_exists'.mp fun hnone => ?_
  cases (result.valid.2.2.mpr hnone).symm.trans h

def workflowStatus? (result : GroundedToolResult) : Option GroundedAnswerWorkflowStatus :=
  match result.status, result.output with
  | .succeeded, some output => some output.status
  | _, _ => none

def usage (result : GroundedToolResult) : ResearchAgentRoundUsage :=
  match result.status with
  | .failed => GroundedAnswerToolObservationAdapter.failedUsage
  | .succeeded => ((GroundedAnswerToolObservationAdapter.usage result.metadata).toOption).getD
      GroundedAnswerToolObservationAdapter.failedUsage

end GroundedToolResult

namespace GroundedAnswerToolObservationAdapter

variable {result : GroundedToolResult} {roundUsage : ResearchAgentRoundUsage}

theorem usage_eq {metadata : List (String × MetadataValue)}
    (h : StatesUsage metadata roundUsage) : usage metadata = .ok roundUsage := by
  have hcount : ∀ {name : String} {value : ℕ}, metadata.lookup name = some (.int value) →
      count metadata name = .ok value := fun hname => by rw [count, hname]
  have hnonNegative : ∀ value : ℕ, nonNegative value = .ok value := fun value => by
    rw [nonNegative, if_neg (by omega), Int.toNat_natCast]
  have hseconds : ∃ elapsed, seconds metadata = .ok (some elapsed) ∧
      finiteSeconds (some elapsed) = .ok roundUsage.elapsedSeconds := by
    rcases h.elapsedSeconds with hfloat | ⟨whole, hint, hwhole⟩
    · refine ⟨roundUsage.elapsedSeconds, by rw [seconds, hfloat], ?_⟩
      rw [finiteSeconds, if_pos (NNRat.coe_nonneg _), NNRat.toNNRat_coe]
    · refine ⟨whole, by rw [seconds, hint]; rfl, ?_⟩
      rw [finiteSeconds, if_pos (by positivity), hwhole, NNRat.toNNRat_coe_nat]
  obtain ⟨elapsed, hseconds, hfinite⟩ := hseconds
  rw [usage, hcount h.providerCalls, hcount h.recordedTokens, hseconds, hcount h.externalRequests]
  simp only [ok_bind, hnonNegative, hfinite, ← h.toolCalls]
  rfl

theorem newObservationFailure_eq_ok {code message : String} {retryable : Bool}
    {failure : ResearchAgentObservationFailure} :
    newObservationFailure code message retryable = .ok failure ↔
      (code.length ≤ 200 ∧ message.length ≤ 2000 ∧ isNormalized code = true ∧
        isNormalized message = true) ∧ failure = ⟨code, message, retryable⟩ := by
  simp only [newObservationFailure, raiseIf_bind_eq_ok, not_lt, Bool.not_eq_false, pure,
    Except.pure, Except.ok.injEq, eq_comm (a := failure), and_assoc]

variable {found : ResearchAgentObservationOutcome}

theorem outcome_eq_ok (h : result.WellFormed) (hfound : outcome result = .ok (found, roundUsage)) :
    result.FailureFits ∧ roundUsage = result.usage ∧ roundUsage.toolCalls = 1 ∧
      ∀ observationId toolName,
        (⟨observationId, toolName, found⟩ : ResearchAgentObservation).status? =
          result.workflowStatus? := by
  rw [outcome, raiseIf_bind_eq_ok] at hfound
  cases hstatus : result.status with
  | failed =>
    obtain ⟨code, retryable, hcode, hblank, hretryable⟩ := h.failed hstatus
    obtain ⟨message, hmessage⟩ := result.exists_message hstatus
    simp only [hstatus, failedOutcome, hcode, hretryable, bind_eq_ok,
      newObservationFailure_eq_ok] at hfound
    obtain ⟨-, _, -, failure, ⟨hfits, rfl⟩, hpair⟩ := hfound
    cases hpair
    refine ⟨fun _ other hother text htext => ?_, ?_, rfl, fun _ _ => ?_⟩
    · cases hcode.symm.trans hother
      simpa [htext] using hfits
    · rw [GroundedToolResult.usage, hstatus]
    · rw [GroundedToolResult.workflowStatus?, hstatus]
      rfl
  | succeeded =>
    obtain ⟨output, stated, houtput, hstates⟩ := h.succeeded hstatus
    simp only [hstatus, houtput, usage_eq hstates, ok_bind] at hfound
    cases hfound.2
    refine ⟨fun hfailed => ?_, ?_, hstates.toolCalls, fun _ _ => ?_⟩
    · cases hstatus.symm.trans hfailed
    · rw [GroundedToolResult.usage, hstatus]
      simp [usage_eq hstates, Except.toOption]
    · rw [GroundedToolResult.workflowStatus?, hstatus, houtput]
      rfl

theorem retryable_of_outcome (hfound : outcome result = .ok (found, roundUsage))
    (hstatus : result.status = .failed) {retryable : Bool}
    (hretryable : result.metadata.lookup "retryable" = some (.bool retryable))
    (observationId toolName : String) :
    (⟨observationId, toolName, found⟩ : ResearchAgentObservation).retryable? = some retryable := by
  rw [outcome, raiseIf_bind_eq_ok] at hfound
  simp only [hstatus, failedOutcome, hretryable] at hfound
  obtain ⟨-, hfound⟩ := hfound
  split at hfound
  · rename_i hvalue
    cases hvalue
    simp only [bind_eq_ok, newObservationFailure_eq_ok] at hfound
    obtain ⟨_, -, failure, ⟨-, rfl⟩, hpair⟩ := hfound
    cases hpair
    rfl
  · cases hfound

theorem exists_outcome (h : result.WellFormed) (hfits : result.FailureFits) :
    ∃ found, outcome result = .ok found := by
  rw [outcome, raiseIf, if_neg (not_not.mpr h.toolName), ok_bind]
  cases hstatus : result.status with
  | failed =>
    obtain ⟨code, retryable, hcode, hblank, hretryable⟩ := h.failed hstatus
    obtain ⟨message, hmessage⟩ := result.exists_message hstatus
    have hfailure : newObservationFailure code message retryable =
        .ok ⟨code, message, retryable⟩ :=
      newObservationFailure_eq_ok.mpr ⟨hfits hstatus code hcode message hmessage, rfl⟩
    simp [failedOutcome, hcode, hretryable, hblank, hmessage, hfailure, raiseIf]
  | succeeded =>
    obtain ⟨output, stated, houtput, hstates⟩ := h.succeeded hstatus
    simp [houtput, usage_eq hstates]

end GroundedAnswerToolObservationAdapter

namespace DeterministicEvidenceSufficiencyDecider

variable {usage : ResearchAgentLoopUsage} {budget : BoundedResearchAgentLoopBudget}
  {observations : List ResearchAgentObservation} {decided : EvidenceSufficiencyDecisionResult}

theorem reached_of_budgetReached (h : budgetReached usage budget = true) :
    BoundedResearchAgentLoopResult.reached usage budget = true := by
  simp only [budgetReached, BoundedResearchAgentLoopResult.reached, Bool.or_eq_true,
    Bool.and_eq_true, decide_eq_true_eq] at h ⊢
  tauto

theorem exceeded_of_budgetReached (h : budgetReached usage budget = false) :
    BoundedResearchAgentLoopResult.exceeded usage budget = false := by
  simp only [budgetReached, BoundedResearchAgentLoopResult.exceeded, Bool.or_eq_false_iff,
    Bool.and_eq_false_iff, decide_eq_false_iff_not, not_le, not_lt] at h ⊢
  obtain ⟨⟨⟨⟨⟨hrounds, htools⟩, hproviders⟩, htokens⟩, helapsed⟩, hexternal⟩ := h
  exact ⟨⟨⟨⟨⟨by omega, by omega⟩, by omega⟩, by omega⟩, helapsed.le⟩, by omega⟩

structure DecisionSpec (observations : List ResearchAgentObservation)
    (usage : ResearchAgentLoopUsage) (budget : BoundedResearchAgentLoopBudget)
    (decided : EvidenceSufficiencyDecisionResult) : Prop where
  rationale : isNormalized decided.rationale = true
  goalAchieved : decided.decision = .goalAchieved ↔
    .answerAvailable ∈ observations.filterMap (·.status?)
  abstain : decided.decision = .abstain → .abstained ∈ observations.filterMap (·.status?)
  abstained : .abstained ∈ observations.filterMap (·.status?) →
    decided.decision = .goalAchieved ∨ decided.decision = .abstain
  exhausted : decided.decision = .budgetExhausted → budgetReached usage budget = true
  unreached : decided.decision ≠ .goalAchieved → decided.decision ≠ .abstain →
    decided.decision ≠ .budgetExhausted → budgetReached usage budget = false
  replan : decided.decision = .replan →
    isOnly true (observations.filterMap (·.retryable?)) = true ∨
      observations.filterMap (·.retryable?) = []
  reason : decided.decision = .replan ∨ ∃ reason, decided.decision.reason? = some reason

theorem decide_spec (h : decide observations usage budget = .ok decided) :
    DecisionSpec observations usage budget decided := by
  rw [decide, raiseIf_bind_eq_ok] at h
  obtain ⟨-, h⟩ := h
  simp only at h
  split_ifs at h with hanswer habstained hreached hretry hincomplete hterminal <;>
    obtain rfl := Except.ok.inj h
  · exact ⟨by decide +kernel, by simp [hanswer], nofun, fun _ => .inl rfl, nofun, by simp, nofun,
      .inr ⟨_, rfl⟩⟩
  · exact ⟨by decide +kernel, by simp [hanswer], fun _ => habstained, fun _ => .inr rfl, nofun,
      by simp, nofun, .inr ⟨_, rfl⟩⟩
  · exact ⟨by decide +kernel, by simp [hanswer], nofun, fun h => absurd h habstained,
      fun _ => hreached, by simp, nofun, .inr ⟨_, rfl⟩⟩
  · exact ⟨by decide +kernel, by simp [hanswer], nofun, fun h => absurd h habstained, nofun,
      by simp [hreached], fun _ => .inl hretry, .inl rfl⟩
  · exact ⟨by decide +kernel, by simp [hanswer], nofun, fun h => absurd h habstained, nofun,
      by simp [hreached], fun _ => .inr hincomplete.1, .inl rfl⟩
  · exact ⟨by decide +kernel, by simp [hanswer], nofun, fun h => absurd h habstained, nofun,
      by simp [hreached], nofun, .inr ⟨_, rfl⟩⟩
  · exact ⟨by decide +kernel, by simp [hanswer], nofun, fun h => absurd h habstained, nofun,
      by simp [hreached], nofun, .inr ⟨_, rfl⟩⟩

theorem exists_decide (h : observations ≠ []) (usage : ResearchAgentLoopUsage)
    (budget : BoundedResearchAgentLoopBudget) :
    ∃ decided, decide observations usage budget = .ok decided := by
  rw [decide, raiseIf, if_neg h, ok_bind]
  simp only
  split_ifs <;> exact ⟨_, rfl⟩

end DeterministicEvidenceSufficiencyDecider

/-! ## One round -/

namespace BoundedResearchPlanningLoop

variable {budget : BoundedResearchAgentLoopBudget} {rounds : List ResearchAgentLoopRound}
  {planning : PlanningAgentLoopResult} {next : ResearchAgentLoopRound}

theorem isNormalized_toolName : isNormalized boundedGroundedAnswerToolName = true := by
  decide +kernel

structure AdaptedSpec (roundNumber position : ℕ) (results : List GroundedToolResult)
    (adapted : List (ResearchAgentObservation × ResearchAgentRoundUsage)) : Prop where
  fits : ∀ result ∈ results, result.FailureFits
  ids : adapted.map (·.1.observationId) =
    (List.range' position results.length).map (observationId roundNumber)
  toolNames : ∀ one ∈ adapted, one.1.toolName = boundedGroundedAnswerToolName
  statuses : adapted.map (·.1.status?) = results.map (·.workflowStatus?)
  usages : adapted.map Prod.snd = results.map (·.usage)
  toolCalls : ∀ one ∈ adapted, one.2.toolCalls = 1
  retryable : ∀ retryable : Bool, (∀ result ∈ results, result.status = .failed ∧
    result.metadata.lookup "retryable" = some (.bool retryable)) →
      ∀ one ∈ adapted, one.1.retryable? = some retryable

variable {results : List GroundedToolResult}
  {adapted : List (ResearchAgentObservation × ResearchAgentRoundUsage)}

theorem adaptAll_spec {roundNumber position : ℕ} (hresults : ∀ result ∈ results, result.WellFormed)
    (h : adaptAll roundNumber position results = .ok adapted) :
    AdaptedSpec roundNumber position results adapted := by
  induction results generalizing position adapted with
  | nil =>
    obtain rfl := Except.ok.inj h
    exact ⟨by simp, rfl, by simp, rfl, rfl, by simp, by simp⟩
  | cons result results ih =>
    obtain ⟨hresult, hresults⟩ := List.forall_mem_cons.mp hresults
    obtain ⟨⟨observation, usage⟩, hadapt, h⟩ := bind_eq_ok.mp h
    obtain ⟨rest, hrest, h⟩ := bind_eq_ok.mp h
    obtain rfl := Except.ok.inj h
    obtain ⟨⟨found, read⟩, hfound, hadapt⟩ := bind_eq_ok.mp hadapt
    obtain ⟨built, hbuilt, hadapt⟩ := bind_eq_ok.mp hadapt
    cases Except.ok.inj hadapt
    simp only [newObservation, raiseIf_bind_eq_ok] at hbuilt
    obtain rfl := Except.ok.inj hbuilt.2.2
    obtain ⟨hfits, husage, hcalls, hstatus⟩ :=
      GroundedAnswerToolObservationAdapter.outcome_eq_ok hresult hfound
    have hrest := ih hresults hrest
    refine ⟨List.forall_mem_cons.mpr ⟨hfits, hrest.fits⟩, ?_,
      List.forall_mem_cons.mpr ⟨hresult.toolName, hrest.toolNames⟩, ?_, ?_,
      List.forall_mem_cons.mpr ⟨hcalls, hrest.toolCalls⟩, fun retryable hall => ?_⟩
    · simp [hrest.ids, List.range'_succ]
    · simp [hrest.statuses, hstatus]
    · simp [hrest.usages, husage]
    · obtain ⟨hhead, htail⟩ := List.forall_mem_cons.mp hall
      exact List.forall_mem_cons.mpr
        ⟨GroundedAnswerToolObservationAdapter.retryable_of_outcome hfound hhead.1 hhead.2 _ _,
          hrest.retryable retryable htail⟩

theorem exists_adaptAll (roundNumber position : ℕ)
    (hresults : ∀ result ∈ results, result.WellFormed)
    (hfits : ∀ result ∈ results, result.FailureFits) :
    ∃ adapted, adaptAll roundNumber position results = .ok adapted := by
  induction results generalizing position with
  | nil => exact ⟨[], rfl⟩
  | cons result results ih =>
    obtain ⟨hresult, hresults⟩ := List.forall_mem_cons.mp hresults
    obtain ⟨hfit, hfits⟩ := List.forall_mem_cons.mp hfits
    obtain ⟨⟨found, usage⟩, hfound⟩ :=
      GroundedAnswerToolObservationAdapter.exists_outcome hresult hfit
    obtain ⟨rest, hrest⟩ := ih (position + 1) hresults hfits
    have hadapt : GroundedAnswerToolObservationAdapter.adapt
        (observationId roundNumber position) result =
        .ok (⟨observationId roundNumber position, result.toolName, found⟩, usage) := by
      rw [GroundedAnswerToolObservationAdapter.adapt, hfound, ok_bind]
      simp [newObservation, isNormalized_observationId, hresult.toolName, isNormalized_toolName,
        raiseIf]
    exact ⟨_, by rw [adaptAll, hadapt, ok_bind, hrest, ok_bind]; rfl⟩

theorem missingToolResult_wellFormed : missingToolResult.WellFormed where
  toolName := rfl
  failed _ := ⟨"grounded_tool_not_executed", false, rfl, by decide +kernel, rfl⟩
  succeeded h := nomatch h

theorem missingToolResult_fits : missingToolResult.FailureFits := by
  intro _ code hcode message hmessage
  cases hcode
  cases hmessage
  decide +kernel

theorem toolResults_wellFormed (h : ∀ result ∈ boundedToolResults planning, result.WellFormed) :
    ∀ result ∈ toolResults planning, result.WellFormed := by
  rw [toolResults]
  split_ifs
  · simpa using missingToolResult_wellFormed
  · exact h

theorem toolResults_fits :
    (∀ result ∈ toolResults planning, result.FailureFits) ↔
      ∀ result ∈ boundedToolResults planning, result.FailureFits := by
  rw [toolResults]
  split_ifs with hnone
  · simp [hnone, missingToolResult_fits]
  · rfl

theorem toolResults_ne_nil : toolResults planning ≠ [] := by
  rw [toolResults]
  split_ifs with hnone
  · simp
  · exact hnone

def roundUsage (planning : PlanningAgentLoopResult) : ResearchAgentRoundUsage :=
  sumRoundUsage ((toolResults planning).map (·.usage))

def statuses (planning : PlanningAgentLoopResult) : List GroundedAnswerWorkflowStatus :=
  (toolResults planning).filterMap (·.workflowStatus?)

structure RoundSpec (budget : BoundedResearchAgentLoopBudget)
    (rounds : List ResearchAgentLoopRound) (planning : PlanningAgentLoopResult)
    (next : ResearchAgentLoopRound) : Prop where
  number : next.roundNumber = rounds.length + 1
  planId : next.planId = planIdOf planning
  ids : next.observations.map (·.observationId) =
    (List.range' 1 (toolResults planning).length).map (observationId (rounds.length + 1))
  toolNames : ∀ observation ∈ next.observations,
    observation.toolName = boundedGroundedAnswerToolName
  statuses_eq : next.observations.filterMap (·.status?) = statuses planning
  usage : next.usage = roundUsage planning
  decision : ∃ decided, DeterministicEvidenceSufficiencyDecider.DecisionSpec next.observations
    (loopUsage ((rounds ++ [next]).map (·.usage))) budget decided ∧ next.decision = decided.decision
  missing : boundedToolResults planning = [] → next.decision ≠ .replan

theorem nodup_observationIds (roundNumber count : ℕ) :
    ((List.range' 1 count).map (observationId roundNumber)).Nodup :=
  List.Nodup.map (fun _ _ h => (observationId_inj h).2) List.nodup_range'

theorem sum_toolCalls (h : ∀ one ∈ adapted, one.2.toolCalls = 1) :
    (sumRoundUsage (adapted.map Prod.snd)).toolCalls = adapted.length := by
  have hones : (adapted.map Prod.snd).map (·.toolCalls) = List.replicate adapted.length 1 := by
    refine List.eq_replicate_iff.mpr ⟨by simp, fun count hcount => ?_⟩
    obtain ⟨usage, husage, rfl⟩ := List.mem_map.mp hcount
    obtain ⟨one, hone, rfl⟩ := List.mem_map.mp husage
    exact h one hone
  simp [sumRoundUsage, hones]

structure RoundFits (planning : PlanningAgentLoopResult) : Prop where
  few : (toolResults planning).length ≤ 100
  failures : ∀ result ∈ boundedToolResults planning, result.FailureFits
  planId : isNormalized (planIdOf planning) = true

theorem runRound_spec (hresults : ∀ result ∈ boundedToolResults planning, result.WellFormed)
    (h : runRound budget rounds planning = .ok next) :
    RoundFits planning ∧ RoundSpec budget rounds planning next := by
  obtain ⟨adapted, hadapted, h⟩ := bind_eq_ok.mp h
  have hspec := adaptAll_spec (toolResults_wellFormed hresults) hadapted
  have hlength : adapted.length = (toolResults planning).length := by
    simpa using congrArg List.length hspec.usages
  obtain ⟨decided, hdecided, h⟩ := bind_eq_ok.mp h
  simp only [newRound, raiseIf_bind_eq_ok] at h
  obtain ⟨-, hfew, hplanId, -, -, -, h⟩ := h
  obtain rfl := Except.ok.inj h
  have hdecision := DeterministicEvidenceSufficiencyDecider.decide_spec hdecided
  refine ⟨⟨by simpa [hlength] using hfew, toolResults_fits.mp hspec.fits, by simpa using hplanId⟩,
    ⟨rfl, rfl, ?_, ?_, ?_, ?_, ⟨decided, by simpa using hdecision, rfl⟩, fun hnone hreplan => ?_⟩⟩
  · simpa [Function.comp_def] using hspec.ids
  · simpa using fun one hone => hspec.toolNames one hone
  · have hstatuses := congrArg (List.filterMap id) hspec.statuses
    simpa [statuses, List.filterMap_map, Function.comp_def] using hstatuses
  · simp [roundUsage, hspec.usages]
  · have hmissing : toolResults planning = [missingToolResult] := by rw [toolResults, if_pos hnone]
    have hretryable := hspec.retryable false (by simp [hmissing]; exact ⟨rfl, rfl⟩)
    obtain ⟨one, rfl⟩ := List.length_eq_one_iff.mp (hlength.trans (by rw [hmissing]; rfl))
    rcases hdecision.replan hreplan with honly | hnil
    · simp [hretryable one List.mem_cons_self,
        DeterministicEvidenceSufficiencyDecider.isOnly] at honly
    · simp [hretryable one List.mem_cons_self] at hnil

theorem exists_runRound (hresults : ∀ result ∈ boundedToolResults planning, result.WellFormed)
    (h : RoundFits planning) (budget : BoundedResearchAgentLoopBudget)
    (rounds : List ResearchAgentLoopRound) :
    ∃ next, runRound budget rounds planning = .ok next := by
  obtain ⟨adapted, hadapted⟩ := exists_adaptAll (rounds.length + 1) 1
    (toolResults_wellFormed hresults) (toolResults_fits.mpr h.failures)
  have hspec := adaptAll_spec (toolResults_wellFormed hresults) hadapted
  have hlength : adapted.length = (toolResults planning).length := by
    simpa using congrArg List.length hspec.usages
  have hne : adapted.map Prod.fst ≠ [] := by
    intro hnil
    have hzero := congrArg List.length hnil
    rw [List.length_map, hlength, List.length_nil, List.length_eq_zero_iff] at hzero
    exact toolResults_ne_nil hzero
  obtain ⟨decided, hdecided⟩ := DeterministicEvidenceSufficiencyDecider.exists_decide hne
    (loopUsage (rounds.map (·.usage) ++ [sumRoundUsage (adapted.map Prod.snd)])) budget
  have hdecision := DeterministicEvidenceSufficiencyDecider.decide_spec hdecided
  have hids : ((adapted.map Prod.fst).map (·.observationId)).Nodup := by
    rw [List.map_map]
    exact hspec.ids ▸ nodup_observationIds _ _
  rw [runRound, hadapted, ok_bind]
  simp only [hdecided, ok_bind, newRound]
  refine ⟨_, raiseIf_bind_eq_ok.mpr ⟨by simp, raiseIf_bind_eq_ok.mpr ⟨?_,
    raiseIf_bind_eq_ok.mpr ⟨by simp [h.planId], raiseIf_bind_eq_ok.mpr
      ⟨by simp [hdecision.rationale], raiseIf_bind_eq_ok.mpr ⟨not_not.mpr hids,
        raiseIf_bind_eq_ok.mpr ⟨?_, rfl⟩⟩⟩⟩⟩⟩⟩
  · simpa [hlength] using h.few
  · simp [sum_toolCalls hspec.toolCalls]

/-! ## Rounds in a row -/

structure WellBuilt (results : ℕ → PlanningAgentLoopResult) (rounds : List ResearchAgentLoopRound) :
    Prop where
  numbers : rounds.map (·.roundNumber) = List.range' 1 rounds.length
  planIds : rounds.map (·.planId) =
    (List.range' 1 rounds.length).map fun number => planIdOf (results number)
  ids : ((rounds.flatMap (·.observations)).map (·.observationId)).Nodup
  idsBelow : ∀ observation ∈ rounds.flatMap (·.observations),
    ∃ number position, number ≤ rounds.length ∧
      observation.observationId = observationId number position
  toolNames : ∀ observation ∈ rounds.flatMap (·.observations),
    observation.toolName = boundedGroundedAnswerToolName

variable {results : ℕ → PlanningAgentLoopResult}

theorem WellBuilt.nil : WellBuilt results [] := ⟨rfl, rfl, List.nodup_nil, by simp, by simp⟩

theorem RoundSpec.exists_position (h : RoundSpec budget rounds planning next)
    {observation : ResearchAgentObservation} (hmem : observation ∈ next.observations) :
    ∃ position, observation.observationId = observationId (rounds.length + 1) position := by
  have hid := List.mem_map_of_mem (f := (·.observationId)) hmem
  rw [h.ids] at hid
  obtain ⟨position, -, hposition⟩ := List.mem_map.mp hid
  exact ⟨position, hposition.symm⟩

theorem RoundSpec.exists_observation (h : RoundSpec budget rounds planning next) :
    ∃ observation, observation ∈ next.observations := by
  refine List.exists_mem_of_ne_nil _ fun hnil => ?_
  have hlength := congrArg List.length h.ids
  rw [hnil] at hlength
  have hnone : toolResults planning = [] := by simpa using hlength.symm
  exact toolResults_ne_nil hnone

theorem WellBuilt.concat (h : WellBuilt results rounds)
    (hnext : RoundSpec budget rounds (results (rounds.length + 1)) next) :
    WellBuilt results (rounds ++ [next]) := by
  have hrange : List.range' 1 (rounds ++ [next]).length =
      List.range' 1 rounds.length ++ [rounds.length + 1] := by
    rw [List.length_append, List.length_singleton, List.range'_concat]
    simp [Nat.add_comm]
  have hobservations : (rounds ++ [next]).flatMap (·.observations) =
      rounds.flatMap (·.observations) ++ next.observations := by simp
  refine ⟨?_, ?_, ?_, ?_, ?_⟩
  · rw [hrange, List.map_append, h.numbers, List.map_singleton, hnext.number]
  · rw [hrange, List.map_append, List.map_append, h.planIds, List.map_singleton, hnext.planId]
    rfl
  · rw [hobservations, List.map_append, List.nodup_append']
    refine ⟨h.ids, hnext.ids ▸ nodup_observationIds _ _, fun id hold hnew => ?_⟩
    obtain ⟨old, hmem, rfl⟩ := List.mem_map.mp hold
    obtain ⟨new, hnewMem, hsame⟩ := List.mem_map.mp hnew
    obtain ⟨number, position, hle, hid⟩ := h.idsBelow old hmem
    obtain ⟨other, hother⟩ := hnext.exists_position hnewMem
    have hnumber := (observationId_inj ((hid.symm.trans hsame.symm).trans hother)).1
    omega
  · rw [hobservations]
    intro observation hmem
    rcases List.mem_append.mp hmem with hold | hnew
    · obtain ⟨number, position, hle, hid⟩ := h.idsBelow observation hold
      exact ⟨number, position, by simp; omega, hid⟩
    · obtain ⟨position, hid⟩ := hnext.exists_position hnew
      exact ⟨rounds.length + 1, position, by simp, hid⟩
  · rw [hobservations]
    intro observation hmem
    rcases List.mem_append.mp hmem with hold | hnew
    · exact h.toolNames observation hold
    · exact hnext.toolNames observation hnew

section

variable (casefold : Casefold) (request : BoundedResearchAgentLoopRequest)
  (results : ℕ → PlanningAgentLoopResult)

def ToolAllowed : Prop :=
  casefold boundedGroundedAnswerToolName ∈ request.allowedTools.map casefold

/-- The planning loop answers each request with the next of these results: each with a plan of its
own, allowed tools and well-formed metadata. -/
structure PlanningResults : Prop where
  planIds : ∀ number other, number ≤ request.budget.maximumRounds.val →
    other ≤ request.budget.maximumRounds.val →
      planIdOf (results number) = planIdOf (results other) → number = other
  allowedTools : ∀ number, ∀ result ∈ boundedToolResults (results number),
    casefold result.toolName ∈ request.allowedTools.map casefold
  metadata : ∀ number, ∀ result ∈ boundedToolResults (results number), result.WellFormed

/-- The rounds so far, and the trace identifier: every one of them was to be followed by another. -/
inductive Reached : List ResearchAgentLoopRound → Option String → Prop
  | start : Reached [] none
  | replan {rounds : List ResearchAgentLoopRound} {traceId : Option String}
      {next : ResearchAgentLoopRound} (h : Reached rounds traceId)
      (hround : runRound request.budget rounds (results (rounds.length + 1)) = .ok next)
      (hreplan : next.decision = .replan) :
      Reached (rounds ++ [next]) ((results (rounds.length + 1)).traceId <|> traceId)

structure Meets (rounds : List ResearchAgentLoopRound) (traceId : Option String)
    (planning : PlanningAgentLoopResult) : Prop where
  fits : RoundFits planning
  missing : boundedToolResults planning = [] → ToolAllowed casefold request
  ceilings : .answerAvailable ∈ statuses planning ∨ .abstained ∈ statuses planning →
    BoundedResearchAgentLoopResult.exceeded
      (loopUsage (rounds.map (·.usage) ++ [roundUsage planning])) request.budget = false
  traceId : ∀ next, runRound request.budget rounds planning = .ok next →
    next.decision ≠ .replan → (planning.traceId <|> traceId).all isNormalized = true

/-- The result of a run, within its rounds, with the answer that was found, and without a round
behind a ceiling that was reached. -/
structure Usable (result : BoundedResearchAgentLoopResult) : Prop where
  returned : run casefold request (fun number => ⟨0, .ok (results number)⟩) = .ok result
  bounded : result.rounds.length ≤ request.budget.maximumRounds.val
  answer : ∀ loopRound ∈ result.rounds,
    .answerAvailable ∈ loopRound.observations.filterMap (·.status?) →
      result.rounds.getLast? = some loopRound ∧ result.finalDecision = .goalAchieved
  stops : ∀ earlier, earlier <+: result.rounds → earlier ≠ [] → earlier ≠ result.rounds →
    DeterministicEvidenceSufficiencyDecider.budgetReached (loopUsage (earlier.map (·.usage)))
      request.budget = false

end

variable {casefold : Casefold} {request : BoundedResearchAgentLoopRequest} {traceId : Option String}

structure OpenRounds (casefold : Casefold) (request : BoundedResearchAgentLoopRequest)
    (results : ℕ → PlanningAgentLoopResult) (rounds : List ResearchAgentLoopRound) : Prop where
  built : WellBuilt results rounds
  length_lt : rounds.length < request.budget.maximumRounds.val
  unanswered : ∀ loopRound ∈ rounds, .answerAvailable ∉ loopRound.observations.filterMap (·.status?)
  unreached : ∀ earlier, earlier <+: rounds → earlier ≠ [] →
    DeterministicEvidenceSufficiencyDecider.budgetReached (loopUsage (earlier.map (·.usage)))
      request.budget = false

theorem OpenRounds.concat (h : OpenRounds casefold request results rounds)
    (hnext : RoundSpec request.budget rounds (results (rounds.length + 1)) next)
    (hreplan : next.decision = .replan) :
    OpenRounds casefold request results (rounds ++ [next]) := by
  obtain ⟨decided, hdecided, hdecision⟩ := hnext.decision
  rw [hreplan] at hdecision
  have hunreached := hdecided.unreached (by simp [← hdecision]) (by simp [← hdecision])
    (by simp [← hdecision])
  refine ⟨h.built.concat hnext, ?_, ?_, ?_⟩
  · simp only [DeterministicEvidenceSufficiencyDecider.budgetReached, Bool.or_eq_false_iff,
      decide_eq_false_iff_not, not_le, loopUsage, List.length_map] at hunreached
    exact hunreached.1.1.1.1.1
  · intro loopRound hmem
    rcases List.mem_append.mp hmem with hold | hnew
    · exact h.unanswered loopRound hold
    · obtain rfl := List.mem_singleton.mp hnew
      rw [← hdecided.goalAchieved, ← hdecision]
      decide
  · intro earlier hprefix hne
    rcases List.prefix_concat_iff.mp hprefix with rfl | hold
    · exact hunreached
    · exact h.unreached earlier hold hne

theorem openRounds_of_reached (hresults : PlanningResults casefold request results)
    (h : Reached request results rounds traceId) : OpenRounds casefold request results rounds := by
  induction h with
  | start =>
    have hpositive := request.budget.maximumRounds.property.1
    refine ⟨.nil, Nat.succ_le_iff.mp hpositive, by simp, fun earlier hprefix hne => ?_⟩
    exact absurd (List.prefix_nil.mp hprefix) hne
  | replan h hround hreplan ih =>
    exact ih.concat (runRound_spec (hresults.metadata _) hround).2 hreplan

def finalResult (request : BoundedResearchAgentLoopRequest) (rounds : List ResearchAgentLoopRound)
    (next : ResearchAgentLoopRound) (reason : ResearchAgentTerminationReason)
    (traceId : Option String) : BoundedResearchAgentLoopResult where
  request := request
  rounds := rounds ++ [next]
  finalDecision := next.decision
  terminationReason := reason
  usage := loopUsage ((rounds ++ [next]).map (·.usage))
  traceId := traceId

variable {reason : ResearchAgentTerminationReason}

theorem validateBudget_eq_ok (hnext : RoundSpec request.budget rounds planning next) :
    (finalResult request rounds next reason traceId).validateBudget = .ok () ↔
      (.answerAvailable ∈ statuses planning ∨ .abstained ∈ statuses planning →
        BoundedResearchAgentLoopResult.exceeded (loopUsage ((rounds ++ [next]).map (·.usage)))
          request.budget = false) := by
  obtain ⟨decided, hdecided, hdecision⟩ := hnext.decision
  obtain ⟨-, hgoal, habstain, habstained, hexhausted, hunreached, -, -⟩ := hdecided
  rw [hnext.statuses_eq, ← hdecision] at hgoal habstain habstained
  rw [← hdecision] at hexhausted hunreached
  rw [BoundedResearchAgentLoopResult.validateBudget, raiseIf_bind_eq_ok, raiseIf_eq_ok]
  simp only [finalResult]
  generalize loopUsage ((rounds ++ [next]).map (·.usage)) = total at *
  by_cases hconcluded : .answerAvailable ∈ statuses planning ∨ .abstained ∈ statuses planning
  · have hdecided : next.decision = .goalAchieved ∨ next.decision = .abstain :=
      hconcluded.elim (fun h => .inl (hgoal.mpr h)) habstained
    have hne : next.decision ≠ .budgetExhausted := by
      rcases hdecided with h | h <;> simp [h]
    simp [hne, hconcluded]
  · by_cases hspent : next.decision = .budgetExhausted
    · have hreached := DeterministicEvidenceSufficiencyDecider.reached_of_budgetReached
        (hexhausted hspent)
      simp [hspent, hreached, hconcluded]
    · have hexceeded := DeterministicEvidenceSufficiencyDecider.exceeded_of_budgetReached
        (hunreached (fun h => hconcluded (.inl (hgoal.mp h)))
          (fun h => hconcluded (.inr (habstain h))) hspent)
      simp [hspent, hexceeded]

theorem build_eq_ok (hresults : PlanningResults casefold request results)
    (hrounds : OpenRounds casefold request results rounds)
    (hnext : RoundSpec request.budget rounds (results (rounds.length + 1)) next)
    (hreason : next.decision.reason? = some reason) :
    (finalResult request rounds next reason traceId).build casefold =
        .ok (finalResult request rounds next reason traceId) ↔
      ToolAllowed casefold request ∧
        (finalResult request rounds next reason traceId).validateBudget = .ok () ∧
          traceId.all isNormalized = true := by
  have hbuilt := hrounds.built.concat hnext
  obtain ⟨decided, hdecided, hdecision⟩ := hnext.decision
  have hlength : (rounds ++ [next]).length ≤ request.budget.maximumRounds.val := by
    simpa using Nat.succ_le_of_lt hrounds.length_lt
  have hplanIds : ((rounds ++ [next]).map (·.planId)).Nodup := by
    rw [hbuilt.planIds]
    refine List.Nodup.map_on (fun number hnumber other hother hsame => ?_) List.nodup_range'
    simp only [List.mem_range'_1] at hnumber hother
    exact hresults.planIds number other (by omega) (by omega) hsame
  have htools : (∃ observation ∈ (rounds ++ [next]).flatMap (·.observations),
      casefold observation.toolName ∉ request.allowedTools.map casefold) ↔
        ¬ToolAllowed casefold request := by
    obtain ⟨first, hfirst⟩ := hnext.exists_observation
    have hmem : first ∈ (rounds ++ [next]).flatMap (·.observations) := by simp [hfirst]
    constructor
    · rintro ⟨observation, hobservation, hnot⟩
      rwa [hbuilt.toolNames observation hobservation] at hnot
    · intro hnot
      exact ⟨first, hmem, by rwa [hbuilt.toolNames first hmem]⟩
  have hgoal : next.decision = .goalAchieved →
      .answerAvailable ∈ next.observations.filterMap (·.status?) := fun h =>
    hdecided.goalAchieved.mp (hdecision ▸ h)
  have habstain : next.decision = .abstain →
      .abstained ∈ next.observations.filterMap (·.status?) := fun h =>
    hdecided.abstain (hdecision ▸ h)
  have hmaximum := request.budget.maximumRounds.property.2
  have hstatuses : (finalResult request rounds next reason traceId).workflowStatuses =
      next.observations.filterMap (·.status?) := by
    simp [BoundedResearchAgentLoopResult.workflowStatuses, finalResult]
  rw [BoundedResearchAgentLoopResult.build, raiseIf_bind_eq_ok, raiseIf_bind_eq_ok]
  constructor
  · rintro ⟨-, -, h⟩
    obtain ⟨_, hvalid, -⟩ := bind_eq_ok.mp h
    simp only [BoundedResearchAgentLoopResult.validateResult, raiseIf_bind_eq_ok] at hvalid
    obtain ⟨-, -, -, hallowed, -, -, hvalid⟩ := hvalid
    obtain ⟨_, hbudget, hvalid⟩ := bind_eq_ok.mp hvalid
    obtain ⟨_, -, hvalid⟩ := bind_eq_ok.mp hvalid
    obtain ⟨_, -, htrace⟩ := bind_eq_ok.mp hvalid
    rw [raiseIf_eq_ok] at htrace
    refine ⟨not_not.mp fun hnot => hallowed (htools.mpr hnot), hbudget, ?_⟩
    cases traceId with
    | none => rfl
    | some traceId => simpa [finalResult] using htrace
  · rintro ⟨hallowed, hbudget, htrace⟩
    refine ⟨by simp [finalResult], by simp only [finalResult]; omega, bind_eq_ok.mpr ⟨(), ?_, rfl⟩⟩
    simp only [BoundedResearchAgentLoopResult.validateResult, raiseIf_bind_eq_ok]
    refine ⟨not_not.mpr hbuilt.numbers, not_not.mpr hplanIds, not_not.mpr hbuilt.ids,
      fun h => htools.mp h hallowed, by simp [finalResult], not_not.mpr rfl,
      bind_eq_ok.mpr ⟨(), hbudget, bind_eq_ok.mpr ⟨(), ?_, bind_eq_ok.mpr
        ⟨(), ?_, raiseIf_eq_ok.mpr ?_⟩⟩⟩⟩
    · simp [BoundedResearchAgentLoopResult.validateTerminalMapping, raiseIf, finalResult, hreason]
    · rw [BoundedResearchAgentLoopResult.validateDecisionEvidence, raiseIf_bind_eq_ok,
        raiseIf_eq_ok, hstatuses]
      exact ⟨fun h => h.2 (hgoal h.1), fun h => h.2 (habstain h.1)⟩
    · cases traceId with
      | none => simp [finalResult]
      | some traceId => simpa [finalResult] using htrace

theorem run_of_reached (h : Reached request results rounds traceId)
    (hresults : PlanningResults casefold request results) :
    run casefold request (fun number => ⟨0, .ok (results number)⟩) =
      loop casefold request (fun number => ⟨0, .ok (results number)⟩)
        (request.budget.maximumRounds.val - rounds.length) rounds traceId := by
  induction h with
  | start => rfl
  | @replan rounds traceId next h hround hreplan ih =>
    have hlt := (openRounds_of_reached hresults h).length_lt
    obtain ⟨remaining, hremaining⟩ : ∃ remaining,
        request.budget.maximumRounds.val - rounds.length = remaining + 1 :=
      ⟨_, (Nat.succ_pred_eq_of_pos (by omega)).symm⟩
    have hrest : request.budget.maximumRounds.val - (rounds ++ [next]).length = remaining := by
      simp only [List.length_append, List.length_singleton]
      omega
    rw [ih, hremaining, hrest, loop]
    simp [planningResult, raiseIf, hround, hreplan]

theorem loop_eq (remaining : ℕ) (rounds : List ResearchAgentLoopRound) (traceId : Option String) :
    loop casefold request (fun number => ⟨0, .ok (results number)⟩) (remaining + 1) rounds traceId =
      runRound request.budget rounds (results (rounds.length + 1)) >>= fun next =>
        if next.decision = .replan then
          loop casefold request (fun number => ⟨0, .ok (results number)⟩) remaining
            (rounds ++ [next]) ((results (rounds.length + 1)).traceId <|> traceId)
        else match next.decision.reason? with
          | none => .error (loopError "nonterminal research decision cannot finish the loop")
          | some reason => (finalResult request rounds next reason
              ((results (rounds.length + 1)).traceId <|> traceId)).build casefold := by
  rw [loop]
  simp only [planningResult, raiseIf]
  rfl

structure EndsWith (casefold : Casefold) (request : BoundedResearchAgentLoopRequest)
    (results : ℕ → PlanningAgentLoopResult) (rounds : List ResearchAgentLoopRound)
    (traceId : Option String) (next : ResearchAgentLoopRound)
    (reason : ResearchAgentTerminationReason) : Prop where
  reached : Reached request results rounds traceId
  round : runRound request.budget rounds (results (rounds.length + 1)) = .ok next
  terminal : next.decision ≠ .replan
  reason_eq : next.decision.reason? = some reason

theorem reason_of_terminal (hnext : RoundSpec request.budget rounds planning next)
    (hterminal : next.decision ≠ .replan) : ∃ reason, next.decision.reason? = some reason := by
  obtain ⟨decided, hdecided, hdecision⟩ := hnext.decision
  rw [hdecision] at hterminal ⊢
  exact hdecided.reason.resolve_left hterminal

variable {result : BoundedResearchAgentLoopResult}

theorem endsWith_of_loop (hresults : PlanningResults casefold request results) {remaining : ℕ}
    (hreached : Reached request results rounds traceId)
    (h : loop casefold request (fun number => ⟨0, .ok (results number)⟩) remaining rounds traceId =
      .ok result) :
    ∃ before trace next reason, EndsWith casefold request results before trace next reason ∧
      result = finalResult request before next reason
        ((results (before.length + 1)).traceId <|> trace) := by
  induction remaining generalizing rounds traceId with
  | zero => cases h
  | succ remaining ih =>
    rw [loop_eq] at h
    obtain ⟨next, hround, h⟩ := bind_eq_ok.mp h
    split_ifs at h with hreplan
    · exact ih (hreached.replan hround hreplan) h
    · obtain ⟨reason, hreason⟩ :=
        reason_of_terminal (runRound_spec (hresults.metadata _) hround).2 hreplan
      simp only [hreason, BoundedResearchAgentLoopResult.build, raiseIf_bind_eq_ok] at h
      obtain ⟨_, -, hresult⟩ := bind_eq_ok.mp h.2.2
      exact ⟨rounds, traceId, next, reason, ⟨hreached, hround, hreplan, hreason⟩,
        (Except.ok.inj hresult).symm⟩

theorem usable_of_run (hresults : PlanningResults casefold request results)
    (h : run casefold request (fun number => ⟨0, .ok (results number)⟩) = .ok result) :
    Usable casefold request results result := by
  obtain ⟨rounds, traceId, next, reason, hends, rfl⟩ := endsWith_of_loop hresults .start h
  have hopen := openRounds_of_reached hresults hends.reached
  have hnext := (runRound_spec (hresults.metadata _) hends.round).2
  obtain ⟨decided, hdecided, hdecision⟩ := hnext.decision
  refine ⟨h, ?_, ?_, ?_⟩
  · simpa [finalResult] using Nat.succ_le_of_lt hopen.length_lt
  · intro loopRound hmem hanswer
    rcases List.mem_append.mp hmem with hold | hlast
    · exact absurd hanswer (hopen.unanswered loopRound hold)
    · obtain rfl := List.mem_singleton.mp hlast
      exact ⟨by simp [finalResult], hdecision.trans (hdecided.goalAchieved.mpr hanswer)⟩
  · intro earlier hprefix hne hproper
    rcases List.prefix_concat_iff.mp hprefix with hall | hearlier
    · exact absurd hall hproper
    · exact hopen.unreached earlier hearlier hne

theorem exists_loop (hresults : PlanningResults casefold request results)
    (hmeets : ∀ rounds traceId, Reached request results rounds traceId →
      Meets casefold request rounds traceId (results (rounds.length + 1)))
    {remaining : ℕ} (hreached : Reached request results rounds traceId)
    (hremaining : rounds.length + remaining = request.budget.maximumRounds.val) :
    ∃ result, loop casefold request (fun number => ⟨0, .ok (results number)⟩) remaining rounds
      traceId = .ok result := by
  induction remaining generalizing rounds traceId with
  | zero =>
    have hlt := (openRounds_of_reached hresults hreached).length_lt
    omega
  | succ remaining ih =>
    have hmeet := hmeets rounds traceId hreached
    obtain ⟨next, hround⟩ :=
      exists_runRound (hresults.metadata _) hmeet.fits request.budget rounds
    have hnext := (runRound_spec (hresults.metadata _) hround).2
    rw [loop_eq, hround, ok_bind]
    split_ifs with hreplan
    · exact ih (hreached.replan hround hreplan) (by simp; omega)
    · obtain ⟨reason, hreason⟩ := reason_of_terminal hnext hreplan
      simp only [hreason]
      refine ⟨_, (build_eq_ok hresults (openRounds_of_reached hresults hreached) hnext
        hreason).mpr ⟨?_, ?_, hmeet.traceId next hround hreplan⟩⟩
      · by_cases hnone : boundedToolResults (results (rounds.length + 1)) = []
        · exact hmeet.missing hnone
        · obtain ⟨result, hresult⟩ := List.exists_mem_of_ne_nil _ hnone
          have hallowed := hresults.allowedTools _ result hresult
          rwa [(hresults.metadata _ result hresult).toolName] at hallowed
      · rw [validateBudget_eq_ok hnext]
        intro hconcluded
        simpa [hnext.usage] using hmeet.ceilings hconcluded

theorem meets_of_run (hresults : PlanningResults casefold request results)
    (h : run casefold request (fun number => ⟨0, .ok (results number)⟩) = .ok result)
    (hreached : Reached request results rounds traceId) :
    Meets casefold request rounds traceId (results (rounds.length + 1)) := by
  have hopen := openRounds_of_reached hresults hreached
  obtain ⟨remaining, hremaining⟩ : ∃ remaining,
      request.budget.maximumRounds.val - rounds.length = remaining + 1 :=
    ⟨_, (Nat.succ_pred_eq_of_pos (Nat.sub_pos_of_lt hopen.length_lt)).symm⟩
  rw [run_of_reached hreached hresults, hremaining, loop_eq] at h
  obtain ⟨next, hround, h⟩ := bind_eq_ok.mp h
  obtain ⟨hfits, hnext⟩ := runRound_spec (hresults.metadata _) hround
  have hsame : ∀ other, runRound request.budget rounds (results (rounds.length + 1)) = .ok other →
      other = next := fun other hother => Except.ok.inj (hother.symm.trans hround)
  split_ifs at h with hreplan
  · refine ⟨hfits, fun hnone => absurd hreplan (hnext.missing hnone), fun hconcluded => ?_,
      fun other hother hterminal => absurd (hsame other hother ▸ hreplan) hterminal⟩
    obtain ⟨decided, hdecided, hdecision⟩ := hnext.decision
    obtain ⟨-, hgoal, -, habstained, -, -, -, -⟩ := hdecided
    rw [hnext.statuses_eq, ← hdecision, hreplan] at hgoal habstained
    rcases hconcluded with hanswer | habstain
    · cases hgoal.mpr hanswer
    · rcases habstained habstain with h | h <;> cases h
  · obtain ⟨reason, hreason⟩ := reason_of_terminal hnext hreplan
    simp only [hreason] at h
    have hresult : result = finalResult request rounds next reason
        ((results (rounds.length + 1)).traceId <|> traceId) := by
      rw [BoundedResearchAgentLoopResult.build, raiseIf_bind_eq_ok, raiseIf_bind_eq_ok] at h
      obtain ⟨_, -, hresult⟩ := bind_eq_ok.mp h.2.2
      exact (Except.ok.inj hresult).symm
    rw [hresult] at h
    obtain ⟨hallowed, hbudget, htrace⟩ := (build_eq_ok hresults hopen hnext hreason).mp h
    refine ⟨hfits, fun _ => hallowed, fun hconcluded => ?_, fun _ _ _ => htrace⟩
    simpa [hnext.usage] using (validateBudget_eq_ok hnext).mp hbudget hconcluded

theorem sampleSeconds_range : (0 : ℚ≥0) < 10 ∧ (10 : ℚ≥0) ≤ 86400 := by decide +kernel

def sampleLoopRequest : BoundedResearchAgentLoopRequest where
  allowedTools := ["bounded_grounded_answer"]
  budget := {
    maximumRounds := ⟨1, by decide⟩
    maximumToolCalls := ⟨1, by decide⟩
    maximumProviderCalls := ⟨1, by decide⟩
    maximumRecordedTokens := ⟨100, by decide⟩
    maximumElapsedSeconds := elapsedCeiling 10 sampleSeconds_range
    maximumExternalRequests := ⟨0, by decide⟩ }

def sampleAnswer (providerCalls : ℕ) : GroundedToolResult where
  toolName := boundedGroundedAnswerToolName
  status := .succeeded
  output := some ⟨.answerAvailable, none, by simp⟩
  errorMessage := none
  metadata := [("provider_calls", .int providerCalls), ("recorded_tokens", .int 0),
    ("elapsed_seconds", .int 0), ("external_requests", .int 0)]
  valid := ⟨by decide +kernel, rfl, by simp⟩

def sampleResults (providerCalls number : ℕ) : PlanningAgentLoopResult where
  attempts := [⟨if number = 0 then "plan-000" else "plan-001",
    [[some (sampleAnswer providerCalls)]]⟩]
  traceId := none
  attempts_ne := by simp
  traceId_nonblank := rfl

theorem boundedToolResults_sample (providerCalls number : ℕ) :
    boundedToolResults (sampleResults providerCalls number) = [sampleAnswer providerCalls] := by
  simp [boundedToolResults, sampleResults, sampleAnswer, List.reduceOption]

theorem sampleAnswer_wellFormed (providerCalls : ℕ) : (sampleAnswer providerCalls).WellFormed where
  toolName := rfl
  failed h := nomatch h
  succeeded _ := ⟨_, ⟨1, providerCalls, 0, 0, 0⟩, rfl, ⟨rfl, rfl, rfl, .inr ⟨0, rfl, rfl⟩, rfl⟩⟩

theorem sampleResults_planningResults (providerCalls : ℕ) :
    PlanningResults asciiCasefold sampleLoopRequest (sampleResults providerCalls) where
  planIds number other hnumber hother hsame := by
    change number ≤ 1 at hnumber
    change other ≤ 1 at hother
    have hplan : (if number = 0 then "plan-000" else "plan-001") =
        if other = 0 then "plan-000" else "plan-001" := hsame
    interval_cases number <;> interval_cases other <;>
      first | rfl | exact absurd hplan (by decide +kernel)
  allowedTools number result hresult := by
    rw [boundedToolResults_sample, List.mem_singleton] at hresult
    rw [hresult]
    change asciiCasefold boundedGroundedAnswerToolName ∈ _
    decide +kernel
  metadata number result hresult := by
    rw [boundedToolResults_sample, List.mem_singleton] at hresult
    exact hresult ▸ sampleAnswer_wellFormed providerCalls

example : (run asciiCasefold sampleLoopRequest
    (fun number => ⟨0, .ok (sampleResults 1 number)⟩)).isOk = true := by decide +kernel

end BoundedResearchPlanningLoop

end AgenticLab
