import AgenticLab.Model.Research.Stage9AcquisitionAwareLoop

/-! # Acquisition usage is charged once -/

namespace AgenticLab.Stage9AcquisitionAwareResearchLoop

open BoundedResearchAgentLoopResult (exceeded reached)

variable {acquisition : Stage9AcquisitionUsage} {request reduced : BoundedResearchAgentLoopRequest}

/-- The rest of the ceilings behind an acquisition. -/
structure Reserves (acquisition : Stage9AcquisitionUsage)
    (request reduced : BoundedResearchAgentLoopRequest) : Prop where
  allowedTools : reduced.allowedTools = request.allowedTools
  rounds : reduced.budget.maximumRounds.val = request.budget.maximumRounds.val
  toolCalls : reduced.budget.maximumToolCalls.val = request.budget.maximumToolCalls.val
  providerCalls : reduced.budget.maximumProviderCalls.val + acquisition.providerRequests =
    request.budget.maximumProviderCalls.val
  recordedTokens :
    reduced.budget.maximumRecordedTokens.val = request.budget.maximumRecordedTokens.val
  elapsedSeconds :
    reduced.budget.maximumElapsedSeconds.val = request.budget.maximumElapsedSeconds.val
  externalRequests : reduced.budget.maximumExternalRequests.val + acquisition.externalRequests =
    request.budget.maximumExternalRequests.val

theorem reserveAcquisitionUsage_eq_ok
    (hprovider : acquisition.providerRequests ≤ request.budget.maximumProviderCalls.val)
    (hexternal : acquisition.externalRequests ≤ request.budget.maximumExternalRequests.val) :
    ∃ reduced, reserveAcquisitionUsage request acquisition = .ok reduced ∧
      Reserves acquisition request reduced := by
  have hfits : ¬(request.budget.maximumProviderCalls.val < acquisition.providerRequests ∨
      request.budget.maximumExternalRequests.val < acquisition.externalRequests) := by omega
  refine ⟨_, if_neg hfits, rfl, rfl, rfl, ?_, rfl, rfl, ?_⟩
  · exact Nat.sub_add_cancel hprovider
  · exact Nat.sub_add_cancel hexternal

def chargedUsage (acquisition : Stage9AcquisitionUsage) (usage : ResearchAgentLoopUsage) :
    ResearchAgentLoopUsage :=
  { usage with
    providerCalls := usage.providerCalls + acquisition.providerRequests
    externalRequests := usage.externalRequests + acquisition.externalRequests }

theorem loopUsage_merged (usage : ResearchAgentRoundUsage) (later : List ResearchAgentRoundUsage) :
    loopUsage (mergedFirstUsage acquisition usage :: later) =
      chargedUsage acquisition (loopUsage (usage :: later)) := by
  simp [loopUsage, sumRoundUsage, chargedUsage, mergedFirstUsage, Nat.add_right_comm]

/-- What is used up beside the acquisition stands to the rest of a ceiling as the total does to the
ceiling. -/
theorem exceeded_charged (h : Reserves acquisition request reduced)
    (usage : ResearchAgentLoopUsage) :
    exceeded (chargedUsage acquisition usage) request.budget = exceeded usage reduced.budget := by
  rw [Bool.eq_iff_iff]
  simp only [exceeded, Bool.or_eq_true, decide_eq_true_eq]
  simp only [chargedUsage, h.rounds, h.toolCalls, ← h.providerCalls, h.recordedTokens,
    h.elapsedSeconds, ← h.externalRequests, Nat.add_lt_add_iff_right]

theorem reached_charged (h : Reserves acquisition request reduced)
    (usage : ResearchAgentLoopUsage) :
    reached (chargedUsage acquisition usage) request.budget = reached usage reduced.budget := by
  rw [Bool.eq_iff_iff]
  simp only [reached, Bool.or_eq_true, decide_eq_true_eq]
  simp only [chargedUsage, h.rounds, h.toolCalls, ← h.providerCalls, h.recordedTokens,
    h.elapsedSeconds, ← h.externalRequests, Nat.add_le_add_iff_right]

theorem newRound_merged {first : ResearchAgentLoopRound} (h : newRound first = .ok first) :
    newRound { first with usage := mergedFirstUsage acquisition first.usage } =
      .ok { first with usage := mergedFirstUsage acquisition first.usage } := by
  obtain ⟨hnumber, h⟩ := raiseIf_bind_eq_ok.mp h
  obtain ⟨hobservations, h⟩ := raiseIf_bind_eq_ok.mp h
  obtain ⟨hplan, h⟩ := raiseIf_bind_eq_ok.mp h
  obtain ⟨hrationale, h⟩ := raiseIf_bind_eq_ok.mp h
  obtain ⟨hids, h⟩ := raiseIf_bind_eq_ok.mp h
  obtain ⟨hcalls, -⟩ := raiseIf_bind_eq_ok.mp h
  exact raiseIf_bind_eq_ok.mpr ⟨hnumber, raiseIf_bind_eq_ok.mpr ⟨hobservations,
    raiseIf_bind_eq_ok.mpr ⟨hplan, raiseIf_bind_eq_ok.mpr ⟨hrationale,
      raiseIf_bind_eq_ok.mpr ⟨hids, raiseIf_bind_eq_ok.mpr ⟨hcalls, rfl⟩⟩⟩⟩⟩⟩

variable {casefold : Casefold} {delegated : BoundedResearchAgentLoopResult}
  {first : ResearchAgentLoopRound} {later : List ResearchAgentLoopRound}

def mergedResult (acquisition : Stage9AcquisitionUsage) (request : BoundedResearchAgentLoopRequest)
    (delegated : BoundedResearchAgentLoopResult) (first : ResearchAgentLoopRound)
    (later : List ResearchAgentLoopRound) : BoundedResearchAgentLoopResult where
  request := request
  rounds := { first with usage := mergedFirstUsage acquisition first.usage } :: later
  finalDecision := delegated.finalDecision
  terminationReason := delegated.terminationReason
  usage := loopUsage (mergedFirstUsage acquisition first.usage :: later.map (·.usage))
  traceId := delegated.traceId

theorem workflowStatuses_mergedResult (hrounds : delegated.rounds = first :: later) :
    (mergedResult acquisition request delegated first later).workflowStatuses =
      delegated.workflowStatuses := by
  rw [BoundedResearchAgentLoopResult.workflowStatuses,
    BoundedResearchAgentLoopResult.workflowStatuses, hrounds, mergedResult]
  cases later <;> rfl

theorem validateBudget_mergedResult (h : Reserves acquisition request delegated.request)
    (hrounds : delegated.rounds = first :: later)
    (husage : delegated.usage = loopUsage (delegated.rounds.map (·.usage)))
    (hbudget : delegated.validateBudget = .ok ()) :
    (mergedResult acquisition request delegated first later).validateBudget = .ok () := by
  have hcharged : (mergedResult acquisition request delegated first later).usage =
      chargedUsage acquisition delegated.usage := by
    rw [husage, hrounds]
    exact loopUsage_merged first.usage (later.map (·.usage))
  rw [BoundedResearchAgentLoopResult.validateBudget, raiseIf_bind_eq_ok, raiseIf_eq_ok] at hbudget ⊢
  rw [hcharged]
  change ¬(exceeded (chargedUsage acquisition delegated.usage) request.budget = true ∧ _) ∧
    ¬(_ ∧ reached (chargedUsage acquisition delegated.usage) request.budget = false)
  rw [exceeded_charged h, reached_charged h]
  exact hbudget

theorem build_mergedResult (h : Reserves acquisition request delegated.request)
    (hrounds : delegated.rounds = first :: later)
    (hvalid : delegated.build casefold = .ok delegated) :
    (mergedResult acquisition request delegated first later).build casefold =
        .ok (mergedResult acquisition request delegated first later) ∧
      delegated.usage = loopUsage (delegated.rounds.map (·.usage)) := by
  obtain ⟨-, hvalid⟩ := raiseIf_bind_eq_ok.mp hvalid
  obtain ⟨hlength, hvalid⟩ := raiseIf_bind_eq_ok.mp hvalid
  obtain ⟨⟨⟩, hvalid, -⟩ := bind_eq_ok.mp hvalid
  obtain ⟨hnumbers, hvalid⟩ := raiseIf_bind_eq_ok.mp hvalid
  obtain ⟨hplans, hvalid⟩ := raiseIf_bind_eq_ok.mp hvalid
  obtain ⟨hobservations, hvalid⟩ := raiseIf_bind_eq_ok.mp hvalid
  obtain ⟨htools, hvalid⟩ := raiseIf_bind_eq_ok.mp hvalid
  obtain ⟨hdecision, hvalid⟩ := raiseIf_bind_eq_ok.mp hvalid
  obtain ⟨husage, hvalid⟩ := raiseIf_bind_eq_ok.mp hvalid
  obtain ⟨⟨⟩, hbudget, hvalid⟩ := bind_eq_ok.mp hvalid
  obtain ⟨⟨⟩, hterminal, hvalid⟩ := bind_eq_ok.mp hvalid
  obtain ⟨⟨⟩, hevidence, htrace⟩ := bind_eq_ok.mp hvalid
  refine ⟨?_, not_not.mp husage⟩
  have hmerged := validateBudget_mergedResult h hrounds (not_not.mp husage) hbudget
  have hstatuses : (mergedResult acquisition request delegated first later).workflowStatuses =
      delegated.workflowStatuses := workflowStatuses_mergedResult hrounds
  have hlast : (mergedResult acquisition request delegated first later).rounds.getLast?.map
      (·.decision) = delegated.rounds.getLast?.map (·.decision) := by
    rw [hrounds, mergedResult]
    cases later <;> rfl
  have hresult : (mergedResult acquisition request delegated first later).validateResult casefold =
      .ok () := by
    rw [hrounds] at hnumbers hplans hobservations htools
    refine raiseIf_bind_eq_ok.mpr ⟨hnumbers, raiseIf_bind_eq_ok.mpr ⟨hplans,
      raiseIf_bind_eq_ok.mpr ⟨hobservations, raiseIf_bind_eq_ok.mpr ⟨?_,
        raiseIf_bind_eq_ok.mpr ⟨?_, raiseIf_bind_eq_ok.mpr ⟨?_, bind_eq_ok.mpr ⟨(), hmerged,
          bind_eq_ok.mpr ⟨(), hterminal, bind_eq_ok.mpr ⟨(), ?_, htrace⟩⟩⟩⟩⟩⟩⟩⟩⟩
    · rw [h.allowedTools] at htools
      exact htools
    · rw [hlast]
      exact hdecision
    · exact not_not.mpr rfl
    · rw [BoundedResearchAgentLoopResult.validateDecisionEvidence, hstatuses]
      exact hevidence
  refine raiseIf_bind_eq_ok.mpr ⟨List.cons_ne_nil _ _, raiseIf_bind_eq_ok.mpr ⟨?_,
    bind_eq_ok.mpr ⟨(), hresult, rfl⟩⟩⟩
  rw [hrounds] at hlength
  exact hlength

/-- An acquisition that fits the budget is charged once: the merged result of every valid delegated
result is valid, and stands to the ceilings of the request as the delegated one to the rest of
them. -/
theorem mergeUsage_charges_once (casefold : Casefold)
    {request : BoundedResearchAgentLoopRequest} {acquisition : Stage9AcquisitionUsage}
    (hprovider : acquisition.providerRequests ≤ request.budget.maximumProviderCalls.val)
    (hexternal : acquisition.externalRequests ≤ request.budget.maximumExternalRequests.val) :
    ∃ reduced, reserveAcquisitionUsage request acquisition = .ok reduced ∧
      ∀ delegated : BoundedResearchAgentLoopResult, delegated.request = reduced →
        (∀ loopRound ∈ delegated.rounds, newRound loopRound = .ok loopRound) →
        delegated.build casefold = .ok delegated →
        ∃ merged, mergeUsage acquisition casefold request delegated = .ok merged ∧
          merged.request = request ∧
          (∀ loopRound ∈ merged.rounds, newRound loopRound = .ok loopRound) ∧
          merged.build casefold = .ok merged ∧
          merged.usage = chargedUsage acquisition delegated.usage ∧
          exceeded merged.usage request.budget = exceeded delegated.usage reduced.budget ∧
          reached merged.usage request.budget = reached delegated.usage reduced.budget ∧
          merged.finalDecision = delegated.finalDecision ∧
          merged.terminationReason = delegated.terminationReason := by
  obtain ⟨reduced, hreserve, hreserves⟩ := reserveAcquisitionUsage_eq_ok hprovider hexternal
  refine ⟨reduced, hreserve, ?_⟩
  rintro delegated rfl hall hvalid
  obtain ⟨first, later, hrounds⟩ :=
    List.exists_cons_of_ne_nil (raiseIf_bind_eq_ok.mp hvalid).1
  obtain ⟨hbuild, husage⟩ := build_mergedResult hreserves hrounds hvalid
  have hfirst := @newRound_merged acquisition first (hall first (hrounds ▸ List.mem_cons_self))
  have hcharged : (mergedResult acquisition request delegated first later).usage =
      chargedUsage acquisition delegated.usage := by
    rw [husage, hrounds]
    exact loopUsage_merged first.usage (later.map (·.usage))
  refine ⟨mergedResult acquisition request delegated first later, ?_, rfl, ?_, hbuild, hcharged, ?_,
    ?_, rfl, rfl⟩
  · rw [mergeUsage, hrounds]
    simp only
    rw [hfirst, ok_bind]
    change wrapValueError
      ((mergedResult acquisition request delegated first later).build casefold) = _
    rw [hbuild, wrapValueError]
  · intro loopRound hmem
    rcases List.mem_cons.mp hmem with rfl | hmem
    · exact hfirst
    · exact hall loopRound (hrounds ▸ List.mem_cons_of_mem _ hmem)
  · rw [hcharged, exceeded_charged hreserves]
  · rw [hcharged, reached_charged hreserves]

theorem sampleSecond_range : (0 : ℚ≥0) < 1 ∧ (1 : ℚ≥0) ≤ 86400 := by decide +kernel

def sampleRequest (providerCalls externalRequests : Bounded 0 1000) :
    BoundedResearchAgentLoopRequest where
  allowedTools := ["t"]
  budget := {
    maximumRounds := ⟨1, by omega, by omega⟩
    maximumToolCalls := ⟨1, by omega, by omega⟩
    maximumProviderCalls := providerCalls
    maximumRecordedTokens := ⟨0, by omega, by omega⟩
    maximumElapsedSeconds := elapsedCeiling 1 sampleSecond_range
    maximumExternalRequests :=
      ⟨externalRequests.val, externalRequests.property.1, by have := externalRequests.property.2; omega⟩ }

def sampleRound : ResearchAgentLoopRound where
  roundNumber := 1
  planId := "p"
  observations := []
  decision := .budgetExhausted
  rationale := "r"
  usage := ⟨0, 0, 0, 0, 0⟩

def sampleDelegated : BoundedResearchAgentLoopResult where
  request := sampleRequest ⟨0, by omega, by omega⟩ ⟨0, by omega, by omega⟩
  rounds := [sampleRound]
  finalDecision := .budgetExhausted
  terminationReason := .budgetExhausted
  usage := ⟨⟨0, 0, 0, 0, 0⟩, 1⟩
  traceId := none

theorem newRound_sample : newRound sampleRound = .ok sampleRound := by rfl

theorem build_sample : sampleDelegated.build asciiCasefold = .ok sampleDelegated := by
  simp [BoundedResearchAgentLoopResult.build, BoundedResearchAgentLoopResult.validateResult,
    BoundedResearchAgentLoopResult.validateBudget,
    BoundedResearchAgentLoopResult.validateTerminalMapping,
    BoundedResearchAgentLoopResult.validateDecisionEvidence, exceeded, reached, sampleDelegated,
    sampleRound, sampleRequest, raiseIf, loopUsage, sumRoundUsage, ResearchAgentLoopDecision.reason?]

theorem mergeUsage_charges_once_sample :
    ∃ merged, mergeUsage ⟨1, 1⟩ asciiCasefold
        (sampleRequest ⟨1, by omega, by omega⟩ ⟨1, by omega, by omega⟩) sampleDelegated = .ok merged ∧
      merged.usage.providerCalls = 1 ∧ merged.usage.externalRequests = 1 := by
  obtain ⟨reduced, hreserve, hmerge⟩ := @mergeUsage_charges_once asciiCasefold
    (sampleRequest ⟨1, by omega, by omega⟩ ⟨1, by omega, by omega⟩) ⟨1, 1⟩ (le_refl 1) (le_refl 1)
  have hrequest : sampleDelegated.request = reduced := Except.ok.inj hreserve
  obtain ⟨merged, hmerged, -, -, -, husage, -⟩ := hmerge sampleDelegated hrequest
    (fun loopRound hmem => by rw [List.mem_singleton.mp hmem]; exact newRound_sample) build_sample
  refine ⟨merged, hmerged, ?_, ?_⟩ <;> rw [husage] <;> rfl

end AgenticLab.Stage9AcquisitionAwareResearchLoop
