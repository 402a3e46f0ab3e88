import AgenticLab.Model.Research.BoundedResearchPlanningLoop

/-! # Acquisition ahead of the bounded loop

`_reserve_acquisition_usage` and `_merge_usage` of
`app/research/stage9_acquisition_aware_research_loop.py`. -/

namespace AgenticLab.Stage9AcquisitionAwareResearchLoop

structure Stage9AcquisitionUsage where
  providerRequests : ℕ
  externalRequests : ℕ

def loopError (message : String) : Raised := ⟨.stage9AcquisitionAwareResearchLoopError, message⟩

variable (request : BoundedResearchAgentLoopRequest) (acquisition : Stage9AcquisitionUsage)

def reserveAcquisitionUsage : Except Raised BoundedResearchAgentLoopRequest :=
  let budget := request.budget
  if budget.maximumProviderCalls.val < acquisition.providerRequests ∨
      budget.maximumExternalRequests.val < acquisition.externalRequests then
    .error (loopError "acquisition exhausted the case request budget")
  else
    .ok { request with
      budget := { budget with
        maximumProviderCalls := ⟨budget.maximumProviderCalls.val - acquisition.providerRequests,
          Nat.zero_le _, (Nat.sub_le _ _).trans budget.maximumProviderCalls.property.2⟩
        maximumExternalRequests :=
          ⟨budget.maximumExternalRequests.val - acquisition.externalRequests,
            Nat.zero_le _, (Nat.sub_le _ _).trans budget.maximumExternalRequests.property.2⟩ } }

def mergedFirstUsage (usage : ResearchAgentRoundUsage) : ResearchAgentRoundUsage where
  toolCalls := usage.toolCalls
  providerCalls := usage.providerCalls + acquisition.providerRequests
  recordedTokens := usage.recordedTokens
  elapsedSeconds := usage.elapsedSeconds
  externalRequests := usage.externalRequests + acquisition.externalRequests

/-- The `except` clause around the constructor of the result. -/
def wrapValueError (result : Except Raised BoundedResearchAgentLoopResult) :
    Except Raised BoundedResearchAgentLoopResult :=
  match result with
  | .ok result => .ok result
  | .error _ => .error (loopError "combined acquisition and loop usage violated the case budget")

def mergeUsage (casefold : Casefold) (originalRequest : BoundedResearchAgentLoopRequest)
    (delegated : BoundedResearchAgentLoopResult) : Except Raised BoundedResearchAgentLoopResult :=
  match delegated.rounds with
  | [] => .error ⟨.external "IndexError" .exception, "list index out of range"⟩
  | first :: later => do
      let merged ← newRound { first with usage := mergedFirstUsage acquisition first.usage }
      let rounds := merged :: later
      wrapValueError (BoundedResearchAgentLoopResult.build {
        request := originalRequest
        rounds := rounds
        finalDecision := delegated.finalDecision
        terminationReason := delegated.terminationReason
        usage := loopUsage (rounds.map (·.usage))
        traceId := delegated.traceId } casefold)

end AgenticLab.Stage9AcquisitionAwareResearchLoop
