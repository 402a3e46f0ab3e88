import AgenticLab.Model.Application.Values

/-! # The review and revision loop

`app/research/review_revision_loop.py` with what it uses of
`app/schemas/research_agent_assignment.py` and `app/schemas/research_agent_result.py`. -/

namespace AgenticLab

/-! ## Assignments -/

inductive ResearchAgentRole where
  | manager
  | searchSpecialist
  | sourceReader
  | evidenceAnalyst
  | sourceCritic
  | claimAnalyst
  | citationVerifier
  | synthesisSpecialist
  | qualityReviewer
  deriving DecidableEq, Repr

inductive ResearchAgentAssignmentStatus where
  | created
  | offered
  | accepted
  | inProgress
  | completed
  | failed
  | rejected
  | cancelled
  deriving DecidableEq, Repr

/-- What an assignment reads of an agent's identity. -/
structure ResearchAgentIdentity where
  agentId : String
  role : ResearchAgentRole

/-- What an assignment reads of the profile of its assigner. -/
structure ResearchAgentCapabilityProfile where
  agentId : String
  canDelegate : Bool
  delegatableRoles : List ResearchAgentRole

def ResearchAgentCapabilityProfile.canDelegateTo (profile : ResearchAgentCapabilityProfile)
    (role : ResearchAgentRole) : Bool :=
  profile.canDelegate && profile.delegatableRoles.contains role

structure AssignmentInputContent where
  name : String
  referenceType : String
  referenceId : String
  required : Bool
  metadata : List (String × String)

def AssignmentInputContent.validateInput (input : AssignmentInputContent) :
    Except Raised Unit := do
  requireTexts [("name", input.name), ("reference_type", input.referenceType),
    ("reference_id", input.referenceId)]
  validateMetadata input.metadata

structure ResearchAgentAssignmentInput extends AssignmentInputContent where
  valid : toAssignmentInputContent.validateInput = .ok ()

/-- The constructor of `ResearchAgentAssignmentInput`. -/
def newAssignmentInput (input : AssignmentInputContent) :
    Except Raised ResearchAgentAssignmentInput :=
  match h : input.validateInput with
  | .ok () => .ok ⟨input, h⟩
  | .error failure => .error failure

/-- The priority, the creation time and the values of the payload are left out. -/
structure ResearchAgentTaskAssignment where
  assignmentId : String
  requestId : String
  workspaceId : String
  researchTaskId : Option String
  assignerProfile : ResearchAgentCapabilityProfile
  assignee : ResearchAgentIdentity
  requiredRole : ResearchAgentRole
  requiredCapabilities : List String
  title : String
  objective : String
  instructions : List String
  inputs : List ResearchAgentAssignmentInput
  expectedOutputType : String
  acceptanceCriteria : List String
  payloadKeys : List String
  status : ResearchAgentAssignmentStatus
  attemptNumber : ℕ
  maximumAttempts : ℕ
  parentAssignmentId : Option String
  metadata : List (String × String)

def ResearchAgentAssignmentInput.key (casefold : Casefold) (input : ResearchAgentAssignmentInput) :
    String × String :=
  (normalizeId casefold input.referenceType, normalizeId casefold input.referenceId)

namespace ResearchAgentTaskAssignment

variable (casefold : Casefold) (assignment : ResearchAgentTaskAssignment)

def validateUniqueText (values : List String) (fieldName : String) : Except Raised Unit := do
  raiseIf (values.any isBlank) ⟨.validationError, fieldName ++ " must not contain blank values"⟩
  raiseIf (¬(values.map (normalizeId casefold)).Nodup)
    ⟨.validationError, fieldName ++ " must not contain duplicates"⟩

def validateAgentRelationship : Except Raised Unit := do
  raiseIf (normalizeId casefold assignment.assignerProfile.agentId =
      normalizeId casefold assignment.assignee.agentId)
    ⟨.validationError, "assigner and assignee must be different agents"⟩
  raiseIf (assignment.assignee.role ≠ assignment.requiredRole)
    ⟨.validationError, "assignee role must match required_role"⟩
  raiseIf (assignment.assignerProfile.canDelegateTo assignment.requiredRole = false)
    ⟨.validationError, "assigner is not permitted to delegate to required_role"⟩

/-- The constraints of the fields and `validate_assignment`. -/
def validateAssignment : Except Raised Unit := do
  raiseIf (assignment.instructions = [])
    ⟨.validationError, "instructions should have at least 1 item"⟩
  raiseIf (assignment.acceptanceCriteria = [])
    ⟨.validationError, "acceptance_criteria should have at least 1 item"⟩
  raiseIf (assignment.attemptNumber < 1)
    ⟨.validationError, "attempt_number should be greater than or equal to 1"⟩
  raiseIf (assignment.maximumAttempts < 1)
    ⟨.validationError, "maximum_attempts should be greater than or equal to 1"⟩
  requireTexts [("assignment_id", assignment.assignmentId), ("request_id", assignment.requestId),
    ("workspace_id", assignment.workspaceId), ("title", assignment.title),
    ("objective", assignment.objective),
    ("expected_output_type", assignment.expectedOutputType)]
  requireOptionalTexts [("research_task_id", assignment.researchTaskId),
    ("parent_assignment_id", assignment.parentAssignmentId)]
  validateAgentRelationship casefold assignment
  raiseIf (¬assignment.requiredCapabilities.Nodup)
    ⟨.validationError, "required_capabilities must not contain duplicates"⟩
  validateUniqueText casefold assignment.instructions "instructions"
  raiseIf (¬(assignment.inputs.map (·.key casefold)).Nodup)
    ⟨.validationError, "assignment inputs must not contain duplicate references"⟩
  validateUniqueText casefold assignment.acceptanceCriteria "acceptance_criteria"
  raiseIf (assignment.maximumAttempts < assignment.attemptNumber)
    ⟨.validationError, "attempt_number must not exceed maximum_attempts"⟩
  raiseIf (assignment.payloadKeys.any isBlank) ⟨.validationError, "payload keys must not be blank"⟩
  validateMetadata assignment.metadata

end ResearchAgentTaskAssignment

inductive ResearchAgentResultStatus where
  | succeeded
  | failed
  | partialSuccess
  | cancelled
  deriving DecidableEq, Repr

structure ResearchAgentOutputReference where
  referenceId : String
  primary : Bool
  referenceId_not_blank : isBlank referenceId = false

/-- What the loop reads of a result: `decision` is the text under that key of the payload. -/
structure ResearchAgentTaskResult where
  status : ResearchAgentResultStatus
  outputs : List ResearchAgentOutputReference
  decision : Option String
  succeeded_outputs : status = .succeeded → outputs ≠ []
  failed_outputs : status = .failed → outputs = []

def ResearchAgentTaskResult.primaryOutput (result : ResearchAgentTaskResult) :
    Option ResearchAgentOutputReference :=
  match result.outputs.find? (·.primary) with
  | some output => some output
  | none =>
    match result.outputs with
    | [output] => some output
    | _ => none

inductive ResearchQualityDecision where
  | approved
  | revisionRequired
  | rejected
  deriving DecidableEq, Repr

def ResearchQualityDecision.value : ResearchQualityDecision → String
  | approved => "approved"
  | revisionRequired => "revision_required"
  | rejected => "rejected"

/-! ## The loop -/

inductive ReviewRevisionLoopStatus where
  | approved
  | rejected
  | revisionLimitReached
  | synthesisFailed
  | reviewFailed
  deriving DecidableEq, Repr

structure ReviewRevisionRound where
  roundNumber : ℕ
  synthesisAssignment : ResearchAgentTaskAssignment
  synthesisResult : ResearchAgentTaskResult
  reviewAssignment : Option ResearchAgentTaskAssignment
  reviewResult : Option ResearchAgentTaskResult

structure ReviewRevisionLoopResult where
  loopId : String
  status : ReviewRevisionLoopStatus
  rounds : List ReviewRevisionRound
  maximumRevisionRounds : ℕ
  revisionRoundsUsed : ℕ
  finalSynthesisResult : ResearchAgentTaskResult
  finalReviewResult : Option ResearchAgentTaskResult

inductive Dispatch where
  | synthesis (assignment : ResearchAgentTaskAssignment)
      (outcome : Except Raised ResearchAgentTaskResult)
  | review (assignment : ResearchAgentTaskAssignment)
      (outcome : Except Raised ResearchAgentTaskResult)

def Dispatch.assignment : Dispatch → ResearchAgentTaskAssignment
  | synthesis assignment _ => assignment
  | review assignment _ => assignment

def Dispatch.outcome : Dispatch → Except Raised ResearchAgentTaskResult
  | synthesis _ outcome => outcome
  | review _ outcome => outcome

/-- The dispatches so far are its state. -/
abbrev LoopProgram := Stateful (List Dispatch) Raised

structure LoopConfiguration where
  casefold : Casefold
  synthesisAgentId : String
  qualityReviewerId : String
  maximumRevisionRounds : ℕ

/-- What the factories return and the agents do in each round. -/
structure LoopBehaviour where
  loopId : String
  synthesisAssignmentId : ℕ → String
  reviewAssignmentId : ℕ → String
  synthesize : ℕ → ResearchAgentTaskAssignment → Except Raised ResearchAgentTaskResult
  review : ℕ → ResearchAgentTaskAssignment → Except Raised ResearchAgentTaskResult

structure ReviewRevisionLoop extends LoopConfiguration, LoopBehaviour

/-- What the two merges do with one value: they keep it unless its key is there. -/
def appendNew {α κ : Type} [DecidableEq κ] (key : α → κ) (merged : List α) (item : α) : List α :=
  if key item ∈ merged.map key then merged else merged ++ [item]

namespace ReviewRevisionLoop

def loopError (message : String) : Raised := ⟨.reviewRevisionLoopError, message⟩

/-- `_new_identifier` and `_new_round_identifier`, when the factory returns `value`. -/
def newIdentifier (value fieldName : String) : Except Raised String := do
  raiseIf (isBlank value) (loopError (fieldName ++ " factory returned blank value"))
  return value

def primaryReferenceId (result : ResearchAgentTaskResult) (artifactName : String) :
    Except Raised String :=
  match result.primaryOutput with
  | some output => .ok output.referenceId
  | none => .error (loopError (artifactName ++ " result must include a primary output"))

def reviewDecision (result : ResearchAgentTaskResult) : Except Raised ResearchQualityDecision :=
  match result.decision with
  | none => .error (loopError "quality review result must include a string decision")
  | some value =>
    match [ResearchQualityDecision.approved, .revisionRequired, .rejected].find?
        (·.value = value) with
    | some decision => .ok decision
    | none => .error (loopError ("quality review result contains unsupported decision: " ++ value))

def validateTemplates (loop : LoopConfiguration)
    (initial template : ResearchAgentTaskAssignment) : Except Raised Unit := do
  raiseIf (normalizeId loop.casefold initial.assignee.agentId ≠
      normalizeId loop.casefold loop.synthesisAgentId)
    (loopError "initial synthesis assignment must target the configured synthesis agent")
  raiseIf (normalizeId loop.casefold template.assignee.agentId ≠
      normalizeId loop.casefold loop.qualityReviewerId)
    (loopError "review assignment template must target the configured quality reviewer")
  raiseIf (initial.requestId ≠ template.requestId)
    (loopError "synthesis and review assignments must share request_id")
  raiseIf (initial.workspaceId ≠ template.workspaceId)
    (loopError "synthesis and review assignments must share workspace_id")

variable (loop : ReviewRevisionLoop)

def buildReviewAssignment (template : ResearchAgentTaskAssignment) (roundNumber : ℕ)
    (reportReferenceId parentAssignmentId : String) :
    Except Raised ResearchAgentTaskAssignment := do
  let assignmentId ← newIdentifier (loop.reviewAssignmentId roundNumber) "review_assignment_id"
  let reportInput ← newAssignmentInput
    ⟨"report-round-" ++ toString roundNumber, "research_report", reportReferenceId, true, []⟩
  return { template with
    assignmentId := assignmentId
    inputs := [reportInput]
    status := .inProgress
    attemptNumber := roundNumber
    parentAssignmentId := some parentAssignmentId }

def mergeTextValues (existing additions : List String) : List String :=
  additions.foldl (appendNew (normalizeId loop.casefold)) existing

def mergeInputs (existing additions : List ResearchAgentAssignmentInput) :
    List ResearchAgentAssignmentInput :=
  additions.foldl (appendNew (·.key loop.casefold)) existing

def revisionInstruction : String :=
  "Revise the previous report according to the attached quality review."

def buildRevisionAssignment (previous : ResearchAgentTaskAssignment) (revisionRoundNumber : ℕ)
    (reportReferenceId reviewReferenceId : String) (decision : ResearchQualityDecision) :
    Except Raised ResearchAgentTaskAssignment := do
  let assignmentId ← newIdentifier (loop.synthesisAssignmentId revisionRoundNumber)
    "synthesis_assignment_id"
  let reportInput ← newAssignmentInput ⟨"previous-report-" ++ toString revisionRoundNumber,
    "research_report", reportReferenceId, true, []⟩
  let reviewInput ← newAssignmentInput ⟨"quality-review-" ++ toString revisionRoundNumber,
    "research_quality_review", reviewReferenceId, true, []⟩
  return { previous with
    assignmentId := assignmentId
    inputs := loop.mergeInputs previous.inputs [reportInput, reviewInput]
    instructions := loop.mergeTextValues previous.instructions [revisionInstruction]
    status := .inProgress
    attemptNumber := previous.attemptNumber + 1
    maximumAttempts := max previous.maximumAttempts (previous.attemptNumber + 1)
    parentAssignmentId := some previous.assignmentId
    metadata := dictSet (dictSet previous.metadata "revision_round"
      (toString revisionRoundNumber)) "quality_decision" decision.value }

def executeSynthesis (roundNumber : ℕ) (assignment : ResearchAgentTaskAssignment) :
    LoopProgram ResearchAgentTaskResult := fun dispatched =>
  (loop.synthesize roundNumber assignment,
    dispatched ++ [.synthesis assignment (loop.synthesize roundNumber assignment)])

def executeReview (roundNumber : ℕ) (assignment : ResearchAgentTaskAssignment) :
    LoopProgram ResearchAgentTaskResult := fun dispatched =>
  (loop.review roundNumber assignment,
    dispatched ++ [.review assignment (loop.review roundNumber assignment)])

variable (template : ResearchAgentTaskAssignment)

def finish (status : ReviewRevisionLoopStatus) (rounds : List ReviewRevisionRound) (used : ℕ)
    (synthesisResult : ResearchAgentTaskResult) (reviewResult : Option ResearchAgentTaskResult) :
    ReviewRevisionLoopResult :=
  ⟨loop.loopId, status, rounds, loop.maximumRevisionRounds, used, synthesisResult, reviewResult⟩

inductive Turn where
  | finished (result : ReviewRevisionLoopResult)
  | revisionRequired (reportReferenceId : String) (rounds : List ReviewRevisionRound)
      (synthesisResult reviewResult : ResearchAgentTaskResult)

/-- A turn of the `while` loop up to the check of the revision limit. -/
def playRound (used : ℕ) (rounds : List ReviewRevisionRound)
    (assignment : ResearchAgentTaskAssignment) : LoopProgram Turn := do
  let roundNumber := rounds.length + 1
  let synthesisResult ← loop.executeSynthesis roundNumber assignment
  if synthesisResult.status = .failed then
    return .finished (loop.finish .synthesisFailed
      (rounds ++ [⟨roundNumber, assignment, synthesisResult, none, none⟩]) used synthesisResult
      none)
  else
    let reportReferenceId ← primaryReferenceId synthesisResult "synthesis report"
    let reviewAssignment ← loop.buildReviewAssignment template roundNumber reportReferenceId
      assignment.assignmentId
    let reviewResult ← loop.executeReview roundNumber reviewAssignment
    let rounds := rounds ++
      [⟨roundNumber, assignment, synthesisResult, some reviewAssignment, some reviewResult⟩]
    if reviewResult.status = .failed then
      return .finished (loop.finish .reviewFailed rounds used synthesisResult (some reviewResult))
    else
      let decision ← reviewDecision reviewResult
      match decision with
      | .approved =>
        return .finished (loop.finish .approved rounds used synthesisResult (some reviewResult))
      | .rejected =>
        return .finished (loop.finish .rejected rounds used synthesisResult (some reviewResult))
      | .revisionRequired =>
        return .revisionRequired reportReferenceId rounds synthesisResult reviewResult

/-- The `while` loop, when `used` revisions have been requested and `remaining` may still be. -/
def runRounds : (remaining used : ℕ) → List ReviewRevisionRound → ResearchAgentTaskAssignment →
    LoopProgram ReviewRevisionLoopResult
  | 0, used, rounds, assignment => do
      match ← loop.playRound template used rounds assignment with
      | .finished result => return result
      | .revisionRequired _ rounds synthesisResult reviewResult =>
        return loop.finish .revisionLimitReached rounds used synthesisResult (some reviewResult)
  | remaining + 1, used, rounds, assignment => do
      match ← loop.playRound template used rounds assignment with
      | .finished result => return result
      | .revisionRequired reportReferenceId rounds _ reviewResult => do
          let reviewReferenceId ← primaryReferenceId reviewResult "quality review"
          let revision ← loop.buildRevisionAssignment assignment (used + 1) reportReferenceId
            reviewReferenceId .revisionRequired
          runRounds remaining (used + 1) rounds revision

def run (initial : ResearchAgentTaskAssignment) : LoopProgram ReviewRevisionLoopResult := do
  validateTemplates loop.toLoopConfiguration initial template
  let _ ← newIdentifier loop.loopId "loop_id"
  loop.runRounds template loop.maximumRevisionRounds 0 [] initial

end ReviewRevisionLoop

end AgenticLab
