import AgenticLab.Model.Research.ReviewRevisionLoop

/-! # Runs of the review and revision loop -/

namespace AgenticLab

section

variable {α κ : Type} [DecidableEq κ] {key : α → κ} {existing : List α}

theorem mem_appendNew_of_mem (key : α → κ) (additions : List α) {x : α}
    (h : x ∈ existing) : x ∈ additions.foldl (appendNew key) existing := by
  induction additions generalizing existing with
  | nil => exact h
  | cons item additions ih =>
    apply ih
    by_cases hkey : key item ∈ existing.map key <;> simp [appendNew, hkey, h]

theorem mem_or_mem_of_mem_appendNew {additions existing : List α} {x : α}
    (h : x ∈ additions.foldl (appendNew key) existing) : x ∈ existing ∨ x ∈ additions := by
  induction additions generalizing existing with
  | nil => exact .inl h
  | cons item additions ih =>
    rcases ih h with hitem | hrest
    · by_cases hkey : key item ∈ existing.map key <;> simp [appendNew, hkey] at hitem <;> grind
    · exact .inr (List.mem_cons_of_mem _ hrest)

theorem mem_keys_appendNew (key : α → κ) (additions existing : List α) (item : α)
    (h : item ∈ additions) : key item ∈ (additions.foldl (appendNew key) existing).map key := by
  induction additions generalizing existing with
  | nil => cases h
  | cons first additions ih =>
    rcases List.mem_cons.mp h with rfl | hrest
    · have hmem : key item ∈ (appendNew key existing item).map key := by
        by_cases hkey : key item ∈ existing.map key <;> simp [appendNew, hkey]
      obtain ⟨kept, hkept, heq⟩ := List.mem_map.mp hmem
      exact List.mem_map.mpr ⟨kept, mem_appendNew_of_mem key additions hkept, heq⟩
    · exact ih _ hrest

theorem nodup_keys_appendNew (additions : List α) (h : (existing.map key).Nodup) :
    ((additions.foldl (appendNew key) existing).map key).Nodup := by
  induction additions generalizing existing with
  | nil => exact h
  | cons item additions ih =>
    apply ih
    by_cases hkey : key item ∈ existing.map key
    · simpa [appendNew, hkey] using h
    · rw [appendNew, if_neg hkey, List.map_append, List.nodup_append]
      simpa [h] using hkey

end

theorem requireTexts_cons {fieldName value : String} {rest : List (String × String)} :
    requireTexts ((fieldName, value) :: rest) = .ok () ↔
      isBlank value = false ∧ requireTexts rest = .ok () := by
  rw [requireTexts, raiseIf_bind_eq_ok, Bool.not_eq_true]

theorem validateMetadata_dictSet {metadata : List (String × String)} {key value : String}
    (h : validateMetadata metadata = .ok ()) (hkey : isBlank key = false)
    (hvalue : isBlank value = false) : validateMetadata (dictSet metadata key value) = .ok () := by
  rw [validateMetadata_eq_ok] at h ⊢
  intro member hmember
  unfold dictSet at hmember
  split at hmember
  · obtain ⟨old, hold, rfl⟩ := List.mem_map.mp hmember
    split
    · exact ⟨hkey, hvalue⟩
    · exact h old hold
  · rcases List.mem_append.mp hmember with hold | hnew
    · exact h member hold
    · rw [List.mem_singleton.mp hnew]
      exact ⟨hkey, hvalue⟩

namespace ResearchAgentTaskAssignment

variable {casefold : Casefold} {assignment : ResearchAgentTaskAssignment}

/-- What `validate_assignment` asks for. -/
structure Valid (casefold : Casefold) (assignment : ResearchAgentTaskAssignment) : Prop where
  instructions_ne : assignment.instructions ≠ []
  criteria_ne : assignment.acceptanceCriteria ≠ []
  attempt_pos : 1 ≤ assignment.attemptNumber
  maximum_pos : 1 ≤ assignment.maximumAttempts
  assignmentId : isBlank assignment.assignmentId = false
  texts : requireTexts [("request_id", assignment.requestId),
    ("workspace_id", assignment.workspaceId), ("title", assignment.title),
    ("objective", assignment.objective),
    ("expected_output_type", assignment.expectedOutputType)] = .ok ()
  researchTaskId : assignment.researchTaskId.any isBlank = false
  parentAssignmentId : assignment.parentAssignmentId.any isBlank = false
  relationship : validateAgentRelationship casefold assignment = .ok ()
  capabilities : assignment.requiredCapabilities.Nodup
  instructions : validateUniqueText casefold assignment.instructions "instructions" = .ok ()
  inputs : (assignment.inputs.map (·.key casefold)).Nodup
  criteria :
    validateUniqueText casefold assignment.acceptanceCriteria "acceptance_criteria" = .ok ()
  attempts : assignment.attemptNumber ≤ assignment.maximumAttempts
  payload : assignment.payloadKeys.any isBlank = false
  metadata : validateMetadata assignment.metadata = .ok ()

theorem validateAssignment_iff :
    assignment.validateAssignment casefold = .ok () ↔ assignment.Valid casefold := by
  unfold validateAssignment
  rw [raiseIf_bind_eq_ok, raiseIf_bind_eq_ok, raiseIf_bind_eq_ok, raiseIf_bind_eq_ok, bind_eq_ok]
  constructor
  · intro h
    obtain ⟨hinstructions, hcriteria, hattempt, hmaximum, _, htexts, h⟩ := h
    obtain ⟨hid, htexts⟩ := requireTexts_cons.mp htexts
    obtain ⟨_, hoptional, h⟩ := bind_eq_ok.mp h
    obtain ⟨htask, hoptional⟩ := raiseIf_bind_eq_ok.mp hoptional
    obtain ⟨hparent, _⟩ := raiseIf_bind_eq_ok.mp hoptional
    obtain ⟨_, hrelationship, h⟩ := bind_eq_ok.mp h
    obtain ⟨hcapabilities, h⟩ := raiseIf_bind_eq_ok.mp h
    obtain ⟨_, hunique, h⟩ := bind_eq_ok.mp h
    obtain ⟨hinputs, h⟩ := raiseIf_bind_eq_ok.mp h
    obtain ⟨_, hcriteriaUnique, h⟩ := bind_eq_ok.mp h
    obtain ⟨hattempts, h⟩ := raiseIf_bind_eq_ok.mp h
    obtain ⟨hpayload, hmetadata⟩ := raiseIf_bind_eq_ok.mp h
    exact ⟨hinstructions, hcriteria, not_lt.mp hattempt, not_lt.mp hmaximum, hid, htexts,
      Bool.eq_false_iff.mpr htask, Bool.eq_false_iff.mpr hparent, hrelationship,
      not_not.mp hcapabilities, hunique, not_not.mp hinputs, hcriteriaUnique, not_lt.mp hattempts,
      Bool.eq_false_iff.mpr hpayload, hmetadata⟩
  · intro h
    refine ⟨h.instructions_ne, h.criteria_ne, not_lt.mpr h.attempt_pos, not_lt.mpr h.maximum_pos,
      (), requireTexts_cons.mpr ⟨h.assignmentId, h.texts⟩, bind_eq_ok.mpr ⟨(), ?_, ?_⟩⟩
    · exact raiseIf_bind_eq_ok.mpr ⟨Bool.eq_false_iff.mp h.researchTaskId,
        raiseIf_bind_eq_ok.mpr ⟨Bool.eq_false_iff.mp h.parentAssignmentId, rfl⟩⟩
    · refine bind_eq_ok.mpr ⟨(), h.relationship, raiseIf_bind_eq_ok.mpr
        ⟨not_not.mpr h.capabilities, bind_eq_ok.mpr ⟨(), h.instructions, raiseIf_bind_eq_ok.mpr
          ⟨not_not.mpr h.inputs, bind_eq_ok.mpr ⟨(), h.criteria, raiseIf_bind_eq_ok.mpr
            ⟨not_lt.mpr h.attempts, raiseIf_bind_eq_ok.mpr
              ⟨Bool.eq_false_iff.mp h.payload, h.metadata⟩⟩⟩⟩⟩⟩⟩

end ResearchAgentTaskAssignment

namespace ReviewRevisionLoop

variable {loop : ReviewRevisionLoop} {template : ResearchAgentTaskAssignment}

/-! ## Derived assignments -/

theorem newAssignmentInput_eq_ok {name referenceType referenceId : String}
    (hname : isBlank name = false) (htype : isBlank referenceType = false)
    (hid : isBlank referenceId = false) :
    ∃ input, newAssignmentInput ⟨name, referenceType, referenceId, true, []⟩ = .ok input ∧
      input.toAssignmentInputContent = ⟨name, referenceType, referenceId, true, []⟩ := by
  have hvalid : (⟨name, referenceType, referenceId, true, []⟩ :
      AssignmentInputContent).validateInput = .ok () :=
    bind_eq_ok.mpr ⟨(), requireTexts_cons.mpr ⟨hname, requireTexts_cons.mpr
      ⟨htype, requireTexts_cons.mpr ⟨hid, rfl⟩⟩⟩, rfl⟩
  refine ⟨⟨_, hvalid⟩, ?_, rfl⟩
  unfold newAssignmentInput
  split
  · rfl
  · rename_i failure hfailure
    cases hvalid.symm.trans hfailure

variable {value fieldName : String}

theorem newIdentifier_of_blank (h : isBlank value = true) :
    newIdentifier value fieldName =
      .error (loopError (fieldName ++ " factory returned blank value")) := by
  rw [newIdentifier, raiseIf, if_pos h]
  rfl

theorem newIdentifier_of_not_blank (h : isBlank value = false) :
    newIdentifier value fieldName = .ok value := by
  rw [newIdentifier, raiseIf, if_neg (by simp [h])]
  rfl

structure IsReview (template : ResearchAgentTaskAssignment) (roundNumber : ℕ)
    (report : ResearchAgentOutputReference) (parent review : ResearchAgentTaskAssignment) :
    Prop where
  report : review.inputs.map (fun input => (input.referenceType, input.referenceId)) =
    [("research_report", report.referenceId)]
  attempt : review.attemptNumber = roundNumber
  maximum : review.maximumAttempts = template.maximumAttempts
  valid : ∀ {casefold}, template.Valid casefold → isBlank parent.assignmentId = false →
    1 ≤ roundNumber → roundNumber ≤ template.maximumAttempts → review.Valid casefold

variable {roundNumber : ℕ}

theorem buildReviewAssignment_of_blank {report parent : String}
    (h : isBlank (loop.reviewAssignmentId roundNumber) = true) :
    ∃ failure, loop.buildReviewAssignment template roundNumber report parent = .error failure ∧
      failure.cls = .reviewRevisionLoopError := by
  rw [buildReviewAssignment, newIdentifier_of_blank h]
  exact ⟨_, rfl, rfl⟩

theorem buildReviewAssignment_of_not_blank (loop : ReviewRevisionLoop)
    (template parent : ResearchAgentTaskAssignment)
    (roundNumber : ℕ) (report : ResearchAgentOutputReference)
    (h : isBlank (loop.reviewAssignmentId roundNumber) = false) :
    ∃ review, loop.buildReviewAssignment template roundNumber report.referenceId
        parent.assignmentId = .ok review ∧ IsReview template roundNumber report parent review := by
  have hname : isBlank ("report-round-" ++ toString roundNumber) = false :=
    isBlank_append (by decide +kernel)
  have htype : isBlank "research_report" = false := by decide +kernel
  obtain ⟨input, hinput, hcontent⟩ :=
    newAssignmentInput_eq_ok hname htype report.referenceId_not_blank
  rw [buildReviewAssignment, newIdentifier_of_not_blank h, ok_bind, hinput, ok_bind]
  refine ⟨_, rfl, ?_, rfl, rfl, ?_⟩
  · simp [hcontent]
  · intro casefold htemplate hparent hpos hle
    exact { htemplate with
      attempt_pos := hpos
      assignmentId := h
      parentAssignmentId := by simpa using hparent
      inputs := by simp
      attempts := hle }

structure IsRevision (casefold : Casefold) (previous : ResearchAgentTaskAssignment)
    (report verdict : ResearchAgentOutputReference) (revision : ResearchAgentTaskAssignment) :
    Prop where
  report : (normalizeId casefold "research_report", normalizeId casefold report.referenceId) ∈
    revision.inputs.map (·.key casefold)
  verdict : (normalizeId casefold "research_quality_review",
    normalizeId casefold verdict.referenceId) ∈ revision.inputs.map (·.key casefold)
  valid : previous.Valid casefold → revision.Valid casefold

theorem buildRevisionAssignment_of_blank {previous : ResearchAgentTaskAssignment} {number : ℕ}
    {report verdict : String} {decision : ResearchQualityDecision}
    (h : isBlank (loop.synthesisAssignmentId number) = true) :
    ∃ failure, loop.buildRevisionAssignment previous number report verdict decision =
        .error failure ∧ failure.cls = .reviewRevisionLoopError := by
  rw [buildRevisionAssignment, newIdentifier_of_blank h]
  exact ⟨_, rfl, rfl⟩

theorem isBlank_value (decision : ResearchQualityDecision) : isBlank decision.value = false := by
  cases decision <;> decide +kernel

variable {casefold : Casefold}

theorem validateUniqueText_iff {values : List String} {fieldName : String} :
    ResearchAgentTaskAssignment.validateUniqueText casefold values fieldName = .ok () ↔
      (∀ value ∈ values, isBlank value = false) ∧ (values.map (normalizeId casefold)).Nodup := by
  rw [ResearchAgentTaskAssignment.validateUniqueText, raiseIf_bind_eq_ok, raiseIf_eq_ok, not_not]
  simp

theorem buildRevisionAssignment_of_not_blank (loop : ReviewRevisionLoop)
    (previous : ResearchAgentTaskAssignment) (number : ℕ)
    (report verdict : ResearchAgentOutputReference) (decision : ResearchQualityDecision)
    (h : isBlank (loop.synthesisAssignmentId number) = false) :
    ∃ revision, loop.buildRevisionAssignment previous number report.referenceId
        verdict.referenceId decision = .ok revision ∧
      IsRevision loop.casefold previous report verdict revision := by
  have hreportName : isBlank ("previous-report-" ++ toString number) = false :=
    isBlank_append (by decide +kernel)
  have hreportType : isBlank "research_report" = false := by decide +kernel
  have hreviewType : isBlank "research_quality_review" = false := by decide +kernel
  have hreviewName : isBlank ("quality-review-" ++ toString number) = false :=
    isBlank_append (by decide +kernel)
  obtain ⟨reportInput, hreport, hreportContent⟩ := newAssignmentInput_eq_ok
    hreportName hreportType report.referenceId_not_blank
  obtain ⟨reviewInput, hreview, hreviewContent⟩ := newAssignmentInput_eq_ok
    hreviewName hreviewType verdict.referenceId_not_blank
  rw [buildRevisionAssignment, newIdentifier_of_not_blank h, ok_bind, hreport, ok_bind, hreview,
    ok_bind]
  have hkeys := mem_keys_appendNew (α := ResearchAgentAssignmentInput) (·.key loop.casefold)
    [reportInput, reviewInput] previous.inputs
  refine ⟨_, rfl, ?_, ?_, ?_⟩
  · have hkey : reportInput.key loop.casefold = (normalizeId loop.casefold "research_report",
        normalizeId loop.casefold report.referenceId) := by
      rw [ResearchAgentAssignmentInput.key, hreportContent]
    rw [← hkey]
    exact hkeys reportInput (by simp)
  · have hkey : reviewInput.key loop.casefold =
        (normalizeId loop.casefold "research_quality_review",
          normalizeId loop.casefold verdict.referenceId) := by
      rw [ResearchAgentAssignmentInput.key, hreviewContent]
    rw [← hkey]
    exact hkeys reviewInput (by simp)
  · intro hprevious
    have hinstructions := validateUniqueText_iff.mp hprevious.instructions
    exact { hprevious with
      instructions_ne := List.ne_nil_of_mem (mem_appendNew_of_mem (normalizeId loop.casefold)
        [revisionInstruction] (List.head_mem hprevious.instructions_ne))
      attempt_pos := Nat.le_add_left 1 _
      maximum_pos := hprevious.maximum_pos.trans (le_max_left _ _)
      assignmentId := h
      parentAssignmentId := by simpa using hprevious.assignmentId
      instructions := validateUniqueText_iff.mpr
        ⟨fun value hvalue => (mem_or_mem_of_mem_appendNew hvalue).elim (hinstructions.1 value)
          (fun hnew => List.mem_singleton.mp hnew ▸ rfl),
          nodup_keys_appendNew [revisionInstruction] hinstructions.2⟩
      inputs := nodup_keys_appendNew [reportInput, reviewInput] hprevious.inputs
      attempts := le_max_right _ _
      metadata := validateMetadata_dictSet
        (validateMetadata_dictSet hprevious.metadata rfl (isBlank_toString number)) rfl
        (isBlank_value decision) }

/-! ## Rounds -/

/-- What is dispatched from the start of a round on: every assignment is derived from what the
agents returned before. -/
inductive Rounds (casefold : Casefold) (template : ResearchAgentTaskAssignment) :
    ℕ → ResearchAgentTaskAssignment → List Dispatch → Prop
  | synthesized {roundNumber : ℕ} {assignment : ResearchAgentTaskAssignment}
      (outcome : Except Raised ResearchAgentTaskResult) :
      Rounds casefold template roundNumber assignment [.synthesis assignment outcome]
  | reviewed {roundNumber : ℕ} {assignment review : ResearchAgentTaskAssignment}
      {synthesisResult : ResearchAgentTaskResult} {report : ResearchAgentOutputReference}
      (outcome : Except Raised ResearchAgentTaskResult)
      (hreport : synthesisResult.primaryOutput = some report)
      (hreview : IsReview template roundNumber report assignment review) :
      Rounds casefold template roundNumber assignment
        [.synthesis assignment (.ok synthesisResult), .review review outcome]
  | revised {roundNumber : ℕ} {assignment review revision : ResearchAgentTaskAssignment}
      {synthesisResult reviewResult : ResearchAgentTaskResult}
      {report verdict : ResearchAgentOutputReference} {dispatched : List Dispatch}
      (hreport : synthesisResult.primaryOutput = some report)
      (hreview : IsReview template roundNumber report assignment review)
      (hdecision : reviewDecision reviewResult = .ok .revisionRequired)
      (hverdict : reviewResult.primaryOutput = some verdict)
      (hrevision : IsRevision casefold assignment report verdict revision)
      (rest : Rounds casefold template (roundNumber + 1) revision dispatched) :
      Rounds casefold template roundNumber assignment
        (.synthesis assignment (.ok synthesisResult) :: .review review (.ok reviewResult) ::
          dispatched)

def isSynthesis : Dispatch → Bool
  | .synthesis .. => true
  | .review .. => false

def roundsBegun (dispatched : List Dispatch) : ℕ := dispatched.countP isSynthesis

variable {assignment : ResearchAgentTaskAssignment} {dispatched : List Dispatch}

theorem Rounds.valid
    (h : Rounds casefold template roundNumber assignment dispatched) (hpos : 1 ≤ roundNumber)
    (htemplate : template.Valid casefold) (hassignment : assignment.Valid casefold)
    (hmaximum : roundNumber + roundsBegun dispatched ≤ template.maximumAttempts + 1) :
    ∀ dispatch ∈ dispatched, dispatch.assignment.Valid casefold := by
  induction h with
  | synthesized outcome => simpa [Dispatch.assignment] using hassignment
  | reviewed outcome hreport hreview =>
    simp [roundsBegun, isSynthesis, List.countP_cons] at hmaximum
    simpa [Dispatch.assignment] using
      ⟨hassignment, hreview.valid htemplate hassignment.assignmentId hpos hmaximum⟩
  | revised hreport hreview hdecision hverdict hrevision rest ih =>
    simp [roundsBegun, isSynthesis, List.countP_cons] at hmaximum
    have hrest := ih (Nat.le_add_left 1 _) (hrevision.valid hassignment)
      (by rw [roundsBegun]; omega)
    have hreviewValid := hreview.valid htemplate hassignment.assignmentId hpos (by omega)
    simpa [Dispatch.assignment, hassignment, hreviewValid] using hrest

inductive Plays (loop : ReviewRevisionLoop) (template : ResearchAgentTaskAssignment) (used : ℕ)
    (rounds : List ReviewRevisionRound) (assignment : ResearchAgentTaskAssignment) :
    Except Raised Turn → List Dispatch → Prop
  | raised {failure : Raised} {dispatched : List Dispatch}
      (hrounds : Rounds loop.casefold template (rounds.length + 1) assignment dispatched)
      (hbegun : roundsBegun dispatched = 1)
      (hcause : failure.cls = .reviewRevisionLoopError ∨
        ∃ dispatch ∈ dispatched, dispatch.outcome = .error failure) :
      Plays loop template used rounds assignment (.error failure) dispatched
  | finished {result : ReviewRevisionLoopResult} {dispatched : List Dispatch}
      (hrounds : Rounds loop.casefold template (rounds.length + 1) assignment dispatched)
      (hbegun : roundsBegun dispatched = 1) (hlength : result.rounds.length = rounds.length + 1)
      (hused : result.revisionRoundsUsed = used)
      (hstatus : result.status ≠ .revisionLimitReached) :
      Plays loop template used rounds assignment (.ok (.finished result)) dispatched
  | revisionRequired {review : ResearchAgentTaskAssignment}
      {synthesisResult reviewResult : ResearchAgentTaskResult}
      {report : ResearchAgentOutputReference} {extended : List ReviewRevisionRound}
      (hreport : synthesisResult.primaryOutput = some report)
      (hreview : IsReview template (rounds.length + 1) report assignment review)
      (hdecision : reviewDecision reviewResult = .ok .revisionRequired)
      (hlength : extended.length = rounds.length + 1) :
      Plays loop template used rounds assignment
        (.ok (.revisionRequired report.referenceId extended synthesisResult reviewResult))
        [.synthesis assignment (.ok synthesisResult), .review review (.ok reviewResult)]

theorem primaryReferenceId_cases (result : ResearchAgentTaskResult) (artifactName : String) :
    (∃ output, result.primaryOutput = some output ∧
        primaryReferenceId result artifactName = .ok output.referenceId) ∨
      ∃ failure, primaryReferenceId result artifactName = .error failure ∧
        failure.cls = .reviewRevisionLoopError := by
  unfold primaryReferenceId
  cases result.primaryOutput with
  | none => exact .inr ⟨_, rfl, rfl⟩
  | some output => exact .inl ⟨output, rfl, rfl⟩

variable {failure : Raised}

theorem reviewDecision_eq_error {result : ResearchAgentTaskResult}
    (h : reviewDecision result = .error failure) : failure.cls = .reviewRevisionLoopError := by
  unfold reviewDecision at h
  split at h
  · cases h
    rfl
  · split at h <;> cases h
    rfl

variable {outcome : Except Raised ResearchAgentTaskResult}

theorem executeSynthesis_eq (dispatched : List Dispatch)
    (h : loop.synthesize roundNumber assignment = outcome) :
    loop.executeSynthesis roundNumber assignment dispatched =
      (outcome, dispatched ++ [.synthesis assignment outcome]) := by
  rw [executeSynthesis, h]

theorem executeReview_eq (dispatched : List Dispatch)
    (h : loop.review roundNumber assignment = outcome) :
    loop.executeReview roundNumber assignment dispatched =
      (outcome, dispatched ++ [.review assignment outcome]) := by
  rw [executeReview, h]

theorem buildReviewAssignment_cases (loop : ReviewRevisionLoop)
    (template parent : ResearchAgentTaskAssignment) (roundNumber : ℕ)
    (report : ResearchAgentOutputReference) :
    (∃ review, loop.buildReviewAssignment template roundNumber report.referenceId
        parent.assignmentId = .ok review ∧ IsReview template roundNumber report parent review) ∨
      ∃ failure, loop.buildReviewAssignment template roundNumber report.referenceId
        parent.assignmentId = .error failure ∧ failure.cls = .reviewRevisionLoopError := by
  cases h : isBlank (loop.reviewAssignmentId roundNumber) with
  | false =>
    exact .inl (buildReviewAssignment_of_not_blank loop template parent roundNumber report h)
  | true => exact .inr (buildReviewAssignment_of_blank h)

theorem playRound_spec (loop : ReviewRevisionLoop) (template : ResearchAgentTaskAssignment)
    (used : ℕ) (rounds : List ReviewRevisionRound) (assignment : ResearchAgentTaskAssignment)
    (before : List Dispatch) :
    ∃ dispatched, (loop.playRound template used rounds assignment before).2 =
        before ++ dispatched ∧
      Plays loop template used rounds assignment
        (loop.playRound template used rounds assignment before).1 dispatched := by
  unfold playRound
  cases hsynthesize : loop.synthesize (rounds.length + 1) assignment with
  | error failure =>
    rw [Stateful.run_bind_of_error (executeSynthesis_eq before hsynthesize)]
    exact ⟨_, rfl, .raised (.synthesized _) rfl (.inr ⟨_, List.mem_singleton_self _, rfl⟩)⟩
  | ok synthesisResult =>
    rw [Stateful.run_bind_of_ok (executeSynthesis_eq before hsynthesize)]
    by_cases hfailed : synthesisResult.status = .failed
    · rw [if_pos hfailed]
      refine ⟨_, rfl, .finished (.synthesized _) rfl ?_ rfl nofun⟩
      exact List.length_append
    · rw [if_neg hfailed]
      rcases primaryReferenceId_cases synthesisResult "synthesis report" with
        ⟨report, hreport, hid⟩ | ⟨failure, hid, hcls⟩
      · rw [Stateful.run_lift_bind_of_ok hid]
        rcases buildReviewAssignment_cases loop template assignment (rounds.length + 1)
            report with ⟨review, hbuild, hreview⟩ | ⟨failure, hbuild, hcls⟩
        · rw [Stateful.run_lift_bind_of_ok hbuild]
          cases hreviewed : loop.review (rounds.length + 1) review with
          | error failure =>
            rw [Stateful.run_bind_of_error (executeReview_eq _ hreviewed), List.append_assoc]
            exact ⟨_, rfl, .raised (.reviewed _ hreport hreview) rfl
              (.inr ⟨_, List.mem_cons_of_mem _ (List.mem_singleton_self _), rfl⟩)⟩
          | ok reviewResult =>
            rw [Stateful.run_bind_of_ok (executeReview_eq _ hreviewed), List.append_assoc]
            by_cases hreviewFailed : reviewResult.status = .failed
            · rw [if_pos hreviewFailed]
              exact ⟨_, rfl, .finished (.reviewed _ hreport hreview) rfl List.length_append rfl
                nofun⟩
            · rw [if_neg hreviewFailed]
              cases hdecision : reviewDecision reviewResult with
              | error failure =>
                rw [Stateful.run_lift_bind_of_error rfl]
                exact ⟨_, rfl, .raised (.reviewed _ hreport hreview) rfl
                  (.inl (reviewDecision_eq_error hdecision))⟩
              | ok decision =>
                rw [Stateful.run_lift_bind_of_ok rfl]
                cases decision with
                | approved =>
                  exact ⟨_, rfl, .finished (.reviewed _ hreport hreview) rfl
                    List.length_append rfl nofun⟩
                | rejected =>
                  exact ⟨_, rfl, .finished (.reviewed _ hreport hreview) rfl
                    List.length_append rfl nofun⟩
                | revisionRequired =>
                  exact ⟨_, rfl, .revisionRequired hreport hreview hdecision List.length_append⟩
        · rw [Stateful.run_lift_bind_of_error hbuild]
          exact ⟨_, rfl, .raised (.synthesized _) rfl (.inl hcls)⟩
      · rw [Stateful.run_lift_bind_of_error hid]
        exact ⟨_, rfl, .raised (.synthesized _) rfl (.inl hcls)⟩

/-! ## Runs -/

theorem buildRevisionAssignment_cases (loop : ReviewRevisionLoop)
    (previous : ResearchAgentTaskAssignment) (number : ℕ)
    (report verdict : ResearchAgentOutputReference) (decision : ResearchQualityDecision) :
    (∃ revision, loop.buildRevisionAssignment previous number report.referenceId
        verdict.referenceId decision = .ok revision ∧
      IsRevision loop.casefold previous report verdict revision) ∨
      ∃ failure, loop.buildRevisionAssignment previous number report.referenceId
        verdict.referenceId decision = .error failure ∧
        failure.cls = .reviewRevisionLoopError := by
  cases h : isBlank (loop.synthesisAssignmentId number) with
  | false =>
    exact .inl (buildRevisionAssignment_of_not_blank loop previous number report verdict decision h)
  | true => exact .inr (buildRevisionAssignment_of_blank h)

/-- What the loop comes to from its turn `used + 1` on, when `remaining` more may follow. -/
structure Ends (loop : ReviewRevisionLoop) (template : ResearchAgentTaskAssignment)
    (remaining used : ℕ) (assignment : ResearchAgentTaskAssignment)
    (outcome : Except Raised ReviewRevisionLoopResult) (dispatched : List Dispatch) : Prop where
  rounds : Rounds loop.casefold template (used + 1) assignment dispatched
  bounded : roundsBegun dispatched ≤ remaining + 1
  raised : ∀ failure, outcome = .error failure → failure.cls = .reviewRevisionLoopError ∨
    ∃ dispatch ∈ dispatched, dispatch.outcome = .error failure
  counted : ∀ result, outcome = .ok result →
    result.rounds.length = used + roundsBegun dispatched ∧
      result.revisionRoundsUsed + 1 = used + roundsBegun dispatched
  limited : ∀ result, outcome = .ok result → result.status = .revisionLimitReached →
    roundsBegun dispatched = remaining + 1

variable {remaining used : ℕ} {outcome : Except Raised ReviewRevisionLoopResult}

theorem Ends.of_last
    (hrounds : Rounds loop.casefold template (used + 1) assignment dispatched)
    (hbegun : roundsBegun dispatched = 1)
    (hraised : ∀ failure, outcome = .error failure → failure.cls = .reviewRevisionLoopError ∨
      ∃ dispatch ∈ dispatched, dispatch.outcome = .error failure)
    (hresult : ∀ result, outcome = .ok result → result.rounds.length = used + 1 ∧
      result.revisionRoundsUsed = used ∧
      (result.status = .revisionLimitReached → remaining = 0)) :
    Ends loop template remaining used assignment outcome dispatched where
  rounds := hrounds
  bounded := by omega
  raised := hraised
  counted := by
    intro result hok
    obtain ⟨hlength, hused, _⟩ := hresult result hok
    omega
  limited := by
    intro result hok hstatus
    have hremaining := (hresult result hok).2.2 hstatus
    omega

theorem Ends.after {assignment review revision : ResearchAgentTaskAssignment}
    {synthesisResult reviewResult : ResearchAgentTaskResult}
    {report verdict : ResearchAgentOutputReference}
    (hreport : synthesisResult.primaryOutput = some report)
    (hreview : IsReview template (used + 1) report assignment review)
    (hdecision : reviewDecision reviewResult = .ok .revisionRequired)
    (hverdict : reviewResult.primaryOutput = some verdict)
    (hrevision : IsRevision loop.casefold assignment report verdict revision)
    (h : Ends loop template remaining (used + 1) revision outcome dispatched) :
    Ends loop template (remaining + 1) used assignment outcome
      (.synthesis assignment (.ok synthesisResult) :: .review review (.ok reviewResult) ::
        dispatched) := by
  have hbegun : roundsBegun (.synthesis assignment (.ok synthesisResult) ::
      .review review (.ok reviewResult) :: dispatched) = roundsBegun dispatched + 1 := by
    simp [roundsBegun, isSynthesis, List.countP_cons]
  constructor
  · exact .revised hreport hreview hdecision hverdict hrevision h.rounds
  · have hbounded := h.bounded
    omega
  · intro failure herror
    rcases h.raised failure herror with hcls | ⟨dispatch, hmem, houtcome⟩
    · exact .inl hcls
    · exact .inr ⟨dispatch, List.mem_cons_of_mem _ (List.mem_cons_of_mem _ hmem), houtcome⟩
  · intro result hok
    have hcounted := h.counted result hok
    omega
  · intro result hok hstatus
    have hlimited := h.limited result hok hstatus
    omega

theorem runRounds_spec (loop : ReviewRevisionLoop) (template : ResearchAgentTaskAssignment)
    (remaining used : ℕ) (rounds : List ReviewRevisionRound)
    (assignment : ResearchAgentTaskAssignment) (before : List Dispatch)
    (hused : rounds.length = used) :
    ∃ dispatched, (loop.runRounds template remaining used rounds assignment before).2 =
        before ++ dispatched ∧
      Ends loop template remaining used assignment
        (loop.runRounds template remaining used rounds assignment before).1 dispatched := by
  induction remaining generalizing used rounds assignment before with
  | zero =>
    obtain ⟨dispatched, hafter, hplays⟩ :=
      playRound_spec loop template used rounds assignment before
    rw [runRounds]
    generalize hplayed : loop.playRound template used rounds assignment before = played at *
    obtain ⟨outcome, after⟩ := played
    cases hplays with
    | raised hrounds hbegun hcause =>
      rw [Stateful.run_bind_of_error hplayed]
      refine ⟨dispatched, hafter, .of_last (hused ▸ hrounds) hbegun ?_ nofun⟩
      intro failure herror
      cases herror
      exact hcause
    | finished hrounds hbegun hlength hsame hstatus =>
      rw [Stateful.run_bind_of_ok hplayed]
      refine ⟨dispatched, hafter, .of_last (hused ▸ hrounds) hbegun nofun ?_⟩
      intro result hok
      cases hok
      exact ⟨hused ▸ hlength, hsame, fun h => absurd h hstatus⟩
    | revisionRequired hreport hreview hdecision hlength =>
      rw [Stateful.run_bind_of_ok hplayed]
      refine ⟨_, hafter, .of_last (.reviewed _ hreport (hused ▸ hreview)) rfl nofun ?_⟩
      intro result hok
      cases hok
      exact ⟨hused ▸ hlength, rfl, fun _ => rfl⟩
  | succ remaining ih =>
    obtain ⟨dispatched, hafter, hplays⟩ :=
      playRound_spec loop template used rounds assignment before
    rw [runRounds]
    generalize hplayed : loop.playRound template used rounds assignment before = played at *
    obtain ⟨outcome, after⟩ := played
    cases hplays with
    | raised hrounds hbegun hcause =>
      rw [Stateful.run_bind_of_error hplayed]
      refine ⟨dispatched, hafter, .of_last (hused ▸ hrounds) hbegun ?_ nofun⟩
      intro failure herror
      cases herror
      exact hcause
    | finished hrounds hbegun hlength hsame hstatus =>
      rw [Stateful.run_bind_of_ok hplayed]
      refine ⟨dispatched, hafter, .of_last (hused ▸ hrounds) hbegun nofun ?_⟩
      intro result hok
      cases hok
      exact ⟨hused ▸ hlength, hsame, fun h => absurd h hstatus⟩
    | @revisionRequired review synthesisResult reviewResult report extended hreport hreview
        hdecision hlength =>
        rw [Stateful.run_bind_of_ok hplayed]
        have hends : ∀ failure : Raised, failure.cls = .reviewRevisionLoopError →
            Ends loop template (remaining + 1) used assignment (.error failure)
              [.synthesis assignment (.ok synthesisResult),
                .review review (.ok reviewResult)] := by
          intro failure hcls
          refine .of_last (.reviewed _ hreport (hused ▸ hreview)) rfl ?_ nofun
          intro raised herror
          cases herror
          exact .inl hcls
        rcases primaryReferenceId_cases reviewResult "quality review" with
          ⟨verdict, hverdict, hid⟩ | ⟨failure, hid, hcls⟩
        · dsimp only
          rw [Stateful.run_lift_bind_of_ok hid]
          rcases buildRevisionAssignment_cases loop assignment (used + 1) report verdict
              .revisionRequired with ⟨revision, hbuild, hrevision⟩ | ⟨failure, hbuild, hcls⟩
          · rw [Stateful.run_lift_bind_of_ok hbuild]
            obtain ⟨more, hmore, hrest⟩ :=
              ih (used + 1) extended revision after (hlength.trans (congrArg (· + 1) hused))
            refine ⟨_, ?_, hrest.after hreport (hused ▸ hreview) hdecision hverdict hrevision⟩
            rw [hmore, show after = _ from hafter, List.append_assoc]
            rfl
          · rw [Stateful.run_lift_bind_of_error hbuild]
            exact ⟨_, hafter, hends failure hcls⟩
        · dsimp only
          rw [Stateful.run_lift_bind_of_error hid]
          exact ⟨_, hafter, hends failure hcls⟩

variable {initial : ResearchAgentTaskAssignment}

theorem validateTemplates_eq_error {configuration : LoopConfiguration}
    (h : validateTemplates configuration initial template = .error failure) :
    failure.cls = .reviewRevisionLoopError := by
  unfold validateTemplates raiseIf at h
  split_ifs at h <;> cases h <;> rfl

theorem run_eq_runRounds (loop : ReviewRevisionLoop)
    (htemplates : validateTemplates loop.toLoopConfiguration initial template = .ok ())
    (hid : isBlank loop.loopId = false) :
    loop.run template initial [] =
      loop.runRounds template loop.maximumRevisionRounds 0 [] initial [] := by
  rw [run, Stateful.run_lift_bind_of_ok htemplates,
    Stateful.run_lift_bind_of_ok (newIdentifier_of_not_blank hid)]

structure DispatchesValidWork (loop : ReviewRevisionLoop)
    (initial template : ResearchAgentTaskAssignment) : Prop where
  bounded : roundsBegun (loop.run template initial []).2 ≤ loop.maximumRevisionRounds + 1
  raised : ∀ failure, (loop.run template initial []).1 = .error failure →
    failure.cls = .reviewRevisionLoopError ∨
      ∃ dispatch ∈ (loop.run template initial []).2, dispatch.outcome = .error failure
  counted : ∀ result, (loop.run template initial []).1 = .ok result →
    result.rounds.length = roundsBegun (loop.run template initial []).2 ∧
      result.revisionRoundsUsed = result.rounds.length - 1
  limited : ∀ result, (loop.run template initial []).1 = .ok result →
    result.status = .revisionLimitReached → result.revisionRoundsUsed = loop.maximumRevisionRounds
  derived : (loop.run template initial []).2 = [] ∨
    Rounds loop.casefold template 1 initial (loop.run template initial []).2
  valid : ∀ dispatch ∈ (loop.run template initial []).2,
    dispatch.assignment.validateAssignment loop.casefold = .ok ()

theorem DispatchesValidWork.of_error (hrun : loop.run template initial [] = (.error failure, []))
    (hcls : failure.cls = .reviewRevisionLoopError) :
    DispatchesValidWork loop initial template where
  bounded := by
    rw [hrun]
    exact Nat.zero_le _
  raised := by
    intro raised herror
    rw [hrun] at herror
    cases herror
    exact .inl hcls
  counted := by
    intro result hok
    rw [hrun] at hok
    cases hok
  limited := by
    intro result hok
    rw [hrun] at hok
    cases hok
  derived := .inl (congrArg Prod.snd hrun)
  valid := by
    intro dispatch hdispatch
    rw [hrun] at hdispatch
    cases hdispatch

theorem DispatchesValidWork.of_ends
    (hends : Ends loop template loop.maximumRevisionRounds 0 initial
      (loop.run template initial []).1 (loop.run template initial []).2)
    (hinitial : initial.Valid loop.casefold) (htemplate : template.Valid loop.casefold)
    (hmaximum : loop.maximumRevisionRounds + 1 ≤ template.maximumAttempts) :
    DispatchesValidWork loop initial template where
  bounded := hends.bounded
  raised := hends.raised
  counted := by
    intro result hok
    have hcounted := hends.counted result hok
    omega
  limited := by
    intro result hok hstatus
    have hcounted := hends.counted result hok
    have hlimited := hends.limited result hok hstatus
    omega
  derived := .inr hends.rounds
  valid := by
    intro dispatch hdispatch
    have hbounded := hends.bounded
    exact ResearchAgentTaskAssignment.validateAssignment_iff.mpr
      (hends.rounds.valid (Nat.le_refl 1) htemplate hinitial (by omega) dispatch hdispatch)

/-! ## A reviewer that is never satisfied -/

def sampleReport : ResearchAgentTaskResult where
  status := .succeeded
  outputs := [⟨"report", true, by decide +kernel⟩]
  decision := none
  succeeded_outputs := nofun
  failed_outputs := nofun

def sampleReview : ResearchAgentTaskResult where
  status := .succeeded
  outputs := [⟨"review", true, by decide +kernel⟩]
  decision := some "revision_required"
  succeeded_outputs := nofun
  failed_outputs := nofun

def neverSatisfied : LoopBehaviour where
  loopId := "loop"
  synthesisAssignmentId := fun _ => "synthesis"
  reviewAssignmentId := fun _ => "review"
  synthesize := fun _ _ => .ok sampleReport
  review := fun _ _ => .ok sampleReview

section

variable (configuration : LoopConfiguration)

theorem primaryReferenceId_sampleReport :
    primaryReferenceId sampleReport "synthesis report" = .ok "report" := rfl

theorem primaryReferenceId_sampleReview :
    primaryReferenceId sampleReview "quality review" = .ok "review" := rfl

example : isBlank sampleReview.decision.get! = false := by decide +kernel

theorem reviewDecision_sampleReview : reviewDecision sampleReview = .ok .revisionRequired := rfl

theorem playRound_neverSatisfied (template : ResearchAgentTaskAssignment) (used : ℕ)
    (rounds : List ReviewRevisionRound) (assignment : ResearchAgentTaskAssignment)
    (before : List Dispatch) :
    ∃ review extended, (⟨configuration, neverSatisfied⟩ : ReviewRevisionLoop).playRound template
        used rounds assignment before =
          (.ok (.revisionRequired "report" extended sampleReport sampleReview),
            before ++ [.synthesis assignment (.ok sampleReport)] ++
              [.review review (.ok sampleReview)]) ∧
      extended.length = rounds.length + 1 ∧ review.attemptNumber = rounds.length + 1 ∧
      review.maximumAttempts = template.maximumAttempts := by
  obtain ⟨review, hbuild, hreview⟩ := buildReviewAssignment_of_not_blank
    ⟨configuration, neverSatisfied⟩ template assignment (rounds.length + 1)
    ⟨"report", true, by decide +kernel⟩ (by decide +kernel : isBlank "review" = false)
  refine ⟨review, rounds ++ [⟨rounds.length + 1, assignment, sampleReport, some review,
    some sampleReview⟩], ?_, List.length_append, hreview.attempt, hreview.maximum⟩
  rw [playRound, Stateful.run_bind_of_ok (executeSynthesis_eq before rfl), if_neg nofun,
    Stateful.run_lift_bind_of_ok primaryReferenceId_sampleReport,
    Stateful.run_lift_bind_of_ok hbuild,
    Stateful.run_bind_of_ok (executeReview_eq _ rfl), if_neg nofun,
    Stateful.run_lift_bind_of_ok reviewDecision_sampleReview]
  rfl

theorem runRounds_neverSatisfied (template : ResearchAgentTaskAssignment) (remaining : ℕ)
    (rounds : List ReviewRevisionRound) (assignment : ResearchAgentTaskAssignment)
    (before : List Dispatch) :
    ∃ dispatch ∈ ((⟨configuration, neverSatisfied⟩ : ReviewRevisionLoop).runRounds template
        remaining rounds.length rounds assignment before).2,
      dispatch.assignment.attemptNumber = rounds.length + remaining + 1 ∧
        dispatch.assignment.maximumAttempts = template.maximumAttempts := by
  induction remaining generalizing rounds assignment before with
  | zero =>
    obtain ⟨review, extended, hplay, _, hattempt, hmaximum⟩ :=
      playRound_neverSatisfied configuration template rounds.length rounds assignment before
    rw [runRounds, Stateful.run_bind_of_ok hplay]
    exact ⟨_, List.mem_append_right _ (List.mem_singleton_self _), hattempt, hmaximum⟩
  | succ remaining ih =>
    obtain ⟨review, extended, hplay, hlength, _⟩ :=
      playRound_neverSatisfied configuration template rounds.length rounds assignment before
    obtain ⟨revision, hbuild, _⟩ := buildRevisionAssignment_of_not_blank
      ⟨configuration, neverSatisfied⟩ assignment (rounds.length + 1)
      ⟨"report", true, by decide +kernel⟩ ⟨"review", true, by decide +kernel⟩ .revisionRequired
      (by decide +kernel : isBlank "synthesis" = false)
    rw [runRounds, Stateful.run_bind_of_ok hplay]
    dsimp only
    rw [Stateful.run_lift_bind_of_ok primaryReferenceId_sampleReview,
      Stateful.run_lift_bind_of_ok hbuild]
    obtain ⟨dispatch, hdispatch, hattempt, hmaximum⟩ := ih extended revision
      (before ++ [.synthesis assignment (.ok sampleReport)] ++ [.review review (.ok sampleReview)])
    rw [hlength] at hdispatch hattempt
    exact ⟨dispatch, hdispatch, by omega, hmaximum⟩

theorem not_dispatchesValidWork_neverSatisfied {initial template : ResearchAgentTaskAssignment}
    (htemplates : validateTemplates configuration initial template = .ok ())
    (hmaximum : template.maximumAttempts < configuration.maximumRevisionRounds + 1) :
    ¬DispatchesValidWork ⟨configuration, neverSatisfied⟩ initial template := by
  intro h
  obtain ⟨dispatch, hdispatch, hattempt, hsame⟩ := runRounds_neverSatisfied configuration template
    configuration.maximumRevisionRounds [] initial []
  have hid : isBlank "loop" = false := by decide +kernel
  have hrun := run_eq_runRounds ⟨configuration, neverSatisfied⟩ htemplates hid
  rw [List.length_nil, ← hrun] at hdispatch
  have hvalid :=
    (ResearchAgentTaskAssignment.validateAssignment_iff.mp (h.valid dispatch hdispatch)).attempts
  rw [List.length_nil] at hattempt
  omega

end

/-- The loop keeps to valid work whatever the agents do, exactly when the template of the reviews
grants as many attempts as there may be rounds. -/
theorem dispatchesValidWork_iff {configuration : LoopConfiguration}
    {initial template : ResearchAgentTaskAssignment}
    (hinitial : initial.validateAssignment configuration.casefold = .ok ())
    (htemplate : template.validateAssignment configuration.casefold = .ok ()) :
    (∀ behaviour, DispatchesValidWork ⟨configuration, behaviour⟩ initial template) ↔
      (validateTemplates configuration initial template = .ok () →
        configuration.maximumRevisionRounds + 1 ≤ template.maximumAttempts) := by
  constructor
  · intro h htemplates
    by_contra hmaximum
    exact not_dispatchesValidWork_neverSatisfied configuration htemplates
      (not_le.mp hmaximum) (h neverSatisfied)
  · intro h behaviour
    cases htemplates : validateTemplates configuration initial template with
    | error failure =>
      refine .of_error ?_ (validateTemplates_eq_error htemplates)
      rw [run, Stateful.run_lift_bind_of_error htemplates]
    | ok _ =>
      cases hblank : isBlank behaviour.loopId with
      | true =>
        have hfailure : newIdentifier behaviour.loopId "loop_id" = .error _ :=
          newIdentifier_of_blank hblank
        have hcls : (loopError ("loop_id" ++ " factory returned blank value")).cls =
            .reviewRevisionLoopError := rfl
        refine .of_error ?_ hcls
        rw [run, Stateful.run_lift_bind_of_ok htemplates, Stateful.run_lift_bind_of_error hfailure]
      | false =>
        obtain ⟨dispatched, hafter, hends⟩ := runRounds_spec ⟨configuration, behaviour⟩ template
          configuration.maximumRevisionRounds 0 [] initial [] rfl
        have hrun := run_eq_runRounds ⟨configuration, behaviour⟩ htemplates hblank
        rw [List.nil_append] at hafter
        rw [← hafter, ← hrun] at hends
        exact .of_ends hends (ResearchAgentTaskAssignment.validateAssignment_iff.mp hinitial)
          (ResearchAgentTaskAssignment.validateAssignment_iff.mp htemplate) (h htemplates)

def sampleManager : ResearchAgentCapabilityProfile :=
  ⟨"manager", true, [.synthesisSpecialist, .qualityReviewer]⟩

def sampleAssignment (assignmentId : String) (assignee : ResearchAgentIdentity) :
    ResearchAgentTaskAssignment where
  assignmentId := assignmentId
  requestId := "request"
  workspaceId := "workspace"
  researchTaskId := none
  assignerProfile := sampleManager
  assignee := assignee
  requiredRole := assignee.role
  requiredCapabilities := []
  title := "title"
  objective := "objective"
  instructions := ["instruction"]
  inputs := []
  expectedOutputType := "research_report"
  acceptanceCriteria := ["criterion"]
  payloadKeys := []
  status := .created
  attemptNumber := 1
  maximumAttempts := 1
  parentAssignmentId := none
  metadata := []

def sampleSynthesis : ResearchAgentTaskAssignment :=
  sampleAssignment "synthesis" ⟨"synthesizer", .synthesisSpecialist⟩

def sampleReviewTemplate : ResearchAgentTaskAssignment :=
  sampleAssignment "review" ⟨"reviewer", .qualityReviewer⟩

def sampleConfiguration (maximumRevisionRounds : ℕ) : LoopConfiguration :=
  ⟨asciiCasefold, "synthesizer", "reviewer", maximumRevisionRounds⟩

theorem dispatchesValidWork_without_revisions :
    DispatchesValidWork ⟨sampleConfiguration 0, neverSatisfied⟩ sampleSynthesis
      sampleReviewTemplate :=
  (dispatchesValidWork_iff (by rfl) (by rfl)).mpr (fun _ => by decide) neverSatisfied

/-- With the default of two revisions the second review is handed out as attempt 2 of 1. -/
theorem default_attempts_exceeded :
    sampleSynthesis.validateAssignment asciiCasefold = .ok () ∧
      sampleReviewTemplate.validateAssignment asciiCasefold = .ok () ∧
      ¬DispatchesValidWork ⟨sampleConfiguration 2, neverSatisfied⟩ sampleSynthesis
        sampleReviewTemplate :=
  ⟨by rfl, by rfl, not_dispatchesValidWork_neverSatisfied _ (by rfl) (by decide)⟩

end ReviewRevisionLoop

end AgenticLab
