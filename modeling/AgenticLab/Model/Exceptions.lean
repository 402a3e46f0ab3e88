import AgenticLab.Library.Stateful

/-! # Exceptions raised by the modelled modules -/

namespace AgenticLab

universe u

/-- What `except` clauses tell apart about a class that is not the application's own. -/
inductive ExternalKind where
  | runtimeOrValueError
  | exception
  /-- `KeyboardInterrupt` and the like, which are no `Exception`. -/
  | baseException
  deriving DecidableEq, Repr

/-- The classes of `app/exceptions.py` and of the application services that the modelled functions
raise, with Python's own and pydantic's. -/
inductive ExceptionClass where
  | valueError
  | unicodeDecodeError
  | validationError
  | transparencyLogStateValidationError
  | transparencyLogStateExportError
  | transparencyLogReadError
  | transparencyLogValidationError
  | transparencyLogWriteError
  | transparencyLogDivergenceError
  | transparencyLogStateMismatchError
  | transparencyLogConflictError
  | rootTransitionTransparencyConflictError
  | signingKeyManifestTransparencyConflictError
  | unloggedRootTransitionError
  | unloggedSigningKeyManifestError
  | transparencyMerkleProofValidationError
  | overflowError
  | rootTransitionValidationError
  | rootTransitionMetadataMismatchError
  | rootTransitionDigestMismatchError
  | rootTransitionSignatureVerificationError
  | rootTransitionFromFutureError
  | rootTransitionExpiredError
  | rootTransitionNotYetValidError
  | activeManifestTrustStateBlocksRootTransitionError
  | missingRootTrustStateError
  | rootTrustStateValidationError
  | rootTrustStateExportError
  | rootTrustStateLockError
  | rootTrustStateReadError
  | rootTrustStateEpochError
  | rootTrustStateAlreadyExistsError
  | signingKeyManifestValidationError
  | signingKeyManifestMetadataMismatchError
  | signingKeyManifestDigestMismatchError
  | signingKeyManifestSignatureVerificationError
  | signingKeyManifestFromFutureError
  | signingKeyManifestNotYetValidError
  | signingKeyManifestExpiredError
  | signingKeyManifestRollbackError
  | manifestTrustStateValidationError
  | manifestTrustStateExportError
  | manifestTrustStateLockError
  | manifestTrustStateReadError
  | manifestTrustStatePathError
  | manifestTrustStateRootMismatchError
  | manifestTrustStateGenerationConflictError
  | manifestTrustStateRetirementError
  | missingManifestTrustStateError
  | applicationJobQueueServiceError
  | applicationJobNotQueueableError
  | applicationJobLeaseOwnershipError
  | applicationJobLeaseExpiredError
  | applicationJobAlreadyExistsError
  | applicationJobNotFoundError
  | applicationJobVersionConflictError
  | applicationCancellationServiceError
  | applicationCancellationAlreadyActiveError
  | applicationJobCannotBeCancelledError
  | applicationCancellationStateError
  | applicationCancellationAlreadyExistsError
  | applicationCancellationNotFoundError
  | applicationCancellationVersionConflictError
  | applicationRetrySchedulingServiceError
  | applicationJobNotRetryableError
  | applicationRetryAlreadyScheduledError
  | applicationIdempotencyServiceError
  | applicationIdempotencyConflictError
  | applicationIdempotencyInProgressError
  | applicationIdempotencyRetryNotAllowedError
  | applicationIdempotencyAlreadyExistsError
  | applicationIdempotencyNotFoundError
  | applicationIdempotencyVersionConflictError
  | applicationExecutionAlreadyExistsError
  | applicationExecutionNotFoundError
  | applicationExecutionVersionConflictError
  | applicationNestedTransactionError
  | applicationTransactionRollbackError
  | applicationResearchFlowStateError
  | applicationResearchExecutionServiceError
  | applicationResearchExecutionFailedError
  /-- A class of the code that a service calls. -/
  | external (name : String) (kind : ExternalKind)
  | runtimeError
  | planFactoryError
  | planLifecycleError
  | researchAgentRegistryError
  | researchAgentMessageAlreadyExistsError
  | researchAgentMessageNotFoundError
  | researchAgentDeliveryNotFoundError
  | researchAgentDeliveryAccessError
  | researchAgentDeliveryStateError
  | duplicateMemoryError
  | memoryNotFoundError
  | memoryServiceError
  | memoryPolicyRejectedError
  | memoryApprovalRequiredError
  | persistentVectorIndexLifecycleError
  | transparencyCheckpointReadError
  | transparencyCheckpointValidationError
  | transparencyCheckpointSignatureError
  | transparencyCheckpointExportError
  | transparencyCheckpointLogMismatchError
  | transparencyCheckpointStateReadError
  | transparencyCheckpointStateValidationError
  | transparencyCheckpointStateExportError
  | transparencyCheckpointStateLockError
  | transparencyCheckpointRollbackError
  | transparencyCheckpointSplitViewError
  | transparencyCheckpointConsistencyRequiredError
  | transparencyConsistencyProofMismatchError
  | transparencyWitnessConfigurationError
  | transparencyWitnessSignatureError
  | transparencyWitnessStateError
  | transparencyWitnessRollbackError
  | transparencyWitnessSplitViewError
  | transparencyWitnessEquivocationError
  | transparencyWitnessTrustStoreError
  | transparencyWitnessQuorumError
  | transparencyWitnessQuorumNotSatisfiedError
  | transparencySplitViewEvidenceError
  | transparencySplitViewEvidenceConflictError
  | transparencyGossipBundleConfigurationError
  | transparencyGossipBundleSignatureError
  | transparencyGossipBundleStructureError
  | transparencyGossipBundleConflictError
  | transparencyArtifactBindingError
  | transparencyOfflineVerificationError
  | invalidChecksumFormatError
  | invalidAuthenticationFormatError
  | persistentVectorIndexStorageError
  | reviewRevisionLoopError
  | noActiveAuthenticationKeyError
  | multipleActiveAuthenticationKeysError
  | invalidReportArchivePathError
  | reportArchiveExportError
  | reportIntegrityReadError
  | invalidArchiveAuthenticationFormatError
  | archiveAuthenticationReadError
  | archiveAuthenticationExportError
  | archiveSignatureValidationError
  | archiveSignatureReadError
  | archiveSignatureExportError
  | memoryLifecycleError
  | typeError
  | recursionError
  | osError
  | parsedDocumentCacheError
  | localDocumentAccessError
  | embeddingCacheError
  | embeddingProviderError
  | persistentCachePruneError
  | auditLogReadError
  | auditLogParseError
  | invalidAuditEventError
  | unsupportedAuditSchemaError
  | auditReportValidationError
  | boundedResearchPlanningLoopError
  | researchSynthesisError
  | answerCitationParseError
  | regressionEvaluationRunnerError
  | localHwpxTextExtractionError
  | keyError
  | notImplementedError
  | structuredClaimGenerationError
  | structuredResponseParseError
  | attemptBudgetExceededError
  | tokenBudgetExceededError
  | timeBudgetExceededError
  | stage9AcquisitionAwareResearchLoopError
  deriving DecidableEq, Repr

/-- Whether `except Exception` catches it. -/
def ExceptionClass.isException : ExceptionClass → Bool
  | external _ .baseException => false
  | _ => true

structure Raised where
  cls : ExceptionClass
  message : String
  deriving DecidableEq, Repr

/-- `if condition: raise failure` -/
def raiseIf (condition : Prop) [Decidable condition] (failure : Raised) : Except Raised Unit :=
  if condition then .error failure else .ok ()

variable {condition : Prop} {failure : Raised}

@[simp] theorem raiseIf_eq_ok [Decidable condition]
    {u : Unit} : raiseIf condition failure = .ok u ↔ ¬condition := by
  by_cases h : condition <;> simp [raiseIf, h]

variable {α β : Type u}

/-- What a sequence of calls that may raise has gone through when it returns. -/
theorem bind_eq_ok {x : Except Raised α} {f : α → Except Raised β} {b : β} :
    x >>= f = .ok b ↔ ∃ a, x = .ok a ∧ f a = .ok b := by
  cases x with
  | error failure => simp [bind, Except.bind]
  | ok a => simp [bind, Except.bind]

theorem raiseIf_bind_eq_ok {β : Type} [Decidable condition] {f : Unit → Except Raised β} {b : β} :
    raiseIf condition failure >>= f = .ok b ↔ ¬condition ∧ f () = .ok b := by
  by_cases h : condition <;> simp [raiseIf, h, bind, Except.bind]

theorem run_raiseIf_bind {σ β : Type} [Decidable condition]
    {f : Unit → Stateful σ Raised β} {s : σ} :
    ((liftM (raiseIf condition failure) : Stateful σ Raised Unit) >>= f) s =
      if condition then (.error failure, s) else f () s := by
  by_cases h : condition
  · have hraises : raiseIf condition failure = .error failure := if_pos h
    rw [if_pos h, Stateful.run_lift_bind_of_error hraises]
  · have hpasses : raiseIf condition failure = .ok () := if_neg h
    rw [if_neg h, Stateful.run_lift_bind_of_ok hpasses]

@[simp] theorem ok_bind (a : α) (f : α → Except Raised β) :
    (Except.ok a >>= f) = f a := rfl

@[simp] theorem error_bind (failure : Raised) (f : α → Except Raised β) :
    (Except.error failure >>= f) = .error failure := rfl

variable {α : Type u}

@[simp] theorem pure_eq_ok (a : α) : (pure a : Except Raised α) = .ok a := rfl

theorem bind_eq_error {α β : Type} {x : Except Raised α} {f : α → Except Raised β}
    {raised : Raised} :
    x >>= f = .error raised ↔ x = .error raised ∨ ∃ a, x = .ok a ∧ f a = .error raised := by
  cases x <;> simp

theorem raiseIf_eq_error [Decidable condition] {failure raised : Raised} :
    raiseIf condition failure = .error raised ↔ condition ∧ failure = raised := by
  by_cases h : condition <;> simp [raiseIf, h]

theorem mapM_eq_ok {α : Type*} {β : Type u} {f : α → Except Raised β} {r : α → β} {values : List α}
    (h : ∀ value ∈ values, f value = .ok (r value)) : values.mapM f = .ok (values.map r) := by
  induction values with
  | nil => rfl
  | cons value values ih =>
    obtain ⟨hvalue, hvalues⟩ := List.forall_mem_cons.mp h
    rw [List.mapM_cons, hvalue, ok_bind, ih hvalues]
    rfl

end AgenticLab
