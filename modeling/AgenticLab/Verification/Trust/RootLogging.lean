import AgenticLab.Verification.Log.Modes
import AgenticLab.Verification.Trust.Transition

/-! # What a refused root transition leaves behind -/

namespace AgenticLab.RootTrustState

open RootTransition TransparencyLog

variable {p : TrustPlatform}

/-- The application refuses a verified transition: an active manifest state blocks it, or it is
not yet valid. -/
def Refused (activeManifest : Option FileNode) (verified : RootTransitionVerificationResult) :
    Prop :=
  activeManifest.any FileNode.isPresent = true ∨ verified.isActiveForApplication = false

variable {files : RootTransitionFiles p.sha256} {applicationTime : UtcDatetime}
  {verified : RootTransitionVerificationResult}

theorem verifiedRootTransition_eq_ok {node : FileNode} {fault : Bool}
    (h : verifiedRootTransition p node files applicationTime fault = .ok verified) :
    ∃ currentState, loadRootTrustState p node = .ok (some currentState) ∧
      verifyRootTransition p files (trustedRootPublicKeyFromState currentState)
        currentState.currentRootEpoch applicationTime = .ok verified := by
  rw [verifiedRootTransition, raiseIf_bind_eq_ok] at h
  obtain ⟨stored, hload, h⟩ := bind_eq_ok.mp h.2
  cases stored with
  | none => cases h
  | some currentState => exact ⟨currentState, hload, h⟩

theorem buildRootTrustState_eq_error {epoch : PositiveInt} {keyId : KeyId}
    {publicKeyB64 : PublicKeyB64} {fingerprint : Sha256Digest}
    {lastTransition : Option Sha256Digest} {updatedAt : UtcDatetime} {failure : Raised}
    (h : buildRootTrustState p epoch keyId publicKeyB64 fingerprint lastTransition updatedAt =
      .error failure) : failure = payloadFailure := by
  unfold buildRootTrustState at h
  split_ifs at h
  exact (Except.error.inj h).symm

/-- On a verified transition the checks raise one of the two refusals exactly when the gate is
closed and nothing has failed before it. -/
theorem checkRootTransition_refuses_iff {node : FileNode}
    {reread : Option (RootTransitionManifestPayload p.sha256)}
    {activeManifest : Option FileNode} {fault : Option StateFault} {readFault : Bool}
    (h : verifiedRootTransition p node files applicationTime readFault = .ok verified) :
    (checkRootTransition p node files reread applicationTime activeManifest fault =
        .error activeManifestFailure ∨
      checkRootTransition p node files reread applicationTime activeManifest fault =
        .error notYetValidFailure) ↔
      fault ≠ some .lock ∧ fault ≠ some .read ∧ Refused activeManifest verified := by
  obtain ⟨currentState, hload, hverify⟩ := verifiedRootTransition_eq_ok h
  unfold checkRootTransition Refused
  by_cases hlock : fault = some .lock
  · simp [hlock, raiseIf, lockFailure, activeManifestFailure, notYetValidFailure]
  by_cases hread : fault = some .read
  · simp [hread, raiseIf, readFailure, activeManifestFailure, notYetValidFailure]
  by_cases hactive : activeManifest.any FileNode.isPresent = true
  · simp [hlock, hread, hload, hactive, raiseIf]
  by_cases hvalid : verified.isActiveForApplication = false
  · simp [hlock, hread, hload, hactive, hverify, hvalid, raiseIf]
  have hopen : verified.isActiveForApplication = true := by simpa using hvalid
  by_cases hepoch : verified.nextRootEpoch.val ≠ currentState.currentRootEpoch.val + 1
  · simp [hlock, hread, hload, hactive, hverify, hopen, hepoch, raiseIf, epochFailure,
      activeManifestFailure, notYetValidFailure]
  have hnext : verified.nextRootEpoch.val = currentState.currentRootEpoch.val + 1 :=
    not_not.mp hepoch
  cases reread with
  | none =>
    simp [hlock, hread, hload, hactive, hverify, hopen, hnext, raiseIf, rereadFailure, throw,
      throwThe, MonadExceptOf.throw, activeManifestFailure, notYetValidFailure]
  | some transition =>
    cases hbuild : buildRootTrustState p verified.nextRootEpoch verified.nextRootKeyId
        transition.nextRoot.publicKeyB64 verified.nextRootFingerprint
        (some verified.transitionSha256) applicationTime with
    | ok nextState =>
      simp [hlock, hread, hload, hactive, hverify, hopen, hnext, raiseIf, hbuild]
    | error failure =>
      obtain rfl := buildRootTrustState_eq_error hbuild
      simp [hlock, hread, hload, hactive, hverify, hopen, hnext, raiseIf, hbuild,
        payloadFailure, activeManifestFailure, notYetValidFailure]

/-! ## Both stores -/

/-- A registering call that raises one of the two refusals leaves both stores as they were. -/
def AllOrNothing (p : TrustPlatform) (disk : RootDisk) (files : RootTransitionFiles p.sha256)
    (applicationTime : UtcDatetime) (activeManifest : Option FileNode) (faults : RootFaults) :
    Prop :=
  ∀ failure, (applyRootTransitionWithTransparency p disk files applicationTime activeManifest
      .registerIfMissing faults).1 = .error failure →
    failure = activeManifestFailure ∨ failure = notYetValidFailure →
      (applyRootTransitionWithTransparency p disk files applicationTime activeManifest
        .registerIfMissing faults).2 = disk

/-- The call appends the transition's entry and gets to a closed gate behind it. -/
structure RegistersRefused (p : TrustPlatform) (disk : RootDisk)
    (files : RootTransitionFiles p.sha256) (applicationTime : UtcDatetime)
    (activeManifest : Option FileNode) (faults : RootFaults)
    (verified : RootTransitionVerificationResult) : Prop where
  verifies : verifiedRootTransition p disk.rootState files applicationTime faults.read =
    .ok verified
  appends : ∃ pending, pendingAppend? p.toPlatform disk.log
    (transparencyArtifactFromVerifiedRootTransition verified) applicationTime = some pending
  undisturbed : faults.log = none
  unlocked : faults.apply ≠ some .lock
  readable : faults.apply ≠ some .read
  refused : Refused activeManifest verified

section

variable {disk : RootDisk} {files : RootTransitionFiles p.sha256} {applicationTime : UtcDatetime}
  {activeManifest : Option FileNode} {faults : RootFaults}
  {verified : RootTransitionVerificationResult}
  {reread : Option (RootTransitionManifestPayload p.sha256)} {fault : Option StateFault}
  {failure : Raised}

theorem applyRootTransition_of_error {node : FileNode}
    (h : checkRootTransition p node files reread applicationTime activeManifest fault =
      .error failure) :
    applyRootTransition p node files reread applicationTime activeManifest fault =
      (.error failure, node) := by
  rw [applyRootTransition, h]

theorem checkRootTransition_of_applyRootTransition {node : FileNode}
    (h : (applyRootTransition p node files reread applicationTime activeManifest fault).1 =
      .error failure)
    (hrefusal : failure = activeManifestFailure ∨ failure = notYetValidFailure) :
    checkRootTransition p node files reread applicationTime activeManifest fault =
      .error failure := by
  unfold applyRootTransition at h
  cases hcheck : checkRootTransition p node files reread applicationTime activeManifest fault with
  | error raised =>
    rw [hcheck] at h
    exact congrArg Except.error (Except.error.inj h)
  | ok checked =>
    rw [hcheck] at h
    dsimp only at h
    cases hexport : (exportRootTrustState p node checked.2 (StateFault.replace? fault)).1 with
    | ok _ =>
      rw [hexport] at h
      cases h
    | error raised =>
      rw [hexport] at h
      obtain rfl : raised = failure := Except.error.inj h
      rcases StateFormat.exportTo_eq_error hexport with rfl | rfl | hvalue
      · simp [rootTrustStateFormat, validationFailure, activeManifestFailure,
          notYetValidFailure] at hrefusal
      · simp [rootTrustStateFormat, exportFailure, activeManifestFailure,
          notYetValidFailure] at hrefusal
      · rcases hrefusal with rfl | rfl <;> cases hvalue

theorem applyRootTransitionWithTransparency_of_verified (activeManifest : Option FileNode)
    (h : verifiedRootTransition p disk.rootState files applicationTime faults.read = .ok verified) :
    applyRootTransitionWithTransparency p disk files applicationTime activeManifest
        .registerIfMissing faults =
      match registerVerifiedArtifact p.toPlatform disk.log
          (transparencyArtifactFromVerifiedRootTransition verified) applicationTime faults.log with
      | (.error failure, log) => (.error failure, ⟨disk.rootState, log⟩)
      | (.ok _, log) =>
        ((applyRootTransition p disk.rootState files files.transition.toOption applicationTime
          activeManifest faults.apply).1,
          ⟨(applyRootTransition p disk.rootState files files.transition.toOption applicationTime
            activeManifest faults.apply).2, log⟩) := by
  unfold applyRootTransitionWithTransparency inclusionForMode
  rw [h]
  dsimp only
  cases registerVerifiedArtifact p.toPlatform disk.log
      (transparencyArtifactFromVerifiedRootTransition verified) applicationTime faults.log with
  | mk result log => cases result <;> rfl

theorem registerVerifiedArtifact_ne {artifact : VerifiedTransparencyArtifact} {log : LogFiles}
    {recordedAt : UtcDatetime} {pending : Entry × List UInt8}
    (h : pendingAppend? p.toPlatform log artifact recordedAt = some pending) :
    (registerVerifiedArtifact p.toPlatform log artifact recordedAt none).2 ≠ log := by
  intro hsame
  obtain ⟨entries, hfiles, _, _, hafter⟩ := registerVerifiedArtifact_of_pending h
  rw [hsame] at hafter
  have hresult := (verify_eq_ok_of_represents hfiles).symm.trans (verify_eq_ok_of_represents hafter)
  have hcount := congrArg TransparencyLogVerificationResult.entryCount (Except.ok.inj hresult)
  rw [resultOf_entryCount, resultOf_entryCount, List.length_append] at hcount
  simp at hcount

theorem refusal_not_writeFault (h : IsWriteFault failure) :
    ¬(failure = activeManifestFailure ∨ failure = notYetValidFailure) := by
  rcases h with rfl | rfl | rfl <;> decide

theorem RegistersRefused.leaves_entry
    (h : RegistersRefused p disk files applicationTime activeManifest faults verified) :
    ¬AllOrNothing p disk files applicationTime activeManifest faults := by
  intro hall
  obtain ⟨pending, hpending⟩ := h.appends
  obtain ⟨_, _, _, hregistered, _⟩ := registerVerifiedArtifact_of_pending hpending
  have hne := registerVerifiedArtifact_ne hpending
  have hcall := applyRootTransitionWithTransparency_of_verified activeManifest h.verifies
  rw [h.undisturbed] at hcall
  cases hregister : registerVerifiedArtifact p.toPlatform disk.log
      (transparencyArtifactFromVerifiedRootTransition verified) applicationTime none with
  | mk result log =>
    rw [hregister] at hregistered hne hcall
    obtain rfl : result = .ok _ := hregistered
    rcases (checkRootTransition_refuses_iff h.verifies).mpr ⟨h.unlocked, h.readable, h.refused⟩
      with hcheck | hcheck
    all_goals
      rw [applyRootTransition_of_error hcheck] at hcall
      have hdisk := hall _ (congrArg Prod.fst hcall) (by simp)
      rw [hcall] at hdisk
      exact hne (congrArg RootDisk.log hdisk)

end

/-- A refused transition leaves both stores alone exactly when its entry is not appended before
the gate is found closed. -/
theorem applyRootTransitionWithTransparency_allOrNothing_iff (p : TrustPlatform) (disk : RootDisk)
    (files : RootTransitionFiles p.sha256) (applicationTime : UtcDatetime)
    (activeManifest : Option FileNode) (faults : RootFaults) :
    AllOrNothing p disk files applicationTime activeManifest faults ↔
      ∀ verified, ¬RegistersRefused p disk files applicationTime activeManifest faults verified := by
  constructor
  · intro h verified hregisters
    exact hregisters.leaves_entry h
  · intro h failure hfailure hrefusal
    cases hverified : verifiedRootTransition p disk.rootState files applicationTime
        faults.read with
    | error raised =>
      unfold applyRootTransitionWithTransparency
      rw [hverified]
    | ok verified =>
      rw [applyRootTransitionWithTransparency_of_verified _ hverified] at hfailure ⊢
      cases hregister : registerVerifiedArtifact p.toPlatform disk.log
          (transparencyArtifactFromVerifiedRootTransition verified) applicationTime
          faults.log with
      | mk result log =>
        rw [hregister] at hfailure
        rcases registerVerifiedArtifact_unchanged with hlog | ⟨hlock, hread, pending, hpending⟩
        · rw [hregister] at hlog
          obtain rfl : log = disk.log := hlog
          cases result with
          | error raised => rfl
          | ok appended =>
            have hcheck := checkRootTransition_of_applyRootTransition hfailure hrefusal
            exact congrArg (RootDisk.mk · disk.log)
              (congrArg Prod.snd (applyRootTransition_of_error hcheck))
        · by_cases hfault : faults.log = none
          · cases result with
            | error raised =>
              obtain ⟨_, _, _, hregistered, _⟩ := registerVerifiedArtifact_of_pending hpending
              rw [← hfault, hregister] at hregistered
              cases hregistered
            | ok appended =>
              have hcheck := checkRootTransition_of_applyRootTransition hfailure hrefusal
              have hrefuses := (checkRootTransition_refuses_iff hverified).mp
                (hrefusal.imp (fun heq => heq ▸ hcheck) (fun heq => heq ▸ hcheck))
              exact absurd ⟨hverified, ⟨pending, hpending⟩, hfault, hrefuses.1,
                hrefuses.2.1, hrefuses.2.2⟩ (h verified)
          · obtain ⟨raised, hraised, hwrite⟩ :=
              registerVerifiedArtifact_of_fault hpending hlock hread hfault
            rw [hregister] at hraised
            obtain rfl : result = .error raised := hraised
            obtain rfl : raised = failure := Except.error.inj hfailure
            exact absurd hrefusal (refusal_not_writeFault hwrite)

def sampleVerifiedTransition : RootTransitionVerificationResult :=
  verificationResult sampleTransitionManifest
    (transitionDigest hashlibSha256 sampleTransitionCanonical) TransparencyLog.sampleTime

theorem sampleVerifiedTransition_pending :
    ∃ pending, pendingAppend? transitionPlatform.toPlatform ⟨.absent, .absent⟩
      (transparencyArtifactFromVerifiedRootTransition sampleVerifiedTransition)
      TransparencyLog.sampleTime = some pending := by
  have h : fitsFirst utcDatetimes
      { transparencyArtifactFromVerifiedRootTransition sampleVerifiedTransition with
        artifactSha256 := zeroDigest.val } TransparencyLog.sampleTime = true := by decide +kernel
  have hdigest : (transparencyArtifactFromVerifiedRootTransition
      sampleVerifiedTransition).artifactSha256 =
        sampleVerifiedTransition.transitionSha256.val := rfl
  exact exists_pendingAppend? (p := transitionPlatform.toPlatform) hdigest h

theorem verifiedRootTransition_sample :
    verifiedRootTransition transitionPlatform sampleRootNode sampleTransitionFiles
      TransparencyLog.sampleTime false = .ok sampleVerifiedTransition := by
  have htime : validateTransitionTimePolicy sampleTransitionManifest samplePreviousSignature
      sampleNextSignature TransparencyLog.sampleTime = .ok () := by decide +kernel
  refine raiseIf_bind_eq_ok.mpr ⟨nofun, ?_⟩
  exact bind_eq_ok.mpr ⟨some sampleRootState,
    loadRootTrustState_sampleRootNode sampleTransitionSignatures,
    verifyRootTransition_sample htime⟩

/-- A transition that is not yet valid is refused, and is in the log. -/
theorem early_transition_is_logged :
    ¬AllOrNothing transitionPlatform ⟨sampleRootNode, .absent, .absent⟩ sampleTransitionFiles
      TransparencyLog.sampleTime none ⟨false, none, none⟩ := by
  have h : RegistersRefused transitionPlatform ⟨sampleRootNode, .absent, .absent⟩
      sampleTransitionFiles TransparencyLog.sampleTime none ⟨false, none, none⟩
      sampleVerifiedTransition :=
    ⟨verifiedRootTransition_sample, sampleVerifiedTransition_pending, rfl, nofun, nofun,
      .inr (by decide +kernel)⟩
  exact h.leaves_entry

end AgenticLab.RootTrustState
