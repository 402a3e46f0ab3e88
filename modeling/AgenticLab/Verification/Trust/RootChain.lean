import Mathlib.Data.List.Chain
import AgenticLab.Library.Runs
import AgenticLab.Verification.Trust.Transition

/-! # The chain of roots over whole runs -/

namespace AgenticLab.RootTrustState

open RootTransition

section

variable (p : TrustPlatform)

/-- The calls on one state path. The two readings of a transition file may differ. -/
inductive RootAction where
  | initializeState (rootPublicKey : TrustedRootSigningPublicKey p.sha256) (rootEpoch : ℤ)
      (initializedAt : UtcDatetime) (fault : Option StateFault)
  | apply (files : RootTransitionFiles p.sha256)
      (reread : Option (RootTransitionManifestPayload p.sha256)) (applicationTime : UtcDatetime)
      (activeManifest : Option FileNode) (fault : Option StateFault)

variable {p}

def RootAction.fault : RootAction p → Option StateFault
  | .initializeState _ _ _ fault => fault
  | .apply _ _ _ _ fault => fault

def RootAction.isInitial : RootAction p → Bool
  | .initializeState .. => true
  | .apply .. => false

def RootAction.call (node : FileNode) : RootAction p → Except Raised Unit × FileNode
  | .initializeState rootPublicKey rootEpoch initializedAt fault =>
    let (result, after) :=
      initializeRootTrustState p node rootPublicKey rootEpoch initializedAt fault
    (result.map fun _ => (), after)
  | .apply files reread applicationTime activeManifest fault =>
    let (result, after) :=
      applyRootTransition p node files reread applicationTime activeManifest fault
    (result.map fun _ => (), after)

variable (p)

/-- The state file, the states it has held, and the number of successful initialisations. -/
structure RootRun where
  node : FileNode
  stored : List (RootTrustStatePayload p.sha256)
  initialised : ℕ

def heldStates (node : FileNode) : List (RootTrustStatePayload p.sha256) :=
  match loadRootTrustState p node with
  | .ok (some state) => [state]
  | _ => []

def RootRun.start (node : FileNode) : RootRun p := ⟨node, heldStates p node, 0⟩

def RootRun.step (s : RootRun p) (action : RootAction p) : RootRun p :=
  let (result, after) := action.call s.node
  { node := after
    stored := if after = s.node then s.stored else s.stored ++ heldStates p after
    initialised := if action.isInitial && result.isOk then s.initialised + 1 else s.initialised }

end

/-! ## One call -/

section

variable {p : TrustPlatform}

def CollisionFree : RootAction p → Prop
  | .apply files (some reread) _ _ _ => ∀ transition, files.transition = .ok transition →
      fingerprintPublicKey p.sha256 transition.nextRoot.publicKeyB64.bytes =
        fingerprintPublicKey p.sha256 reread.nextRoot.publicKeyB64.bytes →
      transition.nextRoot.publicKeyB64.bytes = reread.nextRoot.publicKeyB64.bytes
  | _ => True

/-- Behind the old state stands a new one, of the next epoch, with a key that a transition names
which the old and the new key have signed. -/
structure CrossSigned (p : TrustPlatform) (Signed : List UInt8 → List UInt8 → Prop)
    (old new : RootTrustStatePayload p.sha256) : Prop where
  epoch : new.currentRootEpoch.val = old.currentRootEpoch.val + 1
  transition : ∃ (transition : RootTransitionManifestPayload p.sha256) (canonical : List UInt8),
    canonicalizeRootTransition p.datetimes transition = .ok canonical ∧
    (transition.previousRoot.epoch = old.currentRootEpoch ∧
      transition.previousRoot.keyId = old.currentRootKeyId ∧
      transition.previousRoot.publicKeyB64.bytes = old.currentRootPublicKeyB64.bytes) ∧
    (transition.nextRoot.epoch = new.currentRootEpoch ∧
      transition.nextRoot.keyId = new.currentRootKeyId ∧
      transition.nextRoot.publicKeyB64.bytes = new.currentRootPublicKeyB64.bytes) ∧
    Signed old.currentRootPublicKeyB64.bytes (signatureMessageForTransition transition canonical
      (transitionDigest p.sha256 canonical)) ∧
    Signed new.currentRootPublicKeyB64.bytes (signatureMessageForTransition transition canonical
      (transitionDigest p.sha256 canonical))

variable {epoch : PositiveInt} {publicKeyB64 : PublicKeyB64} {fingerprint : Sha256Digest}
  {lastTransition : Option Sha256Digest} {updatedAt : UtcDatetime}

theorem buildRootTrustState_of_fingerprint {keyId : KeyId}
    (h : fingerprint = fingerprintPublicKey p.sha256 publicKeyB64.bytes) :
    buildRootTrustState p epoch keyId publicKeyB64 fingerprint lastTransition updatedAt = .ok {
      currentRootEpoch := epoch
      currentRootKeyId := keyId
      currentRootPublicKeyB64 := publicKeyB64
      currentRootPublicKeyFingerprint := fingerprint
      lastTransitionGeneration := if lastTransition.isSome then rootTransitionGeneration else 0
      lastTransitionSha256 := lastTransition
      updatedAt := updatedAt
      fingerprint_eq := h
      digest_iff := by cases lastTransition <;> simp [rootTransitionGeneration] } := by
  rw [buildRootTrustState, dif_pos h]

variable {state : RootTrustStatePayload p.sha256}

theorem buildRootTrustState_eq_ok {keyId : KeyId}
    (h : buildRootTrustState p epoch keyId publicKeyB64 fingerprint lastTransition updatedAt =
      .ok state) :
    fingerprint = fingerprintPublicKey p.sha256 publicKeyB64.bytes ∧
      state.currentRootEpoch = epoch ∧ state.currentRootKeyId = keyId ∧
      state.currentRootPublicKeyB64 = publicKeyB64 := by
  by_cases hfingerprint : fingerprint = fingerprintPublicKey p.sha256 publicKeyB64.bytes
  · rw [buildRootTrustState_of_fingerprint hfingerprint] at h
    obtain rfl := Except.ok.inj h
    exact ⟨hfingerprint, rfl, rfl, rfl⟩
  · rw [buildRootTrustState, dif_neg hfingerprint] at h
    cases h

variable {node : FileNode} {files : RootTransitionFiles p.sha256}
  {reread : Option (RootTransitionManifestPayload p.sha256)} {applicationTime : UtcDatetime}
  {activeManifest : Option FileNode} {fault : Option StateFault}
  {result : RootTransitionVerificationResult} {new : RootTrustStatePayload p.sha256}

theorem checkRootTransition_eq_ok
    (h : checkRootTransition p node files reread applicationTime activeManifest fault =
      .ok (result, new)) :
    ∃ old again, loadRootTrustState p node = .ok (some old) ∧ reread = some again ∧
      verifyRootTransition p files (trustedRootPublicKeyFromState old) old.currentRootEpoch
        applicationTime = .ok result ∧
      result.nextRootEpoch.val = old.currentRootEpoch.val + 1 ∧
      buildRootTrustState p result.nextRootEpoch result.nextRootKeyId
        again.nextRoot.publicKeyB64 result.nextRootFingerprint (some result.transitionSha256)
        applicationTime = .ok new := by
  unfold checkRootTransition at h
  obtain ⟨_, h⟩ := raiseIf_bind_eq_ok.mp h
  obtain ⟨_, h⟩ := raiseIf_bind_eq_ok.mp h
  obtain ⟨stored, hload, h⟩ := bind_eq_ok.mp h
  cases stored with
  | none => cases h
  | some old =>
    obtain ⟨_, h⟩ := raiseIf_bind_eq_ok.mp h
    obtain ⟨verified, hverify, h⟩ := bind_eq_ok.mp h
    obtain ⟨_, h⟩ := raiseIf_bind_eq_ok.mp h
    obtain ⟨hepoch, h⟩ := raiseIf_bind_eq_ok.mp h
    cases reread with
    | none => cases h
    | some again =>
      obtain ⟨state, hbuild, h⟩ := bind_eq_ok.mp h
      obtain ⟨rfl, rfl⟩ := Prod.mk.inj (Except.ok.inj h)
      exact ⟨old, again, hload, rfl, hverify, not_not.mp hepoch, hbuild⟩

variable {Signed : List UInt8 → List UInt8 → Prop}

theorem crossSigned_of_check
    (hunforgeable : ∀ publicKey signature message,
      p.ed25519.verify publicKey signature message = true → Signed publicKey message)
    (hcollision : CollisionFree (.apply files reread applicationTime activeManifest fault))
    (h : checkRootTransition p node files reread applicationTime activeManifest fault =
      .ok (result, new)) :
    ∃ old, loadRootTrustState p node = .ok (some old) ∧ CrossSigned p Signed old new := by
  obtain ⟨old, again, hload, rfl, hverify, hepoch, hbuild⟩ := checkRootTransition_eq_ok h
  obtain ⟨transition, previousSignature, nextSignature, canonical, htransition, _, _, hchecks,
    rfl⟩ := verifyRootTransition_eq_ok hverify
  obtain ⟨hfingerprint, hnewEpoch, hnewKeyId, hnewKey⟩ := buildRootTrustState_eq_ok hbuild
  have hkey : transition.nextRoot.publicKeyB64.bytes = new.currentRootPublicKeyB64.bytes := by
    rw [hnewKey]
    exact hcollision transition htransition
      (transition.nextRoot.fingerprint_eq.symm.trans hfingerprint)
  refine ⟨old, hload, ?_, transition, canonical, hchecks.canonicalizes,
    ⟨hchecks.epoch, hchecks.keyId, hchecks.publicKey⟩, ⟨hnewEpoch.symm, hnewKeyId.symm, hkey⟩,
    hunforgeable _ _ _ hchecks.previousSigned, ?_⟩
  · rw [hnewEpoch]
    exact hepoch
  · rw [← hkey]
    exact hunforgeable _ _ _ hchecks.nextSigned

/-- What a call does: it raises and leaves the file alone, or it puts a state in place, raising
behind that only when the directory cannot be synced. -/
inductive CallOutcome (p : TrustPlatform) (Signed : List UInt8 → List UInt8 → Prop)
    (node : FileNode) (action : RootAction p) : Except Raised Unit × FileNode → Prop
  | refused {failure : Raised} : CallOutcome p Signed node action (.error failure, node)
  | created {result : Except Raised Unit} {after : FileNode}
      {new : RootTrustStatePayload p.sha256} : action.isInitial = true →
      loadRootTrustState p node = .ok none → loadRootTrustState p after = .ok (some new) →
      (result = .ok () ↔ StateFault.replace? action.fault = none) →
      StateFault.replace? action.fault ≠ some .beforeReplace →
      CallOutcome p Signed node action (result, after)
  | applied {result : Except Raised Unit} {after : FileNode}
      {old new : RootTrustStatePayload p.sha256} : action.isInitial = false →
      loadRootTrustState p node = .ok (some old) → loadRootTrustState p after = .ok (some new) →
      CrossSigned p Signed old new →
      (result = .ok () ↔ StateFault.replace? action.fault = none) →
      StateFault.replace? action.fault ≠ some .beforeReplace →
      CallOutcome p Signed node action (result, after)

theorem map_export_eq_ok {α : Type} {exported : Except Raised Unit} {value : α} :
    ((do
      exported
      return value : Except Raised α).map fun _ => ()) = .ok () ↔ exported = .ok () := by
  cases exported <;> simp [Except.map]

theorem RootAction.outcome
    (hunforgeable : ∀ publicKey signature message,
      p.ed25519.verify publicKey signature message = true → Signed publicKey message)
    (action : RootAction p) (hcollision : CollisionFree action) (node : FileNode) :
    CallOutcome p Signed node action (action.call node) := by
  have hlawful := rootTrustStateFormat_lawful p.sha256 p.datetimes
  cases action with
  | initializeState rootPublicKey rootEpoch initializedAt fault =>
    unfold RootAction.call initializeRootTrustState
    dsimp only
    split
    · exact .refused
    · rename_i state hbuilt
      obtain ⟨_, hbuilt⟩ := raiseIf_bind_eq_ok.mp hbuilt
      obtain ⟨_, hbuilt⟩ := raiseIf_bind_eq_ok.mp hbuilt
      obtain ⟨existing, hload, hbuilt⟩ := bind_eq_ok.mp hbuilt
      obtain ⟨hexisting, _⟩ := raiseIf_bind_eq_ok.mp hbuilt
      obtain rfl : existing = none := by simpa using hexisting
      rcases hlawful.exportTo_cases node state (StateFault.replace? fault) with
        ⟨⟨failure, hraised⟩, hsame⟩ | ⟨hreplaced, hok, hstored⟩
      · rw [exportRootTrustState, hraised, hsame]
        exact .refused
      · exact .created rfl hload hstored (map_export_eq_ok.trans hok) hreplaced
  | apply files reread applicationTime activeManifest fault =>
    unfold RootAction.call applyRootTransition
    dsimp only
    split
    · exact .refused
    · rename_i result new hcheck
      obtain ⟨old, hload, hsigned⟩ := crossSigned_of_check hunforgeable hcollision hcheck
      rcases hlawful.exportTo_cases node new (StateFault.replace? fault) with
        ⟨⟨failure, hraised⟩, hsame⟩ | ⟨hreplaced, hok, hstored⟩
      · rw [exportRootTrustState, hraised, hsame]
        exact .refused
      · exact .applied rfl hload hstored hsigned (map_export_eq_ok.trans hok) hreplaced

/-- The states of the run form a chain that ends in the stored one, and a state is stored for good
once one was. -/
structure ChainInvariant (p : TrustPlatform) (Signed : List UInt8 → List UInt8 → Prop)
    (s : RootRun p) : Prop where
  chained : s.stored.IsChain (CrossSigned p Signed)
  last : ∀ state, loadRootTrustState p s.node = .ok (some state) → s.stored.getLast? = some state
  present : s.stored ≠ [] → ∃ state, loadRootTrustState p s.node = .ok (some state)
  once : s.initialised = 0 ∨ (s.initialised = 1 ∧ s.stored ≠ [])

theorem heldStates_of_load
    (h : loadRootTrustState p node = .ok (some state)) : heldStates p node = [state] := by
  rw [heldStates, h]

theorem chainInvariant_start (Signed : List UInt8 → List UInt8 → Prop) (node : FileNode) :
    ChainInvariant p Signed (RootRun.start p node) := by
  refine ⟨?_, ?_, ?_, .inl rfl⟩
  · unfold RootRun.start heldStates
    dsimp only
    split
    · exact List.isChain_singleton _
    · exact List.isChain_nil
  · intro state hload
    have hheld : heldStates p node = [state] := heldStates_of_load hload
    rw [RootRun.start, hheld]
    rfl
  · intro hne
    unfold RootRun.start heldStates at hne
    dsimp only at hne
    split at hne
    · rename_i state hload
      exact ⟨state, hload⟩
    · exact absurd rfl hne

theorem ChainInvariant.extend {s : RootRun p} (h : ChainInvariant p Signed s) {after : FileNode}
    (hafter : loadRootTrustState p after = .ok (some new))
    (hfits : ∀ old, s.stored.getLast? = some old → CrossSigned p Signed old new) {count : ℕ}
    (hcount : count ≤ 1) :
    ChainInvariant p Signed ⟨after, s.stored ++ heldStates p after, count⟩ := by
  rw [heldStates_of_load hafter]
  refine ⟨?_, ?_, ?_, ?_⟩
  · rw [List.isChain_append]
    refine ⟨h.chained, List.isChain_singleton _, ?_⟩
    intro old hold state hstate
    obtain rfl : new = state := by simpa using hstate
    exact hfits old hold
  · intro state hload
    obtain rfl := Option.some.inj (Except.ok.inj (hafter.symm.trans hload))
    simp
  · intro _
    exact ⟨new, hafter⟩
  · have hne : s.stored ++ [new] ≠ [] := by simp
    rcases Nat.le_one_iff_eq_zero_or_eq_one.mp hcount with hzero | hone
    · exact .inl hzero
    · exact .inr ⟨hone, hne⟩

theorem ChainInvariant.step
    (hunforgeable : ∀ publicKey signature message,
      p.ed25519.verify publicKey signature message = true → Signed publicKey message)
    {s : RootRun p} (h : ChainInvariant p Signed s) (action : RootAction p)
    (hcollision : CollisionFree action) : ChainInvariant p Signed (s.step p action) := by
  have houtcome := action.outcome hunforgeable hcollision s.node
  unfold RootRun.step
  cases hcall : action.call s.node with
  | mk result after =>
    rw [hcall] at houtcome
    dsimp only
    cases houtcome with
    | refused => simpa [Except.isOk, Except.toBool] using h
    | @created _ _ new _ hload hafter _ _ =>
      have hempty : s.stored = [] := by
        by_contra hne
        obtain ⟨state, hstate⟩ := h.present hne
        rw [hload] at hstate
        cases hstate
      have hne : after ≠ s.node := by
        rintro rfl
        rw [hload] at hafter
        cases hafter
      have hzero : s.initialised = 0 := h.once.resolve_right fun hone => hone.2 hempty
      rw [if_neg hne]
      apply h.extend hafter
      · intro old hold
        rw [hempty] at hold
        cases hold
      · split_ifs <;> omega
    | @applied _ _ old new hkind hload hafter hsigned _ _ =>
      have hne : after ≠ s.node := by
        rintro rfl
        obtain rfl := Option.some.inj (Except.ok.inj (hload.symm.trans hafter))
        exact absurd hsigned.epoch (by omega)
      rw [if_neg hne, hkind]
      apply h.extend hafter
      · intro state hstate
        obtain rfl := Option.some.inj ((h.last old hload).symm.trans hstate)
        exact hsigned
      · rcases h.once with hzero | ⟨hone, _⟩
        · exact hzero.le.trans (Nat.zero_le _)
        · exact hone.le

end

/-- In every run each state behind another is cross-signed by both keys and of the next epoch, the
file holds the last one, at most one initialisation succeeds, and a call that raises leaves the
file alone unless it was the directory that could not be synced behind the replacement. -/
theorem rootTrustState_chain {p : TrustPlatform} {Signed : List UInt8 → List UInt8 → Prop}
    (hunforgeable : ∀ publicKey signature message,
      p.ed25519.verify publicKey signature message = true → Signed publicKey message)
    {node : FileNode} {s : RootRun p}
    (h : Runs.Reachable (RootRun.step p) (fun _ action => CollisionFree action)
      (RootRun.start p node) s) :
    s.stored.IsChain (CrossSigned p Signed) ∧
      (∀ state, loadRootTrustState p s.node = .ok (some state) → s.stored.getLast? = some state) ∧
      s.initialised ≤ 1 ∧
      ∀ (action : RootAction p) failure,
        CollisionFree action → (action.call s.node).1 = .error failure →
        StateFault.replace? action.fault ≠ some .afterReplace →
          (action.call s.node).2 = s.node := by
  have hinv := h.invariant (ChainInvariant p Signed) (chainInvariant_start Signed node)
    fun _ action hinv hcollision => hinv.step hunforgeable action hcollision
  refine ⟨hinv.chained, hinv.last, ?_, ?_⟩
  · rcases hinv.once with hzero | ⟨hone, _⟩
    · exact hzero.le.trans (Nat.zero_le _)
    · exact hone.le
  · intro action failure hcollision hfailure hsynced
    have houtcome := action.outcome hunforgeable hcollision s.node
    cases hcall : action.call s.node with
    | mk result after =>
      rw [hcall] at houtcome hfailure
      obtain rfl : result = .error failure := hfailure
      have hreturns : ¬((.error failure : Except Raised Unit) = .ok () ↔
            StateFault.replace? action.fault = none) ∨
          StateFault.replace? action.fault = some .beforeReplace := by
        rcases hfault : StateFault.replace? action.fault with _ | fault
        · exact .inl (by simp)
        · cases fault with
          | beforeReplace => exact .inr rfl
          | afterReplace => exact absurd hfault hsynced
      cases houtcome with
      | refused => rfl
      | created _ _ _ hok hreplaced =>
        exact absurd hreturns (not_or.mpr ⟨not_not.mpr hok, hreplaced⟩)
      | applied _ _ _ _ hok hreplaced =>
        exact absurd hreturns (not_or.mpr ⟨not_not.mpr hok, hreplaced⟩)

/-! ## Two roots in a row -/

theorem buildInitialRootTrustState_sample :
    buildInitialRootTrustState transitionPlatform (trustedRootPublicKeyFromState sampleRootState) 1
      sampleRootState.updatedAt = .ok sampleRootState := by
  have hepoch : positiveInt? 1 = some ⟨1, by decide⟩ := rfl
  have hkey : publicKeyB64? (String.ofList
      (b64encode (trustedRootPublicKeyFromState sampleRootState).publicKeyBytes)) =
        some sampleRootState.currentRootPublicKeyB64 := by decide +kernel
  unfold buildInitialRootTrustState
  simp only [hepoch, hkey]
  exact buildRootTrustState_of_fingerprint rfl

variable {p : TrustPlatform} {state : RootTrustStatePayload p.sha256}

theorem initializeRootTrustState_of_build {rootPublicKey : TrustedRootSigningPublicKey p.sha256}
    {rootEpoch : ℤ} {initializedAt : UtcDatetime}
    (hbuild : buildInitialRootTrustState p rootPublicKey rootEpoch initializedAt = .ok state)
    (fault : Option ReplaceFault) :
    initializeRootTrustState p .absent rootPublicKey rootEpoch initializedAt
        (fault.map .replace) =
      ((do
        (exportRootTrustState p .absent state fault).1
        return state), (exportRootTrustState p .absent state fault).2) := by
  have hload : loadRootTrustState p .absent = .ok none := rfl
  have hreplace : StateFault.replace? (fault.map .replace) = fault := by cases fault <;> rfl
  have hlock : fault.map StateFault.replace ≠ some .lock := by cases fault <;> simp
  have hread : fault.map StateFault.replace ≠ some .read := by cases fault <;> simp
  simp [initializeRootTrustState, raiseIf, hlock, hread, hload, hbuild, hreplace]

theorem initialize_sample (fault : Option ReplaceFault) (hfault : fault ≠ some .beforeReplace) :
    (RootAction.initializeState (trustedRootPublicKeyFromState sampleRootState) 1
        sampleRootState.updatedAt (fault.map .replace) : RootAction transitionPlatform).call
      .absent =
      (match fault with
        | none => .ok ()
        | some _ => .error exportFailure, sampleRootNode) := by
  have htext : (rootTrustStateFormat hashlibSha256 utcDatetimes).text sampleRootState = .ok _ :=
    jsonDumps_eq_ok.mpr ⟨rfl, rfl⟩
  have hnode : sampleRootNode = .regular (TextFile.encode (_ ++ ['\n'])) :=
    congrArg Prod.snd (StateFormat.exportTo_of_text rfl htext none)
  have hexport : exportRootTrustState transitionPlatform .absent sampleRootState fault = _ :=
    StateFormat.exportTo_of_text rfl htext fault
  rw [RootAction.call, initializeRootTrustState_of_build buildInitialRootTrustState_sample, hexport,
    hnode]
  cases fault with
  | none => rfl
  | some fault =>
    cases fault with
    | beforeReplace => exact absurd rfl hfault
    | afterReplace => rfl

/-- The initialisation may raise with the state in place. -/
theorem failed_initialization_stores :
    ¬∀ (action : RootAction transitionPlatform) failure, CollisionFree action →
      (action.call .absent).1 = .error failure → (action.call .absent).2 = .absent := by
  intro h
  have hcall := initialize_sample (some .afterReplace) (by simp)
  have hunchanged := h (.initializeState (trustedRootPublicKeyFromState sampleRootState) 1
    sampleRootState.updatedAt (some (.replace .afterReplace))) exportFailure trivial
    (congrArg Prod.fst hcall)
  have hnode : sampleRootNode = .absent := (congrArg Prod.snd hcall).symm.trans hunchanged
  have hload := loadRootTrustState_sampleRootNode []
  rw [hnode] at hload
  cases hload

def sampleApplicationTime : UtcDatetime := ⟨2026, 8, 10, 0, 0, 0, 0, by decide⟩

def sampleNextState : RootTrustStatePayload hashlibSha256 where
  currentRootEpoch := ⟨2, Nat.two_pos⟩
  currentRootKeyId := sampleNextEntry.keyId
  currentRootPublicKeyB64 := sampleNextKey
  currentRootPublicKeyFingerprint := sampleNextEntry.publicKeyFingerprint
  lastTransitionGeneration := 1
  lastTransitionSha256 := some (transitionDigest hashlibSha256 sampleTransitionCanonical)
  updatedAt := sampleApplicationTime
  fingerprint_eq := rfl
  digest_iff := by simp

theorem checkRootTransition_sample :
    checkRootTransition transitionPlatform sampleRootNode sampleTransitionFiles
        (some sampleTransitionManifest) sampleApplicationTime none none =
      .ok (verificationResult sampleTransitionManifest
        (transitionDigest hashlibSha256 sampleTransitionCanonical) sampleApplicationTime,
        sampleNextState) := by
  have htime : validateTransitionTimePolicy sampleTransitionManifest samplePreviousSignature
      sampleNextSignature sampleApplicationTime = .ok () := by decide +kernel
  have hactive : ¬(verificationResult sampleTransitionManifest
      (transitionDigest hashlibSha256 sampleTransitionCanonical)
      sampleApplicationTime).isActiveForApplication = false := by decide +kernel
  refine raiseIf_bind_eq_ok.mpr ⟨nofun, raiseIf_bind_eq_ok.mpr ⟨nofun, ?_⟩⟩
  refine bind_eq_ok.mpr ⟨some sampleRootState,
    loadRootTrustState_sampleRootNode sampleTransitionSignatures, ?_⟩
  refine raiseIf_bind_eq_ok.mpr ⟨nofun, ?_⟩
  refine bind_eq_ok.mpr ⟨_, verifyRootTransition_sample htime, ?_⟩
  refine raiseIf_bind_eq_ok.mpr ⟨hactive, raiseIf_bind_eq_ok.mpr ⟨by decide, ?_⟩⟩
  exact bind_eq_ok.mpr ⟨sampleNextState, buildRootTrustState_of_fingerprint rfl, rfl⟩

def sampleRootRun : RootRun transitionPlatform :=
  Runs.run (RootRun.step transitionPlatform) (RootRun.start transitionPlatform .absent)
    [.initializeState (trustedRootPublicKeyFromState sampleRootState) 1 sampleRootState.updatedAt
        none,
      .apply sampleTransitionFiles (some sampleTransitionManifest) sampleApplicationTime none none]

theorem RootRun.step_of_call {s : RootRun p} {action : RootAction p} {after : FileNode}
    (hcall : action.call s.node = (.ok (), after))
    (hload : loadRootTrustState p after = .ok (some state)) (hne : after ≠ s.node) :
    (s.step p action).node = after ∧ (s.step p action).stored = s.stored ++ [state] := by
  simp [RootRun.step, hcall, hne, heldStates_of_load hload]

theorem applyRootTransition_sample :
    ∃ after, (RootAction.apply sampleTransitionFiles (some sampleTransitionManifest)
        sampleApplicationTime none none : RootAction transitionPlatform).call sampleRootNode =
          (.ok (), after) ∧
      loadRootTrustState transitionPlatform after = .ok (some sampleNextState) := by
  obtain ⟨text, htext⟩ : ∃ text,
      (rootTrustStateFormat hashlibSha256 utcDatetimes).text sampleNextState = .ok text :=
    ⟨_, jsonDumps_eq_ok.mpr ⟨rfl, rfl⟩⟩
  have hnode := StateFormat.isSymlinkOrDir_of_load
    (loadRootTrustState_sampleRootNode sampleTransitionSignatures)
  have hexport : exportRootTrustState transitionPlatform sampleRootNode sampleNextState none = _ :=
    StateFormat.exportTo_of_text hnode htext none
  refine ⟨.regular (TextFile.encode (text ++ ['\n'])), ?_,
    (rootTrustStateFormat_lawful hashlibSha256 utcDatetimes).load_text htext⟩
  have hnone : StateFault.replace? none = none := rfl
  rw [RootAction.call, applyRootTransition, checkRootTransition_sample]
  dsimp only
  rw [hnone, hexport]
  rfl

theorem RootRun.stored_of_calls {node middle after : FileNode} {first second : RootAction p}
    {old new : RootTrustStatePayload p.sha256} (habsent : loadRootTrustState p node = .ok none)
    (hfirst : first.call node = (.ok (), middle))
    (hmiddle : loadRootTrustState p middle = .ok (some old))
    (hsecond : second.call middle = (.ok (), after))
    (hafter : loadRootTrustState p after = .ok (some new)) (hne : old ≠ new) :
    (Runs.run (RootRun.step p) (RootRun.start p node) [first, second]).stored = [old, new] := by
  have hstart : (RootRun.start p node).stored = [] := by
    unfold RootRun.start heldStates
    rw [habsent]
  have hnode : middle ≠ node := by
    rintro rfl
    rw [habsent] at hmiddle
    cases hmiddle
  have hnodes : after ≠ middle := by
    rintro rfl
    exact hne (Option.some.inj (Except.ok.inj (hmiddle.symm.trans hafter)))
  obtain ⟨hnodeFirst, hstoredFirst⟩ :=
    RootRun.step_of_call (s := RootRun.start p node) hfirst hmiddle hnode
  rw [← hnodeFirst] at hsecond hnodes
  obtain ⟨_, hstoredSecond⟩ := RootRun.step_of_call hsecond hafter hnodes
  rw [hstoredFirst, hstart, List.nil_append] at hstoredSecond
  exact hstoredSecond

theorem sampleRootRun_stored : sampleRootRun.stored = [sampleRootState, sampleNextState] := by
  have hload := loadRootTrustState_sampleRootNode sampleTransitionSignatures
  obtain ⟨after, hsecond, hafter⟩ := applyRootTransition_sample
  have hne : sampleRootState ≠ sampleNextState := fun h =>
    absurd (congrArg (fun state => state.currentRootEpoch.val) h) (by decide)
  exact RootRun.stored_of_calls rfl (initialize_sample none (by simp)) hload hsecond hafter hne

theorem rootTrustState_chain_sample :
    sampleRootRun.stored = [sampleRootState, sampleNextState] ∧
      sampleRootRun.stored.IsChain (CrossSigned transitionPlatform fun publicKey message =>
        ∃ entry ∈ sampleTransitionSignatures, entry.publicKey = publicKey ∧
          entry.message = message) := by
  have hreachable : Runs.Reachable (RootRun.step transitionPlatform)
      (fun _ action => CollisionFree action) (RootRun.start transitionPlatform .absent)
      sampleRootRun := by
    apply Runs.reachable_run_of_allowed
    intro action haction _
    rcases List.mem_cons.mp haction with rfl | haction
    · trivial
    · obtain rfl := List.mem_singleton.mp haction
      intro transition htransition _
      obtain rfl := Except.ok.inj htransition
      rfl
  refine ⟨sampleRootRun_stored, (rootTrustState_chain ?_ hreachable).1⟩
  intro publicKey signature message hverify
  obtain ⟨entry, hentry, hmatch⟩ := List.any_eq_true.mp hverify
  simp only [Bool.and_eq_true, beq_iff_eq] at hmatch
  exact ⟨entry, hentry, hmatch.1.1, hmatch.2⟩

end AgenticLab.RootTrustState
