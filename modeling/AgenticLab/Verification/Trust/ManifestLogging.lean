import AgenticLab.Verification.Log.Modes
import AgenticLab.Verification.Trust.Rollback

/-! # What a refused manifest leaves behind -/

namespace AgenticLab.SigningKeyManifest

open RootTrustState ManifestTrustState TransparencyLog

/-- The manifest passes every check before the log's, and its state replaces the one on disk. -/
structure Stores (p : TrustPlatform) (disk : ManifestDisk)
    (files : SigningKeyManifestFiles p.sha256) (rootState : RootTrustStatePayload p.sha256)
    (request : ManifestRequest) (fault : Option StateFault) (node : FileNode)
    (verified : VerifiedSigningKeyManifest) : Prop where
  path : disk.statePath = some node
  verifies : verifySigningKeyManifest p files (trustedRootPublicKeyFromState rootState)
    request.verificationTime request.minimumGeneration request.maximumClockSkew = .ok verified
  update : request.stateMode = .update
  decided : ∃ decision, decideManifestTrustState p.datetimes node verified
    request.minimumGeneration request.requireExistingState fault = .ok decision ∧
      decision.shouldUpdate = true
  written : ∃ text, (manifestTrustStateFormat p.datetimes).text
    (buildManifestTrustState verified request.verificationTime) = .ok text
  replaced : StateFault.replace? fault ≠ some .beforeReplace

section

variable {p : TrustPlatform} {disk : ManifestDisk} {files : SigningKeyManifestFiles p.sha256}
  {rootState : RootTrustStatePayload p.sha256} {request : ManifestRequest}
  {transparencyMode : TransparencyLogMode} {node : FileNode}
  {verified : VerifiedSigningKeyManifest} {fault : Option StateFault}

theorem Stores.load_ne {after : FileNode}
    (h : Stores p disk files rootState request fault node verified)
    (hafter : loadManifestTrustState p.datetimes after =
      .ok (some (buildManifestTrustState verified request.verificationTime))) : after ≠ node := by
  rintro rfl
  obtain ⟨decision, hdecide, hshould⟩ := h.decided
  obtain ⟨stored, hload, hevaluate⟩ := decideManifestTrustState_eq_ok hdecide
  obtain rfl := Except.ok.inj (hafter.symm.trans hload)
  rcases (evaluateManifestTrustState_eq_ok hevaluate).2 with ⟨hnot, _⟩ | ⟨_, hlevel⟩
  · rw [hshould] at hnot
    cases hnot
  · exact absurd (hlevel _ rfl) (lt_irrefl _)

theorem Stores.call (h : Stores p disk files rootState request fault node verified) :
    ∃ result after, verifySigningKeyManifestWithRootState p disk.statePath files rootState request
        fault = (result, some after) ∧ after ≠ node ∧
      ((StateFault.replace? fault = none ∧ ∃ decision, result = .ok (verified, decision)) ∨
        (StateFault.replace? fault ≠ none ∧ ∃ failure, result = .error failure)) := by
  obtain ⟨decision, hdecide, hshould⟩ := h.decided
  obtain ⟨text, htext⟩ := h.written
  obtain ⟨stored, hload, _⟩ := decideManifestTrustState_eq_ok hdecide
  have hexport := StateFormat.exportTo_of_text (StateFormat.isSymlinkOrDir_of_load hload) htext
    (StateFault.replace? fault)
  have hstored := (manifestTrustStateFormat_lawful p.datetimes).load_text htext
  have hverified := h.verifies
  simp only [verifySigningKeyManifestWithRootState, verifySigningKeyManifestWithState, hverified,
    h.path, applyManifestTrustState, applyManifestTrustStateAt, hdecide, h.update, hshould,
    and_self, if_true, exportManifestTrustState, hexport]
  have hreplaced := h.replaced
  cases hfault : StateFault.replace? fault with
  | none =>
    exact ⟨_, _, rfl, h.load_ne hstored, .inl ⟨rfl, ⟨_, rfl⟩⟩⟩
  | some replaceFault =>
    cases replaceFault with
    | beforeReplace => exact absurd hfault hreplaced
    | afterReplace => exact ⟨_, _, rfl, h.load_ne hstored, .inr ⟨Option.some_ne_none _, ⟨_, rfl⟩⟩⟩

theorem statePath_of_not_stores
    (h : ¬∃ node verified, Stores p disk files rootState request fault node verified) :
    (verifySigningKeyManifestWithRootState p disk.statePath files rootState request fault).2 =
      disk.statePath := by
  unfold verifySigningKeyManifestWithRootState verifySigningKeyManifestWithState
  cases hverified : verifySigningKeyManifest p files (trustedRootPublicKeyFromState rootState)
    request.verificationTime request.minimumGeneration request.maximumClockSkew with
  | error failure => rfl
  | ok verified =>
    cases hpath : disk.statePath with
    | none => rfl
    | some node =>
      dsimp only [applyManifestTrustState]
      unfold applyManifestTrustStateAt
      cases hdecide : decideManifestTrustState p.datetimes node verified
        request.minimumGeneration request.requireExistingState fault with
      | error failure => rfl
      | ok decision =>
        by_cases hupdate : request.stateMode = .update ∧ decision.shouldUpdate = true
        · dsimp only
          rw [if_pos hupdate]
          dsimp only [exportManifestTrustState, StateFormat.exportTo]
          cases htext : (manifestTrustStateFormat p.datetimes).text
              (buildManifestTrustState verified request.verificationTime) with
          | error failure => split_ifs <;> rfl
          | ok text =>
            by_cases hreplaced : StateFault.replace? fault = some .beforeReplace
            · rw [hreplaced]
              split_ifs <;> rfl
            · exact absurd ⟨node, verified, hpath, hverified, hupdate.1,
                ⟨decision, hdecide, hupdate.2⟩, ⟨text, htext⟩, hreplaced⟩ h
        · dsimp only
          rw [if_neg hupdate]

/-- A call that raises leaves the state file as it was; and what a call in the strict mode has
changed is the state of a manifest in the log. -/
structure LeavesNoTrace (p : TrustPlatform) (disk : ManifestDisk)
    (files : SigningKeyManifestFiles p.sha256) (rootState : RootTrustStatePayload p.sha256)
    (request : ManifestRequest) (transparencyMode : TransparencyLogMode)
    (faults : ManifestFaults) : Prop where
  unchanged : ∀ failure, (verifySigningKeyManifestWithRootStateAndTransparency p disk files
      rootState request transparencyMode faults).1 = .error failure →
    (verifySigningKeyManifestWithRootStateAndTransparency p disk files rootState request
      transparencyMode faults).2.statePath = disk.statePath
  logged : transparencyMode = .requireExisting →
    (verifySigningKeyManifestWithRootStateAndTransparency p disk files rootState request
      transparencyMode faults).2.statePath ≠ disk.statePath →
    ∃ verified verification inclusion,
      verifySigningKeyManifest p files (trustedRootPublicKeyFromState rootState)
        request.verificationTime request.minimumGeneration request.maximumClockSkew = .ok verified ∧
      verifyTransparencyLogUnlocked p.toPlatform disk.log = .ok verification ∧
      requireTransparencyEntry verification
        (transparencyArtifactFromVerifiedSigningKeyManifest verified.result) = .ok inclusion

theorem statePath_withTransparency (faults : ManifestFaults) :
    (verifySigningKeyManifestWithRootStateAndTransparency p disk files rootState request
      transparencyMode faults).2.statePath =
      (verifySigningKeyManifestWithRootState p disk.statePath files rootState request
        faults.state).2 := by
  unfold verifySigningKeyManifestWithRootStateAndTransparency
  cases verifySigningKeyManifestWithRootState p disk.statePath files rootState request
    faults.state with
  | mk decided statePath => cases decided <;> rfl

theorem Stores.returns_iff {faults : ManifestFaults}
    (h : Stores p disk files rootState request faults.state node verified) :
    (∃ returned, (verifySigningKeyManifestWithRootStateAndTransparency p disk files rootState
        request transparencyMode faults).1 = .ok returned) ↔
      StateFault.replace? faults.state = none ∧ LogAccepts p.toPlatform disk.log
        (transparencyArtifactFromVerifiedSigningKeyManifest verified.result)
        request.verificationTime transparencyMode faults.log := by
  obtain ⟨result, after, hcall, _, hresult⟩ := h.call
  rw [← inclusionForMode_isOk_iff]
  unfold verifySigningKeyManifestWithRootStateAndTransparency
  rcases hresult with ⟨hfault, decision, rfl⟩ | ⟨hfault, failure, rfl⟩
  · simp only [hcall, hfault, true_and]
    cases inclusionForMode p.toPlatform disk.log
        (transparencyArtifactFromVerifiedSigningKeyManifest verified.result)
        request.verificationTime transparencyMode faults.log with
    | mk included log => cases included <;> simp [Except.map]
  · simp [hcall, hfault]

end

/-- A refused manifest leaves no trace exactly when no manifest is stored before the log refuses
it or the store itself fails behind the replacement. -/
theorem verifySigningKeyManifestWithRootStateAndTransparency_leavesNoTrace_iff (p : TrustPlatform)
    (disk : ManifestDisk) (files : SigningKeyManifestFiles p.sha256)
    (rootState : RootTrustStatePayload p.sha256) (request : ManifestRequest)
    (transparencyMode : TransparencyLogMode) (faults : ManifestFaults) :
    LeavesNoTrace p disk files rootState request transparencyMode faults ↔
      ∀ node verified, Stores p disk files rootState request faults.state node verified →
        StateFault.replace? faults.state = none ∧ LogAccepts p.toPlatform disk.log
          (transparencyArtifactFromVerifiedSigningKeyManifest verified.result)
          request.verificationTime transparencyMode faults.log := by
  constructor
  · intro h node verified hstores
    rw [← hstores.returns_iff]
    obtain ⟨_, after, hcall, hne, _⟩ := hstores.call
    cases hresult : (verifySigningKeyManifestWithRootStateAndTransparency p disk files rootState
        request transparencyMode faults).1 with
    | ok returned => exact ⟨returned, rfl⟩
    | error failure =>
      have hunchanged := h.unchanged failure hresult
      rw [statePath_withTransparency, hcall, hstores.path] at hunchanged
      exact absurd (Option.some.inj hunchanged) hne
  · intro h
    by_cases hstores : ∃ node verified,
        Stores p disk files rootState request faults.state node verified
    · obtain ⟨node, verified, hstores⟩ := hstores
      have haccepts := h node verified hstores
      obtain ⟨returned, hreturned⟩ := hstores.returns_iff.mpr haccepts
      refine ⟨?_, ?_⟩
      · intro failure hfailure
        rw [hreturned] at hfailure
        cases hfailure
      · rintro rfl _
        obtain ⟨_, _, ⟨verification, inclusion, hverify, hrequire⟩ | ⟨hmode, _⟩⟩ := haccepts.2
        · exact ⟨verified, verification, inclusion, hstores.verifies, hverify, hrequire⟩
        · cases hmode
    · have hunchanged := statePath_of_not_stores hstores
      refine ⟨?_, ?_⟩
      · intro _ _
        rw [statePath_withTransparency, hunchanged]
      · intro _ hchanged
        rw [statePath_withTransparency, hunchanged] at hchanged
        exact absurd rfl hchanged

structure ManifestChecks (p : TrustPlatform) (filename : String)
    (manifest : SigningKeyManifestPayload p.sha256) (signature : SigningKeyManifestSignaturePayload)
    (rootPublicKey : TrustedRootSigningPublicKey p.sha256) (verificationTime : UtcDatetime)
    (minimumGeneration maximumClockSkew : ℤ) (canonical : List UInt8) : Prop where
  skew : ¬maximumClockSkew < 0
  minimum : ¬minimumGeneration < 1
  issuerKeyId : manifest.issuerRootKeyId = rootPublicKey.keyId
  issuerFingerprint : manifest.issuerRootKeyFingerprint = rootPublicKey.publicKeyFingerprint
  canonicalizes : canonicalizeSigningKeyManifest p.datetimes manifest = .ok canonical
  digest : signature.manifestSha256.val = p.sha256.hexdigest canonical
  signerKeyId : signature.rootKeyId = rootPublicKey.keyId
  signerFingerprint : signature.rootKeyFingerprint = rootPublicKey.publicKeyFingerprint
  generation : signature.generation = manifest.generation
  filename : signature.filename.val = filename
  signed : p.ed25519.verify rootPublicKey.publicKeyBytes signature.signatureB64.bytes
    (buildKeyManifestSignatureMessage canonical signature.manifestSha256 signature.rootKeyId
      signature.generation) = true
  time : validateManifestTimePolicy manifest signature verificationTime maximumClockSkew.toNat =
    .ok ()
  notBehind : ¬(manifest.generation.val : ℤ) < minimumGeneration

theorem verifySigningKeyManifest_of_checks (p : TrustPlatform)
    (files : SigningKeyManifestFiles p.sha256) {manifest : SigningKeyManifestPayload p.sha256}
    {signature : SigningKeyManifestSignaturePayload}
    {rootPublicKey : TrustedRootSigningPublicKey p.sha256} (verificationTime : UtcDatetime)
    (minimumGeneration maximumClockSkew : ℤ) {canonical : List UInt8}
    (hmanifest : files.manifest = .ok manifest) (hsignature : files.signature = .ok signature)
    (h : ManifestChecks p files.filename manifest signature rootPublicKey verificationTime
      minimumGeneration maximumClockSkew canonical) :
    verifySigningKeyManifest p files rootPublicKey verificationTime minimumGeneration
        maximumClockSkew = .ok {
      result := {
        manifestVersion := signingKeyManifestVersion
        generation := manifest.generation
        issuedAt := manifest.issuedAt
        validFrom := manifest.validFrom
        validUntil := manifest.validUntil
        rootKeyId := rootPublicKey.keyId
        rootKeyFingerprint := rootPublicKey.publicKeyFingerprint
        activeKeyId := (activeKey manifest).keyId
        keyCount := ⟨manifest.keys.length, manifest.count.1⟩
        manifestSha256 := signature.manifestSha256 }
      trustStore := manifest.keys.map trustedKeyFromEntry } := by
  have hdigest : signature.manifestSha256 =
      ⟨p.sha256.hexdigest canonical, p.sha256.hexdigest_valid _⟩ := Subtype.ext h.digest
  have hmetadata : validateSignatureMetadata signature manifest rootPublicKey files.filename =
      .ok () := by
    rw [validateSignatureMetadata]
    simp only [raiseIf_bind_eq_ok, raiseIf_eq_ok, not_not]
    exact ⟨h.signerKeyId, h.signerFingerprint, h.generation, h.filename⟩
  have hsigned := h.signed
  rw [hdigest] at hsigned ⊢
  rw [verifySigningKeyManifest]
  refine raiseIf_bind_eq_ok.mpr ⟨h.skew, raiseIf_bind_eq_ok.mpr ⟨h.minimum, ?_⟩⟩
  refine bind_eq_ok.mpr ⟨manifest, hmanifest, bind_eq_ok.mpr ⟨signature, hsignature, ?_⟩⟩
  refine raiseIf_bind_eq_ok.mpr ⟨not_not.mpr h.issuerKeyId, ?_⟩
  refine raiseIf_bind_eq_ok.mpr ⟨not_not.mpr h.issuerFingerprint, ?_⟩
  refine bind_eq_ok.mpr ⟨canonical, h.canonicalizes, ?_⟩
  refine raiseIf_bind_eq_ok.mpr ⟨not_not.mpr hdigest, ?_⟩
  refine bind_eq_ok.mpr ⟨(), hmetadata, ?_⟩
  refine raiseIf_bind_eq_ok.mpr ⟨by simp [hsigned], ?_⟩
  refine bind_eq_ok.mpr ⟨(), h.time, ?_⟩
  exact raiseIf_bind_eq_ok.mpr ⟨h.notBehind, rfl⟩

/-! ## An unlogged manifest -/

def sampleFrom : UtcDatetime := ⟨2026, 7, 1, 0, 0, 0, 0, isCalendarTime_from⟩
def sampleUntil : UtcDatetime := ⟨2027, 7, 1, 0, 0, 0, 0, isCalendarTime_until⟩

def sampleEntry : SigningKeyManifestEntry hashlibSha256 where
  keyId := ⟨"archive-a", isValidKeyId_archive⟩
  publicKeyB64 := sampleArchiveKey
  publicKeyFingerprint := fingerprintPublicKey hashlibSha256 sampleArchiveKey.bytes
  status := .active
  validFrom := sampleFrom
  validUntil := none
  revokedAt := none
  fingerprint_eq := rfl
  window := nofun
  revocation := nofun
  revoked_iff := by decide

def sampleManifest : SigningKeyManifestPayload hashlibSha256 where
  generation := ⟨1, Nat.one_pos⟩
  issuedAt := sampleFrom
  validFrom := sampleFrom
  validUntil := sampleUntil
  issuerRootKeyId := sampleRootState.currentRootKeyId
  issuerRootKeyFingerprint := sampleRootState.currentRootPublicKeyFingerprint
  keys := [sampleEntry]
  window := by decide
  issued := by decide
  count := by decide
  keyIds := List.nodup_singleton _
  fingerprints := List.nodup_singleton _
  publicKeys := List.nodup_singleton _
  active := rfl

def sampleCanonical : List UInt8 :=
  TextFile.encode ((Json.Value.obj (manifestMembers utcDatetimes sampleManifest)).sortKeys.print
    Json.compact 0)

def sampleManifestSha256 : Sha256Digest :=
  ⟨hashlibSha256.hexdigest sampleCanonical, hashlibSha256.hexdigest_valid _⟩

def sampleSignature : SigningKeyManifestSignaturePayload where
  rootKeyId := sampleRootState.currentRootKeyId
  rootKeyFingerprint := sampleRootState.currentRootPublicKeyFingerprint
  generation := ⟨1, Nat.one_pos⟩
  signedAt := sampleFrom
  manifestSha256 := sampleManifestSha256
  signatureB64 :=
    ⟨"gxWx6i6bikX3LDGeXj3hTaZ+I+QqqXD9g/ecydau2hIDFEEp6Dr4gMf5CCS3r2dZ+2vzw9L5hrLL0TTx2nerDQ==",
      by decide⟩
  filename := ⟨"manifest.json", by decide⟩

def sampleKnownSignature : KnownSignature where
  privateKey := (List.range 32).map UInt8.ofNat
  publicKey := sampleRootState.currentRootPublicKeyB64.bytes
  message := buildKeyManifestSignatureMessage sampleCanonical sampleManifestSha256
    sampleRootState.currentRootKeyId ⟨1, Nat.one_pos⟩
  signature := sampleSignature.signatureB64.bytes

abbrev samplePlatform : TrustPlatform := referenceTrustPlatform [sampleKnownSignature]

def sampleFiles : SigningKeyManifestFiles hashlibSha256 :=
  ⟨"manifest.json", .ok sampleManifest, .ok sampleSignature⟩

def sampleRequest : ManifestRequest where
  verificationTime := TransparencyLog.sampleTime
  minimumGeneration := 1
  stateMode := .update
  requireExistingState := false
  maximumClockSkew := 5 * 60 * 1000000

theorem canonicalize_sampleManifest :
    canonicalizeSigningKeyManifest utcDatetimes sampleManifest = .ok sampleCanonical :=
  bind_eq_ok.mpr ⟨_, jsonDumps_eq_ok.mpr ⟨by decide +kernel, rfl⟩, rfl⟩

theorem manifestChecks_sample :
    ManifestChecks samplePlatform "manifest.json" sampleManifest sampleSignature
      (trustedRootPublicKeyFromState sampleRootState) TransparencyLog.sampleTime 1
      (5 * 60 * 1000000) sampleCanonical where
  skew := by decide
  minimum := by decide
  issuerKeyId := rfl
  issuerFingerprint := rfl
  canonicalizes := canonicalize_sampleManifest
  digest := rfl
  signerKeyId := rfl
  signerFingerprint := rfl
  generation := rfl
  filename := rfl
  signed := by simp [Ed25519.ofKnown, sampleKnownSignature, trustedRootPublicKeyFromState,
    sampleSignature]
  time := by decide +kernel
  notBehind := by decide

theorem verifySigningKeyManifest_sample :
    verifySigningKeyManifest samplePlatform sampleFiles
        (trustedRootPublicKeyFromState sampleRootState) TransparencyLog.sampleTime 1
        (5 * 60 * 1000000) =
      .ok (sampleVerified ⟨1, by decide⟩ sampleManifestSha256) := by
  have h := verifySigningKeyManifest_of_checks samplePlatform sampleFiles
    TransparencyLog.sampleTime 1 (5 * 60 * 1000000) rfl rfl manifestChecks_sample
  exact h

/-- The strict mode refuses a manifest that is not in the log, behind storing its state. -/
theorem unlogged_manifest_leaves_trace :
    ¬LeavesNoTrace samplePlatform ⟨some .absent, .absent, .absent⟩ sampleFiles sampleRootState
      sampleRequest .requireExisting ⟨none, none⟩ := by
  intro h
  have hstores : Stores samplePlatform ⟨some .absent, .absent, .absent⟩ sampleFiles
      sampleRootState sampleRequest none .absent
      (sampleVerified ⟨1, by decide⟩ sampleManifestSha256) := by
    refine ⟨rfl, verifySigningKeyManifest_sample, rfl, ⟨⟨none, 1, true, false⟩, ?_, rfl⟩,
      exists_text (by decide), nofun⟩
    decide +kernel
  have hrefuses : ¬LogAccepts samplePlatform.toPlatform ⟨.absent, .absent⟩
      (transparencyArtifactFromVerifiedSigningKeyManifest
        (sampleVerified ⟨1, by decide⟩ sampleManifestSha256).result) TransparencyLog.sampleTime
      .requireExisting none := by
    rintro ⟨_, _, ⟨verification, inclusion, hverify, hrequire⟩ | ⟨hmode, _⟩⟩
    · obtain rfl : emptyResult = verification := Except.ok.inj hverify
      cases hrequire
    · cases hmode
  obtain ⟨_, after, hcall, hne, _⟩ := hstores.call
  cases hresult : (verifySigningKeyManifestWithRootStateAndTransparency samplePlatform
      ⟨some .absent, .absent, .absent⟩ sampleFiles sampleRootState sampleRequest .requireExisting
      ⟨none, none⟩).1 with
  | ok returned => exact hrefuses (hstores.returns_iff.mp ⟨returned, hresult⟩).2
  | error failure =>
    have hunchanged := h.unchanged failure hresult
    rw [statePath_withTransparency, hcall] at hunchanged
    exact hne (Option.some.inj hunchanged)

end AgenticLab.SigningKeyManifest
