import AgenticLab.Verification.Trust.Encoding

/-! # What a verified root transition has gone through -/

namespace AgenticLab.RootTransition

open RootTrustState

def transitionDigest (sha256 : Sha256) (canonical : List UInt8) : Sha256Digest :=
  ⟨sha256.hexdigest canonical, sha256.hexdigest_valid _⟩

structure SignatureChecks {sha256 : Sha256} (signature : RootTransitionSignaturePayload)
    (entry : RootTransitionKeyEntry sha256) (role : RootTransitionSignerRole) (filename : String)
    (transitionSha256 : Sha256Digest) : Prop where
  role : signature.signerRole = role
  epoch : signature.signerEpoch = entry.epoch
  keyId : signature.signerKeyId = entry.keyId
  fingerprint : signature.signerPublicKeyFingerprint = entry.publicKeyFingerprint
  filename : signature.filename.val = filename
  digest : signature.transitionSha256 = transitionSha256

theorem validateSignaturePayload_eq_ok {sha256 : Sha256}
    {signature : RootTransitionSignaturePayload} {entry : RootTransitionKeyEntry sha256}
    {role : RootTransitionSignerRole} {filename : String} {transitionSha256 : Sha256Digest} :
    validateSignaturePayload signature entry role filename transitionSha256 = .ok () ↔
      SignatureChecks signature entry role filename transitionSha256 := by
  rw [validateSignaturePayload]
  simp only [raiseIf_bind_eq_ok, raiseIf_eq_ok, not_or, not_not]
  constructor
  · rintro ⟨hrole, ⟨hepoch, hkeyId⟩, hfingerprint, hfilename, hdigest⟩
    exact ⟨hrole, hepoch, hkeyId, hfingerprint, hfilename, hdigest⟩
  · rintro ⟨hrole, hepoch, hkeyId, hfingerprint, hfilename, hdigest⟩
    exact ⟨hrole, ⟨hepoch, hkeyId⟩, hfingerprint, hfilename, hdigest⟩

variable (p : TrustPlatform)

structure TransitionChecks (filename : String) (transition : RootTransitionManifestPayload p.sha256)
    (previousSignature nextSignature : RootTransitionSignaturePayload)
    (currentRoot : TrustedRootSigningPublicKey p.sha256) (currentRootEpoch : PositiveInt)
    (verificationTime : UtcDatetime) (canonical : List UInt8) : Prop where
  epoch : transition.previousRoot.epoch = currentRootEpoch
  keyId : transition.previousRoot.keyId = currentRoot.keyId
  fingerprint : transition.previousRoot.publicKeyFingerprint = currentRoot.publicKeyFingerprint
  publicKey : transition.previousRoot.publicKeyB64.bytes = currentRoot.publicKeyBytes
  canonicalizes : canonicalizeRootTransition p.datetimes transition = .ok canonical
  previous : SignatureChecks previousSignature transition.previousRoot .previousRoot filename
    (transitionDigest p.sha256 canonical)
  next : SignatureChecks nextSignature transition.nextRoot .nextRoot filename
    (transitionDigest p.sha256 canonical)
  previousSigned : p.ed25519.verify currentRoot.publicKeyBytes
    previousSignature.signatureB64.bytes
    (signatureMessageForTransition transition canonical (transitionDigest p.sha256 canonical)) =
      true
  nextSigned : p.ed25519.verify transition.nextRoot.publicKeyB64.bytes
    nextSignature.signatureB64.bytes
    (signatureMessageForTransition transition canonical (transitionDigest p.sha256 canonical)) =
      true
  time : validateTransitionTimePolicy transition previousSignature nextSignature
    verificationTime = .ok ()

def verificationResult {sha256 : Sha256} (transition : RootTransitionManifestPayload sha256)
    (transitionSha256 : Sha256Digest) (verificationTime : UtcDatetime) :
    RootTransitionVerificationResult where
  transitionVersion := rootTransitionVersion
  transitionGeneration := ⟨rootTransitionGeneration, rootTransitionGeneration_pos⟩
  issuedAt := transition.issuedAt
  validFrom := transition.validFrom
  validUntil := transition.validUntil
  previousRootEpoch := transition.previousRoot.epoch
  previousRootKeyId := transition.previousRoot.keyId
  previousRootFingerprint := transition.previousRoot.publicKeyFingerprint
  nextRootEpoch := transition.nextRoot.epoch
  nextRootKeyId := transition.nextRoot.keyId
  nextRootFingerprint := transition.nextRoot.publicKeyFingerprint
  transitionSha256 := transitionSha256
  isActiveForApplication :=
    decide (transition.validFrom ≤ verificationTime ∧ verificationTime < transition.validUntil)

variable {p}
  {files : RootTransitionFiles p.sha256} {currentRoot : TrustedRootSigningPublicKey p.sha256}
  {currentRootEpoch : PositiveInt} {verificationTime : UtcDatetime}
  {transition : RootTransitionManifestPayload p.sha256}

theorem ensureCurrentRootMatchesTransition_eq_ok :
    ensureCurrentRootMatchesTransition transition currentRoot currentRootEpoch = .ok () ↔
      (transition.previousRoot.epoch = currentRootEpoch ∧
        transition.previousRoot.keyId = currentRoot.keyId) ∧
      transition.previousRoot.publicKeyFingerprint = currentRoot.publicKeyFingerprint ∧
      transition.previousRoot.publicKeyB64.bytes = currentRoot.publicKeyBytes := by
  rw [ensureCurrentRootMatchesTransition]
  simp only [raiseIf_bind_eq_ok, raiseIf_eq_ok, not_or, not_not]

theorem verifyRootTransition_of_checks (files : RootTransitionFiles p.sha256)
    (verificationTime : UtcDatetime)
    {previousSignature nextSignature : RootTransitionSignaturePayload} {canonical : List UInt8}
    (htransition : files.transition = .ok transition)
    (hprevious : files.previousSignature = .ok previousSignature)
    (hnext : files.nextSignature = .ok nextSignature)
    (h : TransitionChecks p files.filename transition previousSignature nextSignature currentRoot
      currentRootEpoch verificationTime canonical) :
    verifyRootTransition p files currentRoot currentRootEpoch verificationTime =
      .ok (verificationResult transition (transitionDigest p.sha256 canonical)
        verificationTime) := by
  have hensure : ensureCurrentRootMatchesTransition transition currentRoot currentRootEpoch =
      .ok () :=
    ensureCurrentRootMatchesTransition_eq_ok.mpr ⟨⟨h.epoch, h.keyId⟩, h.fingerprint, h.publicKey⟩
  rw [verifyRootTransition]
  refine bind_eq_ok.mpr ⟨transition, htransition, bind_eq_ok.mpr ⟨(), hensure, ?_⟩⟩
  refine bind_eq_ok.mpr ⟨canonical, h.canonicalizes, ?_⟩
  refine bind_eq_ok.mpr ⟨previousSignature, hprevious, ?_⟩
  refine bind_eq_ok.mpr ⟨nextSignature, hnext, ?_⟩
  refine bind_eq_ok.mpr ⟨(), validateSignaturePayload_eq_ok.mpr h.previous, ?_⟩
  refine bind_eq_ok.mpr ⟨(), validateSignaturePayload_eq_ok.mpr h.next, ?_⟩
  refine bind_eq_ok.mpr ⟨(), raiseIf_eq_ok.mpr (ne_false_of_eq_true h.previousSigned), ?_⟩
  refine bind_eq_ok.mpr ⟨(), raiseIf_eq_ok.mpr (ne_false_of_eq_true h.nextSigned), ?_⟩
  exact bind_eq_ok.mpr ⟨(), h.time, rfl⟩

theorem verifyRootTransition_eq_ok {result : RootTransitionVerificationResult}
    (h : verifyRootTransition p files currentRoot currentRootEpoch verificationTime = .ok result) :
    ∃ transition previousSignature nextSignature canonical,
      files.transition = .ok transition ∧ files.previousSignature = .ok previousSignature ∧
      files.nextSignature = .ok nextSignature ∧
      TransitionChecks p files.filename transition previousSignature nextSignature currentRoot
        currentRootEpoch verificationTime canonical ∧
      result = verificationResult transition (transitionDigest p.sha256 canonical)
        verificationTime := by
  rw [verifyRootTransition] at h
  obtain ⟨transition, htransition, h⟩ := bind_eq_ok.mp h
  obtain ⟨_, hensure, h⟩ := bind_eq_ok.mp h
  obtain ⟨canonical, hcanonical, h⟩ := bind_eq_ok.mp h
  obtain ⟨previousSignature, hprevious, h⟩ := bind_eq_ok.mp h
  obtain ⟨nextSignature, hnext, h⟩ := bind_eq_ok.mp h
  obtain ⟨_, hpreviousChecks, h⟩ := bind_eq_ok.mp h
  obtain ⟨_, hnextChecks, h⟩ := bind_eq_ok.mp h
  obtain ⟨_, hpreviousSigned, h⟩ := bind_eq_ok.mp h
  obtain ⟨_, hnextSigned, h⟩ := bind_eq_ok.mp h
  obtain ⟨_, htime, h⟩ := bind_eq_ok.mp h
  obtain ⟨⟨hepoch, hkeyId⟩, hfingerprint, hpublicKey⟩ :=
    ensureCurrentRootMatchesTransition_eq_ok.mp hensure
  exact ⟨transition, previousSignature, nextSignature, canonical, htransition, hprevious, hnext,
    ⟨hepoch, hkeyId, hfingerprint, hpublicKey, hcanonical,
      validateSignaturePayload_eq_ok.mp hpreviousChecks,
      validateSignaturePayload_eq_ok.mp hnextChecks,
      Bool.eq_true_of_not_eq_false (raiseIf_eq_ok.mp hpreviousSigned),
      Bool.eq_true_of_not_eq_false (raiseIf_eq_ok.mp hnextSigned), htime⟩,
    (Except.ok.inj h).symm⟩

end AgenticLab.RootTransition

/-! ## A transition between two roots -/

namespace AgenticLab.RootTrustState

open RootTransition

theorem isValidKeyId_rootA : isValidKeyId "root-a" = true := by decide

theorem isValidKeyId_rootB : isValidKeyId "root-b" = true := by decide

def sampleRootState : RootTrustStatePayload hashlibSha256 where
  currentRootEpoch := ⟨1, Nat.one_pos⟩
  currentRootKeyId := ⟨"root-a", isValidKeyId_rootA⟩
  currentRootPublicKeyB64 := ⟨"A6EHv/POEL4dcN0Y50vAmWfk1jCbpQ1fHdyGZBJVMbg=", by decide⟩
  currentRootPublicKeyFingerprint := fingerprintPublicKey _ _
  lastTransitionGeneration := 0
  lastTransitionSha256 := none
  updatedAt := ⟨2026, 7, 1, 0, 0, 0, 0, isCalendarTime_from⟩
  fingerprint_eq := rfl
  digest_iff := by decide

def sampleRootNode : FileNode :=
  (exportRootTrustState (referenceTrustPlatform []) .absent sampleRootState none).2

theorem loadRootTrustState_sampleRootNode (known : List KnownSignature) :
    loadRootTrustState (referenceTrustPlatform known) sampleRootNode =
      .ok (some sampleRootState) := by
  have htext : (rootTrustStateFormat hashlibSha256 utcDatetimes).text sampleRootState = .ok _ :=
    jsonDumps_eq_ok.mpr ⟨rfl, rfl⟩
  have hnode : sampleRootNode = .regular (TextFile.encode (_ ++ ['\n'])) :=
    congrArg Prod.snd (StateFormat.exportTo_of_text rfl htext none)
  rw [hnode]
  exact (rootTrustStateFormat_lawful hashlibSha256 utcDatetimes).load_text htext

def sampleNextKey : PublicKeyB64 := ⟨"Kay64UG8yvCyLhqU000LxzYeUm0L/hLIl5S8kyKWbdc=", by decide⟩

def samplePreviousEntry : RootTransitionKeyEntry hashlibSha256 where
  epoch := ⟨1, Nat.one_pos⟩
  keyId := sampleRootState.currentRootKeyId
  publicKeyB64 := sampleRootState.currentRootPublicKeyB64
  publicKeyFingerprint := fingerprintPublicKey _ _
  fingerprint_eq := rfl

def sampleNextEntry : RootTransitionKeyEntry hashlibSha256 where
  epoch := ⟨2, Nat.two_pos⟩
  keyId := ⟨"root-b", isValidKeyId_rootB⟩
  publicKeyB64 := sampleNextKey
  publicKeyFingerprint := fingerprintPublicKey _ _
  fingerprint_eq := rfl

def sampleTransitionManifest : RootTransitionManifestPayload hashlibSha256 where
  issuedAt := ⟨2026, 7, 1, 0, 0, 0, 0, isCalendarTime_from⟩
  validFrom := ⟨2026, 8, 1, 0, 0, 0, 0, by decide⟩
  validUntil := ⟨2027, 7, 1, 0, 0, 0, 0, isCalendarTime_until⟩
  previousRoot := samplePreviousEntry
  nextRoot := sampleNextEntry
  epoch_succ := rfl
  keyId_ne := by decide
  publicKey_ne := by decide
  fingerprint_ne := by decide +kernel
  window := by decide
  issued := by decide

def sampleTransitionCanonical : List UInt8 :=
  TextFile.encode ((Json.Value.obj (transitionMembers utcDatetimes
    sampleTransitionManifest)).sortKeys.print Json.compact 0)

def sampleTransitionMessage : List UInt8 :=
  signatureMessageForTransition sampleTransitionManifest sampleTransitionCanonical
    (transitionDigest hashlibSha256 sampleTransitionCanonical)

def samplePreviousSignature : RootTransitionSignaturePayload where
  signerRole := .previousRoot
  signerEpoch := samplePreviousEntry.epoch
  signerKeyId := samplePreviousEntry.keyId
  signerPublicKeyFingerprint := samplePreviousEntry.publicKeyFingerprint
  signedAt := sampleTransitionManifest.issuedAt
  transitionSha256 := transitionDigest hashlibSha256 sampleTransitionCanonical
  signatureB64 :=
    ⟨"YMhUkJjaW9aJjhlmAMukAMfOfeZwBpK7NuE8mtNXH/Db7PzSSneYw4a6DFHwlFkMGZln83uCIzCSrg+93YisAQ==",
      by decide⟩
  filename := ⟨"transition.json", by decide⟩

def sampleNextSignature : RootTransitionSignaturePayload where
  signerRole := .nextRoot
  signerEpoch := sampleNextEntry.epoch
  signerKeyId := sampleNextEntry.keyId
  signerPublicKeyFingerprint := sampleNextEntry.publicKeyFingerprint
  signedAt := sampleTransitionManifest.issuedAt
  transitionSha256 := transitionDigest hashlibSha256 sampleTransitionCanonical
  signatureB64 :=
    ⟨"9zPaZYGqL8x59U2iz//3PP1Q+woaF4PO8DYKPh9IrLGBDIAzTDlQKPu4DMRoCZjUU3O0oSrVfl9RC0OYq/FDAQ==",
      by decide⟩
  filename := ⟨"transition.json", by decide⟩

def sampleTransitionSignatures : List KnownSignature :=
  [{ privateKey := (List.range 32).map UInt8.ofNat
     publicKey := sampleRootState.currentRootPublicKeyB64.bytes
     message := sampleTransitionMessage
     signature := samplePreviousSignature.signatureB64.bytes },
    { privateKey := (List.range' 32 32).map UInt8.ofNat
      publicKey := sampleNextKey.bytes
      message := sampleTransitionMessage
      signature := sampleNextSignature.signatureB64.bytes }]

abbrev transitionPlatform : TrustPlatform := referenceTrustPlatform sampleTransitionSignatures

def sampleTransitionFiles : RootTransitionFiles hashlibSha256 :=
  ⟨"transition.json", .ok sampleTransitionManifest, .ok samplePreviousSignature,
    .ok sampleNextSignature⟩

theorem canonicalize_sampleTransitionManifest :
    canonicalizeRootTransition utcDatetimes sampleTransitionManifest =
      .ok sampleTransitionCanonical :=
  bind_eq_ok.mpr ⟨_, jsonDumps_eq_ok.mpr ⟨by decide +kernel, rfl⟩, rfl⟩

variable {verificationTime : UtcDatetime}

theorem transitionChecks_sample
    (htime : validateTransitionTimePolicy sampleTransitionManifest samplePreviousSignature
      sampleNextSignature verificationTime = .ok ()) :
    TransitionChecks transitionPlatform "transition.json" sampleTransitionManifest
      samplePreviousSignature sampleNextSignature (trustedRootPublicKeyFromState sampleRootState)
      sampleRootState.currentRootEpoch verificationTime sampleTransitionCanonical where
  epoch := rfl
  keyId := rfl
  fingerprint := rfl
  publicKey := rfl
  canonicalizes := canonicalize_sampleTransitionManifest
  previous := ⟨rfl, rfl, rfl, rfl, rfl, rfl⟩
  next := ⟨rfl, rfl, rfl, rfl, rfl, rfl⟩
  previousSigned := by
    simp [Ed25519.ofKnown, sampleTransitionSignatures, sampleTransitionMessage,
      trustedRootPublicKeyFromState]
  nextSigned := by
    simp [Ed25519.ofKnown, sampleTransitionSignatures, sampleTransitionMessage,
      sampleTransitionManifest, sampleNextEntry]
  time := htime

theorem verifyRootTransition_sample
    (htime : validateTransitionTimePolicy sampleTransitionManifest samplePreviousSignature
      sampleNextSignature verificationTime = .ok ()) :
    verifyRootTransition transitionPlatform sampleTransitionFiles
        (trustedRootPublicKeyFromState sampleRootState) sampleRootState.currentRootEpoch
        verificationTime =
      .ok (verificationResult sampleTransitionManifest
        (transitionDigest hashlibSha256 sampleTransitionCanonical) verificationTime) := by
  have h := verifyRootTransition_of_checks (p := transitionPlatform) sampleTransitionFiles
    verificationTime rfl rfl rfl
    (transitionChecks_sample htime)
  exact h

end AgenticLab.RootTrustState
