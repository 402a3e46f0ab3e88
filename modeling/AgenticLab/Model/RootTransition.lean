import AgenticLab.Model.Ed25519

/-! # Cross-signed root key transitions (`app/root_transition.py`)

The files of a transition are given by what reading and validating them yields. -/

namespace AgenticLab.RootTransition

def rootTransitionVersion : ℕ := 1
def rootTransitionType : String := "audit_report_root_key_transition"
def rootTransitionGeneration : ℕ := 1

theorem rootTransitionGeneration_pos : 1 ≤ rootTransitionGeneration := by decide
def rootTransitionSignatureDomainSeparator : List UInt8 :=
  asciiBytes "agentic-ai-lab:root-key-transition:ed25519:v1"

def maxRootTransitionClockSkew : ℕ := 5 * 60 * 1000000

def metadataFailure : Raised :=
  ⟨.rootTransitionMetadataMismatchError, "The root transition metadata is inconsistent."⟩
def digestFailure : Raised :=
  ⟨.rootTransitionDigestMismatchError, "The root transition digest does not match."⟩
def signatureFailure : Raised :=
  ⟨.rootTransitionSignatureVerificationError,
    "The root transition signature could not be verified."⟩
def futureFailure : Raised :=
  ⟨.rootTransitionFromFutureError, "The root transition manifest time is too far in the future."⟩
def expiredFailure : Raised :=
  ⟨.rootTransitionExpiredError, "The root transition manifest has expired."⟩

inductive RootTransitionSignerRole where
  | previousRoot
  | nextRoot
  deriving DecidableEq

structure RootTransitionKeyEntry (sha256 : Sha256) where
  epoch : PositiveInt
  keyId : KeyId
  publicKeyB64 : PublicKeyB64
  publicKeyFingerprint : Sha256Digest
  fingerprint_eq : publicKeyFingerprint = fingerprintPublicKey sha256 publicKeyB64.bytes

/-- `RootTransitionManifestPayload`, without its three constant fields. -/
structure RootTransitionManifestPayload (sha256 : Sha256) where
  issuedAt : UtcDatetime
  validFrom : UtcDatetime
  validUntil : UtcDatetime
  previousRoot : RootTransitionKeyEntry sha256
  nextRoot : RootTransitionKeyEntry sha256
  epoch_succ : nextRoot.epoch.val = previousRoot.epoch.val + 1
  keyId_ne : previousRoot.keyId ≠ nextRoot.keyId
  publicKey_ne : previousRoot.publicKeyB64.bytes ≠ nextRoot.publicKeyB64.bytes
  fingerprint_ne : previousRoot.publicKeyFingerprint ≠ nextRoot.publicKeyFingerprint
  window : validFrom < validUntil
  issued : issuedAt ≤ validUntil

/-- `RootTransitionSignaturePayload`, without the constant fields and the signature type, which
follows from the role. -/
structure RootTransitionSignaturePayload where
  signerRole : RootTransitionSignerRole
  signerEpoch : PositiveInt
  signerKeyId : KeyId
  signerPublicKeyFingerprint : Sha256Digest
  signedAt : UtcDatetime
  transitionSha256 : Sha256Digest
  signatureB64 : SignatureB64
  filename : JsonFilename

structure RootTransitionVerificationResult where
  transitionVersion : ℕ
  transitionGeneration : PositiveInt
  issuedAt : UtcDatetime
  validFrom : UtcDatetime
  validUntil : UtcDatetime
  previousRootEpoch : PositiveInt
  previousRootKeyId : KeyId
  previousRootFingerprint : Sha256Digest
  nextRootEpoch : PositiveInt
  nextRootKeyId : KeyId
  nextRootFingerprint : Sha256Digest
  transitionSha256 : Sha256Digest
  isActiveForApplication : Bool

structure RootTransitionFiles (sha256 : Sha256) where
  filename : String
  transition : Except Raised (RootTransitionManifestPayload sha256)
  previousSignature : Except Raised RootTransitionSignaturePayload
  nextSignature : Except Raised RootTransitionSignaturePayload

def keyEntryMembers {sha256 : Sha256} (entry : RootTransitionKeyEntry sha256) : Fields :=
  [("epoch", .atom (.int entry.epoch.val)),
    ("key_id", .atom (.str entry.keyId.val)),
    ("public_key_b64", .atom (.str entry.publicKeyB64.val)),
    ("public_key_fingerprint", .atom (.str entry.publicKeyFingerprint.val))]

def transitionMembers {sha256 : Sha256} (datetimes : DatetimeCodec)
    (transition : RootTransitionManifestPayload sha256) : Fields :=
  [("transition_version", .atom (.int rootTransitionVersion)),
    ("transition_type", .atom (.str rootTransitionType)),
    ("transition_generation", .atom (.int rootTransitionGeneration)),
    ("issued_at", .atom (.str (datetimes.format transition.issuedAt))),
    ("valid_from", .atom (.str (datetimes.format transition.validFrom))),
    ("valid_until", .atom (.str (datetimes.format transition.validUntil))),
    ("previous_root", .obj (keyEntryMembers transition.previousRoot)),
    ("next_root", .obj (keyEntryMembers transition.nextRoot))]

def canonicalizeRootTransition {sha256 : Sha256} (datetimes : DatetimeCodec)
    (transition : RootTransitionManifestPayload sha256) : Except Raised (List UInt8) :=
  canonicalBytes (transitionMembers datetimes transition)

def signatureMessageForTransition {sha256 : Sha256}
    (transition : RootTransitionManifestPayload sha256) (canonical : List UInt8)
    (transitionSha256 : Sha256Digest) : List UInt8 :=
  joinZero [rootTransitionSignatureDomainSeparator, decimalBytes rootTransitionVersion,
    decimalBytes rootTransitionGeneration, decimalBytes transition.previousRoot.epoch.val,
    asciiBytes transition.previousRoot.keyId.val, decimalBytes transition.nextRoot.epoch.val,
    asciiBytes transition.nextRoot.keyId.val, asciiBytes transitionSha256.val, canonical]

section

variable {sha256 : Sha256}

def ensureCurrentRootMatchesTransition (transition : RootTransitionManifestPayload sha256)
    (currentRoot : TrustedRootSigningPublicKey sha256) (currentRootEpoch : PositiveInt) :
    Except Raised Unit := do
  let previous := transition.previousRoot
  raiseIf (previous.epoch ≠ currentRootEpoch ∨ previous.keyId ≠ currentRoot.keyId) metadataFailure
  raiseIf (previous.publicKeyFingerprint ≠ currentRoot.publicKeyFingerprint) metadataFailure
  raiseIf (previous.publicKeyB64.bytes ≠ currentRoot.publicKeyBytes) metadataFailure

def validateSignaturePayload (signature : RootTransitionSignaturePayload)
    (entry : RootTransitionKeyEntry sha256) (role : RootTransitionSignerRole) (filename : String)
    (transitionSha256 : Sha256Digest) : Except Raised Unit := do
  raiseIf (signature.signerRole ≠ role) metadataFailure
  raiseIf (signature.signerEpoch ≠ entry.epoch ∨ signature.signerKeyId ≠ entry.keyId)
    metadataFailure
  raiseIf (signature.signerPublicKeyFingerprint ≠ entry.publicKeyFingerprint) metadataFailure
  raiseIf (signature.filename.val ≠ filename) metadataFailure
  raiseIf (signature.transitionSha256 ≠ transitionSha256) digestFailure

def verifySignature (ed25519 : Ed25519) (publicKeyBytes : List UInt8)
    (signatureB64 : SignatureB64) (message : List UInt8) : Except Raised Unit :=
  raiseIf (ed25519.verify publicKeyBytes signatureB64.bytes message = false) signatureFailure

def validateTransitionTimePolicy (transition : RootTransitionManifestPayload sha256)
    (previousSignature nextSignature : RootTransitionSignaturePayload)
    (verificationTime : UtcDatetime) : Except Raised Unit := do
  let latest ← addSkew verificationTime maxRootTransitionClockSkew
  raiseIf (latest < transition.issuedAt.ticks) futureFailure
  raiseIf (latest < previousSignature.signedAt.ticks) futureFailure
  raiseIf (latest < nextSignature.signedAt.ticks) futureFailure
  raiseIf (transition.validUntil ≤ verificationTime) expiredFailure

end

/-- `verify_root_transition` with the default signature paths and clock skew. -/
def verifyRootTransition (p : TrustPlatform) (files : RootTransitionFiles p.sha256)
    (currentRoot : TrustedRootSigningPublicKey p.sha256) (currentRootEpoch : PositiveInt)
    (verificationTime : UtcDatetime) : Except Raised RootTransitionVerificationResult := do
  let transition ← files.transition
  ensureCurrentRootMatchesTransition transition currentRoot currentRootEpoch
  let canonical ← canonicalizeRootTransition p.datetimes transition
  let transitionSha256 : Sha256Digest :=
    ⟨p.sha256.hexdigest canonical, p.hexdigest_valid _⟩
  let message := signatureMessageForTransition transition canonical transitionSha256
  let previousSignature ← files.previousSignature
  let nextSignature ← files.nextSignature
  validateSignaturePayload previousSignature transition.previousRoot .previousRoot files.filename
    transitionSha256
  validateSignaturePayload nextSignature transition.nextRoot .nextRoot files.filename
    transitionSha256
  verifySignature p.ed25519 currentRoot.publicKeyBytes previousSignature.signatureB64 message
  verifySignature p.ed25519 transition.nextRoot.publicKeyB64.bytes nextSignature.signatureB64
    message
  validateTransitionTimePolicy transition previousSignature nextSignature verificationTime
  return {
    transitionVersion := rootTransitionVersion
    transitionGeneration := ⟨rootTransitionGeneration, rootTransitionGeneration_pos⟩
    issuedAt := transition.issuedAt
    validFrom := transition.validFrom
    validUntil := transition.validUntil
    previousRootEpoch := transition.previousRoot.epoch
    previousRootKeyId := transition.previousRoot.keyId
    previousRootFingerprint := transition.previousRoot.publicKeyFingerprint
    nextRootEpoch := transition.nextRoot.epoch
    nextRootKeyId := transition.nextRoot.keyId
    nextRootFingerprint := transition.nextRoot.publicKeyFingerprint
    transitionSha256 := transitionSha256
    isActiveForApplication :=
      decide (transition.validFrom ≤ verificationTime ∧ verificationTime < transition.validUntil) }

end AgenticLab.RootTransition
