import AgenticLab.Model.Ed25519

/-! # Signed public-key manifests (`app/signing_key_manifest.py`)

The manifest and its signature file are given by what reading and validating them yields. -/

namespace AgenticLab.SigningKeyManifest

def signingKeyManifestVersion : ℕ := 1
def signingKeyManifestType : String := "audit_report_archive_signing_keys"
def keyManifestSignatureDomainSeparator : List UInt8 :=
  asciiBytes "agentic-ai-lab:archive-signing-key-manifest:ed25519:v1"
def maxSigningKeyManifestKeys : ℕ := 100

def validationFailure : Raised :=
  ⟨.signingKeyManifestValidationError, "The archive signing key manifest failed validation."⟩
def signatureFailure : Raised :=
  ⟨.signingKeyManifestSignatureVerificationError,
    "The archive signing key manifest signature could not be verified."⟩
def digestFailure : Raised :=
  ⟨.signingKeyManifestDigestMismatchError,
    "The archive signing key manifest digest does not match."⟩
def metadataFailure : Raised :=
  ⟨.signingKeyManifestMetadataMismatchError,
    "The archive signing key manifest metadata is inconsistent."⟩
def rollbackFailure : Raised :=
  ⟨.signingKeyManifestRollbackError, "The archive signing key manifest generation is too old."⟩
def notYetValidFailure : Raised :=
  ⟨.signingKeyManifestNotYetValidError, "The archive signing key manifest is not yet valid."⟩
def expiredFailure : Raised :=
  ⟨.signingKeyManifestExpiredError, "The archive signing key manifest has expired."⟩
def futureFailure : Raised :=
  ⟨.signingKeyManifestFromFutureError,
    "The archive signing key manifest time is too far in the future."⟩
def clockSkewFailure : Raised := ⟨.valueError, "maximum_clock_skew must be non-negative"⟩

inductive SignatureKeyStatus where
  | active
  | verifyOnly
  | revoked
  deriving DecidableEq

def SignatureKeyStatus.value : SignatureKeyStatus → String
  | .active => "active"
  | .verifyOnly => "verify_only"
  | .revoked => "revoked"

structure SigningKeyManifestEntry (sha256 : Sha256) where
  keyId : KeyId
  publicKeyB64 : PublicKeyB64
  publicKeyFingerprint : Sha256Digest
  status : SignatureKeyStatus
  validFrom : UtcDatetime
  validUntil : Option UtcDatetime
  revokedAt : Option UtcDatetime
  fingerprint_eq : publicKeyFingerprint = fingerprintPublicKey sha256 publicKeyB64.bytes
  window : ∀ until_ ∈ validUntil, validFrom < until_
  revocation : ∀ revoked ∈ revokedAt, validFrom ≤ revoked
  revoked_iff : revokedAt.isSome = true ↔ status = .revoked

/-- `SigningKeyManifestPayload`, without its two constant fields. -/
structure SigningKeyManifestPayload (sha256 : Sha256) where
  generation : PositiveInt
  issuedAt : UtcDatetime
  validFrom : UtcDatetime
  validUntil : UtcDatetime
  issuerRootKeyId : KeyId
  issuerRootKeyFingerprint : Sha256Digest
  keys : List (SigningKeyManifestEntry sha256)
  window : validFrom < validUntil
  issued : issuedAt ≤ validUntil
  count : 1 ≤ keys.length ∧ keys.length ≤ maxSigningKeyManifestKeys
  keyIds : (keys.map (·.keyId)).Nodup
  fingerprints : (keys.map (·.publicKeyFingerprint)).Nodup
  publicKeys : (keys.map (·.publicKeyB64.bytes)).Nodup
  active : (keys.filter fun key => decide (key.status = .active)).length = 1

/-- `SigningKeyManifestSignaturePayload`, without its constant fields. -/
structure SigningKeyManifestSignaturePayload where
  rootKeyId : KeyId
  rootKeyFingerprint : Sha256Digest
  generation : PositiveInt
  signedAt : UtcDatetime
  manifestSha256 : Sha256Digest
  signatureB64 : SignatureB64
  filename : JsonFilename

structure SigningKeyManifestVerificationResult where
  manifestVersion : ℕ
  generation : PositiveInt
  issuedAt : UtcDatetime
  validFrom : UtcDatetime
  validUntil : UtcDatetime
  rootKeyId : KeyId
  rootKeyFingerprint : Sha256Digest
  activeKeyId : KeyId
  keyCount : PositiveInt
  manifestSha256 : Sha256Digest
  deriving DecidableEq

structure TrustedArchiveSigningPublicKey where
  keyId : KeyId
  publicKeyBytes : List UInt8
  publicKeyFingerprint : Sha256Digest
  status : SignatureKeyStatus
  validFrom : UtcDatetime
  validUntil : Option UtcDatetime
  revokedAt : Option UtcDatetime

structure VerifiedSigningKeyManifest where
  result : SigningKeyManifestVerificationResult
  trustStore : List TrustedArchiveSigningPublicKey

structure SigningKeyManifestFiles (sha256 : Sha256) where
  filename : String
  manifest : Except Raised (SigningKeyManifestPayload sha256)
  signature : Except Raised SigningKeyManifestSignaturePayload

section

variable {sha256 : Sha256} (datetimes : DatetimeCodec)

def optionalDatetimeAtom : Option UtcDatetime → Json.Atom
  | none => .null
  | some moment => .str (datetimes.format moment)

def entryMembers (entry : SigningKeyManifestEntry sha256) : Fields :=
  [("key_id", .atom (.str entry.keyId.val)),
    ("public_key_b64", .atom (.str entry.publicKeyB64.val)),
    ("public_key_fingerprint", .atom (.str entry.publicKeyFingerprint.val)),
    ("status", .atom (.str entry.status.value)),
    ("valid_from", .atom (.str (datetimes.format entry.validFrom))),
    ("valid_until", .atom (optionalDatetimeAtom datetimes entry.validUntil)),
    ("revoked_at", .atom (optionalDatetimeAtom datetimes entry.revokedAt))]

def manifestMembers (manifest : SigningKeyManifestPayload sha256) : Fields :=
  [("manifest_version", .atom (.int signingKeyManifestVersion)),
    ("manifest_type", .atom (.str signingKeyManifestType)),
    ("generation", .atom (.int manifest.generation.val)),
    ("issued_at", .atom (.str (datetimes.format manifest.issuedAt))),
    ("valid_from", .atom (.str (datetimes.format manifest.validFrom))),
    ("valid_until", .atom (.str (datetimes.format manifest.validUntil))),
    ("issuer", .obj [("root_key_id", .atom (.str manifest.issuerRootKeyId.val)),
      ("root_key_fingerprint", .atom (.str manifest.issuerRootKeyFingerprint.val))]),
    ("keys", .arr (manifest.keys.map fun entry => .obj (entryMembers datetimes entry)))]

def canonicalizeSigningKeyManifest (manifest : SigningKeyManifestPayload sha256) :
    Except Raised (List UInt8) :=
  canonicalBytes (manifestMembers datetimes manifest)

end

def buildKeyManifestSignatureMessage (canonicalManifestBytes : List UInt8)
    (manifestSha256 : Sha256Digest) (rootKeyId : KeyId) (generation : PositiveInt) :
    List UInt8 :=
  joinZero [keyManifestSignatureDomainSeparator, asciiBytes rootKeyId.val,
    decimalBytes signingKeyManifestVersion, decimalBytes generation.val,
    asciiBytes manifestSha256.val, canonicalManifestBytes]

section

variable {sha256 : Sha256}

def validateSignatureMetadata (signature : SigningKeyManifestSignaturePayload)
    (manifest : SigningKeyManifestPayload sha256)
    (rootPublicKey : TrustedRootSigningPublicKey sha256) (filename : String) :
    Except Raised Unit := do
  raiseIf (signature.rootKeyId ≠ rootPublicKey.keyId) metadataFailure
  raiseIf (signature.rootKeyFingerprint ≠ rootPublicKey.publicKeyFingerprint) metadataFailure
  raiseIf (signature.generation ≠ manifest.generation) metadataFailure
  raiseIf (signature.filename.val ≠ filename) metadataFailure

def validateManifestTimePolicy (manifest : SigningKeyManifestPayload sha256)
    (signature : SigningKeyManifestSignaturePayload) (verificationTime : UtcDatetime)
    (maximumClockSkew : ℕ) : Except Raised Unit := do
  let latest ← addSkew verificationTime maximumClockSkew
  raiseIf (latest < manifest.issuedAt.ticks) futureFailure
  raiseIf (latest < signature.signedAt.ticks) futureFailure
  raiseIf (verificationTime < manifest.validFrom) notYetValidFailure
  raiseIf (manifest.validUntil ≤ verificationTime) expiredFailure

def trustedKeyFromEntry (entry : SigningKeyManifestEntry sha256) :
    TrustedArchiveSigningPublicKey where
  keyId := entry.keyId
  publicKeyBytes := entry.publicKeyB64.bytes
  publicKeyFingerprint := entry.publicKeyFingerprint
  status := entry.status
  validFrom := entry.validFrom
  validUntil := entry.validUntil
  revokedAt := entry.revokedAt

/-- `next(key for key in keys if key.status is ACTIVE)`; a manifest has one. -/
def activeKey (manifest : SigningKeyManifestPayload sha256) : SigningKeyManifestEntry sha256 :=
  (manifest.keys.filter fun key => decide (key.status = .active)).head (by
    intro h
    have hactive := manifest.active
    rw [h] at hactive
    exact absurd hactive Nat.zero_ne_one)

end

/-- `verify_signing_key_manifest`, with the clock skew in microseconds. -/
def verifySigningKeyManifest (p : TrustPlatform) (files : SigningKeyManifestFiles p.sha256)
    (rootPublicKey : TrustedRootSigningPublicKey p.sha256) (verificationTime : UtcDatetime)
    (minimumGeneration : ℤ) (maximumClockSkew : ℤ) :
    Except Raised VerifiedSigningKeyManifest := do
  raiseIf (maximumClockSkew < 0) clockSkewFailure
  raiseIf (minimumGeneration < 1) validationFailure
  let manifest ← files.manifest
  let signature ← files.signature
  raiseIf (manifest.issuerRootKeyId ≠ rootPublicKey.keyId) metadataFailure
  raiseIf (manifest.issuerRootKeyFingerprint ≠ rootPublicKey.publicKeyFingerprint) metadataFailure
  let canonical ← canonicalizeSigningKeyManifest p.datetimes manifest
  let manifestSha256 : Sha256Digest := ⟨p.sha256.hexdigest canonical, p.hexdigest_valid _⟩
  raiseIf (signature.manifestSha256 ≠ manifestSha256) digestFailure
  validateSignatureMetadata signature manifest rootPublicKey files.filename
  let message := buildKeyManifestSignatureMessage canonical manifestSha256 signature.rootKeyId
    signature.generation
  raiseIf (p.ed25519.verify rootPublicKey.publicKeyBytes signature.signatureB64.bytes message =
    false) signatureFailure
  validateManifestTimePolicy manifest signature verificationTime maximumClockSkew.toNat
  raiseIf ((manifest.generation.val : ℤ) < minimumGeneration) rollbackFailure
  return {
    result := {
      manifestVersion := signingKeyManifestVersion
      generation := manifest.generation
      issuedAt := manifest.issuedAt
      validFrom := manifest.validFrom
      validUntil := manifest.validUntil
      rootKeyId := rootPublicKey.keyId
      rootKeyFingerprint := rootPublicKey.publicKeyFingerprint
      activeKeyId := (activeKey manifest).keyId
      keyCount := ⟨manifest.keys.length, manifest.count.1⟩
      manifestSha256 := manifestSha256 }
    trustStore := manifest.keys.map trustedKeyFromEntry }

end AgenticLab.SigningKeyManifest
