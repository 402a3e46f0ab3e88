import AgenticLab.Model.Reports.ArchiveExport
import AgenticLab.Model.RootTransition
import AgenticLab.Model.SigningKeyManifest

/-! # Authenticated and signed messages

The message of `_create_report_hmac` in `app/report_authenticity.py`, with the report behind it, and
those of `build_archive_signature_message`, `build_root_transition_signature_message` and
`build_key_manifest_signature_message`. -/

namespace AgenticLab

/-- What `_create_report_hmac` accepts, with the bytes of the report. -/
structure ReportHmacInput where
  keyId : KeyId
  authenticatedAt : UtcDatetime
  filename : String
  data : List UInt8
  accepted : ReportAuthentication.validateAuthenticationFilename filename = .ok ()

def hmacDomainSeparator : List UInt8 := asciiBytes "agentic-ai-lab:audit-report:hmac-sha256:v2"

def ReportHmacInput.message (input : ReportHmacInput) : List UInt8 :=
  SeparatedFields.join 0 [hmacDomainSeparator, asciiBytes input.keyId.val,
    asciiBytes (String.ofList (formatIso input.authenticatedAt)),
    TextFile.encode input.filename.toList] input.data

def calculateReportHmacBytes (sha256 : Sha256) (secret : List UInt8) (input : ReportHmacInput) :
    String := hmacHexdigest sha256 secret input.message

/-- What `build_archive_signature_message` accepts. -/
structure ArchiveSignatureInput where
  filename : String
  archiveBytes : List UInt8
  archiveSha256 : Sha256Digest
  keyId : KeyId
  signedAt : UtcDatetime
  archiveFormatVersion : PositiveInt
  accepted : ArchiveSignature.isValidArchiveFilename filename = true

def archiveSignatureDomainSeparator : List UInt8 :=
  asciiBytes "agentic-ai-lab:audit-report-archive:ed25519-signature:v1"

/-- `build_archive_signature_message` -/
def ArchiveSignatureInput.message (input : ArchiveSignatureInput) : List UInt8 :=
  joinZero [archiveSignatureDomainSeparator, asciiBytes input.keyId.val,
    asciiBytes (String.ofList (formatIso input.signedAt)), TextFile.encode input.filename.toList,
    decimalBytes input.archiveFormatVersion.val, asciiBytes input.archiveSha256.val,
    input.archiveBytes]

/-- What `build_root_transition_signature_message` accepts, where the bytes are those of a
transition that has been validated and canonicalized. -/
structure RootTransitionInput (p : Platform) where
  transition : RootTransition.RootTransitionManifestPayload p.sha256
  canonicalTransitionBytes : List UInt8
  transitionSha256 : Sha256Digest
  transitionVersion : PositiveInt
  transitionGeneration : PositiveInt
  previousRootEpoch : PositiveInt
  previousRootKeyId : KeyId
  nextRootEpoch : PositiveInt
  nextRootKeyId : KeyId
  canonicalized : RootTransition.canonicalizeRootTransition p.datetimes transition =
    .ok canonicalTransitionBytes

/-- `build_root_transition_signature_message` -/
def RootTransitionInput.message {p : Platform} (input : RootTransitionInput p) : List UInt8 :=
  joinZero [RootTransition.rootTransitionSignatureDomainSeparator,
    decimalBytes input.transitionVersion.val, decimalBytes input.transitionGeneration.val,
    decimalBytes input.previousRootEpoch.val, asciiBytes input.previousRootKeyId.val,
    decimalBytes input.nextRootEpoch.val, asciiBytes input.nextRootKeyId.val,
    asciiBytes input.transitionSha256.val, input.canonicalTransitionBytes]

/-- What `build_key_manifest_signature_message` accepts, where the bytes are those of a manifest
that has been validated and canonicalized. -/
structure KeyManifestInput (p : Platform) where
  manifest : SigningKeyManifest.SigningKeyManifestPayload p.sha256
  canonicalManifestBytes : List UInt8
  manifestSha256 : Sha256Digest
  rootKeyId : KeyId
  manifestVersion : PositiveInt
  generation : PositiveInt
  canonicalized : SigningKeyManifest.canonicalizeSigningKeyManifest p.datetimes manifest =
    .ok canonicalManifestBytes

/-- `build_key_manifest_signature_message` -/
def KeyManifestInput.message {p : Platform} (input : KeyManifestInput p) : List UInt8 :=
  joinZero [SigningKeyManifest.keyManifestSignatureDomainSeparator, asciiBytes input.rootKeyId.val,
    decimalBytes input.manifestVersion.val, decimalBytes input.generation.val,
    asciiBytes input.manifestSha256.val, input.canonicalManifestBytes]

inductive SignedMessage (p : Platform) where
  | report (input : ReportHmacInput)
  | archive (input : ArchiveSignatureInput)
  | rootTransition (input : RootTransitionInput p)
  | keyManifest (input : KeyManifestInput p)

def SignedMessage.bytes {p : Platform} : SignedMessage p → List UInt8
  | report input => input.message
  | archive input => input.message
  | rootTransition input => input.message
  | keyManifest input => input.message

end AgenticLab
