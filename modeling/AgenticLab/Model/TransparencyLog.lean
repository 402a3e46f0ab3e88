import Mathlib.Data.List.DropRight
import AgenticLab.Model.TransparencyLogState

/-! # Append-only transparency log (`app/transparency_log.py`) -/

namespace AgenticLab.TransparencyLog

def transparencyLogVersion : ℕ := 1
def transparencyLogEntryVersion : ℕ := 1
def transparencyLogEntryType : String := "audit_report_transparency_log_entry"
def transparencyLogEntryHashDomain : List UInt8 :=
  asciiBytes "agentic-ai-lab:transparency-log-entry:sha256:v1"
def maxTransparencyLogBytes : ℕ := 20 * 1024 * 1024
def maxTransparencyLogEntries : ℕ := 100000
def maxTransparencyEntryBytes : ℕ := 64 * 1024

def conflictMessage : String := "The transparency log already contains a conflicting artifact."

def validationFailure : Raised :=
  ⟨.transparencyLogValidationError, "The transparency log is invalid."⟩
def readFailure : Raised :=
  ⟨.transparencyLogReadError, "Failed to read the transparency log."⟩
def writeFailure : Raised :=
  ⟨.transparencyLogWriteError, "Failed to append to the transparency log."⟩
def divergenceFailure : Raised :=
  ⟨.transparencyLogDivergenceError, "The transparency log and state do not match."⟩
def stateMismatchFailure : Raised :=
  ⟨.transparencyLogStateMismatchError, "The transparency log and state do not match."⟩
def conflictFailure : Raised := ⟨.transparencyLogConflictError, conflictMessage⟩

inductive TransparencyLogEntryType where
  | rootTransition
  | signingKeyManifest
  deriving DecidableEq

def TransparencyLogEntryType.value : TransparencyLogEntryType → String
  | .rootTransition => "root_transition"
  | .signingKeyManifest => "signing_key_manifest"

def entryTypeFromValue? (value : String) : Option TransparencyLogEntryType :=
  if value = "root_transition" then some .rootTransition
  else if value = "signing_key_manifest" then some .signingKeyManifest
  else none

/-! ## Metadata -/

structure RootTransitionLogMetadata where
  previousRootEpoch : PositiveInt
  previousRootKeyId : KeyId
  previousRootFingerprint : Sha256Digest
  nextRootEpoch : PositiveInt
  nextRootKeyId : KeyId
  nextRootFingerprint : Sha256Digest
  transitionGeneration : PositiveInt
  issuedAt : UtcDatetime
  validFrom : UtcDatetime
  validUntil : UtcDatetime
  deriving DecidableEq

structure SigningKeyManifestLogMetadata where
  rootKeyId : KeyId
  rootKeyFingerprint : Sha256Digest
  manifestGeneration : PositiveInt
  issuedAt : UtcDatetime
  validFrom : UtcDatetime
  validUntil : UtcDatetime
  activeSigningKeyId : KeyId
  keyCount : PositiveInt
  deriving DecidableEq

/-- The two members of the union `metadata`. -/
inductive LogMetadata where
  | rootTransition (metadata : RootTransitionLogMetadata)
  | signingKeyManifest (metadata : SigningKeyManifestLogMetadata)
  deriving DecidableEq

def rootTransitionIdentifier (metadata : RootTransitionLogMetadata) : String :=
  "root-transition:" ++ toString metadata.previousRootEpoch.val ++ ":" ++
    toString metadata.nextRootEpoch.val ++ ":" ++ toString metadata.transitionGeneration.val

def signingKeyManifestIdentifier (metadata : SigningKeyManifestLogMetadata) : String :=
  "signing-key-manifest:" ++ metadata.rootKeyFingerprint.val ++ ":" ++
    toString metadata.manifestGeneration.val

def LogMetadata.entryType : LogMetadata → TransparencyLogEntryType
  | .rootTransition _ => .rootTransition
  | .signingKeyManifest _ => .signingKeyManifest

def LogMetadata.identifier : LogMetadata → String
  | .rootTransition metadata => rootTransitionIdentifier metadata
  | .signingKeyManifest metadata => signingKeyManifestIdentifier metadata

def rootTransitionFieldNames : List String :=
  ["previous_root_epoch", "previous_root_key_id", "previous_root_fingerprint",
    "next_root_epoch", "next_root_key_id", "next_root_fingerprint", "transition_generation",
    "issued_at", "valid_from", "valid_until"]

def signingKeyManifestFieldNames : List String :=
  ["root_key_id", "root_key_fingerprint", "manifest_generation", "issued_at", "valid_from",
    "valid_until", "active_signing_key_id", "key_count"]

section

variable (datetimes : DatetimeCodec)

def RootTransitionLogMetadata.members (metadata : RootTransitionLogMetadata) : Fields :=
  [("previous_root_epoch", .atom (.int metadata.previousRootEpoch.val)),
    ("previous_root_key_id", .atom (.str metadata.previousRootKeyId.val)),
    ("previous_root_fingerprint", .atom (.str metadata.previousRootFingerprint.val)),
    ("next_root_epoch", .atom (.int metadata.nextRootEpoch.val)),
    ("next_root_key_id", .atom (.str metadata.nextRootKeyId.val)),
    ("next_root_fingerprint", .atom (.str metadata.nextRootFingerprint.val)),
    ("transition_generation", .atom (.int metadata.transitionGeneration.val)),
    ("issued_at", .atom (.str (datetimes.format metadata.issuedAt))),
    ("valid_from", .atom (.str (datetimes.format metadata.validFrom))),
    ("valid_until", .atom (.str (datetimes.format metadata.validUntil)))]

def SigningKeyManifestLogMetadata.members (metadata : SigningKeyManifestLogMetadata) :
    Fields :=
  [("root_key_id", .atom (.str metadata.rootKeyId.val)),
    ("root_key_fingerprint", .atom (.str metadata.rootKeyFingerprint.val)),
    ("manifest_generation", .atom (.int metadata.manifestGeneration.val)),
    ("issued_at", .atom (.str (datetimes.format metadata.issuedAt))),
    ("valid_from", .atom (.str (datetimes.format metadata.validFrom))),
    ("valid_until", .atom (.str (datetimes.format metadata.validUntil))),
    ("active_signing_key_id", .atom (.str metadata.activeSigningKeyId.val)),
    ("key_count", .atom (.int metadata.keyCount.val))]

def LogMetadata.toJson : LogMetadata → Json.Value
  | .rootTransition metadata => .obj (metadata.members datetimes)
  | .signingKeyManifest metadata => .obj (metadata.members datetimes)

def rootTransitionMetadataFromJson (value : Json.Value) : Option RootTransitionLogMetadata := do
  let fields ← objectFields? rootTransitionFieldNames value
  return {
    previousRootEpoch := ← fields.positiveInt? "previous_root_epoch"
    previousRootKeyId := ← fields.keyId? "previous_root_key_id"
    previousRootFingerprint := ← fields.digest? "previous_root_fingerprint"
    nextRootEpoch := ← fields.positiveInt? "next_root_epoch"
    nextRootKeyId := ← fields.keyId? "next_root_key_id"
    nextRootFingerprint := ← fields.digest? "next_root_fingerprint"
    transitionGeneration := ← fields.positiveInt? "transition_generation"
    issuedAt := ← fields.datetime? datetimes "issued_at"
    validFrom := ← fields.datetime? datetimes "valid_from"
    validUntil := ← fields.datetime? datetimes "valid_until" }

def signingKeyManifestMetadataFromJson (value : Json.Value) :
    Option SigningKeyManifestLogMetadata := do
  let fields ← objectFields? signingKeyManifestFieldNames value
  return {
    rootKeyId := ← fields.keyId? "root_key_id"
    rootKeyFingerprint := ← fields.digest? "root_key_fingerprint"
    manifestGeneration := ← fields.positiveInt? "manifest_generation"
    issuedAt := ← fields.datetime? datetimes "issued_at"
    validFrom := ← fields.datetime? datetimes "valid_from"
    validUntil := ← fields.datetime? datetimes "valid_until"
    activeSigningKeyId := ← fields.keyId? "active_signing_key_id"
    keyCount := ← fields.positiveInt? "key_count" }

/-- The models of the union have different fields, so at most one of them accepts. -/
def metadataFromJson (value : Json.Value) : Option LogMetadata :=
  match rootTransitionMetadataFromJson datetimes value with
  | some metadata => some (.rootTransition metadata)
  | none => (signingKeyManifestMetadataFromJson datetimes value).map .signingKeyManifest

end

/-! ## Entries -/

/-- `_validate_metadata` with the bounds on the identifier. -/
def describes (metadata : LogMetadata) (artifactType : TransparencyLogEntryType)
    (artifactIdentifier : String) : Bool :=
  fitsIdentifier artifactIdentifier && decide (metadata.entryType = artifactType) &&
    decide (artifactIdentifier = metadata.identifier)

/-- `TransparencyLogEntryUnsignedPayload`, without its two constant fields. -/
structure TransparencyLogEntryUnsignedPayload where
  sequence : PositiveInt
  recordedAt : UtcDatetime
  artifactType : TransparencyLogEntryType
  artifactVersion : PositiveInt
  artifactIdentifier : String
  artifactSha256 : Sha256Digest
  previousEntryHash : Option Sha256Digest
  metadata : LogMetadata
  consistent : describes metadata artifactType artifactIdentifier = true
  deriving DecidableEq

structure TransparencyLogEntryPayload where
  unsigned : TransparencyLogEntryUnsignedPayload
  entryHash : Sha256Digest
  deriving DecidableEq

structure VerifiedTransparencyArtifact where
  artifactType : TransparencyLogEntryType
  artifactVersion : ℤ
  artifactIdentifier : String
  artifactSha256 : String
  metadata : LogMetadata
  deriving DecidableEq

structure TransparencyLogInclusionResult where
  sequence : ℕ
  entryHash : Sha256Digest
  recordedAt : UtcDatetime
  artifactType : TransparencyLogEntryType
  artifactIdentifier : String
  artifactSha256 : Sha256Digest
  deriving DecidableEq

/-- `entriesByIdentifier` keeps the insertion order of the dictionary. -/
structure TransparencyLogVerificationResult where
  logVersion : ℕ
  entryCount : ℕ
  firstSequence : Option ℕ
  lastSequence : Option ℕ
  lastEntryHash : Option Sha256Digest
  rootTransitionCount : ℕ
  signingKeyManifestCount : ℕ
  entriesByIdentifier : List (String × TransparencyLogInclusionResult)
  entryHashes : List Sha256Digest
  deriving DecidableEq

structure TransparencyLogAppendResult where
  inclusion : TransparencyLogInclusionResult
  entryRegistered : Bool
  verificationResult : TransparencyLogVerificationResult
  deriving DecidableEq

def entryFieldNames : List String :=
  ["entry_version", "entry_type", "sequence", "recorded_at", "artifact_type",
    "artifact_version", "artifact_identifier", "artifact_sha256", "previous_entry_hash",
    "metadata", "entry_hash"]

section

variable (datetimes : DatetimeCodec)

def unsignedMembers (unsigned : TransparencyLogEntryUnsignedPayload) : Fields :=
  [("entry_version", .atom (.int transparencyLogEntryVersion)),
    ("entry_type", .atom (.str transparencyLogEntryType)),
    ("sequence", .atom (.int unsigned.sequence.val)),
    ("recorded_at", .atom (.str (datetimes.format unsigned.recordedAt))),
    ("artifact_type", .atom (.str unsigned.artifactType.value)),
    ("artifact_version", .atom (.int unsigned.artifactVersion.val)),
    ("artifact_identifier", .atom (.str unsigned.artifactIdentifier)),
    ("artifact_sha256", .atom (.str unsigned.artifactSha256.val)),
    ("previous_entry_hash",
      match unsigned.previousEntryHash with
      | none => .atom .null
      | some digest => .atom (.str digest.val)),
    ("metadata", unsigned.metadata.toJson datetimes)]

def entryMembers (entry : TransparencyLogEntryPayload) : Fields :=
  unsignedMembers datetimes entry.unsigned ++ [("entry_hash", .atom (.str entry.entryHash.val))]

/-- `TransparencyLogEntryPayload.model_validate_json` -/
def entryFromJson (value : Json.Value) : Option TransparencyLogEntryPayload := do
  let fields ← objectFields? entryFieldNames value
  fields.literal? "entry_version" (.int transparencyLogEntryVersion)
  fields.literal? "entry_type" (.str transparencyLogEntryType)
  let sequence ← fields.positiveInt? "sequence"
  let recordedAt ← fields.datetime? datetimes "recorded_at"
  let artifactType ← (fields.str? "artifact_type").bind entryTypeFromValue?
  let artifactVersion ← fields.positiveInt? "artifact_version"
  let artifactIdentifier ← fields.str? "artifact_identifier"
  let artifactSha256 ← fields.digest? "artifact_sha256"
  let previousEntryHash ← fields.optionalDigest? "previous_entry_hash"
  let metadata ← (fields.lookup "metadata").bind (metadataFromJson datetimes)
  let entryHash ← fields.digest? "entry_hash"
  if consistent : describes metadata artifactType artifactIdentifier = true then
    return ⟨⟨sequence, recordedAt, artifactType, artifactVersion, artifactIdentifier,
      artifactSha256, previousEntryHash, metadata, consistent⟩, entryHash⟩
  else none

def canonicalizeTransparencyLogUnsignedEntry (unsigned : TransparencyLogEntryUnsignedPayload) :
    Except Raised (List UInt8) := do
  let text ← jsonDumps Json.compact (Json.Value.obj (unsignedMembers datetimes unsigned)).sortKeys
  return TextFile.encode text

end

section

variable (p : Platform)

def calculateTransparencyEntryHash (unsigned : TransparencyLogEntryUnsignedPayload) :
    Except Raised Sha256Digest := do
  let canonical ← canonicalizeTransparencyLogUnsignedEntry p.datetimes unsigned
  return ⟨p.sha256.hexdigest (transparencyLogEntryHashDomain ++ 0 :: canonical),
    p.sha256.hexdigest_valid _⟩

def parseEntry (text : List Char) : Except Raised TransparencyLogEntryPayload :=
  match (loadsNoDuplicateKeys text).bind (entryFromJson p.datetimes) with
  | none => .error validationFailure
  | some entry => .ok entry

/-! ## Verification -/

structure LogFiles where
  log : FileNode
  state : FileNode
  deriving DecidableEq

/-- The local variables of the verification loop. -/
structure Scan where
  entries : List (String × TransparencyLogInclusionResult)
  entryHashes : List Sha256Digest
  previousHash : Option Sha256Digest
  rootCount : ℕ
  manifestCount : ℕ
  sequence : ℕ

def Scan.start : Scan := ⟨[], [], none, 0, 0, 0⟩

def inclusionOf (entry : TransparencyLogEntryPayload) : TransparencyLogInclusionResult where
  sequence := entry.unsigned.sequence.val
  entryHash := entry.entryHash
  recordedAt := entry.unsigned.recordedAt
  artifactType := entry.unsigned.artifactType
  artifactIdentifier := entry.unsigned.artifactIdentifier
  artifactSha256 := entry.unsigned.artifactSha256

def Scan.add (scan : Scan) (entry : TransparencyLogEntryPayload) : Scan where
  entries := scan.entries ++ [(entry.unsigned.artifactIdentifier, inclusionOf entry)]
  entryHashes := scan.entryHashes ++ [entry.entryHash]
  previousHash := some entry.entryHash
  rootCount :=
    if entry.unsigned.artifactType = .rootTransition then scan.rootCount + 1 else scan.rootCount
  manifestCount :=
    if entry.unsigned.artifactType = .rootTransition then scan.manifestCount
    else scan.manifestCount + 1
  sequence := scan.sequence + 1

/-- `bytes.strip() == b""` -/
def isBlankLine (line : List UInt8) : Bool :=
  line.all fun byte => byte == 32 || (9 ≤ byte && byte ≤ 13)

def readEntry (line : List UInt8) : Except Raised TransparencyLogEntryPayload :=
  match TextFile.decode line with
  | none => .error validationFailure
  | some text => parseEntry p (text.rdropWhile (· == '\n'))

def checkEntry (scan : Scan) (entry : TransparencyLogEntryPayload) : Except Raised Scan := do
  let sequence := scan.sequence + 1
  raiseIf (entry.unsigned.sequence.val ≠ sequence) validationFailure
  raiseIf (sequence = 1 ∧ entry.unsigned.previousEntryHash ≠ none) validationFailure
  raiseIf (1 < sequence ∧ entry.unsigned.previousEntryHash ≠ scan.previousHash) validationFailure
  let calculated ← calculateTransparencyEntryHash p entry.unsigned
  raiseIf (entry.entryHash ≠ calculated) validationFailure
  raiseIf ((scan.entries.lookup entry.unsigned.artifactIdentifier).isSome) conflictFailure
  return scan.add entry

def verifyLine (scan : Scan) (line : List UInt8) : Except Raised Scan := do
  raiseIf (line.getLast? ≠ some TextFile.lineFeed ∨ isBlankLine line = true) validationFailure
  raiseIf (maxTransparencyEntryBytes < line.length) validationFailure
  raiseIf (maxTransparencyLogEntries < scan.sequence + 1) validationFailure
  let entry ← readEntry p line
  checkEntry p scan entry

def emptyResult : TransparencyLogVerificationResult :=
  ⟨transparencyLogVersion, 0, none, none, none, 0, 0, [], []⟩

def Scan.result (scan : Scan) : TransparencyLogVerificationResult :=
  ⟨transparencyLogVersion, scan.sequence, some 1, some scan.sequence, scan.previousHash,
    scan.rootCount, scan.manifestCount, scan.entries, scan.entryHashes⟩

def verifyTransparencyLogUnlocked (files : LogFiles) :
    Except Raised TransparencyLogVerificationResult := do
  let state ← loadTransparencyLogState p.datetimes files.state
  match files.log, state with
  | .symlink, _ => throw validationFailure
  | .directory, _ => throw validationFailure
  | .absent, some _ => throw divergenceFailure
  | .absent, none => return emptyResult
  | .regular _, none => throw divergenceFailure
  | .regular content, some state => do
      raiseIf (maxTransparencyLogBytes < content.length) validationFailure
      let scan ← (TextFile.rawLines content).foldlM (verifyLine p) Scan.start
      raiseIf (scan.sequence = 0) divergenceFailure
      raiseIf (state.lastSequence.val ≠ scan.sequence ∨
        some state.lastEntryHash ≠ scan.previousHash) stateMismatchFailure
      return scan.result

def verifyTransparencyLog (files : LogFiles) :
    Except Raised TransparencyLogVerificationResult :=
  verifyTransparencyLogUnlocked p files

def requireTransparencyEntry (verificationResult : TransparencyLogVerificationResult)
    (artifact : VerifiedTransparencyArtifact) :
    Except Raised TransparencyLogInclusionResult :=
  match verificationResult.entriesByIdentifier.lookup artifact.artifactIdentifier with
  | none =>
    match artifact.artifactType with
    | .rootTransition => .error ⟨.unloggedRootTransitionError,
        "The root transition is not registered in the transparency log."⟩
    | .signingKeyManifest => .error ⟨.unloggedSigningKeyManifestError,
        "The signing key manifest is not registered in the transparency log."⟩
  | some inclusion =>
    if inclusion.artifactType ≠ artifact.artifactType ∨
        inclusion.artifactSha256.val ≠ artifact.artifactSha256 then
      match artifact.artifactType with
      | .rootTransition => .error ⟨.rootTransitionTransparencyConflictError, conflictMessage⟩
      | .signingKeyManifest =>
        .error ⟨.signingKeyManifestTransparencyConflictError, conflictMessage⟩
    else .ok inclusion

/-! ## Registration -/

/-- Where a registration meets an operating system error: at the lock, at one of its two
verifications, or in one of its two durable writes. -/
inductive RegisterFault where
  | lock
  | readBefore
  | appendBeforeOpen
  | appendAfterOpen (written : ℕ)
  | stateExport (fault : ReplaceFault)
  | readAfter
  deriving DecidableEq

/-- `TransparencyLogEntryUnsignedPayload(...)` on the values of a registration. -/
def buildUnsignedEntry (verification : TransparencyLogVerificationResult)
    (artifact : VerifiedTransparencyArtifact) (recordedAt : UtcDatetime) :
    Except Raised TransparencyLogEntryUnsignedPayload :=
  match positiveInt? artifact.artifactVersion, sha256Digest? artifact.artifactSha256 with
  | some version, some digest =>
    if consistent : describes artifact.metadata artifact.artifactType
        artifact.artifactIdentifier = true then
      .ok ⟨⟨verification.entryCount + 1, by omega⟩, recordedAt, artifact.artifactType, version,
        artifact.artifactIdentifier, digest, verification.lastEntryHash, artifact.metadata,
        consistent⟩
    else .error ⟨.validationError, "TransparencyLogEntryUnsignedPayload"⟩
  | _, _ => .error ⟨.validationError, "TransparencyLogEntryUnsignedPayload"⟩

def formatEntryLine (entry : TransparencyLogEntryPayload) : Except Raised (List UInt8) := do
  let text ← jsonDumps Json.compact (.obj (entryMembers p.datetimes entry))
  return TextFile.encode (text ++ ['\n'])

def prepareEntry (verification : TransparencyLogVerificationResult)
    (artifact : VerifiedTransparencyArtifact) (recordedAt : UtcDatetime) :
    Except Raised (TransparencyLogEntryPayload × List UInt8) := do
  raiseIf (maxTransparencyLogEntries ≤ verification.entryCount) validationFailure
  let unsigned ← buildUnsignedEntry verification artifact recordedAt
  let entryHash ← calculateTransparencyEntryHash p unsigned
  let entry : TransparencyLogEntryPayload := ⟨unsigned, entryHash⟩
  let line ← formatEntryLine p entry
  raiseIf (maxTransparencyEntryBytes < line.length) validationFailure
  return (entry, line)

/-- The result of `_append_log_line` and the log file it leaves behind. Opening creates the
file; a failing write may have put the first bytes of the line on disk. -/
def appendLogLine (log : FileNode) (line : List UInt8) (fault : Option RegisterFault) :
    Except Raised Unit × FileNode :=
  match log with
  | .symlink => (.error validationFailure, log)
  | .directory => (.error validationFailure, log)
  | .absent => append []
  | .regular content => append content
where
  append (content : List UInt8) : Except Raised Unit × FileNode :=
    if maxTransparencyLogBytes < content.length + line.length then (.error validationFailure, log)
    else
      match fault with
      | some .appendBeforeOpen => (.error writeFailure, log)
      | some (.appendAfterOpen written) =>
        (.error writeFailure, .regular (content ++ line.take written))
      | _ => (.ok (), .regular (content ++ line))

def buildTransparencyLogState (entry : TransparencyLogEntryPayload) (updatedAt : UtcDatetime) :
    TransparencyLogStatePayload where
  logVersion := ⟨transparencyLogEntryVersion, by decide⟩
  lastSequence := entry.unsigned.sequence
  lastEntryHash := entry.entryHash
  lastArtifactType := ⟨entry.unsigned.artifactType.value, by
    cases entry.unsigned.artifactType <;> decide⟩
  lastArtifactIdentifier := ⟨entry.unsigned.artifactIdentifier, by
    have h := entry.unsigned.consistent
    simp only [describes, Bool.and_eq_true] at h
    exact h.1.1⟩
  updatedAt := updatedAt

def RegisterFault.export? : Option RegisterFault → Option ReplaceFault
  | some (.stateExport fault) => some fault
  | _ => none

def writeEntry (files : LogFiles) (entry : TransparencyLogEntryPayload) (line : List UInt8)
    (recordedAt : UtcDatetime) (fault : Option RegisterFault) : Except Raised Unit × LogFiles :=
  let (appended, log) := appendLogLine files.log line fault
  match appended with
  | .error failure => (.error failure, { files with log := log })
  | .ok () =>
    let (exported, state) := exportTransparencyLogState p.datetimes files.state
      (buildTransparencyLogState entry recordedAt) (RegisterFault.export? fault)
    (exported, ⟨log, state⟩)

def lockAndVerify (files : LogFiles) (fault : Option RegisterFault) :
    Except Raised TransparencyLogVerificationResult := do
  raiseIf (fault = some RegisterFault.lock) writeFailure
  raiseIf (fault = some RegisterFault.readBefore) readFailure
  verifyTransparencyLogUnlocked p files

/-- The result of `register_verified_artifact` and the files it leaves behind. -/
def registerVerifiedArtifact (files : LogFiles) (artifact : VerifiedTransparencyArtifact)
    (recordedAt : UtcDatetime) (fault : Option RegisterFault) :
    Except Raised TransparencyLogAppendResult × LogFiles :=
  match lockAndVerify p files fault with
  | .error failure => (.error failure, files)
  | .ok verification =>
    match verification.entriesByIdentifier.lookup artifact.artifactIdentifier with
    | some _ =>
      (do
        let inclusion ← requireTransparencyEntry verification artifact
        return ⟨inclusion, false, verification⟩, files)
    | none =>
      match prepareEntry p verification artifact recordedAt with
      | .error failure => (.error failure, files)
      | .ok (entry, line) =>
        let (written, after) := writeEntry p files entry line recordedAt fault
        (do
          written
          raiseIf (fault = some RegisterFault.readAfter) readFailure
          let verificationAfter ← verifyTransparencyLogUnlocked p after
          let inclusion ← requireTransparencyEntry verificationAfter artifact
          return ⟨inclusion, true, verificationAfter⟩, after)

inductive TransparencyLogMode where
  | requireExisting
  | registerIfMissing
  deriving DecidableEq

/-- What the callers with a verified artifact do with their mode: its inclusion, and the log
files they leave behind. -/
def inclusionForMode (files : LogFiles) (artifact : VerifiedTransparencyArtifact)
    (recordedAt : UtcDatetime) (mode : TransparencyLogMode) (fault : Option RegisterFault) :
    Except Raised TransparencyLogInclusionResult × LogFiles :=
  match mode with
  | .registerIfMissing =>
    let (result, after) := registerVerifiedArtifact p files artifact recordedAt fault
    (do
      let appended ← result
      return appended.inclusion, after)
  | .requireExisting =>
    (do
      let verification ← lockAndVerify p files fault
      requireTransparencyEntry verification artifact, files)

end

end AgenticLab.TransparencyLog
