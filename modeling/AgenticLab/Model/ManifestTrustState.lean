import AgenticLab.Model.RootTrustState
import AgenticLab.Model.SigningKeyManifest

/-! # Rollback protection for signed key manifests (`app/manifest_trust_state.py`) -/

namespace AgenticLab.ManifestTrustState

open RootTrustState SigningKeyManifest

def manifestTrustStateVersion : ℕ := 1
def manifestTrustStateType : String := "archive_signing_key_manifest_trust_state"
def maxManifestTrustStateBytes : ℕ := 64 * 1024

def readFailure : Raised :=
  ⟨.manifestTrustStateReadError, "Failed to read the signing key manifest trust state."⟩
def validationFailure : Raised :=
  ⟨.manifestTrustStateValidationError, "The signing key manifest trust state is invalid."⟩
def exportFailure : Raised :=
  ⟨.manifestTrustStateExportError, "Failed to export the signing key manifest trust state."⟩
def lockFailure : Raised :=
  ⟨.manifestTrustStateLockError, "Failed to lock the signing key manifest trust state."⟩
def missingFailure : Raised :=
  ⟨.missingManifestTrustStateError, "The signing key manifest trust state is missing."⟩
def pathFailure : Raised :=
  ⟨.manifestTrustStatePathError, "The signing key manifest trust state path is required."⟩
def rootMismatchFailure : Raised :=
  ⟨.manifestTrustStateRootMismatchError,
    "The signing key manifest trust state belongs to a different root key."⟩
def generationConflictFailure : Raised :=
  ⟨.manifestTrustStateGenerationConflictError,
    "The signing key manifest generation conflicts with stored state."⟩
def rollbackFailure : Raised :=
  ⟨.signingKeyManifestRollbackError, "The archive signing key manifest generation is too old."⟩
def retireFailure : Raised :=
  ⟨.manifestTrustStateRetirementError, "Failed to retire the signing key manifest trust state."⟩

inductive ManifestTrustStateMode where
  | readOnly
  | update
  deriving DecidableEq

/-- `ManifestTrustStatePayload`, without its two constant fields. -/
structure ManifestTrustStatePayload where
  rootKeyId : KeyId
  rootKeyFingerprint : Sha256Digest
  highestGeneration : PositiveInt
  manifestSha256 : Sha256Digest
  manifestIssuedAt : UtcDatetime
  verifiedAt : UtcDatetime
  deriving DecidableEq

structure ManifestTrustStateDecision where
  storedState : Option ManifestTrustStatePayload
  effectiveMinimumGeneration : ℤ
  shouldUpdate : Bool
  stateUpdated : Bool
  deriving DecidableEq

def stateFieldNames : List String :=
  ["state_version", "state_type", "root_key_id", "root_key_fingerprint", "highest_generation",
    "manifest_sha256", "manifest_issued_at", "verified_at"]

def stateMembers (datetimes : DatetimeCodec) (state : ManifestTrustStatePayload) : Fields :=
  [("state_version", .atom (.int manifestTrustStateVersion)),
    ("state_type", .atom (.str manifestTrustStateType)),
    ("root_key_id", .atom (.str state.rootKeyId.val)),
    ("root_key_fingerprint", .atom (.str state.rootKeyFingerprint.val)),
    ("highest_generation", .atom (.int state.highestGeneration.val)),
    ("manifest_sha256", .atom (.str state.manifestSha256.val)),
    ("manifest_issued_at", .atom (.str (datetimes.format state.manifestIssuedAt))),
    ("verified_at", .atom (.str (datetimes.format state.verifiedAt)))]

/-- `ManifestTrustStatePayload.model_validate_json` -/
def stateFromJson (datetimes : DatetimeCodec) (value : Json.Value) :
    Option ManifestTrustStatePayload := do
  let fields ← objectFields? stateFieldNames value
  fields.literal? "state_version" (.int manifestTrustStateVersion)
  fields.literal? "state_type" (.str manifestTrustStateType)
  let rootKeyId ← fields.keyId? "root_key_id"
  let rootKeyFingerprint ← fields.digest? "root_key_fingerprint"
  let highestGeneration ← fields.positiveInt? "highest_generation"
  let manifestSha256 ← fields.digest? "manifest_sha256"
  let manifestIssuedAt ← fields.datetime? datetimes "manifest_issued_at"
  let verifiedAt ← fields.datetime? datetimes "verified_at"
  return ⟨rootKeyId, rootKeyFingerprint, highestGeneration, manifestSha256, manifestIssuedAt,
    verifiedAt⟩

def manifestTrustStateFormat (datetimes : DatetimeCodec) :
    StateFormat ManifestTrustStatePayload where
  maxBytes := maxManifestTrustStateBytes
  validationFailure := validationFailure
  decodeFailure := undecodable
  exportFailure := exportFailure
  members := stateMembers datetimes
  fromJson := stateFromJson datetimes

def loadManifestTrustState (datetimes : DatetimeCodec) (node : FileNode) :
    Except Raised (Option ManifestTrustStatePayload) :=
  (manifestTrustStateFormat datetimes).load node

def exportManifestTrustState (datetimes : DatetimeCodec) (node : FileNode)
    (state : ManifestTrustStatePayload) (fault : Option ReplaceFault) :
    Except Raised Unit × FileNode :=
  (manifestTrustStateFormat datetimes).exportTo node state fault

def buildManifestTrustState (verifiedManifest : VerifiedSigningKeyManifest)
    (verifiedAt : UtcDatetime) : ManifestTrustStatePayload where
  rootKeyId := verifiedManifest.result.rootKeyId
  rootKeyFingerprint := verifiedManifest.result.rootKeyFingerprint
  highestGeneration := verifiedManifest.result.generation
  manifestSha256 := verifiedManifest.result.manifestSha256
  manifestIssuedAt := verifiedManifest.result.issuedAt
  verifiedAt := verifiedAt

def effectiveMinimum (storedState : Option ManifestTrustStatePayload)
    (configuredMinimumGeneration : ℤ) : ℤ :=
  match storedState with
  | none => max configuredMinimumGeneration configuredMinimumGeneration
  | some stored => max configuredMinimumGeneration stored.highestGeneration.val

def evaluateManifestTrustState (verifiedManifest : VerifiedSigningKeyManifest)
    (storedState : Option ManifestTrustStatePayload) (configuredMinimumGeneration : ℤ) :
    Except Raised ManifestTrustStateDecision := do
  raiseIf (configuredMinimumGeneration < 1) validationFailure
  let result := verifiedManifest.result
  let minimum := effectiveMinimum storedState configuredMinimumGeneration
  raiseIf ((result.generation.val : ℤ) < minimum) rollbackFailure
  match storedState with
  | none => return ⟨none, minimum, true, false⟩
  | some stored => do
      raiseIf (result.rootKeyId ≠ stored.rootKeyId) rootMismatchFailure
      raiseIf (result.rootKeyFingerprint ≠ stored.rootKeyFingerprint) rootMismatchFailure
      if result.generation = stored.highestGeneration then do
        raiseIf (result.manifestSha256 ≠ stored.manifestSha256) generationConflictFailure
        return ⟨some stored, minimum, false, false⟩
      else return ⟨some stored, minimum, true, false⟩

/-- The state that `apply_manifest_trust_state` has loaded under its lock, and what it decides. -/
def decideManifestTrustState (datetimes : DatetimeCodec) (node : FileNode)
    (verifiedManifest : VerifiedSigningKeyManifest) (configuredMinimumGeneration : ℤ)
    (requireExistingState : Bool) (fault : Option StateFault) :
    Except Raised ManifestTrustStateDecision := do
  raiseIf (fault = some StateFault.lock) lockFailure
  raiseIf (fault = some StateFault.read) readFailure
  let storedState ← loadManifestTrustState datetimes node
  raiseIf (requireExistingState = true ∧ storedState = none) missingFailure
  evaluateManifestTrustState verifiedManifest storedState configuredMinimumGeneration

/-- The result of `apply_manifest_trust_state` on a given state path, and the file it leaves. -/
def applyManifestTrustStateAt (datetimes : DatetimeCodec) (node : FileNode)
    (verifiedManifest : VerifiedSigningKeyManifest) (verifiedAt : UtcDatetime)
    (configuredMinimumGeneration : ℤ) (mode : ManifestTrustStateMode)
    (requireExistingState : Bool) (fault : Option StateFault) :
    Except Raised ManifestTrustStateDecision × FileNode :=
  match decideManifestTrustState datetimes node verifiedManifest configuredMinimumGeneration
      requireExistingState fault with
  | .error failure => (.error failure, node)
  | .ok decision =>
    if mode = .update ∧ decision.shouldUpdate = true then
      let (exported, after) := exportManifestTrustState datetimes node
        (buildManifestTrustState verifiedManifest verifiedAt) (StateFault.replace? fault)
      (do
        exported
        return ⟨decision.storedState, decision.effectiveMinimumGeneration,
          decision.shouldUpdate, true⟩, after)
    else (.ok decision, node)

/-- The result of `apply_manifest_trust_state` and the state file it leaves; `none` stands for
a call without a state path. -/
def applyManifestTrustState (datetimes : DatetimeCodec) (statePath : Option FileNode)
    (verifiedManifest : VerifiedSigningKeyManifest) (verifiedAt : UtcDatetime)
    (configuredMinimumGeneration : ℤ) (mode : ManifestTrustStateMode)
    (requireExistingState : Bool) (fault : Option StateFault) :
    Except Raised ManifestTrustStateDecision × Option FileNode :=
  match statePath with
  | none =>
    (do
      raiseIf (requireExistingState = true) missingFailure
      raiseIf (mode = .update) pathFailure
      evaluateManifestTrustState verifiedManifest none configuredMinimumGeneration, none)
  | some node =>
    let (applied, after) := applyManifestTrustStateAt datetimes node verifiedManifest verifiedAt
      configuredMinimumGeneration mode requireExistingState fault
    (applied, some after)

structure ManifestStateFiles where
  state : FileNode
  retired : ℕ → FileNode

/-- The checks of `retire_manifest_trust_state`, up to the rename. -/
def checkRetirement {sha256 : Sha256} (datetimes : DatetimeCodec) (files : ManifestStateFiles)
    (currentRootState : RootTrustStatePayload sha256) (fault : Option StateFault) :
    Except Raised Unit := do
  raiseIf (fault = some StateFault.lock) retireFailure
  raiseIf (fault = some StateFault.read) readFailure
  match ← loadManifestTrustState datetimes files.state with
  | none => throw missingFailure
  | some state => do
      raiseIf (state.rootKeyId ≠ currentRootState.currentRootKeyId ∨
        state.rootKeyFingerprint ≠ currentRootState.currentRootPublicKeyFingerprint)
        rootMismatchFailure
      raiseIf ((files.retired currentRootState.currentRootEpoch.val).isPresent = true) retireFailure

def ManifestStateFiles.rename (files : ManifestStateFiles) (epoch : ℕ) : ManifestStateFiles where
  state := .absent
  retired := Function.update files.retired epoch files.state

/-- The result of `retire_manifest_trust_state` and the files it leaves behind. -/
def retireManifestTrustState {sha256 : Sha256} (datetimes : DatetimeCodec)
    (files : ManifestStateFiles) (currentRootState : RootTrustStatePayload sha256)
    (fault : Option StateFault) : Except Raised Unit × ManifestStateFiles :=
  match checkRetirement datetimes files currentRootState fault with
  | .error failure => (.error failure, files)
  | .ok () =>
    match StateFault.replace? fault with
    | some .beforeReplace => (.error retireFailure, files)
    | some .afterReplace =>
      (.error retireFailure, files.rename currentRootState.currentRootEpoch.val)
    | none => (.ok (), files.rename currentRootState.currentRootEpoch.val)

end AgenticLab.ManifestTrustState

/-! # Manifests against their state and the log (`app/signing_key_manifest.py`) -/

namespace AgenticLab.SigningKeyManifest

open RootTrustState ManifestTrustState TransparencyLog

structure ManifestRequest where
  verificationTime : UtcDatetime
  minimumGeneration : ℤ
  stateMode : ManifestTrustStateMode
  requireExistingState : Bool
  maximumClockSkew : ℤ
  deriving DecidableEq

variable (p : TrustPlatform)

def verifySigningKeyManifestWithState (statePath : Option FileNode)
    (files : SigningKeyManifestFiles p.sha256)
    (rootPublicKey : TrustedRootSigningPublicKey p.sha256) (request : ManifestRequest)
    (fault : Option StateFault) :
    Except Raised (VerifiedSigningKeyManifest × ManifestTrustStateDecision) × Option FileNode :=
  match verifySigningKeyManifest p files rootPublicKey request.verificationTime
      request.minimumGeneration request.maximumClockSkew with
  | .error failure => (.error failure, statePath)
  | .ok verified =>
    let (applied, after) := applyManifestTrustState p.datetimes statePath verified
      request.verificationTime request.minimumGeneration request.stateMode
      request.requireExistingState fault
    (applied.map fun decision => (verified, decision), after)

def verifySigningKeyManifestWithRootState (statePath : Option FileNode)
    (files : SigningKeyManifestFiles p.sha256) (rootState : RootTrustStatePayload p.sha256)
    (request : ManifestRequest) (fault : Option StateFault) :
    Except Raised (VerifiedSigningKeyManifest × ManifestTrustStateDecision) × Option FileNode :=
  verifySigningKeyManifestWithState p statePath files (trustedRootPublicKeyFromState rootState)
    request fault

def SigningKeyManifestVerificationResult.logMetadata
    (result : SigningKeyManifestVerificationResult) : SigningKeyManifestLogMetadata where
  rootKeyId := result.rootKeyId
  rootKeyFingerprint := result.rootKeyFingerprint
  manifestGeneration := result.generation
  issuedAt := result.issuedAt
  validFrom := result.validFrom
  validUntil := result.validUntil
  activeSigningKeyId := result.activeKeyId
  keyCount := result.keyCount

def transparencyArtifactFromVerifiedSigningKeyManifest
    (result : SigningKeyManifestVerificationResult) : VerifiedTransparencyArtifact where
  artifactType := .signingKeyManifest
  artifactVersion := result.manifestVersion
  artifactIdentifier := signingKeyManifestIdentifier result.logMetadata
  artifactSha256 := result.manifestSha256.val
  metadata := .signingKeyManifest result.logMetadata

structure ManifestDisk where
  statePath : Option FileNode
  log : LogFiles
  deriving DecidableEq

structure ManifestFaults where
  state : Option StateFault
  log : Option RegisterFault
  deriving DecidableEq

/-- What `verify_signing_key_manifest_with_root_state_and_transparency` returns and the files it
leaves behind. -/
def verifySigningKeyManifestWithRootStateAndTransparency (disk : ManifestDisk)
    (files : SigningKeyManifestFiles p.sha256) (rootState : RootTrustStatePayload p.sha256)
    (request : ManifestRequest) (transparencyMode : TransparencyLogMode)
    (faults : ManifestFaults) :
    Except Raised (VerifiedSigningKeyManifest × ManifestTrustStateDecision ×
      TransparencyLogInclusionResult) × ManifestDisk :=
  let (decided, statePath) := verifySigningKeyManifestWithRootState p disk.statePath files
    rootState request faults.state
  match decided with
  | .error failure => (.error failure, ⟨statePath, disk.log⟩)
  | .ok (verified, decision) =>
    let (included, log) := inclusionForMode p.toPlatform disk.log
      (transparencyArtifactFromVerifiedSigningKeyManifest verified.result)
      request.verificationTime transparencyMode faults.log
    (included.map fun inclusion => (verified, decision, inclusion), ⟨statePath, log⟩)

end AgenticLab.SigningKeyManifest
