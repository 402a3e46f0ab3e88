import AgenticLab.Model.RootTransition
import AgenticLab.Model.TransparencyLog

/-! # State of the active root key (`app/root_trust_state.py`) -/

namespace AgenticLab.RootTrustState

open RootTransition TransparencyLog

def rootTrustStateVersion : ℕ := 1
def rootTrustStateType : String := "audit_report_root_trust_state"
def maxRootTrustStateBytes : ℕ := 64 * 1024

def readFailure : Raised :=
  ⟨.rootTrustStateReadError, "Failed to read the root trust state."⟩
def validationFailure : Raised :=
  ⟨.rootTrustStateValidationError, "The root trust state is invalid."⟩
def exportFailure : Raised :=
  ⟨.rootTrustStateExportError, "Failed to export the root trust state."⟩
def lockFailure : Raised :=
  ⟨.rootTrustStateLockError, "Failed to lock the root trust state."⟩
def missingFailure : Raised :=
  ⟨.missingRootTrustStateError, "The root trust state is missing."⟩
def existsFailure : Raised :=
  ⟨.rootTrustStateAlreadyExistsError, "The root trust state already exists."⟩
def epochFailure : Raised :=
  ⟨.rootTrustStateEpochError, "The root transition epoch is invalid."⟩
def rereadFailure : Raised :=
  ⟨.rootTransitionValidationError, "The root transition manifest failed validation."⟩
def payloadFailure : Raised := ⟨.validationError, "RootTrustStatePayload"⟩
def notYetValidFailure : Raised :=
  ⟨.rootTransitionNotYetValidError, "The root transition is not active for application."⟩
def activeManifestFailure : Raised :=
  ⟨.activeManifestTrustStateBlocksRootTransitionError,
    "The active signing key manifest trust state must be retired before root transition."⟩

/-- `RootTrustStatePayload`, without its two constant fields. -/
structure RootTrustStatePayload (sha256 : Sha256) where
  currentRootEpoch : PositiveInt
  currentRootKeyId : KeyId
  currentRootPublicKeyB64 : PublicKeyB64
  currentRootPublicKeyFingerprint : Sha256Digest
  lastTransitionGeneration : ℕ
  lastTransitionSha256 : Option Sha256Digest
  updatedAt : UtcDatetime
  fingerprint_eq : currentRootPublicKeyFingerprint =
    fingerprintPublicKey sha256 currentRootPublicKeyB64.bytes
  digest_iff : lastTransitionSha256 = none ↔ lastTransitionGeneration = 0
  deriving DecidableEq

structure RootTransitionApplicationResult where
  previousRootEpoch : PositiveInt
  nextRootEpoch : PositiveInt
  previousRootKeyId : KeyId
  nextRootKeyId : KeyId
  transitionGeneration : PositiveInt
  transitionSha256 : Sha256Digest
  stateUpdated : Bool

def stateFieldNames : List String :=
  ["state_version", "state_type", "current_root_epoch", "current_root_key_id",
    "current_root_public_key_b64", "current_root_public_key_fingerprint",
    "last_transition_generation", "last_transition_sha256", "updated_at"]

def optionalDigestAtom : Option Sha256Digest → Json.Atom
  | none => .null
  | some digest => .str digest.val

section

variable {sha256 : Sha256}

def stateMembers (datetimes : DatetimeCodec) (state : RootTrustStatePayload sha256) : Fields :=
  [("state_version", .atom (.int rootTrustStateVersion)),
    ("state_type", .atom (.str rootTrustStateType)),
    ("current_root_epoch", .atom (.int state.currentRootEpoch.val)),
    ("current_root_key_id", .atom (.str state.currentRootKeyId.val)),
    ("current_root_public_key_b64", .atom (.str state.currentRootPublicKeyB64.val)),
    ("current_root_public_key_fingerprint", .atom (.str state.currentRootPublicKeyFingerprint.val)),
    ("last_transition_generation", .atom (.int state.lastTransitionGeneration)),
    ("last_transition_sha256", .atom (optionalDigestAtom state.lastTransitionSha256)),
    ("updated_at", .atom (.str (datetimes.format state.updatedAt)))]

/-- `RootTrustStatePayload.model_validate_json` -/
def stateFromJson (datetimes : DatetimeCodec) (value : Json.Value) :
    Option (RootTrustStatePayload sha256) := do
  let fields ← objectFields? stateFieldNames value
  fields.literal? "state_version" (.int rootTrustStateVersion)
  fields.literal? "state_type" (.str rootTrustStateType)
  let currentRootEpoch ← fields.positiveInt? "current_root_epoch"
  let currentRootKeyId ← fields.keyId? "current_root_key_id"
  let currentRootPublicKeyB64 ← (fields.str? "current_root_public_key_b64").bind publicKeyB64?
  let currentRootPublicKeyFingerprint ← fields.digest? "current_root_public_key_fingerprint"
  let lastTransitionGeneration ← (fields.int? "last_transition_generation").bind Int.toNat?
  let lastTransitionSha256 ← fields.optionalDigest? "last_transition_sha256"
  let updatedAt ← fields.datetime? datetimes "updated_at"
  if hfingerprint : currentRootPublicKeyFingerprint =
      fingerprintPublicKey sha256 currentRootPublicKeyB64.bytes then
    if hdigest : lastTransitionSha256 = none ↔ lastTransitionGeneration = 0 then
      return ⟨currentRootEpoch, currentRootKeyId, currentRootPublicKeyB64,
        currentRootPublicKeyFingerprint, lastTransitionGeneration, lastTransitionSha256,
        updatedAt, hfingerprint, hdigest⟩
    else none
  else none

def rootTrustStateFormat (sha256 : Sha256) (datetimes : DatetimeCodec) :
    StateFormat (RootTrustStatePayload sha256) where
  maxBytes := maxRootTrustStateBytes
  validationFailure := validationFailure
  decodeFailure := undecodable
  exportFailure := exportFailure
  members := stateMembers datetimes
  fromJson := stateFromJson datetimes

def trustedRootPublicKeyFromState (state : RootTrustStatePayload sha256) :
    TrustedRootSigningPublicKey sha256 where
  keyId := state.currentRootKeyId
  publicKeyBytes := state.currentRootPublicKeyB64.bytes
  publicKeyFingerprint := state.currentRootPublicKeyFingerprint
  length_eq := state.currentRootPublicKeyB64.length_bytes
  fingerprint_eq := state.fingerprint_eq

end

section

variable (p : TrustPlatform)

def loadRootTrustState (node : FileNode) :
    Except Raised (Option (RootTrustStatePayload p.sha256)) :=
  (rootTrustStateFormat p.sha256 p.datetimes).load node

def exportRootTrustState (node : FileNode) (state : RootTrustStatePayload p.sha256)
    (fault : Option ReplaceFault) : Except Raised Unit × FileNode :=
  (rootTrustStateFormat p.sha256 p.datetimes).exportTo node state fault

/-- `RootTrustStatePayload(...)` on validated values, with its check of the fingerprint. -/
def buildRootTrustState (epoch : PositiveInt) (keyId : KeyId) (publicKeyB64 : PublicKeyB64)
    (fingerprint : Sha256Digest) (lastTransition : Option Sha256Digest) (updatedAt : UtcDatetime) :
    Except Raised (RootTrustStatePayload p.sha256) :=
  if hfingerprint : fingerprint = fingerprintPublicKey p.sha256 publicKeyB64.bytes then
    .ok {
      currentRootEpoch := epoch
      currentRootKeyId := keyId
      currentRootPublicKeyB64 := publicKeyB64
      currentRootPublicKeyFingerprint := fingerprint
      lastTransitionGeneration := if lastTransition.isSome then rootTransitionGeneration else 0
      lastTransitionSha256 := lastTransition
      updatedAt := updatedAt
      fingerprint_eq := hfingerprint
      digest_iff := by cases lastTransition <;> simp [rootTransitionGeneration] }
  else .error payloadFailure

def buildInitialRootTrustState (rootPublicKey : TrustedRootSigningPublicKey p.sha256)
    (rootEpoch : ℤ) (initializedAt : UtcDatetime) :
    Except Raised (RootTrustStatePayload p.sha256) :=
  match positiveInt? rootEpoch with
  | none => .error epochFailure
  | some epoch =>
    match publicKeyB64? (String.ofList (b64encode rootPublicKey.publicKeyBytes)) with
    | none => .error payloadFailure
    | some publicKeyB64 => buildRootTrustState p epoch rootPublicKey.keyId publicKeyB64
        rootPublicKey.publicKeyFingerprint none initializedAt

/-- The result of `initialize_root_trust_state` and the state file it leaves behind. -/
def initializeRootTrustState (node : FileNode)
    (rootPublicKey : TrustedRootSigningPublicKey p.sha256) (rootEpoch : ℤ)
    (initializedAt : UtcDatetime) (fault : Option StateFault) :
    Except Raised (RootTrustStatePayload p.sha256) × FileNode :=
  let built : Except Raised (RootTrustStatePayload p.sha256) := do
    raiseIf (fault = some StateFault.lock) lockFailure
    raiseIf (fault = some StateFault.read) readFailure
    let existing ← loadRootTrustState p node
    raiseIf (existing.isSome = true) existsFailure
    buildInitialRootTrustState p rootPublicKey rootEpoch initializedAt
  match built with
  | .error failure => (.error failure, node)
  | .ok state =>
    let (exported, after) := exportRootTrustState p node state (StateFault.replace? fault)
    (do
      exported
      return state, after)

/-- The checks of `apply_root_transition`, up to the export. The transition file is read a second
time behind its verification: `reread` is what that yields. -/
def checkRootTransition (node : FileNode) (files : RootTransitionFiles p.sha256)
    (reread : Option (RootTransitionManifestPayload p.sha256)) (applicationTime : UtcDatetime)
    (activeManifest : Option FileNode) (fault : Option StateFault) :
    Except Raised (RootTransitionVerificationResult × RootTrustStatePayload p.sha256) := do
  raiseIf (fault = some StateFault.lock) lockFailure
  raiseIf (fault = some StateFault.read) readFailure
  match ← loadRootTrustState p node with
  | none => throw missingFailure
  | some currentState => do
      raiseIf (activeManifest.any FileNode.isPresent = true) activeManifestFailure
      let result ← verifyRootTransition p files (trustedRootPublicKeyFromState currentState)
        currentState.currentRootEpoch applicationTime
      raiseIf (result.isActiveForApplication = false) notYetValidFailure
      raiseIf (result.nextRootEpoch.val ≠ currentState.currentRootEpoch.val + 1) epochFailure
      match reread with
      | none => throw rereadFailure
      | some transition => do
          let nextState ← buildRootTrustState p result.nextRootEpoch result.nextRootKeyId
            transition.nextRoot.publicKeyB64 result.nextRootFingerprint
            (some result.transitionSha256) applicationTime
          return (result, nextState)

/-- The result of `apply_root_transition` and the state file it leaves behind. -/
def applyRootTransition (node : FileNode) (files : RootTransitionFiles p.sha256)
    (reread : Option (RootTransitionManifestPayload p.sha256)) (applicationTime : UtcDatetime)
    (activeManifest : Option FileNode) (fault : Option StateFault) :
    Except Raised RootTransitionApplicationResult × FileNode :=
  match checkRootTransition p node files reread applicationTime activeManifest fault with
  | .error failure => (.error failure, node)
  | .ok (result, nextState) =>
    let (exported, after) := exportRootTrustState p node nextState (StateFault.replace? fault)
    (do
      exported
      return {
        previousRootEpoch := result.previousRootEpoch
        nextRootEpoch := result.nextRootEpoch
        previousRootKeyId := result.previousRootKeyId
        nextRootKeyId := result.nextRootKeyId
        transitionGeneration := result.transitionGeneration
        transitionSha256 := result.transitionSha256
        stateUpdated := true }, after)

def transparencyArtifactFromVerifiedRootTransition (result : RootTransitionVerificationResult) :
    VerifiedTransparencyArtifact :=
  let metadata : RootTransitionLogMetadata := {
    previousRootEpoch := result.previousRootEpoch
    previousRootKeyId := result.previousRootKeyId
    previousRootFingerprint := result.previousRootFingerprint
    nextRootEpoch := result.nextRootEpoch
    nextRootKeyId := result.nextRootKeyId
    nextRootFingerprint := result.nextRootFingerprint
    transitionGeneration := result.transitionGeneration
    issuedAt := result.issuedAt
    validFrom := result.validFrom
    validUntil := result.validUntil }
  { artifactType := .rootTransition
    artifactVersion := result.transitionVersion
    artifactIdentifier := rootTransitionIdentifier metadata
    artifactSha256 := result.transitionSha256.val
    metadata := .rootTransition metadata }

structure RootDisk where
  rootState : FileNode
  log : LogFiles
  deriving DecidableEq

/-- Where a transition with the log meets an operating system error: reading the state, in the
log, and in the application. -/
structure RootFaults where
  read : Bool
  log : Option RegisterFault
  apply : Option StateFault
  deriving DecidableEq

def verifiedRootTransition (rootState : FileNode) (files : RootTransitionFiles p.sha256)
    (applicationTime : UtcDatetime) (fault : Bool) :
    Except Raised RootTransitionVerificationResult := do
  raiseIf (fault = true) readFailure
  match ← loadRootTrustState p rootState with
  | none => throw missingFailure
  | some currentState =>
    verifyRootTransition p files (trustedRootPublicKeyFromState currentState)
      currentState.currentRootEpoch applicationTime

/-- The result of `apply_root_transition_with_transparency` and the files it leaves behind. Its
three readings of the transition find the same file. -/
def applyRootTransitionWithTransparency (disk : RootDisk) (files : RootTransitionFiles p.sha256)
    (applicationTime : UtcDatetime) (activeManifest : Option FileNode)
    (mode : TransparencyLogMode) (faults : RootFaults) :
    Except Raised RootTransitionApplicationResult × RootDisk :=
  match verifiedRootTransition p disk.rootState files applicationTime faults.read with
  | .error failure => (.error failure, disk)
  | .ok verified =>
    let artifact := transparencyArtifactFromVerifiedRootTransition verified
    let (included, log) := inclusionForMode p.toPlatform disk.log artifact applicationTime mode
      faults.log
    match included with
    | .error failure => (.error failure, ⟨disk.rootState, log⟩)
    | .ok _ =>
      let (applied, rootState) := applyRootTransition p disk.rootState files
        files.transition.toOption applicationTime activeManifest faults.apply
      (applied, ⟨rootState, log⟩)

end

end AgenticLab.RootTrustState
