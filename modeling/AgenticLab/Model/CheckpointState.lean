import AgenticLab.Model.StateFile

/-! # The witnessed state of signed checkpoints (`app/transparency_checkpoint_state.py`) -/

namespace AgenticLab.TransparencyCheckpointState

def transparencyCheckpointStateVersion : ℕ := 1
def transparencyCheckpointStateType : String := "audit_report_transparency_checkpoint_state"
def maxTransparencyCheckpointStateBytes : ℕ := 64 * 1024

def readFailure : Raised :=
  ⟨.transparencyCheckpointStateReadError, "Failed to read the transparency checkpoint state."⟩
def validationFailure : Raised :=
  ⟨.transparencyCheckpointStateValidationError, "The transparency checkpoint state is invalid."⟩
def exportFailure : Raised :=
  ⟨.transparencyCheckpointStateExportError, "Failed to export the transparency checkpoint state."⟩
def lockFailure : Raised :=
  ⟨.transparencyCheckpointStateLockError, "Failed to lock the transparency checkpoint state."⟩
def rollbackFailure : Raised :=
  ⟨.transparencyCheckpointRollbackError,
    "The transparency checkpoint would roll back the witnessed tree size."⟩
def splitViewFailure : Raised :=
  ⟨.transparencyCheckpointSplitViewError,
    "The transparency checkpoint conflicts with the witnessed tree root."⟩
def consistencyFailure : Raised :=
  ⟨.transparencyCheckpointConsistencyRequiredError,
    "A transparency checkpoint consistency proof is required."⟩

/-- A `str` field with `Field(min_length=1, max_length=128)`. -/
abbrev Name := {value : String // 1 ≤ value.length ∧ value.length ≤ 128}

def name? (value : String) : Option Name :=
  if h : 1 ≤ value.length ∧ value.length ≤ 128 then some ⟨value, h⟩ else none

theorem name?_val (value : Name) : name? value.val = some value := by
  rw [name?, dif_pos value.property]

/-- `TransparencyCheckpointStatePayload`, without its two constant fields. -/
structure TransparencyCheckpointStatePayload where
  logId : Name
  highestTreeSize : PositiveInt
  highestRootHash : Sha256Digest
  highestCheckpointSha256 : Sha256Digest
  logSigningKeyId : Name
  updatedAt : UtcDatetime
  deriving DecidableEq

structure TransparencyCheckpointStateApplyResult where
  storedState : Option TransparencyCheckpointStatePayload
  currentState : TransparencyCheckpointStatePayload
  stateUpdated : Bool

def stateFieldNames : List String :=
  ["state_version", "state_type", "log_id", "highest_tree_size", "highest_root_hash",
    "highest_checkpoint_sha256", "log_signing_key_id", "updated_at"]

def stateMembers (datetimes : DatetimeCodec) (state : TransparencyCheckpointStatePayload) :
    Fields :=
  [("state_version", .atom (.int transparencyCheckpointStateVersion)),
    ("state_type", .atom (.str transparencyCheckpointStateType)),
    ("log_id", .atom (.str state.logId.val)),
    ("highest_tree_size", .atom (.int state.highestTreeSize.val)),
    ("highest_root_hash", .atom (.str state.highestRootHash.val)),
    ("highest_checkpoint_sha256", .atom (.str state.highestCheckpointSha256.val)),
    ("log_signing_key_id", .atom (.str state.logSigningKeyId.val)),
    ("updated_at", .atom (.str (datetimes.format state.updatedAt)))]

/-- `TransparencyCheckpointStatePayload.model_validate_json` -/
def stateFromJson (datetimes : DatetimeCodec) (value : Json.Value) :
    Option TransparencyCheckpointStatePayload := do
  let fields ← objectFields? stateFieldNames value
  fields.literal? "state_version" (.int transparencyCheckpointStateVersion)
  fields.literal? "state_type" (.str transparencyCheckpointStateType)
  let logId ← (fields.str? "log_id").bind name?
  let highestTreeSize ← fields.positiveInt? "highest_tree_size"
  let highestRootHash ← fields.digest? "highest_root_hash"
  let highestCheckpointSha256 ← fields.digest? "highest_checkpoint_sha256"
  let logSigningKeyId ← (fields.str? "log_signing_key_id").bind name?
  let updatedAt ← fields.datetime? datetimes "updated_at"
  return ⟨logId, highestTreeSize, highestRootHash, highestCheckpointSha256, logSigningKeyId,
    updatedAt⟩

def transparencyCheckpointStateFormat (datetimes : DatetimeCodec) :
    StateFormat TransparencyCheckpointStatePayload where
  maxBytes := maxTransparencyCheckpointStateBytes
  validationFailure := validationFailure
  decodeFailure := validationFailure
  exportFailure := exportFailure
  members := stateMembers datetimes
  fromJson := stateFromJson datetimes

def loadTransparencyCheckpointState (datetimes : DatetimeCodec) (node : FileNode) :
    Except Raised (Option TransparencyCheckpointStatePayload) :=
  (transparencyCheckpointStateFormat datetimes).load node

def exportTransparencyCheckpointState (datetimes : DatetimeCodec) (node : FileNode)
    (state : TransparencyCheckpointStatePayload) (fault : Option ReplaceFault) :
    Except Raised Unit × FileNode :=
  (transparencyCheckpointStateFormat datetimes).exportTo node state fault

/-! ## Applying a checkpoint -/

/-- What is read of a `TransparencyCheckpointVerificationResult`; its fields carry no checks. -/
structure TransparencyCheckpointVerificationResult where
  logId : String
  treeSize : ℤ
  rootHash : String
  logSigningKeyId : String
  checkpointSha256 : String

/-- What is read of a `TransparencyConsistencyProofVerificationResult`. -/
structure TransparencyConsistencyProofVerificationResult where
  oldTreeSize : ℤ
  newTreeSize : ℤ
  oldRootHash : String
  newRootHash : String

def buildTransparencyCheckpointState (checkpoint : TransparencyCheckpointVerificationResult)
    (updatedAt : UtcDatetime) : Except Raised TransparencyCheckpointStatePayload :=
  match do
    let logId ← name? checkpoint.logId
    let highestTreeSize ← positiveInt? checkpoint.treeSize
    let highestRootHash ← sha256Digest? checkpoint.rootHash
    let highestCheckpointSha256 ← sha256Digest? checkpoint.checkpointSha256
    let logSigningKeyId ← name? checkpoint.logSigningKeyId
    return ⟨logId, highestTreeSize, highestRootHash, highestCheckpointSha256, logSigningKeyId,
      updatedAt⟩ with
  | some state => .ok state
  | none => .error ⟨.validationError, "validation error for TransparencyCheckpointStatePayload"⟩

/-- `hmac.compare_digest` on texts, the second of which may hold any character. -/
def compareDigest (stored given : String) : Except Raised Bool := do
  raiseIf (given.toList.any (fun character => 128 ≤ character.toNat) = true)
    ⟨.external "TypeError" .exception,
      "comparing strings with non-ASCII characters is not supported"⟩
  return decide (stored = given)

/-- What `apply_verified_checkpoint_to_state` decides over a stored state: whether the checkpoint
takes its place. -/
def replaces (stored : TransparencyCheckpointStatePayload)
    (checkpoint : TransparencyCheckpointVerificationResult)
    (consistencyProof : Option TransparencyConsistencyProofVerificationResult) :
    Except Raised Bool := do
  raiseIf (stored.logId.val ≠ checkpoint.logId ∨
    stored.logSigningKeyId.val ≠ checkpoint.logSigningKeyId) splitViewFailure
  raiseIf (checkpoint.treeSize < stored.highestTreeSize.val) rollbackFailure
  if checkpoint.treeSize = stored.highestTreeSize.val then do
    let sameRoot ← compareDigest stored.highestRootHash.val checkpoint.rootHash
    let sameDigest ← compareDigest stored.highestCheckpointSha256.val checkpoint.checkpointSha256
    raiseIf (sameRoot = false ∨ sameDigest = false) splitViewFailure
    return false
  else
    match consistencyProof with
    | none => throw consistencyFailure
    | some proof => do
        raiseIf (proof.oldTreeSize ≠ stored.highestTreeSize.val ∨
          proof.oldRootHash ≠ stored.highestRootHash.val ∨
          proof.newTreeSize ≠ checkpoint.treeSize ∨ proof.newRootHash ≠ checkpoint.rootHash)
          splitViewFailure
        return true

/-- `apply_verified_checkpoint_to_state` up to the export: its result when that succeeds. -/
def decideCheckpoint (datetimes : DatetimeCodec) (node : FileNode)
    (checkpoint : TransparencyCheckpointVerificationResult)
    (consistencyProof : Option TransparencyConsistencyProofVerificationResult)
    (updatedAt : UtcDatetime) (fault : Option StateFault) :
    Except Raised TransparencyCheckpointStateApplyResult := do
  raiseIf (fault = some StateFault.lock) lockFailure
  raiseIf (fault = some StateFault.read) readFailure
  let storedState ← loadTransparencyCheckpointState datetimes node
  match storedState with
  | none => do
      let current ← buildTransparencyCheckpointState checkpoint updatedAt
      return ⟨none, current, true⟩
  | some stored => do
      let replaced ← replaces stored checkpoint consistencyProof
      if replaced = true then do
        let current ← buildTransparencyCheckpointState checkpoint updatedAt
        return ⟨some stored, current, true⟩
      else return ⟨some stored, stored, false⟩

/-- The result of `apply_verified_checkpoint_to_state`, and the state file it leaves. -/
def applyVerifiedCheckpointToState (datetimes : DatetimeCodec) (node : FileNode)
    (checkpoint : TransparencyCheckpointVerificationResult)
    (consistencyProof : Option TransparencyConsistencyProofVerificationResult)
    (updatedAt : UtcDatetime) (fault : Option StateFault) :
    Except Raised TransparencyCheckpointStateApplyResult × FileNode :=
  match decideCheckpoint datetimes node checkpoint consistencyProof updatedAt fault with
  | .error failure => (.error failure, node)
  | .ok result =>
    if result.stateUpdated = true then
      let (exported, after) := exportTransparencyCheckpointState datetimes node
        result.currentState (StateFault.replace? fault)
      (do
        exported
        return result, after)
    else (.ok result, node)

end AgenticLab.TransparencyCheckpointState
