import AgenticLab.Model.WitnessQuorum

/-! # The making of witness statements (`app/transparency_witness.py`) -/

namespace AgenticLab.WitnessStatement

open TransparencyCheckpointState (Name name? TransparencyCheckpointVerificationResult)
open WitnessQuorum

def transparencyWitnessStateVersion : ℕ := 1
def transparencyWitnessStateType : String := "audit_report_transparency_witness_state"
def maxTransparencyWitnessStateBytes : ℕ := 64 * 1024

def stateFailure : Raised :=
  ⟨.transparencyWitnessStateError,
    "The transparency witness state could not be verified or updated safely."⟩
def rollbackFailure : Raised :=
  ⟨.transparencyWitnessRollbackError,
    "The transparency witness checkpoint would roll back tree size."⟩
def splitFailure : Raised :=
  ⟨.transparencyWitnessSplitViewError,
    "The transparency witness observed conflicting checkpoint roots."⟩
def invalidModelFailure (model : String) : Raised :=
  ⟨.validationError, "validation error for " ++ model⟩

/-! ## The state -/

/-- `TransparencyWitnessStatePayload`, without its two constant fields. -/
structure TransparencyWitnessStatePayload where
  logId : Name
  witnessId : WitnessId
  highestTreeSize : PositiveInt
  highestRootHash : Sha256Digest
  highestCheckpointSha256 : Sha256Digest
  logSigningKeyId : Name
  updatedAt : UtcDatetime

def stateFieldNames : List String :=
  ["state_version", "state_type", "log_id", "witness_id", "highest_tree_size",
    "highest_root_hash", "highest_checkpoint_sha256", "log_signing_key_id", "updated_at"]

def stateMembers (datetimes : DatetimeCodec) (state : TransparencyWitnessStatePayload) : Fields :=
  [("state_version", .atom (.int transparencyWitnessStateVersion)),
    ("state_type", .atom (.str transparencyWitnessStateType)),
    ("log_id", .atom (.str state.logId.val)),
    ("witness_id", .atom (.str state.witnessId.val)),
    ("highest_tree_size", .atom (.int state.highestTreeSize.val)),
    ("highest_root_hash", .atom (.str state.highestRootHash.val)),
    ("highest_checkpoint_sha256", .atom (.str state.highestCheckpointSha256.val)),
    ("log_signing_key_id", .atom (.str state.logSigningKeyId.val)),
    ("updated_at", .atom (.str (datetimes.format state.updatedAt)))]

def witnessId? (value : String) : Option WitnessId :=
  if h : isValidWitnessId value = true then some ⟨value, h⟩ else none

theorem witnessId?_val (value : WitnessId) : witnessId? value.val = some value := by
  rw [witnessId?, dif_pos value.property]

/-- `TransparencyWitnessStatePayload.model_validate_json` -/
def stateFromJson (datetimes : DatetimeCodec) (value : Json.Value) :
    Option TransparencyWitnessStatePayload := do
  let fields ← objectFields? stateFieldNames value
  fields.literal? "state_version" (.int transparencyWitnessStateVersion)
  fields.literal? "state_type" (.str transparencyWitnessStateType)
  let logId ← (fields.str? "log_id").bind name?
  let witnessId ← (fields.str? "witness_id").bind witnessId?
  let highestTreeSize ← fields.positiveInt? "highest_tree_size"
  let highestRootHash ← fields.digest? "highest_root_hash"
  let highestCheckpointSha256 ← fields.digest? "highest_checkpoint_sha256"
  let logSigningKeyId ← (fields.str? "log_signing_key_id").bind name?
  let updatedAt ← fields.datetime? datetimes "updated_at"
  return ⟨logId, witnessId, highestTreeSize, highestRootHash, highestCheckpointSha256,
    logSigningKeyId, updatedAt⟩

def transparencyWitnessStateFormat (datetimes : DatetimeCodec) :
    StateFormat TransparencyWitnessStatePayload where
  maxBytes := maxTransparencyWitnessStateBytes
  validationFailure := stateFailure
  decodeFailure := stateFailure
  exportFailure := stateFailure
  members := stateMembers datetimes
  fromJson := stateFromJson datetimes

def loadTransparencyWitnessState (datetimes : DatetimeCodec) (node : FileNode) :
    Except Raised (Option TransparencyWitnessStatePayload) :=
  (transparencyWitnessStateFormat datetimes).load node

/-! ## Statements -/

structure TransparencyWitnessPrivateKey where
  witnessId : WitnessId
  privateKeyBytes : List UInt8
  publicKeyBytes : List UInt8

/-- The fields of a checkpoint that a statement and a state take over. -/
structure CheckpointFields where
  logId : Name
  treeSize : PositiveInt
  rootHash : Sha256Digest
  checkpointSha256 : Sha256Digest
  logSigningKeyId : Name

/-- The checks that the models of statement and state make of these fields. -/
def checkpointFields? (checkpoint : TransparencyCheckpointVerificationResult) :
    Option CheckpointFields := do
  let logId ← name? checkpoint.logId
  let treeSize ← positiveInt? checkpoint.treeSize
  let rootHash ← sha256Digest? checkpoint.rootHash
  let checkpointSha256 ← sha256Digest? checkpoint.checkpointSha256
  let logSigningKeyId ← name? checkpoint.logSigningKeyId
  return ⟨logId, treeSize, rootHash, checkpointSha256, logSigningKeyId⟩

def buildTransparencyWitnessState (checkpoint : TransparencyCheckpointVerificationResult)
    (witnessId : WitnessId) (updatedAt : UtcDatetime) :
    Except Raised TransparencyWitnessStatePayload :=
  match checkpointFields? checkpoint with
  | some fields => .ok ⟨fields.logId, witnessId, fields.treeSize, fields.rootHash,
      fields.checkpointSha256, fields.logSigningKeyId, updatedAt⟩
  | none => .error (invalidModelFailure "TransparencyWitnessStatePayload")

def buildWitnessStatement (checkpoint : TransparencyCheckpointVerificationResult)
    (witnessId : WitnessId) (observedAt : UtcDatetime)
    (stored : Option TransparencyWitnessStatePayload)
    (consistencyDigest : Option Sha256Digest) :
    Except Raised TransparencyWitnessStatementPayload :=
  match checkpointFields? checkpoint with
  | some fields => .ok ⟨fields.logId, witnessId, fields.checkpointSha256, fields.treeSize,
      fields.rootHash, fields.logSigningKeyId, observedAt,
      stored.map fun state => (state.highestTreeSize, state.highestRootHash), consistencyDigest⟩
  | none => .error (invalidModelFailure "TransparencyWitnessStatementPayload")

def signStatement (p : TrustPlatform) (key : TransparencyWitnessPrivateKey)
    (statement : TransparencyWitnessStatementPayload) :
    Except Raised TransparencyWitnessStatementEnvelope := do
  let message ← statementMessage p.datetimes statement
  let signature := String.ofList (b64encode (p.ed25519.sign key.privateKeyBytes message))
  if h : (decodeB64? ed25519SignatureBytes signature).isSome = true then
    return ⟨statement, ⟨signature, h⟩⟩
  else throw (invalidModelFailure "TransparencyWitnessStatementEnvelope")

def stateMatchesCheckpoint (checkpoint : TransparencyCheckpointVerificationResult)
    (stored : TransparencyWitnessStatePayload) (witnessId : WitnessId) : Bool :=
  stored.logId.val = checkpoint.logId && stored.witnessId = witnessId &&
    (stored.highestTreeSize.val : ℤ) = checkpoint.treeSize &&
    stored.highestRootHash.val = checkpoint.rootHash &&
    stored.highestCheckpointSha256.val = checkpoint.checkpointSha256 &&
    stored.logSigningKeyId.val = checkpoint.logSigningKeyId

def validateCheckpointAgainstState (checkpoint : TransparencyCheckpointVerificationResult)
    (stored : TransparencyWitnessStatePayload) (witnessId : WitnessId) : Except Raised Unit := do
  raiseIf (stored.logId.val ≠ checkpoint.logId ∨ stored.witnessId ≠ witnessId) splitFailure
  raiseIf (checkpoint.treeSize < stored.highestTreeSize.val) rollbackFailure
  raiseIf (checkpoint.treeSize = stored.highestTreeSize.val ∧
    (stored.highestRootHash.val ≠ checkpoint.rootHash ∨
      stored.highestCheckpointSha256.val ≠ checkpoint.checkpointSha256 ∨
      stored.logSigningKeyId.val ≠ checkpoint.logSigningKeyId)) splitFailure

/-- `_load_matching_existing_statement`, of the file that the output path leads to. -/
def loadMatchingExistingStatement (p : TrustPlatform)
    (checkpoint : TransparencyCheckpointVerificationResult) (key : TransparencyWitnessPrivateKey)
    (file : StatementFile) : Except Raised TransparencyWitnessStatementEnvelope := do
  let envelope ← file
  let statement := envelope.statement
  raiseIf (statement.logId.val ≠ checkpoint.logId ∨ statement.witnessId ≠ key.witnessId ∨
    statement.checkpointSha256.val ≠ checkpoint.checkpointSha256 ∨
    (statement.treeSize.val : ℤ) ≠ checkpoint.treeSize ∨
    statement.rootHash.val ≠ checkpoint.rootHash ∨
    statement.logSigningKeyId.val ≠ checkpoint.logSigningKeyId) signatureFailure
  let message ← statementMessage p.datetimes statement
  raiseIf (p.ed25519.verify key.publicKeyBytes envelope.signatureB64.bytes message = false)
    signatureFailure
  return envelope

/-! ## One call -/

/-- Where a call meets an operating system error, or the process stops. -/
inductive WitnessFault where
  | lock
  | read
  | statement (fault : ReplaceFault)
  | state (fault : ReplaceFault)
  deriving DecidableEq

def WitnessFault.statement? : Option WitnessFault → Option ReplaceFault
  | some (.statement fault) => some fault
  | _ => none

def WitnessFault.state? : Option WitnessFault → Option ReplaceFault
  | some (.state fault) => some fault
  | _ => none

/-- The arguments of `create_transparency_witness_statement`, with what the checkpoint's
verification gives, what the output path leads to when it exists (and whether an export to it is
refused), and the digest of the consistency proof when it leads from a stored state to the
checkpoint. -/
structure WitnessCall where
  checkpoint : Except Raised TransparencyCheckpointVerificationResult
  existing : Option StatementFile
  outputRefused : Bool
  observedAt : UtcDatetime
  consistencyProof : Option (TransparencyWitnessStatePayload → Except Raised Sha256Digest)
  fault : Option WitnessFault

/-- What a call comes to before it exports: a statement that is there already, one for the stored
state, or one with a state that is to follow it. -/
inductive StatementPlan where
  | existing (envelope : TransparencyWitnessStatementEnvelope)
  | again (envelope : TransparencyWitnessStatementEnvelope)
  | new (envelope : TransparencyWitnessStatementEnvelope) (state : TransparencyWitnessStatePayload)

variable (p : TrustPlatform) (key : TransparencyWitnessPrivateKey)

def consistencyDigest (call : WitnessCall) (stored : Option TransparencyWitnessStatePayload)
    (checkpoint : TransparencyCheckpointVerificationResult) :
    Except Raised (Option Sha256Digest) :=
  match stored with
  | none => .ok none
  | some state =>
    if (state.highestTreeSize.val : ℤ) < checkpoint.treeSize then
      match call.consistencyProof with
      | none => .error stateFailure
      | some proof => do
          let digest ← proof state
          return some digest
    else .ok none

def planNew (call : WitnessCall) (stored : Option TransparencyWitnessStatePayload)
    (checkpoint : TransparencyCheckpointVerificationResult) : Except Raised StatementPlan := do
  let digest ← consistencyDigest call stored checkpoint
  let statement ← buildWitnessStatement checkpoint key.witnessId call.observedAt stored digest
  let envelope ← signStatement p key statement
  let current ← buildTransparencyWitnessState checkpoint key.witnessId call.observedAt
  return .new envelope current

/-- `create_transparency_witness_statement` up to its exports. -/
def planStatement (node : FileNode) (call : WitnessCall) : Except Raised StatementPlan := do
  let checkpoint ← call.checkpoint
  raiseIf (call.fault = some WitnessFault.lock) stateFailure
  raiseIf (call.fault = some WitnessFault.read) stateFailure
  let stored ← loadTransparencyWitnessState p.datetimes node
  match stored with
  | none => planNew p key call none checkpoint
  | some state => do
      validateCheckpointAgainstState checkpoint state key.witnessId
      if stateMatchesCheckpoint checkpoint state key.witnessId = true then
        match call.existing with
        | some file => do
            let envelope ← loadMatchingExistingStatement p checkpoint key file
            return .existing envelope
        | none => do
            let statement ← buildWitnessStatement checkpoint key.witnessId call.observedAt
              (some state) none
            let envelope ← signStatement p key statement
            return .again envelope
      else planNew p key call (some state) checkpoint

structure WitnessDisk where
  state : FileNode
  emitted : List TransparencyWitnessStatementEnvelope

/-- `export_transparency_witness_statement`; what is put in place can be read by others. -/
def exportStatement (disk : WitnessDisk) (call : WitnessCall)
    (envelope : TransparencyWitnessStatementEnvelope) : Except Raised Unit × WitnessDisk :=
  if call.outputRefused = true then (.error stateFailure, disk)
  else
    match WitnessFault.statement? call.fault with
    | some .beforeReplace => (.error stateFailure, disk)
    | some .afterReplace =>
      (.error stateFailure, { disk with emitted := disk.emitted ++ [envelope] })
    | none => (.ok (), { disk with emitted := disk.emitted ++ [envelope] })

/-- `create_transparency_witness_statement` and the disk it leaves; a call that stops is one that
raises. -/
def createTransparencyWitnessStatement (disk : WitnessDisk) (call : WitnessCall) :
    Except Raised TransparencyWitnessStatementEnvelope × WitnessDisk :=
  match planStatement p key disk.state call with
  | .error failure => (.error failure, disk)
  | .ok (.existing envelope) => (.ok envelope, disk)
  | .ok (.again envelope) =>
    match exportStatement disk call envelope with
    | (.error failure, after) => (.error failure, after)
    | (.ok (), after) => (.ok envelope, after)
  | .ok (.new envelope current) =>
    match exportStatement disk call envelope with
    | (.error failure, after) => (.error failure, after)
    | (.ok (), after) =>
      let (exported, node) := (transparencyWitnessStateFormat p.datetimes).exportTo
        after.state current (WitnessFault.state? call.fault)
      (do
        exported
        return envelope, { after with state := node })

end AgenticLab.WitnessStatement
