import AgenticLab.Model.CheckpointState
import AgenticLab.Model.Ed25519
import Mathlib.Data.String.Basic

/-! # Witness statements and their quorum

`app/transparency_witness.py`, `app/transparency_witness_trust.py` and
`app/transparency_quorum.py`, as far as statements are verified. -/

namespace AgenticLab.WitnessQuorum

open TransparencyCheckpointState

def trustStoreFailure : Raised :=
  ⟨.transparencyWitnessTrustStoreError, "The transparency witness trust store is invalid."⟩
def signatureFailure : Raised :=
  ⟨.transparencyWitnessSignatureError, "The transparency witness statement is invalid."⟩
def quorumFailure : Raised :=
  ⟨.transparencyWitnessQuorumError, "The transparency witness quorum was not satisfied."⟩
def quorumNotSatisfiedFailure : Raised :=
  ⟨.transparencyWitnessQuorumNotSatisfiedError,
    "The transparency witness quorum was not satisfied."⟩
def equivocationFailure : Raised :=
  ⟨.transparencyWitnessEquivocationError, "A transparency witness signed conflicting checkpoints."⟩

/-! ## The trust store -/

def isValidWitnessId (value : String) : Bool :=
  decide (1 ≤ value.length ∧ value.length ≤ 128) && value.toList.all isKeyIdChar

abbrev WitnessId := {value : String // isValidWitnessId value = true}

inductive TransparencyWitnessStatus where
  | active
  | verifyOnly
  | revoked
  deriving DecidableEq

inductive RevokedWitnessPolicy where
  | reject
  | allowPreRevocation
  deriving DecidableEq

structure TransparencyWitnessTrustEntry where
  witnessId : WitnessId
  publicKeyB64 : PublicKeyB64
  status : TransparencyWitnessStatus
  validFrom : UtcDatetime
  validUntil : Option UtcDatetime
  revokedAt : Option UtcDatetime
  window : ∀ validUntil' ∈ validUntil, validFrom < validUntil'
  revocation : ∀ revokedAt' ∈ revokedAt, validFrom ≤ revokedAt'
  revoked_iff : status = .revoked ↔ revokedAt.isSome = true

/-- `TransparencyWitnessTrustStorePayload`, without its two constant fields. -/
structure TransparencyWitnessTrustStorePayload where
  logId : Name
  minimumQuorum : PositiveInt
  witnesses : List TransparencyWitnessTrustEntry
  ids_nodup : (witnesses.map (·.witnessId.val)).Nodup
  keys_nodup : (witnesses.map (·.publicKeyB64.bytes)).Nodup
  quorum_le : minimumQuorum.val ≤ witnesses.countP (·.status = .active)

/-- `get_witness`, of an id that a statement was accepted with. -/
def TransparencyWitnessTrustStorePayload.getWitness
    (trustStore : TransparencyWitnessTrustStorePayload) (witnessId : WitnessId) :
    Except Raised TransparencyWitnessTrustEntry :=
  match trustStore.witnesses.find? (·.witnessId = witnessId) with
  | some witness => .ok witness
  | none => .error trustStoreFailure

/-- `ensure_witness_trusted_for_verification`, with the clock skew in microseconds. -/
def ensureWitnessTrustedForVerification (witness : TransparencyWitnessTrustEntry)
    (observedAt verificationTime : UtcDatetime) (policy : RevokedWitnessPolicy)
    (maximumClockSkew : ℤ) : Except Raised Unit := do
  raiseIf (maximumClockSkew < 0) trustStoreFailure
  raiseIf ((verificationTime.ticks : ℤ) + maximumClockSkew < observedAt.ticks) trustStoreFailure
  raiseIf (observedAt < witness.validFrom) trustStoreFailure
  raiseIf (∃ validUntil ∈ witness.validUntil, validUntil ≤ observedAt) trustStoreFailure
  if witness.status = .active ∨ witness.status = .verifyOnly then return ()
  else do
    raiseIf (policy = .reject) trustStoreFailure
    raiseIf (witness.revokedAt = none ∨ ∃ revokedAt ∈ witness.revokedAt, revokedAt ≤ observedAt)
      trustStoreFailure

/-! ## Statements -/

/-- `TransparencyWitnessStatementPayload`, without its two constant fields. -/
structure TransparencyWitnessStatementPayload where
  logId : Name
  witnessId : WitnessId
  checkpointSha256 : Sha256Digest
  treeSize : PositiveInt
  rootHash : Sha256Digest
  logSigningKeyId : Name
  observedAt : UtcDatetime
  previousWitnessed : Option (PositiveInt × Sha256Digest)
  consistencyProofSha256 : Option Sha256Digest

/-- What is read of a `TransparencyWitnessStatementEnvelope`. -/
structure TransparencyWitnessStatementEnvelope where
  statement : TransparencyWitnessStatementPayload
  signatureB64 : SignatureB64

def optionalAtom (digest : Option Sha256Digest) : Json.Atom :=
  match digest with
  | none => .null
  | some digest => .str digest.val

def statementMembers (datetimes : DatetimeCodec)
    (statement : TransparencyWitnessStatementPayload) : Fields :=
  [("statement_version", .atom (.int 1)),
    ("statement_type", .atom (.str "audit_report_transparency_witness_statement")),
    ("log_id", .atom (.str statement.logId.val)),
    ("witness_id", .atom (.str statement.witnessId.val)),
    ("checkpoint_sha256", .atom (.str statement.checkpointSha256.val)),
    ("tree_size", .atom (.int statement.treeSize.val)),
    ("root_hash", .atom (.str statement.rootHash.val)),
    ("log_signing_key_id", .atom (.str statement.logSigningKeyId.val)),
    ("observed_at", .atom (.str (datetimes.format statement.observedAt))),
    ("previous_witnessed_tree_size", .atom (match statement.previousWitnessed with
      | none => .null
      | some (treeSize, _) => .int treeSize.val)),
    ("previous_witnessed_root_hash", .atom (optionalAtom (statement.previousWitnessed.map (·.2)))),
    ("consistency_proof_sha256", .atom (optionalAtom statement.consistencyProofSha256))]

def statementMessage (datetimes : DatetimeCodec)
    (statement : TransparencyWitnessStatementPayload) : Except Raised (List UInt8) := do
  let canonical ← canonicalBytes (statementMembers datetimes statement)
  return joinZero [asciiBytes "agentic-ai-lab:transparency-witness-statement:ed25519:v1", canonical]

/-- `TransparencyWitnessStatementVerificationResult`, without the time and the key of the log. -/
structure TransparencyWitnessStatementVerificationResult where
  witnessId : WitnessId
  logId : String
  checkpointSha256 : String
  treeSize : ℤ
  rootHash : String

structure QuorumRequest where
  checkpoint : TransparencyCheckpointVerificationResult
  trustStore : TransparencyWitnessTrustStorePayload
  verificationTime : UtcDatetime
  requiredQuorum : Option ℤ
  revokedWitnessPolicy : RevokedWitnessPolicy
  maximumClockSkew : ℤ

variable (p : TrustPlatform) (request : QuorumRequest)

/-- `verify_transparency_witness_statement`, of a statement that was loaded. -/
def verifyTransparencyWitnessStatement (envelope : TransparencyWitnessStatementEnvelope) :
    Except Raised TransparencyWitnessStatementVerificationResult := do
  let statement := envelope.statement
  raiseIf (statement.logId.val ≠ request.checkpoint.logId ∨
    statement.checkpointSha256.val ≠ request.checkpoint.checkpointSha256 ∨
    (statement.treeSize.val : ℤ) ≠ request.checkpoint.treeSize ∨
    statement.rootHash.val ≠ request.checkpoint.rootHash ∨
    statement.logSigningKeyId.val ≠ request.checkpoint.logSigningKeyId ∨
    request.trustStore.logId.val ≠ request.checkpoint.logId) signatureFailure
  let witness ← request.trustStore.getWitness statement.witnessId
  ensureWitnessTrustedForVerification witness statement.observedAt request.verificationTime
    request.revokedWitnessPolicy request.maximumClockSkew
  let message ← statementMessage p.datetimes statement
  raiseIf (p.ed25519.verify witness.publicKeyB64.bytes envelope.signatureB64.bytes message = false)
    signatureFailure
  return ⟨statement.witnessId, statement.logId.val, statement.checkpointSha256.val,
    statement.treeSize.val, statement.rootHash.val⟩

/-! ## The quorum -/

/-- A statement file, as `load_transparency_witness_statement` reads it. -/
abbrev StatementFile := Except Raised TransparencyWitnessStatementEnvelope

abbrev ValidByWitness := List (WitnessId × TransparencyWitnessStatementVerificationResult)

/-- The loop over `statement_paths`. -/
def collectStatements : ValidByWitness → List StatementFile → Except Raised ValidByWitness
  | validByWitness, [] => .ok validByWitness
  | validByWitness, file :: files => do
      let envelope ← file
      let statement := envelope.statement
      match validByWitness.lookup statement.witnessId with
      | some existing => do
          raiseIf (existing.logId ≠ statement.logId.val ∨
            existing.treeSize ≠ statement.treeSize.val ∨
            existing.rootHash ≠ statement.rootHash.val ∨
            existing.checkpointSha256 ≠ statement.checkpointSha256.val) equivocationFailure
          collectStatements validByWitness files
      | none => do
          let result ← verifyTransparencyWitnessStatement p request envelope
          raiseIf (result.logId ≠ request.checkpoint.logId ∨
            result.treeSize ≠ request.checkpoint.treeSize ∨
            result.rootHash ≠ request.checkpoint.rootHash ∨
            result.checkpointSha256 ≠ request.checkpoint.checkpointSha256) quorumFailure
          collectStatements (validByWitness ++ [(result.witnessId, result)]) files

structure TransparencyWitnessQuorumResult where
  requiredQuorum : ℤ
  validWitnessIds : List String

def QuorumRequest.minimum : ℤ :=
  request.requiredQuorum.getD request.trustStore.minimumQuorum.val

def QuorumRequest.validate : Except Raised Unit := do
  raiseIf (request.trustStore.logId.val ≠ request.checkpoint.logId) quorumFailure
  raiseIf (request.minimum < request.trustStore.minimumQuorum.val) quorumFailure

def verifyTransparencyWitnessQuorum (files : List StatementFile) :
    Except Raised TransparencyWitnessQuorumResult := do
  request.validate
  let validByWitness ← collectStatements p request [] files
  let validIds := (validByWitness.map (·.1.val)).insertionSort (· ≤ ·)
  raiseIf ((validIds.length : ℤ) < request.minimum) quorumNotSatisfiedFailure
  return ⟨request.minimum, validIds⟩

end AgenticLab.WitnessQuorum
