import AgenticLab.Model.WitnessStatement

/-! # Split-view evidence (`app/transparency_gossip.py`) -/

namespace AgenticLab.SplitViewEvidence

open TransparencyCheckpointState (Name name? TransparencyCheckpointVerificationResult)
open WitnessQuorum
open WitnessStatement (witnessId? checkpointFields? invalidModelFailure
  TransparencyWitnessPrivateKey)

def transparencySplitViewEvidenceVersion : ℕ := 1
def transparencySplitViewEvidenceType : String := "audit_report_transparency_split_view_evidence"
def transparencySplitViewEvidenceDomain : List UInt8 :=
  asciiBytes "agentic-ai-lab:transparency-split-view-evidence:ed25519:v1"
def transparencyWitnessSignatureAlgorithm : String := "Ed25519"
def maxTransparencySplitViewEvidenceBytes : ℕ := 128 * 1024

def evidenceFailure : Raised :=
  ⟨.external "TransparencySplitViewEvidenceError" .exception,
    "The transparency split-view evidence is invalid."⟩
def conflictFailure : Raised :=
  ⟨.external "TransparencySplitViewEvidenceConflictError" .exception,
    "The transparency split-view evidence conflicts with an existing file."⟩
def configurationFailure : Raised :=
  ⟨.external "TransparencyWitnessConfigurationError" .exception,
    "The transparency witness key is not configured safely."⟩

/-! ## Evidence -/

structure NamedCheckpoint where
  checkpointSha256 : Sha256Digest
  rootHash : Sha256Digest
  logSigningKeyId : Name

/-- `TransparencySplitViewEvidencePayload`, without its two constant fields; `first` and `second`
are three fields each. -/
structure TransparencySplitViewEvidencePayload where
  logId : Name
  treeSize : PositiveInt
  first : NamedCheckpoint
  second : NamedCheckpoint
  detectedByWitnessId : WitnessId
  detectedAt : UtcDatetime

structure TransparencySplitViewEvidenceEnvelope where
  evidence : TransparencySplitViewEvidencePayload
  signatureB64 : String
  signedAt : UtcDatetime

def evidenceFieldNames : List String :=
  ["evidence_version", "evidence_type", "log_id", "tree_size", "first_checkpoint_sha256",
    "first_root_hash", "first_log_signing_key_id", "second_checkpoint_sha256", "second_root_hash",
    "second_log_signing_key_id", "detected_by_witness_id", "detected_at"]

def evidenceMembers (datetimes : DatetimeCodec)
    (evidence : TransparencySplitViewEvidencePayload) : Fields :=
  [("evidence_version", .atom (.int transparencySplitViewEvidenceVersion)),
    ("evidence_type", .atom (.str transparencySplitViewEvidenceType)),
    ("log_id", .atom (.str evidence.logId.val)),
    ("tree_size", .atom (.int evidence.treeSize.val)),
    ("first_checkpoint_sha256", .atom (.str evidence.first.checkpointSha256.val)),
    ("first_root_hash", .atom (.str evidence.first.rootHash.val)),
    ("first_log_signing_key_id", .atom (.str evidence.first.logSigningKeyId.val)),
    ("second_checkpoint_sha256", .atom (.str evidence.second.checkpointSha256.val)),
    ("second_root_hash", .atom (.str evidence.second.rootHash.val)),
    ("second_log_signing_key_id", .atom (.str evidence.second.logSigningKeyId.val)),
    ("detected_by_witness_id", .atom (.str evidence.detectedByWitnessId.val)),
    ("detected_at", .atom (.str (datetimes.format evidence.detectedAt)))]

def envelopeFieldNames : List String := ["evidence", "algorithm", "signature_b64", "signed_at"]

def envelopeMembers (datetimes : DatetimeCodec)
    (envelope : TransparencySplitViewEvidenceEnvelope) : Fields :=
  [("evidence", .obj (evidenceMembers datetimes envelope.evidence)),
    ("algorithm", .atom (.str transparencyWitnessSignatureAlgorithm)),
    ("signature_b64", .atom (.str envelope.signatureB64)),
    ("signed_at", .atom (.str (datetimes.format envelope.signedAt)))]

def evidenceMessage (datetimes : DatetimeCodec)
    (evidence : TransparencySplitViewEvidencePayload) : Except Raised (List UInt8) := do
  let canonical ← canonicalBytes (evidenceMembers datetimes evidence)
  return transparencySplitViewEvidenceDomain ++ 0 :: canonical

/-- `stable_payload` -/
def stableMembers (evidence : TransparencySplitViewEvidencePayload) : Fields :=
  [("detected_by_witness_id", .atom (.str evidence.detectedByWitnessId.val)),
    ("first_checkpoint_sha256", .atom (.str evidence.first.checkpointSha256.val)),
    ("first_root_hash", .atom (.str evidence.first.rootHash.val)),
    ("log_id", .atom (.str evidence.logId.val)),
    ("second_checkpoint_sha256", .atom (.str evidence.second.checkpointSha256.val)),
    ("second_root_hash", .atom (.str evidence.second.rootHash.val)),
    ("tree_size", .atom (.int evidence.treeSize.val))]

variable (p : TrustPlatform)

def transparencySplitViewEvidenceId (envelope : TransparencySplitViewEvidenceEnvelope) :
    Except Raised String := do
  let bytes ← canonicalBytes (stableMembers envelope.evidence)
  return p.sha256.hexdigest bytes

def checkpointFromJson (fields : Fields) (digestName rootName keyName : String) :
    Option NamedCheckpoint := do
  let checkpointSha256 ← fields.digest? digestName
  let rootHash ← fields.digest? rootName
  let logSigningKeyId ← (fields.str? keyName).bind name?
  return ⟨checkpointSha256, rootHash, logSigningKeyId⟩

def evidenceFromJson (datetimes : DatetimeCodec) (value : Json.Value) :
    Option TransparencySplitViewEvidencePayload := do
  let fields ← objectFields? evidenceFieldNames value
  fields.literal? "evidence_version" (.int transparencySplitViewEvidenceVersion)
  fields.literal? "evidence_type" (.str transparencySplitViewEvidenceType)
  let logId ← (fields.str? "log_id").bind name?
  let treeSize ← fields.positiveInt? "tree_size"
  let first ← checkpointFromJson fields "first_checkpoint_sha256" "first_root_hash"
    "first_log_signing_key_id"
  let second ← checkpointFromJson fields "second_checkpoint_sha256" "second_root_hash"
    "second_log_signing_key_id"
  let detectedByWitnessId ← (fields.str? "detected_by_witness_id").bind witnessId?
  let detectedAt ← fields.datetime? datetimes "detected_at"
  return ⟨logId, treeSize, first, second, detectedByWitnessId, detectedAt⟩

/-- `TransparencySplitViewEvidenceEnvelope.model_validate_json` -/
def envelopeFromJson (datetimes : DatetimeCodec) (value : Json.Value) :
    Option TransparencySplitViewEvidenceEnvelope := do
  let fields ← objectFields? envelopeFieldNames value
  let evidence ← (fields.lookup "evidence").bind (evidenceFromJson datetimes)
  fields.literal? "algorithm" (.str transparencyWitnessSignatureAlgorithm)
  let signatureB64 ← fields.str? "signature_b64"
  let signedAt ← fields.datetime? datetimes "signed_at"
  return ⟨evidence, signatureB64, signedAt⟩

def loadTransparencySplitViewEvidence (node : FileNode) :
    Except Raised TransparencySplitViewEvidenceEnvelope :=
  match node with
  | .regular content => do
      raiseIf (maxTransparencySplitViewEvidenceBytes < content.length) evidenceFailure
      match (TextFile.decode content).bind fun text =>
          (loadsNoDuplicateKeys text).bind (envelopeFromJson p.datetimes) with
      | none => .error evidenceFailure
      | some envelope => .ok envelope
  | _ => .error evidenceFailure

/-- The bytes that `export_transparency_split_view_evidence` writes. -/
def exportedBytes (envelope : TransparencySplitViewEvidenceEnvelope) :
    Except Raised (List UInt8) := do
  let text ← jsonDumps Json.indented (.obj (envelopeMembers p.datetimes envelope))
  return TextFile.encode (text ++ ['\n'])

/-- The three variables of the environment. -/
structure WitnessEnvironment where
  witnessId : Option String
  privateKeyB64 : Option String
  publicKeyB64 : Option String

def ed25519PrivateKeyBytes : ℕ := 32

def environmentBytes? (size : ℕ) (value : Option String) : Option (List UInt8) :=
  value.bind (decodeB64? size)

def loadTransparencyWitnessPrivateKey (environ : WitnessEnvironment) :
    Except Raised TransparencyWitnessPrivateKey :=
  match environ.witnessId.bind witnessId?,
      environmentBytes? ed25519PrivateKeyBytes environ.privateKeyB64,
      environmentBytes? ed25519PublicKeyBytes environ.publicKeyB64 with
  | some witnessId, some privateBytes, some publicBytes => do
      raiseIf (p.ed25519.publicKey privateBytes ≠ publicBytes) configurationFailure
      return ⟨witnessId, privateBytes, publicBytes⟩
  | _, _, _ => .error configurationFailure

def loadWitnessPublicIdentity (environ : WitnessEnvironment) :
    Except Raised (WitnessId × List UInt8) :=
  match environ.witnessId.bind witnessId?,
      environmentBytes? ed25519PublicKeyBytes environ.publicKeyB64 with
  | some witnessId, some publicBytes => .ok (witnessId, publicBytes)
  | _, _ => .error conflictFailure

/-! ## Creation -/

abbrev CheckpointPair :=
  TransparencyCheckpointVerificationResult × TransparencyCheckpointVerificationResult

def normalizeCheckpointPair (first second : TransparencyCheckpointVerificationResult) :
    Except Raised CheckpointPair := do
  raiseIf (first.logId ≠ second.logId ∨ first.treeSize ≠ second.treeSize) evidenceFailure
  raiseIf (first.rootHash = second.rootHash ∨ first.checkpointSha256 = second.checkpointSha256)
    evidenceFailure
  if second.checkpointSha256 < first.checkpointSha256 then return (second, first)
  else return (first, second)

def buildEvidencePayload (pair : CheckpointPair) (witnessId : WitnessId)
    (detectedAt : UtcDatetime) : Except Raised TransparencySplitViewEvidencePayload :=
  match checkpointFields? pair.1, checkpointFields? pair.2 with
  | some first, some second => .ok ⟨first.logId, first.treeSize,
      ⟨first.checkpointSha256, first.rootHash, first.logSigningKeyId⟩,
      ⟨second.checkpointSha256, second.rootHash, second.logSigningKeyId⟩, witnessId, detectedAt⟩
  | _, _ => .error (invalidModelFailure "TransparencySplitViewEvidencePayload")

/-- `public_key.verify(base64.b64decode(..), message)`, and whether it returns. -/
def verifiesB64 (publicKey : List UInt8) (signatureB64 : String) (message : List UInt8) : Bool :=
  match b64decode? signatureB64.toList with
  | none => false
  | some signature => p.ed25519.verify publicKey signature message

def validateExistingEvidence (envelope : TransparencySplitViewEvidenceEnvelope)
    (pair : CheckpointPair) (witnessId : WitnessId) (publicKeyBytes : List UInt8) :
    Except Raised Unit := do
  let evidence := envelope.evidence
  let expected ← buildEvidencePayload pair witnessId evidence.detectedAt
  raiseIf (evidence.logId ≠ expected.logId ∨ evidence.treeSize ≠ expected.treeSize ∨
    evidence.first.checkpointSha256 ≠ expected.first.checkpointSha256 ∨
    evidence.first.rootHash ≠ expected.first.rootHash ∨
    evidence.first.logSigningKeyId ≠ expected.first.logSigningKeyId ∨
    evidence.second.checkpointSha256 ≠ expected.second.checkpointSha256 ∨
    evidence.second.rootHash ≠ expected.second.rootHash ∨
    evidence.second.logSigningKeyId ≠ expected.second.logSigningKeyId ∨
    evidence.detectedByWitnessId ≠ expected.detectedByWitnessId) conflictFailure
  match evidenceMessage p.datetimes evidence with
  | .error _ => .error conflictFailure
  | .ok message =>
    raiseIf (verifiesB64 p publicKeyBytes envelope.signatureB64 message = false) conflictFailure

def signEvidence (evidence : TransparencySplitViewEvidencePayload)
    (key : TransparencyWitnessPrivateKey) (signedAt : UtcDatetime) :
    Except Raised TransparencySplitViewEvidenceEnvelope := do
  let message ← evidenceMessage p.datetimes evidence
  let signature := p.ed25519.sign key.privateKeyBytes message
  raiseIf (signature.length ≠ ed25519SignatureBytes) evidenceFailure
  return ⟨evidence, String.ofList (b64encode signature), signedAt⟩

def existingEvidence (environ : WitnessEnvironment) (pair : CheckpointPair) (node : FileNode) :
    Except Raised TransparencySplitViewEvidenceEnvelope := do
  let (witnessId, publicKeyBytes) ← loadWitnessPublicIdentity environ
  let envelope ← loadTransparencySplitViewEvidence p node
  validateExistingEvidence p envelope pair witnessId publicKeyBytes
  return envelope

def freshEvidence (environ : WitnessEnvironment) (pair : CheckpointPair)
    (detectedAt : UtcDatetime) :
    Except Raised (TransparencySplitViewEvidenceEnvelope × List UInt8) := do
  let key ← loadTransparencyWitnessPrivateKey p environ
  let evidence ← buildEvidencePayload pair key.witnessId detectedAt
  let envelope ← signEvidence p evidence key detectedAt
  let content ← exportedBytes p envelope
  return (envelope, content)

def normalizeVerified
    (checkpoint conflicting : Except Raised TransparencyCheckpointVerificationResult) :
    Except Raised CheckpointPair := do
  let first ← checkpoint
  let second ← conflicting
  normalizeCheckpointPair first second

/-- What follows for the normalized pair, and the file it leaves. A symbolic link is refused whether
it leads to a file or not. -/
def createNormalized (environ : WitnessEnvironment) (pair : CheckpointPair)
    (detectedAt : UtcDatetime) (node : FileNode) :
    Except Raised TransparencySplitViewEvidenceEnvelope × FileNode :=
  match node with
  | .absent =>
    match freshEvidence p environ pair detectedAt with
    | .error failure => (.error failure, .absent)
    | .ok (envelope, content) => (.ok envelope, .regular content)
  | node => (existingEvidence p environ pair node, node)

/-- `create_transparency_split_view_evidence`, from the verification of the two checkpoints on. -/
def createTransparencySplitViewEvidence (environ : WitnessEnvironment)
    (checkpoint conflicting : Except Raised TransparencyCheckpointVerificationResult)
    (detectedAt : UtcDatetime) (node : FileNode) :
    Except Raised TransparencySplitViewEvidenceEnvelope × FileNode :=
  match normalizeVerified checkpoint conflicting with
  | .error failure => (.error failure, node)
  | .ok pair => createNormalized p environ pair detectedAt node

structure TransparencySplitViewEvidenceVerificationResult where
  evidenceId : String
  logId : Name
  treeSize : PositiveInt
  witnessId : WitnessId
  detectedAt : UtcDatetime

/-- `verify_transparency_split_view_evidence`, with the clock skew in microseconds. -/
def verifyTransparencySplitViewEvidence (node : FileNode)
    (trustStore : TransparencyWitnessTrustStorePayload) (verificationTime : UtcDatetime)
    (revokedWitnessPolicy : RevokedWitnessPolicy) (maximumClockSkew : ℤ) :
    Except Raised TransparencySplitViewEvidenceVerificationResult := do
  let envelope ← loadTransparencySplitViewEvidence p node
  let evidence := envelope.evidence
  raiseIf (evidence.logId ≠ trustStore.logId) evidenceFailure
  let witness ← trustStore.getWitness evidence.detectedByWitnessId
  ensureWitnessTrustedForVerification witness evidence.detectedAt verificationTime
    revokedWitnessPolicy maximumClockSkew
  match evidenceMessage p.datetimes evidence with
  | .error _ => .error evidenceFailure
  | .ok message => do
      raiseIf (verifiesB64 p witness.publicKeyB64.bytes envelope.signatureB64 message = false)
        evidenceFailure
      let evidenceId ← transparencySplitViewEvidenceId p envelope
      return ⟨evidenceId, evidence.logId, evidence.treeSize, evidence.detectedByWitnessId,
        evidence.detectedAt⟩

end AgenticLab.SplitViewEvidence
