import AgenticLab.Model.Ed25519
import AgenticLab.Model.StateFile
import Mathlib.Data.List.Dedup

/-! # Trust decision receipts (`app/transparency_decision_receipt.py`)

With the result of `app/transparency_offline_verifier.py`, from the point on where its witness
statements have been verified. -/

namespace AgenticLab.DecisionReceipt

def transparencyTrustDecisionReceiptVersion : ℕ := 1
def transparencyTrustDecisionReceiptType : String :=
  "audit_report_transparency_trust_decision_receipt"
def transparencyDecisionReceiptSignatureDomain : List UInt8 :=
  asciiBytes "agentic-ai-lab:transparency-trust-decision-receipt:ed25519:v1"
def transparencyDecisionReceiptSignatureAlgorithm : String := "Ed25519"
def maxDecisionReceiptBytes : ℕ := 256 * 1024

def receiptFailure : Raised :=
  ⟨.external "TransparencyDecisionReceiptError" .exception,
    "The transparency trust decision receipt is invalid."⟩
def signatureFailure : Raised :=
  ⟨.external "TransparencyDecisionReceiptSignatureError" .exception,
    "The transparency trust decision receipt is invalid."⟩
def policyFailure : Raised :=
  ⟨.external "TransparencyDecisionPolicyError" .exception,
    "The transparency trust decision receipt does not satisfy policy."⟩
def offlineFailure : Raised :=
  ⟨.external "TransparencyOfflineVerificationError" .exception,
    "The transparency gossip bundle could not be verified offline."⟩

/-! ## Payloads -/

inductive TransparencyTrustDecision where
  | trusted
  | rejected
  deriving DecidableEq

def TransparencyTrustDecision.value : TransparencyTrustDecision → String
  | .trusted => "trusted"
  | .rejected => "rejected"

inductive TransparencyRejectionCode where
  | quorumNotSatisfied
  | artifactDigestMismatch
  | inclusionProofInvalid
  | localPolicyNotSatisfied
  | revokedWitness
  | consistencyProofRequired
  | splitViewDetected
  deriving DecidableEq

def TransparencyRejectionCode.value : TransparencyRejectionCode → String
  | .quorumNotSatisfied => "quorum_not_satisfied"
  | .artifactDigestMismatch => "artifact_digest_mismatch"
  | .inclusionProofInvalid => "inclusion_proof_invalid"
  | .localPolicyNotSatisfied => "local_policy_not_satisfied"
  | .revokedWitness => "revoked_witness"
  | .consistencyProofRequired => "consistency_proof_required"
  | .splitViewDetected => "split_view_detected"

def decision? (text : String) : Option TransparencyTrustDecision :=
  [.trusted, .rejected].find? (·.value = text)

def rejectionCode? (text : String) : Option TransparencyRejectionCode :=
  [.quorumNotSatisfied, .artifactDigestMismatch, .inclusionProofInvalid, .localPolicyNotSatisfied,
    .revokedWitness, .consistencyProofRequired, .splitViewDetected].find? (·.value = text)

/-- `str = Field(min_length=1, max_length=limit)` -/
abbrev Text (limit : ℕ) := {value : String // 1 ≤ value.length ∧ value.length ≤ limit}

def text? (limit : ℕ) (value : String) : Option (Text limit) :=
  if h : 1 ≤ value.length ∧ value.length ≤ limit then some ⟨value, h⟩ else none

/-- The fields of `TransparencyTrustDecisionReceiptPayload`, without its two constants. -/
structure ReceiptFields where
  decision : TransparencyTrustDecision
  decisionCoreSha256 : Sha256Digest
  bundleId : Sha256Digest
  bundleSha256 : Sha256Digest
  artifactIdentifier : Text 256
  artifactSha256 : Sha256Digest
  logId : Text 128
  checkpointSha256 : Sha256Digest
  treeSize : PositiveInt
  rootHash : Sha256Digest
  requiredWitnessQuorum : PositiveInt
  validWitnessCount : ℕ
  validWitnessIds : List String
  inclusionVerified : Bool
  checkpointSignatureVerified : Bool
  bundleSignatureVerified : Bool
  quorumSatisfied : Bool
  policyId : Text 128
  verifierVersion : Text 128
  verifiedAt : UtcDatetime
  rejectionCode : Option TransparencyRejectionCode

def receiptFieldNames : List String :=
  ["receipt_version", "receipt_type", "decision", "decision_core_sha256", "bundle_id",
    "bundle_sha256", "artifact_identifier", "artifact_sha256", "log_id", "checkpoint_sha256",
    "tree_size", "root_hash", "required_witness_quorum", "valid_witness_count",
    "valid_witness_ids", "inclusion_verified", "checkpoint_signature_verified",
    "bundle_signature_verified", "quorum_satisfied", "policy_id", "verifier_version",
    "verified_at", "rejection_code"]

variable (p : TrustPlatform)

/-- `receipt.model_dump(mode="json")`, with this value for `decision_core_sha256`. -/
def receiptMembers (core : Json.Atom) (fields : ReceiptFields) : Fields :=
  [("receipt_version", .atom (.int transparencyTrustDecisionReceiptVersion)),
    ("receipt_type", .atom (.str transparencyTrustDecisionReceiptType)),
    ("decision", .atom (.str fields.decision.value)),
    ("decision_core_sha256", .atom core),
    ("bundle_id", .atom (.str fields.bundleId.val)),
    ("bundle_sha256", .atom (.str fields.bundleSha256.val)),
    ("artifact_identifier", .atom (.str fields.artifactIdentifier.val)),
    ("artifact_sha256", .atom (.str fields.artifactSha256.val)),
    ("log_id", .atom (.str fields.logId.val)),
    ("checkpoint_sha256", .atom (.str fields.checkpointSha256.val)),
    ("tree_size", .atom (.int fields.treeSize.val)),
    ("root_hash", .atom (.str fields.rootHash.val)),
    ("required_witness_quorum", .atom (.int fields.requiredWitnessQuorum.val)),
    ("valid_witness_count", .atom (.int fields.validWitnessCount)),
    ("valid_witness_ids", .arr (fields.validWitnessIds.map fun id => .atom (.str id))),
    ("inclusion_verified", .atom (.bool fields.inclusionVerified)),
    ("checkpoint_signature_verified", .atom (.bool fields.checkpointSignatureVerified)),
    ("bundle_signature_verified", .atom (.bool fields.bundleSignatureVerified)),
    ("quorum_satisfied", .atom (.bool fields.quorumSatisfied)),
    ("policy_id", .atom (.str fields.policyId.val)),
    ("verifier_version", .atom (.str fields.verifierVersion.val)),
    ("verified_at", .atom (.str (p.datetimes.format fields.verifiedAt))),
    ("rejection_code", match fields.rejectionCode with
      | none => .atom .null
      | some code => .atom (.str code.value))]

def calculateDecisionCoreSha256 (fields : ReceiptFields) : Except Raised Sha256Digest := do
  let bytes ← canonicalBytes (receiptMembers p .null fields)
  return ⟨p.sha256.hexdigest bytes, p.hexdigest_valid bytes⟩

def validateDecision (fields : ReceiptFields) : Except Raised Unit := do
  raiseIf (fields.decision = .trusted ∧ fields.rejectionCode ≠ none)
    ⟨.validationError, "trusted receipt cannot have rejection"⟩
  raiseIf (fields.decision = .rejected ∧ fields.rejectionCode = none)
    ⟨.validationError, "rejected receipt needs rejection"⟩
  let core ← calculateDecisionCoreSha256 p fields
  raiseIf (fields.decisionCoreSha256 ≠ core) ⟨.validationError, "decision core mismatch"⟩

structure TransparencyTrustDecisionReceiptPayload extends ReceiptFields where
  valid : validateDecision p toReceiptFields = .ok ()

def newPayload (fields : ReceiptFields) :
    Except Raised (TransparencyTrustDecisionReceiptPayload p) :=
  match h : validateDecision p fields with
  | .ok () => .ok ⟨fields, h⟩
  | .error raised => .error raised

/-! ## Building -/

/-- The fields are not checked. -/
structure TransparencyOfflineVerificationResult where
  bundleId : String
  bundleSha256 : String
  artifactIdentifier : String
  artifactSha256 : String
  logId : String
  checkpointSha256 : String
  treeSize : ℤ
  rootHash : String
  requiredWitnessQuorum : ℤ
  validWitnessCount : ℤ
  validWitnessIds : List String
  inclusionVerified : Bool
  checkpointSignatureVerified : Bool
  bundleSignatureVerified : Bool
  quorumSatisfied : Bool

def naturalInt? (value : ℤ) : Option ℕ := if 0 ≤ value then some value.toNat else none

/-- `"0" * 64` -/
def placeholderDigest : Sha256Digest := ⟨String.ofList (List.replicate 64 '0'), by decide +kernel⟩

def fieldsOf? (result : TransparencyOfflineVerificationResult) (policyId verifierVersion : String)
    (verifiedAt : UtcDatetime) (decision : TransparencyTrustDecision)
    (rejectionCode : Option TransparencyRejectionCode) : Option ReceiptFields := do
  let bundleId ← sha256Digest? result.bundleId
  let bundleSha256 ← sha256Digest? result.bundleSha256
  let artifactIdentifier ← text? 256 result.artifactIdentifier
  let artifactSha256 ← sha256Digest? result.artifactSha256
  let logId ← text? 128 result.logId
  let checkpointSha256 ← sha256Digest? result.checkpointSha256
  let treeSize ← positiveInt? result.treeSize
  let rootHash ← sha256Digest? result.rootHash
  let requiredWitnessQuorum ← positiveInt? result.requiredWitnessQuorum
  let validWitnessCount ← naturalInt? result.validWitnessCount
  let policyId ← text? 128 policyId
  let verifierVersion ← text? 128 verifierVersion
  return ⟨decision, placeholderDigest, bundleId, bundleSha256, artifactIdentifier, artifactSha256,
    logId, checkpointSha256, treeSize, rootHash, requiredWitnessQuorum, validWitnessCount,
    result.validWitnessIds, result.inclusionVerified, result.checkpointSignatureVerified,
    result.bundleSignatureVerified, result.quorumSatisfied, policyId, verifierVersion, verifiedAt,
    rejectionCode⟩

/-- The digest of the draft is put in, and the payload is validated. -/
def sealFields (fields : ReceiptFields) :
    Except Raised (TransparencyTrustDecisionReceiptPayload p) := do
  let core ← calculateDecisionCoreSha256 p fields
  newPayload p { fields with decisionCoreSha256 := core }

def invalidPayload : Raised :=
  ⟨.validationError, "validation error for TransparencyTrustDecisionReceiptPayload"⟩

def buildTrustedDecisionReceipt (result : TransparencyOfflineVerificationResult)
    (policyId verifierVersion : String) (verifiedAt : UtcDatetime) :
    Except Raised (TransparencyTrustDecisionReceiptPayload p) :=
  match fieldsOf? result policyId verifierVersion verifiedAt .trusted none with
  | none => .error invalidPayload
  | some fields => sealFields p fields

def buildRejectedDecisionReceipt (result : TransparencyOfflineVerificationResult)
    (rejectionCode : TransparencyRejectionCode) (policyId verifierVersion : String)
    (verifiedAt : UtcDatetime) : Except Raised (TransparencyTrustDecisionReceiptPayload p) := do
  let trusted ← buildTrustedDecisionReceipt p result policyId verifierVersion verifiedAt
  sealFields p
    { trusted.toReceiptFields with decision := .rejected, rejectionCode := some rejectionCode }

/-- The end of `verify_transparency_gossip_bundle_offline`: the result takes over the checked fields
of the bundle, and the witnesses of the statements, each one once. -/
def concludeOfflineVerification (bundle : TransparencyOfflineVerificationResult)
    (requiredQuorum : ℕ) (witnessIds : List String) :
    Except Raised TransparencyOfflineVerificationResult := do
  let validIds := witnessIds.dedup.mergeSort
  raiseIf (validIds.length < requiredQuorum) offlineFailure
  .ok { bundle with
    requiredWitnessQuorum := requiredQuorum
    validWitnessCount := validIds.length
    validWitnessIds := validIds
    inclusionVerified := true
    checkpointSignatureVerified := true
    bundleSignatureVerified := true
    quorumSatisfied := true }

structure TransparencyTrustDecisionReceiptEnvelope where
  receipt : TransparencyTrustDecisionReceiptPayload p
  signatureB64 : SignatureB64
  signedAt : UtcDatetime
  signingKeyId : Text 128

structure DecisionReceiptSigningPrivateKey where
  keyId : Text 128
  privateKeyBytes : List UInt8
  publicKeyBytes : List UInt8

def canonicalizeDecisionReceipt (receipt : TransparencyTrustDecisionReceiptPayload p) :
    Except Raised (List UInt8) :=
  canonicalBytes (receiptMembers p (.str receipt.decisionCoreSha256.val) receipt.toReceiptFields)

def receiptMessage (receipt : TransparencyTrustDecisionReceiptPayload p) :
    Except Raised (List UInt8) := do
  let canonical ← canonicalizeDecisionReceipt p receipt
  return transparencyDecisionReceiptSignatureDomain ++ 0 :: canonical

def signDecisionReceipt (receipt : TransparencyTrustDecisionReceiptPayload p)
    (key : DecisionReceiptSigningPrivateKey) (signedAt : UtcDatetime) :
    Except Raised (TransparencyTrustDecisionReceiptEnvelope p) := do
  let message ← receiptMessage p receipt
  let signature := String.ofList (b64encode (p.ed25519.sign key.privateKeyBytes message))
  if h : (decodeB64? ed25519SignatureBytes signature).isSome = true then
    return ⟨receipt, ⟨signature, h⟩, signedAt, key.keyId⟩
  else throw ⟨.validationError, "validation error for TransparencyTrustDecisionReceiptEnvelope"⟩

/-! ## Files -/

def envelopeFieldNames : List String :=
  ["receipt", "algorithm", "signature_b64", "signed_at", "signing_key_id"]

/-- `envelope.model_dump(mode="json")` -/
def envelopeMembers (envelope : TransparencyTrustDecisionReceiptEnvelope p) : Fields :=
  [("receipt", .obj (receiptMembers p (.str envelope.receipt.decisionCoreSha256.val)
      envelope.receipt.toReceiptFields)),
    ("algorithm", .atom (.str transparencyDecisionReceiptSignatureAlgorithm)),
    ("signature_b64", .atom (.str envelope.signatureB64.val)),
    ("signed_at", .atom (.str (p.datetimes.format envelope.signedAt))),
    ("signing_key_id", .atom (.str envelope.signingKeyId.val))]

def bool? (fields : Fields) (name : String) : Option Bool :=
  match fields.lookup name with
  | some (.atom (.bool value)) => some value
  | _ => none

/-- A field of type `tuple[str, ...]`. -/
def strings? (fields : Fields) (name : String) : Option (List String) :=
  match fields.lookup name with
  | some (.arr items) => items.mapM jsonStr?
  | _ => none

/-- The field `rejection_code`. -/
def optionalCode? (fields : Fields) : Option (Option TransparencyRejectionCode) :=
  match fields.lookup "rejection_code" with
  | some (.atom .null) => some none
  | some (.atom (.str text)) => (rejectionCode? text).map some
  | _ => none

def receiptFieldsFromJson (value : Json.Value) : Option ReceiptFields := do
  let fields ← objectFields? receiptFieldNames value
  fields.literal? "receipt_version" (.int transparencyTrustDecisionReceiptVersion)
  fields.literal? "receipt_type" (.str transparencyTrustDecisionReceiptType)
  let decision ← (fields.str? "decision").bind decision?
  let decisionCoreSha256 ← fields.digest? "decision_core_sha256"
  let bundleId ← fields.digest? "bundle_id"
  let bundleSha256 ← fields.digest? "bundle_sha256"
  let artifactIdentifier ← (fields.str? "artifact_identifier").bind (text? 256)
  let artifactSha256 ← fields.digest? "artifact_sha256"
  let logId ← (fields.str? "log_id").bind (text? 128)
  let checkpointSha256 ← fields.digest? "checkpoint_sha256"
  let treeSize ← fields.positiveInt? "tree_size"
  let rootHash ← fields.digest? "root_hash"
  let requiredWitnessQuorum ← fields.positiveInt? "required_witness_quorum"
  let validWitnessCount ← (fields.int? "valid_witness_count").bind naturalInt?
  let validWitnessIds ← strings? fields "valid_witness_ids"
  let inclusionVerified ← bool? fields "inclusion_verified"
  let checkpointSignatureVerified ← bool? fields "checkpoint_signature_verified"
  let bundleSignatureVerified ← bool? fields "bundle_signature_verified"
  let quorumSatisfied ← bool? fields "quorum_satisfied"
  let policyId ← (fields.str? "policy_id").bind (text? 128)
  let verifierVersion ← (fields.str? "verifier_version").bind (text? 128)
  let verifiedAt ← fields.datetime? p.datetimes "verified_at"
  let rejectionCode ← optionalCode? fields
  return ⟨decision, decisionCoreSha256, bundleId, bundleSha256, artifactIdentifier, artifactSha256,
    logId, checkpointSha256, treeSize, rootHash, requiredWitnessQuorum, validWitnessCount,
    validWitnessIds, inclusionVerified, checkpointSignatureVerified, bundleSignatureVerified,
    quorumSatisfied, policyId, verifierVersion, verifiedAt, rejectionCode⟩

def signatureB64? (text : String) : Option SignatureB64 :=
  if h : (decodeB64? ed25519SignatureBytes text).isSome = true then some ⟨text, h⟩ else none

/-- `TransparencyTrustDecisionReceiptEnvelope.model_validate_json` -/
def envelopeFromJson (value : Json.Value) :
    Option (TransparencyTrustDecisionReceiptEnvelope p) := do
  let fields ← objectFields? envelopeFieldNames value
  let receiptFields ← (fields.lookup "receipt").bind (receiptFieldsFromJson p)
  let receipt ← (newPayload p receiptFields).toOption
  fields.literal? "algorithm" (.str transparencyDecisionReceiptSignatureAlgorithm)
  let signature ← (fields.str? "signature_b64").bind signatureB64?
  let signedAt ← fields.datetime? p.datetimes "signed_at"
  let signingKeyId ← (fields.str? "signing_key_id").bind (text? 128)
  return ⟨receipt, signature, signedAt, signingKeyId⟩

def loadTransparencyTrustDecisionReceipt (node : FileNode) :
    Except Raised (TransparencyTrustDecisionReceiptEnvelope p) :=
  match node with
  | .regular content => do
      raiseIf (maxDecisionReceiptBytes < content.length) receiptFailure
      match (TextFile.decode content).bind fun text =>
          (loadsNoDuplicateKeys text).bind (envelopeFromJson p) with
      | none => .error receiptFailure
      | some envelope => .ok envelope
  | _ => .error receiptFailure

/-- The file that `export_transparency_trust_decision_receipt` writes. -/
def exportedFile (envelope : TransparencyTrustDecisionReceiptEnvelope p) :
    Except Raised FileNode := do
  let text ← jsonDumps Json.indented (.obj (envelopeMembers p envelope))
  return .regular (TextFile.encode (text ++ ['\n']))

/-- `DecisionReceiptTrustStore.keys` -/
abbrev DecisionReceiptTrustStore := List (String × List UInt8)

def verifyTransparencyTrustDecisionReceipt (node : FileNode)
    (trustStore : DecisionReceiptTrustStore) (bundleSha256 artifactSha256 : Option String) :
    Except Raised (TransparencyTrustDecisionReceiptPayload p) := do
  let envelope ← loadTransparencyTrustDecisionReceipt p node
  raiseIf (∃ digest ∈ bundleSha256, envelope.receipt.bundleSha256.val ≠ digest) signatureFailure
  raiseIf (∃ digest ∈ artifactSha256, envelope.receipt.artifactSha256.val ≠ digest) signatureFailure
  match trustStore.lookup envelope.signingKeyId.val with
  | none => .error signatureFailure
  | some publicKey => do
      let message ← receiptMessage p envelope.receipt
      raiseIf (p.ed25519.verify publicKey envelope.signatureB64.bytes message = false)
        signatureFailure
      .ok envelope.receipt

def requireTrustedDecisionReceipt (receipt : TransparencyTrustDecisionReceiptEnvelope p)
    (artifactIdentifier artifactSha256 bundleSha256 : String)
    (allowedPolicyIds : Option (List String)) : Except Raised Unit := do
  raiseIf (receipt.receipt.decision ≠ .trusted ∨
    receipt.receipt.artifactIdentifier.val ≠ artifactIdentifier ∨
    receipt.receipt.artifactSha256.val ≠ artifactSha256 ∨
    receipt.receipt.bundleSha256.val ≠ bundleSha256) policyFailure
  raiseIf (∃ policyIds ∈ allowedPolicyIds, receipt.receipt.policyId.val ∉ policyIds) policyFailure

end AgenticLab.DecisionReceipt
