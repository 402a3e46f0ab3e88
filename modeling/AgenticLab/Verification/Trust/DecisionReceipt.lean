import AgenticLab.Model.DecisionReceipt
import AgenticLab.Verification.StateFile

/-! # What an accepted receipt says -/

namespace AgenticLab.DecisionReceipt

variable {p : TrustPlatform}

structure Justified (fields : ReceiptFields) : Prop where
  inclusion : fields.inclusionVerified = true
  checkpoint : fields.checkpointSignatureVerified = true
  bundle : fields.bundleSignatureVerified = true
  satisfied : fields.quorumSatisfied = true
  count : fields.validWitnessCount = fields.validWitnessIds.dedup.length
  quorum : fields.requiredWitnessQuorum.val ≤ fields.validWitnessCount

structure TransparencyOfflineVerificationResult.Justified
    (result : TransparencyOfflineVerificationResult) : Prop where
  inclusion : result.inclusionVerified = true
  checkpoint : result.checkpointSignatureVerified = true
  bundle : result.bundleSignatureVerified = true
  satisfied : result.quorumSatisfied = true
  count : result.validWitnessCount = result.validWitnessIds.dedup.length
  quorum : result.requiredWitnessQuorum ≤ result.validWitnessCount

variable {fields : ReceiptFields} {receipt : TransparencyTrustDecisionReceiptPayload p}

theorem newPayload_eq_ok
    (h : newPayload p fields = .ok receipt) : receipt.toReceiptFields = fields := by
  rw [newPayload] at h
  split at h
  next => exact Except.ok.inj h ▸ rfl
  next => cases h

theorem validateDecision_eq_ok :
    validateDecision p fields = .ok () ↔
      ¬(fields.decision = .trusted ∧ fields.rejectionCode ≠ none) ∧
      ¬(fields.decision = .rejected ∧ fields.rejectionCode = none) ∧
      calculateDecisionCoreSha256 p fields = .ok fields.decisionCoreSha256 := by
  rw [validateDecision, raiseIf_bind_eq_ok, raiseIf_bind_eq_ok, bind_eq_ok]
  simp only [raiseIf_eq_ok, not_not]
  constructor
  · rintro ⟨htrusted, hrejected, core, hcore, heq⟩
    exact ⟨htrusted, hrejected, heq ▸ hcore⟩
  · rintro ⟨htrusted, hrejected, hcore⟩
    exact ⟨htrusted, hrejected, _, hcore, rfl⟩

def coreDigest (p : TrustPlatform) (fields : ReceiptFields) : Sha256Digest :=
  let bytes := TextFile.encode
    ((Json.Value.obj (receiptMembers p .null fields)).sortKeys.print Json.compact 0)
  ⟨p.sha256.hexdigest bytes, p.sha256.hexdigest_valid bytes⟩

theorem calculateDecisionCoreSha256_eq_ok
    (hints : (Json.Value.obj (receiptMembers p .null fields)).sortKeys.intsWithin maxStrDigits =
      true) :
    calculateDecisionCoreSha256 p fields = .ok (coreDigest p fields) := by
  rw [calculateDecisionCoreSha256, canonicalBytes, jsonDumps_eq_ok.mpr ⟨hints, rfl⟩]
  rfl

theorem calculateDecisionCoreSha256_with (fields : ReceiptFields) (digest : Sha256Digest) :
    calculateDecisionCoreSha256 p { fields with decisionCoreSha256 := digest } =
      calculateDecisionCoreSha256 p fields := rfl

theorem coreDigest_with (fields : ReceiptFields) (digest : Sha256Digest) :
    coreDigest p { fields with decisionCoreSha256 := digest } = coreDigest p fields := rfl

theorem coreDigest_reference (known : List KnownSignature) (fields : ReceiptFields) :
    coreDigest (referenceTrustPlatform known) fields =
      coreDigest (referenceTrustPlatform []) fields := rfl

theorem sealFields_eq_ok (h : sealFields p fields = .ok receipt) :
    ∃ core, receipt.toReceiptFields = { fields with decisionCoreSha256 := core } := by
  rw [sealFields, bind_eq_ok] at h
  obtain ⟨core, _, h⟩ := h
  exact ⟨core, newPayload_eq_ok h⟩

theorem naturalInt?_eq_some {value : ℤ} {natural : ℕ} (h : naturalInt? value = some natural) :
    value = natural := by
  rw [naturalInt?] at h
  split at h
  next hle =>
    cases h
    omega
  next => cases h

variable {result : TransparencyOfflineVerificationResult} {policyId verifierVersion : String}
  {verifiedAt : UtcDatetime}

theorem fieldsOf?_justified
    {decision : TransparencyTrustDecision} {rejectionCode : Option TransparencyRejectionCode}
    (h : fieldsOf? result policyId verifierVersion verifiedAt decision rejectionCode =
      some fields) :
    fields.decision = decision ∧ (Justified fields ↔ result.Justified) := by
  obtain ⟨bundleId, _, h⟩ := Option.bind_eq_some_iff.mp h
  obtain ⟨bundleSha256, _, h⟩ := Option.bind_eq_some_iff.mp h
  obtain ⟨artifactIdentifier, _, h⟩ := Option.bind_eq_some_iff.mp h
  obtain ⟨artifactSha256, _, h⟩ := Option.bind_eq_some_iff.mp h
  obtain ⟨logId, _, h⟩ := Option.bind_eq_some_iff.mp h
  obtain ⟨checkpointSha256, _, h⟩ := Option.bind_eq_some_iff.mp h
  obtain ⟨treeSize, _, h⟩ := Option.bind_eq_some_iff.mp h
  obtain ⟨rootHash, _, h⟩ := Option.bind_eq_some_iff.mp h
  obtain ⟨required, hrequired, h⟩ := Option.bind_eq_some_iff.mp h
  obtain ⟨count, hcount, h⟩ := Option.bind_eq_some_iff.mp h
  obtain ⟨policy, _, h⟩ := Option.bind_eq_some_iff.mp h
  obtain ⟨version, _, h⟩ := Option.bind_eq_some_iff.mp h
  cases h
  have hrequired := (positiveInt?_eq_some hrequired).symm
  have hcount := naturalInt?_eq_some hcount
  refine ⟨rfl, fun h => ?_, fun h => ?_⟩
  · refine ⟨h.inclusion, h.checkpoint, h.bundle, h.satisfied, ?_, ?_⟩
    · exact hcount.trans (Int.ofNat_inj.mpr h.count)
    · rw [hcount, hrequired]
      exact Int.ofNat_le.mpr h.quorum
  · refine ⟨h.inclusion, h.checkpoint, h.bundle, h.satisfied, ?_, ?_⟩
    · exact Int.ofNat_inj.mp (hcount.symm.trans h.count)
    · have hquorum := h.quorum
      rw [hcount, hrequired] at hquorum
      exact Int.ofNat_le.mp hquorum

theorem buildTrusted_justified
    (h : buildTrustedDecisionReceipt p result policyId verifierVersion verifiedAt = .ok receipt) :
    receipt.decision = .trusted ∧ (Justified receipt.toReceiptFields ↔ result.Justified) := by
  rw [buildTrustedDecisionReceipt] at h
  split at h
  next => cases h
  next fields hfields =>
    obtain ⟨core, heq⟩ := sealFields_eq_ok h
    obtain ⟨hdecision, hjustified⟩ := fieldsOf?_justified hfields
    rw [← hjustified, heq]
    refine ⟨hdecision, fun h => ?_, fun h => ?_⟩
    · exact ⟨h.inclusion, h.checkpoint, h.bundle, h.satisfied, h.count, h.quorum⟩
    · exact ⟨h.inclusion, h.checkpoint, h.bundle, h.satisfied, h.count, h.quorum⟩

theorem conclude_justified {bundle result : TransparencyOfflineVerificationResult}
    {requiredQuorum : ℕ} {witnessIds : List String}
    (h : concludeOfflineVerification bundle requiredQuorum witnessIds = .ok result) :
    result.Justified := by
  rw [concludeOfflineVerification, raiseIf_bind_eq_ok, Except.ok.injEq, not_lt] at h
  obtain ⟨hquorum, rfl⟩ := h
  have hnodup : (witnessIds.dedup.mergeSort).Nodup :=
    (List.mergeSort_perm witnessIds.dedup _).nodup_iff.mpr witnessIds.nodup_dedup
  exact ⟨rfl, rfl, rfl, rfl, by rw [List.Nodup.dedup hnodup], Int.ofNat_le.mpr hquorum⟩

def resultOf (fields : ReceiptFields) : TransparencyOfflineVerificationResult where
  bundleId := fields.bundleId.val
  bundleSha256 := fields.bundleSha256.val
  artifactIdentifier := fields.artifactIdentifier.val
  artifactSha256 := fields.artifactSha256.val
  logId := fields.logId.val
  checkpointSha256 := fields.checkpointSha256.val
  treeSize := fields.treeSize.val
  rootHash := fields.rootHash.val
  requiredWitnessQuorum := fields.requiredWitnessQuorum.val
  validWitnessCount := fields.validWitnessCount
  validWitnessIds := fields.validWitnessIds
  inclusionVerified := fields.inclusionVerified
  checkpointSignatureVerified := fields.checkpointSignatureVerified
  bundleSignatureVerified := fields.bundleSignatureVerified
  quorumSatisfied := fields.quorumSatisfied

@[simp] theorem text?_val {limit : ℕ} (value : Text limit) :
    text? limit value.val = some value := by
  rw [text?, dif_pos value.property]

theorem fieldsOf?_resultOf (fields : ReceiptFields) :
    fieldsOf? (resultOf fields) fields.policyId.val fields.verifierVersion.val fields.verifiedAt
        fields.decision fields.rejectionCode =
      some { fields with decisionCoreSha256 := placeholderDigest } := by
  have hpositive : ∀ value : PositiveInt, positiveInt? value.val = some value := by
    intro value
    have hvalue : 1 ≤ value.val := value.property
    simp only [positiveInt?, hvalue, dite_true, Int.toNat_natCast]
  have hnatural : naturalInt? fields.validWitnessCount = some fields.validWitnessCount := by
    simp [naturalInt?]
  simp only [fieldsOf?, resultOf, sha256Digest?_val, text?_val, hpositive, hnatural,
    Option.bind_eq_bind, Option.bind_some, Option.pure_def]

/-! ## Files -/

theorem newPayload_self (receipt : TransparencyTrustDecisionReceiptPayload p) :
    newPayload p receipt.toReceiptFields = .ok receipt := by
  rw [newPayload]
  split
  next => rfl
  next h => exact absurd (receipt.valid.symm.trans h) (by simp)

@[simp] theorem decision?_value (decision : TransparencyTrustDecision) :
    decision? decision.value = some decision := by
  cases decision <;> decide

@[simp] theorem rejectionCode?_value (code : TransparencyRejectionCode) :
    rejectionCode? code.value = some code := by
  cases code <;> decide

@[simp] theorem signatureB64?_val (signature : SignatureB64) :
    signatureB64? signature.val = some signature := by
  rw [signatureB64?, dif_pos signature.property]

section

variable {fields : Fields} {name : String}

theorem bool?_of_lookup {value : Bool} (h : fields.lookup name = some (.atom (.bool value))) :
    bool? fields name = some value := by
  rw [bool?, h]

theorem naturalInt?_of_lookup {value : ℕ} (h : fields.lookup name = some (.atom (.int value))) :
    (fields.int? name).bind naturalInt? = some value := by
  simp [Fields.int?, h, jsonInt?, naturalInt?]

theorem strings?_of_lookup {values : List String}
    (h : fields.lookup name = some (.arr (values.map fun value => .atom (.str value)))) :
    strings? fields name = some values := by
  have hall : ∀ values : List String,
      (values.map fun value => Json.Value.atom (.str value)).mapM jsonStr? = some values := by
    intro values
    induction values with
    | nil => rfl
    | cons value values ih => simp [jsonStr?, ih]
  rw [strings?, h]
  exact hall values

theorem textField_of_lookup {limit : ℕ} {value : Text limit}
    (h : fields.lookup name = some (.atom (.str value.val))) :
    (fields.str? name).bind (text? limit) = some value := by
  rw [str?_of_lookup h, Option.bind_some, text?_val]

end

theorem receiptFieldsFromJson_members (fields : ReceiptFields) :
    receiptFieldsFromJson p (.obj (receiptMembers p (.str fields.decisionCoreSha256.val) fields)) =
      some fields := by
  have hkeys : (receiptMembers p (.str fields.decisionCoreSha256.val) fields).map Prod.fst =
      receiptFieldNames := rfl
  rw [receiptFieldsFromJson, objectFields?_eq hkeys, Option.bind_eq_bind, Option.bind_some]
  have hdecision : ((receiptMembers p (.str fields.decisionCoreSha256.val) fields).str?
      "decision").bind decision? = some fields.decision := by
    rw [str?_of_lookup rfl, Option.bind_some, decision?_value]
  have hcode : optionalCode? (receiptMembers p (.str fields.decisionCoreSha256.val) fields) =
      some fields.rejectionCode := by
    cases fields
    rename_i rejectionCode
    cases rejectionCode with
    | none => rfl
    | some code =>
      rw [optionalCode?, show List.lookup _ _ = some (.atom (.str code.value)) from rfl]
      simp
  rw [literal?_of_lookup rfl, literal?_of_lookup rfl, hdecision, digest?_of_lookup rfl,
    digest?_of_lookup rfl, digest?_of_lookup rfl, textField_of_lookup rfl, digest?_of_lookup rfl,
    textField_of_lookup rfl, digest?_of_lookup rfl, positiveInt?_of_lookup rfl,
    digest?_of_lookup rfl, positiveInt?_of_lookup rfl, naturalInt?_of_lookup rfl,
    strings?_of_lookup rfl, bool?_of_lookup rfl, bool?_of_lookup rfl, bool?_of_lookup rfl,
    bool?_of_lookup rfl, textField_of_lookup rfl, textField_of_lookup rfl, datetime?_of_lookup rfl,
    hcode]
  rfl

theorem envelopeFromJson_members (envelope : TransparencyTrustDecisionReceiptEnvelope p) :
    envelopeFromJson p (.obj (envelopeMembers p envelope)) = some envelope := by
  have hkeys : (envelopeMembers p envelope).map Prod.fst = envelopeFieldNames := rfl
  have hreceipt : ((envelopeMembers p envelope).lookup "receipt").bind (receiptFieldsFromJson p) =
      some envelope.receipt.toReceiptFields := receiptFieldsFromJson_members _
  have hsignature : ((envelopeMembers p envelope).str? "signature_b64").bind signatureB64? =
      some envelope.signatureB64 := by
    rw [str?_of_lookup rfl, Option.bind_some, signatureB64?_val]
  rw [envelopeFromJson, objectFields?_eq hkeys, Option.bind_eq_bind, Option.bind_some, hreceipt,
    literal?_of_lookup rfl, hsignature, datetime?_of_lookup rfl, textField_of_lookup rfl]
  simp only [Option.bind_eq_bind, Option.bind_some, newPayload_self, Except.toOption]
  rfl

theorem keysUnique_receipt (core : Json.Atom) (fields : ReceiptFields) :
    (Json.Value.obj (receiptMembers p core fields)).keysUnique = true := by
  have hids : ∀ ids : List String,
      Json.itemsKeysUnique (ids.map fun id => .atom (.str id)) = true := by
    intro ids
    induction ids with
    | nil => rfl
    | cons id ids ih => simp [Json.itemsKeysUnique, Json.Value.keysUnique, ih]
  have hnames : ((receiptMembers p core fields).map Prod.fst).Nodup := by
    have hkeys : (receiptMembers p core fields).map Prod.fst = receiptFieldNames := rfl
    rw [hkeys]
    decide
  rw [Json.Value.keysUnique, decide_eq_true hnames, Bool.true_and]
  cases hcode : fields.rejectionCode with
  | none => simp [receiptMembers, Json.membersKeysUnique, Json.Value.keysUnique, hids, hcode]
  | some code => simp [receiptMembers, Json.membersKeysUnique, Json.Value.keysUnique, hids, hcode]

theorem keysUnique_envelope (envelope : TransparencyTrustDecisionReceiptEnvelope p) :
    (Json.Value.obj (envelopeMembers p envelope)).keysUnique = true := by
  have hreceipt := keysUnique_receipt (p := p) (.str envelope.receipt.decisionCoreSha256.val)
    envelope.receipt.toReceiptFields
  have hnames : ((envelopeMembers p envelope).map Prod.fst).Nodup := by
    have hkeys : (envelopeMembers p envelope).map Prod.fst = envelopeFieldNames := rfl
    rw [hkeys]
    decide
  rw [Json.Value.keysUnique, decide_eq_true hnames, Bool.true_and, envelopeMembers]
  simp only [Json.membersKeysUnique, hreceipt, Bool.true_and]
  rfl

variable {envelope : TransparencyTrustDecisionReceiptEnvelope p}

theorem load_exportedFile
    {content : List UInt8} (h : exportedFile p envelope = .ok (.regular content))
    (hsize : content.length ≤ maxDecisionReceiptBytes) :
    loadTransparencyTrustDecisionReceipt p (.regular content) = .ok envelope := by
  obtain ⟨text, htext, h⟩ := bind_eq_ok.mp h
  obtain rfl : TextFile.encode (text ++ ['\n']) = content :=
    FileNode.regular.inj (Except.ok.inj h)
  have hload := loadsNoDuplicateKeys_of_jsonDumps htext (keysUnique_envelope envelope)
    (List.all_eq_true.mp rfl : ∀ c ∈ ['\n'], Json.isSpace c = true)
  rw [loadTransparencyTrustDecisionReceipt, raiseIf, if_neg hsize.not_gt]
  simp only [ok_bind, TextFile.decode_encode, hload, Option.bind_some, envelopeFromJson_members]

theorem indentedBound_receipt (digest other : Sha256Digest) (fields : ReceiptFields) (level : ℕ) :
    (Json.Value.obj (receiptMembers p (.str digest.val) fields)).indentedBound level =
      (Json.Value.obj (receiptMembers p (.str other.val) fields)).indentedBound level := by
  have hlength : digest.val.length = other.val.length := by
    have hdigest := digest.property
    have hother := other.property
    simp only [isValidSha256Digest, Bool.and_eq_true, beq_iff_eq] at hdigest hother
    omega
  simp only [receiptMembers, Json.Value.indentedBound, Json.membersIndentedBound,
    Json.Atom.widthBound, hlength]

theorem indentedBound_envelope (envelope : TransparencyTrustDecisionReceiptEnvelope p) (level : ℕ) :
    (Json.Value.obj (envelopeMembers p envelope)).indentedBound level =
      (Json.Value.obj ((envelopeMembers p envelope).set 0 ("receipt", .obj (receiptMembers p
        (.str placeholderDigest.val) envelope.receipt.toReceiptFields)))).indentedBound level := by
  have hreceipt := indentedBound_receipt (p := p) envelope.receipt.decisionCoreSha256
    placeholderDigest envelope.receipt.toReceiptFields (level + 1)
  rw [envelopeMembers, List.set_cons_zero, Json.Value.indentedBound, Json.Value.indentedBound,
    Json.membersIndentedBound, Json.membersIndentedBound, hreceipt]
  simp only [Json.membersIndentedBound]

theorem signDecisionReceipt_eq_ok
    {key : DecisionReceiptSigningPrivateKey} {signedAt : UtcDatetime} {message : List UInt8}
    {signature : SignatureB64} (hmessage : receiptMessage p receipt = .ok message)
    (hsignature : String.ofList (b64encode (p.ed25519.sign key.privateKeyBytes message)) =
      signature.val) :
    signDecisionReceipt p receipt key signedAt = .ok ⟨receipt, signature, signedAt, key.keyId⟩ := by
  obtain ⟨text, htext⟩ := signature
  subst hsignature
  rw [signDecisionReceipt, hmessage, ok_bind]
  exact dif_pos htext

structure Accepted (p : TrustPlatform) (node : FileNode) (trustStore : DecisionReceiptTrustStore)
    (envelope : TransparencyTrustDecisionReceiptEnvelope p) : Prop where
  loaded : loadTransparencyTrustDecisionReceipt p node = .ok envelope
  trusted : envelope.receipt.decision = .trusted
  noRejection : envelope.receipt.rejectionCode = none
  core : calculateDecisionCoreSha256 p envelope.receipt.toReceiptFields =
    .ok envelope.receipt.decisionCoreSha256
  signed : ∃ publicKey message, trustStore.lookup envelope.signingKeyId.val = some publicKey ∧
    receiptMessage p envelope.receipt = .ok message ∧
    p.ed25519.verify publicKey envelope.signatureB64.bytes message = true

variable {trustStore : DecisionReceiptTrustStore}

theorem verify_eq_ok {node : FileNode}
    {bundleSha256 artifactSha256 : Option String}
    (h : verifyTransparencyTrustDecisionReceipt p node trustStore bundleSha256 artifactSha256 =
      .ok receipt) :
    ∃ envelope, loadTransparencyTrustDecisionReceipt p node = .ok envelope ∧
      envelope.receipt = receipt ∧
      ∃ publicKey message, trustStore.lookup envelope.signingKeyId.val = some publicKey ∧
        receiptMessage p envelope.receipt = .ok message ∧
        p.ed25519.verify publicKey envelope.signatureB64.bytes message = true := by
  rw [verifyTransparencyTrustDecisionReceipt, bind_eq_ok] at h
  obtain ⟨envelope, hload, h⟩ := h
  rw [raiseIf_bind_eq_ok, raiseIf_bind_eq_ok] at h
  obtain ⟨_, _, h⟩ := h
  refine ⟨envelope, hload, ?_⟩
  split at h
  next => cases h
  next publicKey hkey =>
    obtain ⟨message, hmessage, h⟩ := bind_eq_ok.mp h
    rw [raiseIf_bind_eq_ok, Except.ok.injEq, Bool.not_eq_false] at h
    exact ⟨h.2, publicKey, message, hkey, hmessage, h.1⟩

theorem verify_of_signed {node : FileNode} {publicKey message : List UInt8}
    (hload : loadTransparencyTrustDecisionReceipt p node = .ok envelope)
    (hkey : trustStore.lookup envelope.signingKeyId.val = some publicKey)
    (hmessage : receiptMessage p envelope.receipt = .ok message)
    (hverify : p.ed25519.verify publicKey envelope.signatureB64.bytes message = true) :
    verifyTransparencyTrustDecisionReceipt p node trustStore none none = .ok envelope.receipt := by
  rw [verifyTransparencyTrustDecisionReceipt, hload, ok_bind]
  simp [raiseIf, hkey, hmessage, hverify]

/-- The verification of an exported receipt gives that receipt or nothing: it asks for the bundle,
the artifact and the signature of a key that is trusted, and for nothing else. -/
theorem verify_exported {content : List UInt8}
    (hexport : exportedFile p envelope = .ok (.regular content))
    (hsize : content.length ≤ maxDecisionReceiptBytes) (bundleSha256 artifactSha256 : Option String) :
    verifyTransparencyTrustDecisionReceipt p (.regular content) trustStore bundleSha256
        artifactSha256 = .ok receipt ↔
      receipt = envelope.receipt ∧ (∀ digest ∈ bundleSha256, receipt.bundleSha256.val = digest) ∧
        (∀ digest ∈ artifactSha256, receipt.artifactSha256.val = digest) ∧
        ∃ publicKey message, trustStore.lookup envelope.signingKeyId.val = some publicKey ∧
          receiptMessage p receipt = .ok message ∧
          p.ed25519.verify publicKey envelope.signatureB64.bytes message = true := by
  rw [verifyTransparencyTrustDecisionReceipt, load_exportedFile hexport hsize, ok_bind,
    raiseIf_bind_eq_ok, raiseIf_bind_eq_ok]
  push Not
  constructor
  · rintro ⟨hbundle, hartifact, h⟩
    split at h
    next => cases h
    next publicKey hkey =>
      obtain ⟨message, hmessage, h⟩ := bind_eq_ok.mp h
      obtain ⟨hverify, h⟩ := raiseIf_bind_eq_ok.mp h
      obtain rfl := Except.ok.inj h
      exact ⟨rfl, hbundle, hartifact, publicKey, message, hkey, hmessage, by simpa using hverify⟩
  · rintro ⟨rfl, hbundle, hartifact, publicKey, message, hkey, hmessage, hverify⟩
    exact ⟨hbundle, hartifact, by simp [hkey, hmessage, hverify, raiseIf]⟩

def unverifiedResult : TransparencyOfflineVerificationResult where
  bundleId := "1111111111111111111111111111111111111111111111111111111111111111"
  bundleSha256 := "2222222222222222222222222222222222222222222222222222222222222222"
  artifactIdentifier := "report.json"
  artifactSha256 := "3333333333333333333333333333333333333333333333333333333333333333"
  logId := "log"
  checkpointSha256 := "4444444444444444444444444444444444444444444444444444444444444444"
  treeSize := 1
  rootHash := "5555555555555555555555555555555555555555555555555555555555555555"
  requiredWitnessQuorum := 3
  validWitnessCount := 0
  validWitnessIds := []
  inclusionVerified := false
  checkpointSignatureVerified := false
  bundleSignatureVerified := false
  quorumSatisfied := false

def sampleTime : UtcDatetime := ⟨2026, 1, 1, 0, 0, 0, 0, isCalendarTime_newYear⟩

theorem sampleQuorum_pos : 1 ≤ 3 := by decide

def unverifiedDraft : ReceiptFields where
  decision := .trusted
  decisionCoreSha256 := placeholderDigest
  bundleId := ⟨unverifiedResult.bundleId, by decide +kernel⟩
  bundleSha256 := ⟨unverifiedResult.bundleSha256, by decide +kernel⟩
  artifactIdentifier := ⟨"report.json", by decide⟩
  artifactSha256 := ⟨unverifiedResult.artifactSha256, by decide +kernel⟩
  logId := ⟨"log", log_length⟩
  checkpointSha256 := ⟨unverifiedResult.checkpointSha256, by decide +kernel⟩
  treeSize := ⟨1, Nat.one_pos⟩
  rootHash := ⟨unverifiedResult.rootHash, by decide +kernel⟩
  requiredWitnessQuorum := ⟨3, sampleQuorum_pos⟩
  validWitnessCount := 0
  validWitnessIds := []
  inclusionVerified := false
  checkpointSignatureVerified := false
  bundleSignatureVerified := false
  quorumSatisfied := false
  policyId := ⟨"policy", by decide⟩
  verifierVersion := ⟨"verifier", by decide⟩
  verifiedAt := sampleTime
  rejectionCode := none

def unverifiedFields : ReceiptFields :=
  { unverifiedDraft with
    decisionCoreSha256 := coreDigest (referenceTrustPlatform []) unverifiedDraft }

def sampleKey : DecisionReceiptSigningPrivateKey where
  keyId := ⟨"key", by decide⟩
  privateKeyBytes := List.replicate 32 7
  publicKeyBytes := [234, 74, 108, 99, 226, 156, 82, 10, 190, 245, 80, 123, 19, 46, 197, 249, 149,
    71, 118, 174, 190, 190, 123, 146, 66, 30, 234, 105, 20, 70, 210, 44]

def sampleSignature : KnownSignature where
  privateKey := sampleKey.privateKeyBytes
  publicKey := sampleKey.publicKeyBytes
  message := transparencyDecisionReceiptSignatureDomain ++ 0 :: TextFile.encode
    ((Json.Value.obj (receiptMembers (referenceTrustPlatform [])
      (.str unverifiedFields.decisionCoreSha256.val) unverifiedFields)).sortKeys.print
        Json.compact 0)
  signature := [115, 195, 176, 135, 188, 99, 171, 103, 189, 112, 25, 83, 206, 80, 8, 13, 193, 38,
    162, 231, 116, 31, 60, 154, 81, 194, 234, 182, 45, 181, 183, 234, 125, 39, 130, 94, 134, 197,
    240, 189, 130, 198, 120, 1, 82, 235, 68, 89, 47, 95, 154, 179, 251, 120, 47, 236, 254, 166, 226,
    29, 34, 114, 112, 15]

abbrev samplePlatform : TrustPlatform := referenceTrustPlatform [sampleSignature]

theorem unverifiedFields_core : calculateDecisionCoreSha256 samplePlatform unverifiedFields =
    .ok unverifiedFields.decisionCoreSha256 := by
  have hints : (Json.Value.obj (receiptMembers samplePlatform .null
      unverifiedFields)).sortKeys.intsWithin maxStrDigits = true := by
    decide +kernel
  rw [calculateDecisionCoreSha256_eq_ok hints, coreDigest_reference]
  exact congrArg Except.ok (coreDigest_with unverifiedDraft _)

def unverifiedReceipt : TransparencyTrustDecisionReceiptPayload samplePlatform where
  toReceiptFields := unverifiedFields
  valid := validateDecision_eq_ok.mpr ⟨by simp [unverifiedFields, unverifiedDraft],
    by simp [unverifiedFields, unverifiedDraft], unverifiedFields_core⟩

theorem fieldsOf?_unverified :
    fieldsOf? unverifiedResult "policy" "verifier" sampleTime .trusted none =
      some unverifiedDraft :=
  fieldsOf?_resultOf unverifiedDraft

theorem build_unverified : buildTrustedDecisionReceipt samplePlatform unverifiedResult "policy"
    "verifier" sampleTime = .ok unverifiedReceipt := by
  have hcore : calculateDecisionCoreSha256 samplePlatform unverifiedDraft =
      .ok unverifiedFields.decisionCoreSha256 :=
    (calculateDecisionCoreSha256_with unverifiedDraft
      unverifiedFields.decisionCoreSha256).symm.trans unverifiedFields_core
  rw [buildTrustedDecisionReceipt, fieldsOf?_unverified]
  dsimp only
  rw [sealFields, hcore, ok_bind]
  exact newPayload_self unverifiedReceipt

def unverifiedEnvelope : TransparencyTrustDecisionReceiptEnvelope samplePlatform where
  receipt := unverifiedReceipt
  signatureB64 :=
    ⟨"c8Owh7xjq2e9cBlTzlAIDcEmoud0HzyaUcLqti21t+p9J4JehsXwvYLGeAFS60RZL1+as/t4L+z+puIdInJwDw==",
      by decide +kernel⟩
  signedAt := sampleTime
  signingKeyId := sampleKey.keyId

theorem receiptMessage_unverified :
    receiptMessage samplePlatform unverifiedReceipt = .ok sampleSignature.message := by
  have hints : (Json.Value.obj (receiptMembers samplePlatform
      (.str unverifiedReceipt.decisionCoreSha256.val)
      unverifiedReceipt.toReceiptFields)).sortKeys.intsWithin maxStrDigits = true := by
    decide +kernel
  rw [receiptMessage, canonicalizeDecisionReceipt, canonicalBytes, jsonDumps_eq_ok.mpr ⟨hints, rfl⟩]
  rfl

example : unverifiedEnvelope.signatureB64.bytes.length = ed25519SignatureBytes := by decide +kernel

theorem sign_unverified : signDecisionReceipt samplePlatform unverifiedReceipt sampleKey
    sampleTime = .ok unverifiedEnvelope := by
  have hsign : samplePlatform.ed25519.sign sampleKey.privateKeyBytes sampleSignature.message =
      sampleSignature.signature := by
    simp [Ed25519.ofKnown, sampleSignature]
  have htext : String.ofList (b64encode sampleSignature.signature) =
      unverifiedEnvelope.signatureB64.val := by
    decide +kernel
  exact signDecisionReceipt_eq_ok receiptMessage_unverified (hsign ▸ htext)

def unverifiedText : List Char :=
  (Json.Value.obj (envelopeMembers samplePlatform unverifiedEnvelope)).print Json.indented 0

def unverifiedNode : FileNode := .regular (TextFile.encode (unverifiedText ++ ['\n']))

theorem exportedFile_unverified :
    exportedFile samplePlatform unverifiedEnvelope = .ok unverifiedNode := by
  have hints : (Json.Value.obj (envelopeMembers samplePlatform unverifiedEnvelope)).intsWithin
      maxStrDigits = true := by
    decide +kernel
  rw [exportedFile, jsonDumps_eq_ok.mpr ⟨hints, rfl⟩]
  rfl

theorem length_unverified :
    (TextFile.encode (unverifiedText ++ ['\n'])).length ≤ maxDecisionReceiptBytes := by
  have hprint := Json.encode_print_indented_length_le 0
    (.obj (envelopeMembers samplePlatform unverifiedEnvelope))
  have hbound : (Json.Value.obj (envelopeMembers samplePlatform
      unverifiedEnvelope)).indentedBound 0 < maxDecisionReceiptBytes := by
    rw [indentedBound_envelope]
    decide +kernel
  have hnewline : (TextFile.encode ['\n']).length = 1 := by decide
  rw [unverifiedText, TextFile.encode_append, List.length_append, hnewline]
  omega

theorem load_unverified :
    loadTransparencyTrustDecisionReceipt samplePlatform unverifiedNode =
      .ok unverifiedEnvelope :=
  load_exportedFile exportedFile_unverified length_unverified

def sampleTrustStore : DecisionReceiptTrustStore := [("key", sampleKey.publicKeyBytes)]

theorem verify_unverified : verifyTransparencyTrustDecisionReceipt samplePlatform unverifiedNode
    sampleTrustStore none none = .ok unverifiedReceipt := by
  have hkey : sampleTrustStore.lookup unverifiedEnvelope.signingKeyId.val =
      some sampleKey.publicKeyBytes := rfl
  have hbytes : unverifiedEnvelope.signatureB64.bytes = sampleSignature.signature := by
    decide +kernel
  have hverify : samplePlatform.ed25519.verify sampleKey.publicKeyBytes sampleSignature.signature
      sampleSignature.message = true := by
    simp [Ed25519.ofKnown, sampleSignature]
  exact verify_of_signed load_unverified hkey receiptMessage_unverified (hbytes ▸ hverify)

theorem verify_exported_unverified : ∃ publicKey message,
    sampleTrustStore.lookup unverifiedEnvelope.signingKeyId.val = some publicKey ∧
      receiptMessage samplePlatform unverifiedReceipt = .ok message ∧
      samplePlatform.ed25519.verify publicKey unverifiedEnvelope.signatureB64.bytes message = true :=
  ((verify_exported exportedFile_unverified length_unverified none none).mp verify_unverified).2.2.2

example : requireTrustedDecisionReceipt samplePlatform unverifiedEnvelope "report.json"
    unverifiedResult.artifactSha256 unverifiedResult.bundleSha256 (some []) ≠ .ok () := by
  decide +kernel

theorem require_unverified : requireTrustedDecisionReceipt samplePlatform unverifiedEnvelope
    "report.json" unverifiedResult.artifactSha256 unverifiedResult.bundleSha256 none = .ok () := by
  decide +kernel

end AgenticLab.DecisionReceipt
