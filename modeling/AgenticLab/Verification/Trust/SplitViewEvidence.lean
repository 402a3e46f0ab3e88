import AgenticLab.Model.SplitViewEvidence
import AgenticLab.Verification.Reports.SignedMessages
import AgenticLab.Verification.StateFile

/-! # Split-view evidence is created once, and verified on its signature alone -/

namespace AgenticLab.SplitViewEvidence

open TransparencyCheckpointState (Name name? name?_val TransparencyCheckpointVerificationResult)
open WitnessQuorum
open WitnessStatement (witnessId? witnessId?_val CheckpointFields checkpointFields?
  TransparencyWitnessPrivateKey)

/-! ## Base64 -/

theorem b64Value?_b64Digit : ∀ value < 64, b64Value? (b64Digit value) = some value := by
  decide +kernel

theorem b64Digit_ne_pad : ∀ value < 64, b64Digit value ≠ '=' := by decide +kernel

theorem b64decode?_cons {a b c d : Char} {rest : List Char} (hc : c ≠ '=') (hd : d ≠ '=') :
    b64decode? (a :: b :: c :: d :: rest) = (do
      let x ← b64Value? a
      let y ← b64Value? b
      let z ← b64Value? c
      let w ← b64Value? d
      let bytes ← b64decode? rest
      return UInt8.ofNat (x * 4 + y / 16) :: UInt8.ofNat (y % 16 * 16 + z / 4) ::
        UInt8.ofNat (z % 4 * 64 + w) :: bytes) := by
  rw [b64decode?]
  · exact fun h => absurd h hc
  · exact fun h => absurd h hd

theorem ofNat_eq (x : UInt8) {value : ℕ} (h : value = x.toNat) : UInt8.ofNat value = x := by
  rw [h, UInt8.ofNat_toNat]

theorem b64decode?_b64encode (bytes : List UInt8) : b64decode? (b64encode bytes) = some bytes := by
  induction bytes using b64encode.induct with
  | case1 => rfl
  | case2 x =>
    have hx := x.toNat_lt
    rw [b64encode, b64decode?, b64Value?_b64Digit _ (by omega), b64Value?_b64Digit _ (by omega)]
    simp only [Option.bind_eq_bind, Option.bind_some, Option.pure_def]
    rw [ofNat_eq x (by omega)]
  | case3 x y =>
    have hx := x.toNat_lt
    have hy := y.toNat_lt
    rw [b64encode, b64decode?, b64Value?_b64Digit _ (by omega), b64Value?_b64Digit _ (by omega),
      b64Value?_b64Digit _ (by omega)]
    · simp only [Option.bind_eq_bind, Option.bind_some, Option.pure_def]
      rw [ofNat_eq x (by omega), ofNat_eq y (by omega)]
    · exact b64Digit_ne_pad _ (by omega)
  | case4 x y z rest ih =>
    have hx := x.toNat_lt
    have hy := y.toNat_lt
    have hz := z.toNat_lt
    rw [b64encode, b64decode?_cons (b64Digit_ne_pad _ (by omega)) (b64Digit_ne_pad _ (by omega)),
      b64Value?_b64Digit _ (by omega), b64Value?_b64Digit _ (by omega),
      b64Value?_b64Digit _ (by omega), b64Value?_b64Digit _ (by omega), ih]
    simp only [Option.bind_eq_bind, Option.bind_some, Option.pure_def]
    rw [ofNat_eq x (by omega), ofNat_eq y (by omega), ofNat_eq z (by omega)]

example : b64decode? "QUI=".toList = some [65, 66] := by decide +kernel

theorem length_b64encode (bytes : List UInt8) :
    (b64encode bytes).length ≤ 4 * ((bytes.length + 2) / 3) := by
  induction bytes using b64encode.induct with
  | case1 => simp [b64encode]
  | case2 x => simp [b64encode]
  | case3 x y => simp [b64encode]
  | case4 x y z rest ih =>
    simp only [b64encode, List.length_cons] at ih ⊢
    omega

variable {p : TrustPlatform}

section

variable (datetimes : DatetimeCodec)

theorem checkpointFromJson_of_lookup {fields : Fields} {digestName rootName keyName : String}
    (checkpoint : NamedCheckpoint)
    (hdigest : fields.lookup digestName = some (.atom (.str checkpoint.checkpointSha256.val)))
    (hroot : fields.lookup rootName = some (.atom (.str checkpoint.rootHash.val)))
    (hkey : fields.lookup keyName = some (.atom (.str checkpoint.logSigningKeyId.val))) :
    checkpointFromJson fields digestName rootName keyName = some checkpoint := by
  rw [checkpointFromJson, digest?_of_lookup hdigest, digest?_of_lookup hroot, str?_of_lookup hkey]
  simp only [Option.bind_eq_bind, Option.bind_some, name?_val, Option.pure_def]

theorem evidenceFromJson_members (evidence : TransparencySplitViewEvidencePayload) :
    evidenceFromJson datetimes (.obj (evidenceMembers datetimes evidence)) = some evidence := by
  have hkeys : (evidenceMembers datetimes evidence).map Prod.fst = evidenceFieldNames := rfl
  have hlog : ((evidenceMembers datetimes evidence).str? "log_id").bind name? =
      some evidence.logId := by
    rw [str?_of_lookup rfl, Option.bind_some, name?_val]
  have hwitness : ((evidenceMembers datetimes evidence).str? "detected_by_witness_id").bind
      witnessId? = some evidence.detectedByWitnessId := by
    rw [str?_of_lookup rfl, Option.bind_some, witnessId?_val]
  rw [evidenceFromJson, objectFields?_eq hkeys, Option.bind_eq_bind, Option.bind_some,
    literal?_of_lookup rfl, literal?_of_lookup rfl, hlog, positiveInt?_of_lookup rfl,
    checkpointFromJson_of_lookup evidence.first rfl rfl rfl,
    checkpointFromJson_of_lookup evidence.second rfl rfl rfl, hwitness, datetime?_of_lookup rfl]
  rfl

theorem envelopeFromJson_members (envelope : TransparencySplitViewEvidenceEnvelope) :
    envelopeFromJson datetimes (.obj (envelopeMembers datetimes envelope)) = some envelope := by
  have hkeys : (envelopeMembers datetimes envelope).map Prod.fst = envelopeFieldNames := rfl
  have hevidence : ((envelopeMembers datetimes envelope).lookup "evidence").bind
      (evidenceFromJson datetimes) = some envelope.evidence :=
    evidenceFromJson_members datetimes envelope.evidence
  rw [envelopeFromJson, objectFields?_eq hkeys, Option.bind_eq_bind, Option.bind_some, hevidence,
    literal?_of_lookup rfl, str?_of_lookup rfl, datetime?_of_lookup rfl]
  rfl

theorem intsWithin_evidence (evidence : TransparencySplitViewEvidencePayload) :
    (Json.Value.obj (evidenceMembers datetimes evidence)).intsWithin maxStrDigits =
      (Json.Value.atom (.int evidence.treeSize.val)).intsWithin maxStrDigits := by
  have hversion : (Nat.toDigits 10 transparencySplitViewEvidenceVersion).length ≤ maxStrDigits := by
    decide +kernel
  simp [evidenceMembers, Json.Value.intsWithin, Json.membersIntsWithin, hversion]

theorem intsWithin_envelope (envelope : TransparencySplitViewEvidenceEnvelope) :
    (Json.Value.obj (envelopeMembers datetimes envelope)).intsWithin maxStrDigits =
      (Json.Value.atom (.int envelope.evidence.treeSize.val)).intsWithin maxStrDigits := by
  rw [← intsWithin_evidence datetimes envelope.evidence]
  simp [envelopeMembers, Json.Value.intsWithin, Json.membersIntsWithin]

theorem indentedBound_envelope {envelope : TransparencySplitViewEvidenceEnvelope}
    (hsignature : envelope.signatureB64.length ≤ 88)
    (hints : (Json.Value.atom (.int envelope.evidence.treeSize.val)).intsWithin maxStrDigits =
      true) :
    (Json.Value.obj (envelopeMembers datetimes envelope)).indentedBound 0 <
      maxTransparencySplitViewEvidenceBytes := by
  have hdigest : ∀ digest : Sha256Digest, digest.val.length ≤ 512 := digest_isShort
  have hname : ∀ name : Name, name.val.length ≤ 128 := fun name => name.property.2
  have hwitness : ∀ witnessId : WitnessId, witnessId.val.length ≤ 128 := by
    intro witnessId
    have h := witnessId.property
    simp only [isValidWitnessId, Bool.and_eq_true, decide_eq_true_eq] at h
    exact h.1.2
  have hsize : (Nat.toDigits 10 envelope.evidence.treeSize.val).length ≤ 4300 := by
    rw [Json.Value.intsWithin, Int.natAbs_natCast] at hints
    exact of_decide_eq_true hints
  have hlog := hname envelope.evidence.logId
  have hfirst := hdigest envelope.evidence.first.checkpointSha256
  have hfirstRoot := hdigest envelope.evidence.first.rootHash
  have hfirstKey := hname envelope.evidence.first.logSigningKeyId
  have hsecond := hdigest envelope.evidence.second.checkpointSha256
  have hsecondRoot := hdigest envelope.evidence.second.rootHash
  have hsecondKey := hname envelope.evidence.second.logSigningKeyId
  have hid := hwitness envelope.evidence.detectedByWitnessId
  have hdetected := datetimes.format_length envelope.evidence.detectedAt
  have hsigned := datetimes.format_length envelope.signedAt
  have hversion : (Nat.toDigits 10 1).length = 1 := by decide
  have htype : transparencySplitViewEvidenceType.length ≤ 64 := by decide
  have halgorithm : transparencyWitnessSignatureAlgorithm.length ≤ 64 := by decide
  have hnames : ∀ name ∈ envelopeFieldNames ++ evidenceFieldNames, name.length ≤ 40 := by
    decide +kernel
  simp only [envelopeFieldNames, evidenceFieldNames, List.cons_append, List.nil_append,
    List.forall_mem_cons] at hnames
  simp only [envelopeMembers, evidenceMembers, Json.Value.indentedBound, Json.membersIndentedBound,
    Json.Atom.widthBound, Int.natAbs_natCast, transparencySplitViewEvidenceVersion, hversion,
    maxTransparencySplitViewEvidenceBytes]
  omega

end

/-! ## One witness's evidence -/

variable {envelope : TransparencySplitViewEvidenceEnvelope}

theorem load_of_exportedBytes {content : List UInt8} (h : exportedBytes p envelope = .ok content)
    (hsignature : envelope.signatureB64.length ≤ 88) :
    loadTransparencySplitViewEvidence p (.regular content) = .ok envelope := by
  obtain ⟨text, htext, h⟩ := bind_eq_ok.mp h
  obtain rfl : TextFile.encode (text ++ ['\n']) = content := Except.ok.inj h
  have hload := loadsNoDuplicateKeys_of_jsonDumps htext rfl
    (List.all_eq_true.mp rfl : ∀ c ∈ ['\n'], Json.isSpace c = true)
  obtain ⟨hints, hprint⟩ := jsonDumps_eq_ok.mp htext
  have hbound := indentedBound_envelope p.datetimes hsignature
    ((intsWithin_envelope p.datetimes envelope).symm.trans hints)
  have hlength := Json.encode_print_indented_length_le 0
    (.obj (envelopeMembers p.datetimes envelope))
  have hnewline : (TextFile.encode ['\n']).length = 1 := by decide
  have hsize : ¬maxTransparencySplitViewEvidenceBytes <
      (TextFile.encode (text ++ ['\n'])).length := by
    rw [← hprint, TextFile.encode_append, List.length_append, hnewline]
    omega
  rw [loadTransparencySplitViewEvidence, raiseIf, if_neg hsize]
  simp only [ok_bind, TextFile.decode_encode, hload, Option.bind_some, envelopeFromJson_members]

theorem evidenceMessage_isOk (datetimes : DatetimeCodec)
    (evidence : TransparencySplitViewEvidencePayload) :
    (∃ message, evidenceMessage datetimes evidence = .ok message) ↔
      (Json.Value.atom (.int evidence.treeSize.val)).intsWithin maxStrDigits = true := by
  rw [← intsWithin_evidence datetimes, evidenceMessage, canonicalBytes, jsonDumps,
    Json.intsWithin_sortKeys]
  split_ifs with hints
  · exact iff_of_true ⟨_, rfl⟩ hints
  · refine iff_of_false ?_ hints
    rintro ⟨_, h⟩
    cases h

theorem publicIdentity_of_privateKey {environ : WitnessEnvironment}
    {key : TransparencyWitnessPrivateKey}
    (h : loadTransparencyWitnessPrivateKey p environ = .ok key) :
    loadWitnessPublicIdentity environ = .ok (key.witnessId, key.publicKeyBytes) ∧
      p.ed25519.publicKey key.privateKeyBytes = key.publicKeyBytes := by
  unfold loadTransparencyWitnessPrivateKey at h
  split at h
  next witnessId privateBytes publicBytes hid hprivate hpublic =>
    rw [raiseIf_bind_eq_ok, not_not] at h
    obtain ⟨hderived, h⟩ := h
    cases h
    refine ⟨?_, hderived⟩
    rw [loadWitnessPublicIdentity, hid, hpublic]
  next => cases h

def evidenceOf (first second : CheckpointFields) (witnessId : WitnessId)
    (detectedAt : UtcDatetime) : TransparencySplitViewEvidencePayload :=
  ⟨first.logId, first.treeSize,
    ⟨first.checkpointSha256, first.rootHash, first.logSigningKeyId⟩,
    ⟨second.checkpointSha256, second.rootHash, second.logSigningKeyId⟩, witnessId, detectedAt⟩

/-- What is documented of signatures. -/
structure Genuine (ed25519 : Ed25519) : Prop where
  length : ∀ privateKey message, (ed25519.sign privateKey message).length = ed25519SignatureBytes
  verify : ∀ privateKey message,
    ed25519.verify (ed25519.publicKey privateKey) (ed25519.sign privateKey message) message = true

section

variable {environ : WitnessEnvironment} {pair : CheckpointPair}
  {key : TransparencyWitnessPrivateKey} {first second : CheckpointFields}

theorem buildEvidencePayload_eq_ok (hfirst : checkpointFields? pair.1 = some first)
    (hsecond : checkpointFields? pair.2 = some second) (witnessId : WitnessId)
    (detectedAt : UtcDatetime) :
    buildEvidencePayload pair witnessId detectedAt =
      .ok (evidenceOf first second witnessId detectedAt) := by
  rw [buildEvidencePayload, hfirst, hsecond]
  rfl

variable {message : List UInt8}

theorem signEvidence_eq_ok (hgenuine : Genuine p.ed25519) (key : TransparencyWitnessPrivateKey)
    {evidence : TransparencySplitViewEvidencePayload}
    (hmessage : evidenceMessage p.datetimes evidence = .ok message) (signedAt : UtcDatetime) :
    signEvidence p evidence key signedAt =
      .ok ⟨evidence, String.ofList (b64encode (p.ed25519.sign key.privateKeyBytes message)),
        signedAt⟩ := by
  simp only [signEvidence, hmessage, ok_bind, raiseIf, hgenuine.length, ne_eq, not_true_eq_false,
    if_false]
  rfl

theorem validateExistingEvidence_signed (hgenuine : Genuine p.ed25519)
    (hkey : loadTransparencyWitnessPrivateKey p environ = .ok key)
    (hfirst : checkpointFields? pair.1 = some first)
    (hsecond : checkpointFields? pair.2 = some second) {detectedAt : UtcDatetime}
    (hmessage : evidenceMessage p.datetimes (evidenceOf first second key.witnessId detectedAt) =
      .ok message) :
    validateExistingEvidence p ⟨evidenceOf first second key.witnessId detectedAt,
      String.ofList (b64encode (p.ed25519.sign key.privateKeyBytes message)), detectedAt⟩ pair
      key.witnessId key.publicKeyBytes = .ok () := by
  have hverify : verifiesB64 p key.publicKeyBytes
      (String.ofList (b64encode (p.ed25519.sign key.privateKeyBytes message))) message = true := by
    rw [verifiesB64, String.toList_ofList, b64decode?_b64encode,
      ← (publicIdentity_of_privateKey hkey).2]
    exact hgenuine.verify _ _
  have hbuild : buildEvidencePayload pair key.witnessId
      (evidenceOf first second key.witnessId detectedAt).detectedAt =
        .ok (evidenceOf first second key.witnessId detectedAt) :=
    buildEvidencePayload_eq_ok hfirst hsecond _ _
  rw [validateExistingEvidence]
  dsimp only
  rw [hbuild, ok_bind]
  simp [raiseIf, hmessage, hverify]

theorem freshEvidence_cases (hgenuine : Genuine p.ed25519) (environ : WitnessEnvironment)
    (pair : CheckpointPair) :
    (∀ detectedAt, ∃ failure, freshEvidence p environ pair detectedAt = .error failure) ∨
      ∀ detectedAt, ∃ envelope content,
        freshEvidence p environ pair detectedAt = .ok (envelope, content) ∧
        loadTransparencySplitViewEvidence p (.regular content) = .ok envelope ∧
        existingEvidence p environ pair (.regular content) = .ok envelope := by
  cases hkey : loadTransparencyWitnessPrivateKey p environ with
  | error failure =>
    refine .inl fun detectedAt => ⟨failure, ?_⟩
    rw [freshEvidence, hkey, error_bind]
  | ok key =>
    cases hfirst : checkpointFields? pair.1 with
    | none =>
      refine .inl fun _ =>
        ⟨WitnessStatement.invalidModelFailure "TransparencySplitViewEvidencePayload", ?_⟩
      rw [freshEvidence, hkey, ok_bind, buildEvidencePayload, hfirst]
      rfl
    | some first =>
      cases hsecond : checkpointFields? pair.2 with
      | none =>
        refine .inl fun _ =>
          ⟨WitnessStatement.invalidModelFailure "TransparencySplitViewEvidencePayload", ?_⟩
        rw [freshEvidence, hkey, ok_bind, buildEvidencePayload, hfirst, hsecond]
        rfl
      | some second =>
        have hbuild := buildEvidencePayload_eq_ok hfirst hsecond key.witnessId
        by_cases hints : (Json.Value.atom (.int first.treeSize.val)).intsWithin maxStrDigits = true
        · refine .inr fun detectedAt => ?_
          obtain ⟨message, hmessage⟩ := (evidenceMessage_isOk p.datetimes
            (evidenceOf first second key.witnessId detectedAt)).mpr hints
          have hsign := signEvidence_eq_ok hgenuine key hmessage detectedAt
          have hvalid := validateExistingEvidence_signed hgenuine hkey hfirst hsecond hmessage
          have hexported : exportedBytes p ⟨evidenceOf first second key.witnessId detectedAt,
              String.ofList (b64encode (p.ed25519.sign key.privateKeyBytes message)),
              detectedAt⟩ = .ok _ :=
            bind_eq_ok.mpr ⟨_, jsonDumps_eq_ok.mpr
              ⟨(intsWithin_envelope p.datetimes _).trans hints, rfl⟩, rfl⟩
          have hlength : (String.ofList (b64encode
              (p.ed25519.sign key.privateKeyBytes message))).length ≤ 88 := by
            have h := length_b64encode (p.ed25519.sign key.privateKeyBytes message)
            rw [hgenuine.length] at h
            rw [String.length_ofList]
            exact h
          have hload := load_of_exportedBytes hexported hlength
          refine ⟨_, _, ?_, hload, ?_⟩
          · rw [freshEvidence, hkey, ok_bind, hbuild, ok_bind, hsign, ok_bind, hexported]
            rfl
          · rw [existingEvidence, (publicIdentity_of_privateKey hkey).1, ok_bind]
            dsimp only
            rw [hload, ok_bind, hvalid]
            rfl
        · refine .inl fun detectedAt => ?_
          have hmessage : ∃ failure, evidenceMessage p.datetimes
              (evidenceOf first second key.witnessId detectedAt) = .error failure := by
            cases h : evidenceMessage p.datetimes
                (evidenceOf first second key.witnessId detectedAt) with
            | error failure => exact ⟨failure, rfl⟩
            | ok message =>
              exact absurd ((evidenceMessage_isOk _ _).mp ⟨message, h⟩) hints
          obtain ⟨failure, hmessage⟩ := hmessage
          refine ⟨failure, ?_⟩
          rw [freshEvidence, hkey, ok_bind, hbuild, ok_bind, signEvidence, hmessage]
          rfl

end

/-! ## Any order, any time -/

variable {pair : CheckpointPair}

theorem normalizeCheckpointPair_comm {first second : TransparencyCheckpointVerificationResult}
    (h : normalizeCheckpointPair first second = .ok pair) :
    normalizeCheckpointPair second first = .ok pair := by
  rw [normalizeCheckpointPair, raiseIf_bind_eq_ok, raiseIf_bind_eq_ok] at h ⊢
  obtain ⟨hlog, hconflict, h⟩ := h
  refine ⟨fun h => hlog (h.imp Ne.symm Ne.symm), fun h => hconflict (h.imp Eq.symm Eq.symm), ?_⟩
  rw [← h]
  have hdiffer : first.checkpointSha256 ≠ second.checkpointSha256 := fun heq => hconflict (.inr heq)
  rcases lt_or_gt_of_ne hdiffer with hlt | hlt
  · rw [if_pos hlt, if_neg hlt.not_gt]
  · rw [if_pos hlt, if_neg hlt.not_gt]

theorem normalizeVerified_comm
    {checkpoint conflicting : Except Raised TransparencyCheckpointVerificationResult}
    (h : normalizeVerified checkpoint conflicting = .ok pair) :
    normalizeVerified conflicting checkpoint = .ok pair := by
  obtain ⟨first, hfirst, h⟩ := bind_eq_ok.mp h
  obtain ⟨second, hsecond, h⟩ := bind_eq_ok.mp h
  exact bind_eq_ok.mpr ⟨second, hsecond, bind_eq_ok.mpr
    ⟨first, hfirst, normalizeCheckpointPair_comm h⟩⟩

/-- A call for two checkpoints, in their order or in the other one. -/
structure Attempt where
  swapped : Bool
  detectedAt : UtcDatetime

section

variable (p) (environ : WitnessEnvironment)
  (checkpoint conflicting : Except Raised TransparencyCheckpointVerificationResult)

def attempt (node : FileNode) (call : Attempt) :
    Except Raised TransparencySplitViewEvidenceEnvelope × FileNode :=
  if call.swapped = true then
    createTransparencySplitViewEvidence p environ conflicting checkpoint call.detectedAt node
  else createTransparencySplitViewEvidence p environ checkpoint conflicting call.detectedAt node

def attemptAll : FileNode → List Attempt →
    List (Except Raised TransparencySplitViewEvidenceEnvelope) × FileNode
  | node, [] => ([], node)
  | node, call :: calls =>
    let (result, after) := attempt p environ checkpoint conflicting node call
    let (results, final) := attemptAll after calls
    (result :: results, final)

/-- All calls refuse, or all return what the file holds. -/
def Uniform (run : List (Except Raised TransparencySplitViewEvidenceEnvelope) × FileNode) : Prop :=
  (∀ result ∈ run.1, ∃ failure, result = .error failure) ∨
    ∃ envelope, (∀ result ∈ run.1, result = .ok envelope) ∧
      loadTransparencySplitViewEvidence p run.2 = .ok envelope

end

section

variable {environ : WitnessEnvironment}
  {checkpoint conflicting : Except Raised TransparencyCheckpointVerificationResult}
  {node : FileNode}

theorem attemptAll_refused
    (h : ∀ call, ∃ failure,
      attempt p environ checkpoint conflicting node call = (.error failure, node))
    (calls : List Attempt) :
    ∀ result ∈ (attemptAll p environ checkpoint conflicting node calls).1,
      ∃ failure, result = .error failure := by
  induction calls with
  | nil => exact fun _ hmem => absurd hmem List.not_mem_nil
  | cons call calls ih =>
    obtain ⟨failure, hcall⟩ := h call
    rw [attemptAll, hcall]
    intro result hresult
    rcases List.mem_cons.mp hresult with rfl | hresult
    · exact ⟨failure, rfl⟩
    · exact ih result hresult

variable {envelope : TransparencySplitViewEvidenceEnvelope}

theorem attemptAll_kept
    (h : ∀ call, attempt p environ checkpoint conflicting node call = (.ok envelope, node))
    (calls : List Attempt) :
    (∀ result ∈ (attemptAll p environ checkpoint conflicting node calls).1, result = .ok envelope) ∧
    (attemptAll p environ checkpoint conflicting node calls).2 = node := by
  induction calls with
  | nil => exact ⟨fun _ hmem => absurd hmem List.not_mem_nil, rfl⟩
  | cons call calls ih =>
    rw [attemptAll, h call]
    refine ⟨fun result hresult => ?_, ih.2⟩
    rcases List.mem_cons.mp hresult with rfl | hresult
    · rfl
    · exact ih.1 result hresult

variable {pair : CheckpointPair}

theorem attempt_of_normalized
    (h : normalizeVerified checkpoint conflicting = .ok pair) (node : FileNode) (call : Attempt) :
    attempt p environ checkpoint conflicting node call =
      createNormalized p environ pair call.detectedAt node := by
  rw [attempt, createTransparencySplitViewEvidence, createTransparencySplitViewEvidence, h,
    normalizeVerified_comm h]
  exact ite_self _

theorem attempt_of_refused {failure : Raised}
    (h : normalizeVerified checkpoint conflicting = .error failure) (node : FileNode)
    (call : Attempt) :
    ∃ failure, attempt p environ checkpoint conflicting node call = (.error failure, node) := by
  rw [attempt, createTransparencySplitViewEvidence, createTransparencySplitViewEvidence, h]
  split_ifs with hswapped
  · cases hother : normalizeVerified conflicting checkpoint with
    | error failure => exact ⟨failure, rfl⟩
    | ok pair => exact absurd (h.symm.trans (normalizeVerified_comm hother)) nofun
  · exact ⟨failure, rfl⟩

theorem existingEvidence_load (h : existingEvidence p environ pair node = .ok envelope) :
    loadTransparencySplitViewEvidence p node = .ok envelope := by
  obtain ⟨⟨witnessId, publicKeyBytes⟩, _, h⟩ := bind_eq_ok.mp h
  obtain ⟨loaded, hload, h⟩ := bind_eq_ok.mp h
  obtain ⟨_, _, h⟩ := bind_eq_ok.mp h
  cases h
  exact hload

theorem attemptAll_existing (h : normalizeVerified checkpoint conflicting = .ok pair)
    (hexists : node ≠ .absent) (calls : List Attempt) :
    Uniform p (attemptAll p environ checkpoint conflicting node calls) := by
  have hcreate : ∀ detectedAt, createNormalized p environ pair detectedAt node =
      (existingEvidence p environ pair node, node) := by
    intro detectedAt
    cases node with
    | absent => exact absurd rfl hexists
    | regular => rfl
    | symlink => rfl
    | directory => rfl
  cases hresult : existingEvidence p environ pair node with
  | error failure =>
    refine .inl (attemptAll_refused (fun call => ⟨failure, ?_⟩) calls)
    rw [attempt_of_normalized h, hcreate, hresult]
  | ok envelope =>
    have hsame : ∀ call, attempt p environ checkpoint conflicting node call =
        (.ok envelope, node) := by
      intro call
      rw [attempt_of_normalized h, hcreate, hresult]
    have hkept := attemptAll_kept hsame calls
    exact .inr ⟨envelope, hkept.1, hkept.2.symm ▸ existingEvidence_load hresult⟩

theorem attemptAll_uniform (hgenuine : Genuine p.ed25519) (node : FileNode) (calls : List Attempt) :
    Uniform p (attemptAll p environ checkpoint conflicting node calls) := by
  cases hpair : normalizeVerified checkpoint conflicting with
  | error failure => exact .inl (attemptAll_refused (attempt_of_refused hpair node) calls)
  | ok pair =>
    by_cases habsent : node = .absent
    · subst habsent
      rcases freshEvidence_cases hgenuine environ pair with hrefused | hmade
      · refine .inl (attemptAll_refused (fun call => ?_) calls)
        obtain ⟨failure, hfresh⟩ := hrefused call.detectedAt
        exact ⟨failure, by rw [attempt_of_normalized hpair, createNormalized, hfresh]⟩
      · cases calls with
        | nil => exact .inl fun _ hmem => absurd hmem List.not_mem_nil
        | cons call calls =>
          obtain ⟨envelope, content, hfresh, hload, hexisting⟩ := hmade call.detectedAt
          have hsame : ∀ later, attempt p environ checkpoint conflicting (.regular content)
              later = (.ok envelope, .regular content) := by
            intro later
            rw [attempt_of_normalized hpair, createNormalized, hexisting]
            exact nofun
          have hkept := attemptAll_kept hsame calls
          refine .inr ⟨envelope, ?_, ?_⟩
          · rw [attemptAll, attempt_of_normalized hpair, createNormalized, hfresh]
            intro result hresult
            rcases List.mem_cons.mp hresult with rfl | hresult
            · rfl
            · exact hkept.1 result hresult
          · rw [attemptAll, attempt_of_normalized hpair, createNormalized, hfresh]
            dsimp only
            rw [hkept.2]
            exact hload
    · exact attemptAll_existing hpair habsent calls

end

def NamedCheckpoint.Same (checkpoint other : NamedCheckpoint) : Prop :=
  checkpoint.checkpointSha256 = other.checkpointSha256 ∧ checkpoint.rootHash = other.rootHash

structure SameView (evidence other : TransparencySplitViewEvidencePayload) : Prop where
  witness : evidence.detectedByWitnessId = other.detectedByWitnessId
  log : evidence.logId = other.logId
  size : evidence.treeSize = other.treeSize

def SameConflict (evidence other : TransparencySplitViewEvidencePayload) : Prop :=
  SameView evidence other ∧
    ((evidence.first.Same other.first ∧ evidence.second.Same other.second) ∨
      (evidence.first.Same other.second ∧ evidence.second.Same other.first))

def Opposite (evidence other : TransparencySplitViewEvidencePayload) : Prop :=
  SameView evidence other ∧ evidence.first.Same other.second ∧ evidence.second.Same other.first ∧
    ¬evidence.first.Same evidence.second

/-- SHA-256 does not collide on what goes into the two ids. -/
def NoCollision (p : TrustPlatform) (evidence other : TransparencySplitViewEvidencePayload) :
    Prop :=
  ∀ bytes otherBytes, canonicalBytes (stableMembers evidence) = .ok bytes →
    canonicalBytes (stableMembers other) = .ok otherBytes →
      p.sha256.hexdigest bytes = p.sha256.hexdigest otherBytes → bytes = otherBytes

theorem NamedCheckpoint.Same.symm {checkpoint other : NamedCheckpoint}
    (h : checkpoint.Same other) : other.Same checkpoint :=
  ⟨h.1.symm, h.2.symm⟩

theorem NamedCheckpoint.Same.trans {checkpoint other third : NamedCheckpoint}
    (h : checkpoint.Same other) (hthird : other.Same third) : checkpoint.Same third :=
  ⟨h.1.trans hthird.1, h.2.trans hthird.2⟩

theorem canonicalBytes_stable_eq {evidence other : TransparencySplitViewEvidencePayload}
    {bytes : List UInt8} (h : canonicalBytes (stableMembers evidence) = .ok bytes)
    (hother : canonicalBytes (stableMembers other) = .ok bytes) :
    SameView evidence other ∧ evidence.first.Same other.first ∧
      evidence.second.Same other.second := by
  have hsorted := canonicalBytes_injective (by rfl) (by simp [stableMembers]) h hother
  simp only [stableMembers, Json.sortKeysMembers, Json.Value.sortKeys_atom, List.cons.injEq,
    Prod.mk.injEq, Json.Value.atom.injEq, Json.Atom.str.injEq, Json.Atom.int.injEq, Nat.cast_inj,
    true_and, and_true] at hsorted
  obtain ⟨hwitness, hfirst, hfirstRoot, hlog, hsecond, hsecondRoot, hsize⟩ := hsorted
  exact ⟨⟨Subtype.ext hwitness, Subtype.ext hlog, Subtype.ext hsize⟩,
    ⟨Subtype.ext hfirst, Subtype.ext hfirstRoot⟩, ⟨Subtype.ext hsecond, Subtype.ext hsecondRoot⟩⟩

variable {envelope other : TransparencySplitViewEvidenceEnvelope} {id otherId : String}

theorem evidenceId_eq_iff (hid : transparencySplitViewEvidenceId p envelope = .ok id)
    (hotherId : transparencySplitViewEvidenceId p other = .ok otherId)
    (hcollision : NoCollision p envelope.evidence other.evidence) :
    id = otherId ↔ SameView envelope.evidence other.evidence ∧
      envelope.evidence.first.Same other.evidence.first ∧
      envelope.evidence.second.Same other.evidence.second := by
  obtain ⟨bytes, hbytes, hid⟩ := bind_eq_ok.mp hid
  obtain ⟨otherBytes, hotherBytes, hotherId⟩ := bind_eq_ok.mp hotherId
  cases hid
  cases hotherId
  constructor
  · intro heq
    have hsame := hcollision bytes otherBytes hbytes hotherBytes heq
    exact canonicalBytes_stable_eq hbytes (hsame ▸ hotherBytes)
  · rintro ⟨hview, hfirst, hsecond⟩
    have hmembers : stableMembers envelope.evidence = stableMembers other.evidence := by
      rw [stableMembers, stableMembers, hview.witness, hview.log, hview.size, hfirst.1, hfirst.2,
        hsecond.1, hsecond.2]
    rw [hmembers, hotherBytes] at hbytes
    rw [Except.ok.inj hbytes]

theorem evidenceId_iff_not_opposite (hid : transparencySplitViewEvidenceId p envelope = .ok id)
    (hotherId : transparencySplitViewEvidenceId p other = .ok otherId)
    (hcollision : NoCollision p envelope.evidence other.evidence) :
    (id = otherId ↔ SameConflict envelope.evidence other.evidence) ↔
      ¬Opposite envelope.evidence other.evidence := by
  rw [evidenceId_eq_iff hid hotherId hcollision]
  constructor
  · rintro h ⟨hview, hfirst, hsecond, hdiffer⟩
    obtain ⟨_, hordered, _⟩ := h.mpr ⟨hview, .inr ⟨hfirst, hsecond⟩⟩
    exact hdiffer (hordered.trans hsecond.symm)
  · intro h
    refine ⟨fun ⟨hview, hpair⟩ => ⟨hview, .inl hpair⟩, ?_⟩
    rintro ⟨hview, hpair | ⟨hfirst, hsecond⟩⟩
    · exact ⟨hview, hpair⟩
    · by_cases hone : envelope.evidence.first.Same envelope.evidence.second
      · exact ⟨hview, hone.trans hsecond, hone.symm.trans hfirst⟩
      · exact absurd ⟨hview, hfirst, hsecond, hone⟩ h

/-- The evidence names two views that exclude each other. -/
def Truthful (evidence : TransparencySplitViewEvidencePayload) : Prop :=
  evidence.first.checkpointSha256 ≠ evidence.second.checkpointSha256 ∧
    evidence.first.rootHash ≠ evidence.second.rootHash

def NamedCheckpoint.verified (checkpoint : NamedCheckpoint)
    (evidence : TransparencySplitViewEvidencePayload) :
    TransparencyCheckpointVerificationResult where
  logId := evidence.logId.val
  treeSize := evidence.treeSize.val
  rootHash := checkpoint.rootHash.val
  logSigningKeyId := checkpoint.logSigningKeyId.val
  checkpointSha256 := checkpoint.checkpointSha256.val

def Normalizes (evidence : TransparencySplitViewEvidencePayload) : Prop :=
  ∃ pair, normalizeCheckpointPair (evidence.first.verified evidence)
    (evidence.second.verified evidence) = .ok pair

theorem truthful_iff (evidence : TransparencySplitViewEvidencePayload) :
    Truthful evidence ↔ Normalizes evidence := by
  have hdigest : ∀ digest other : Sha256Digest, digest.val = other.val ↔ digest = other :=
    fun _ _ => Subtype.ext_iff.symm
  have hreturns : ∀ first second : TransparencyCheckpointVerificationResult,
      ∃ pair : CheckpointPair,
        (if second.checkpointSha256 < first.checkpointSha256 then pure (second, first)
          else pure (first, second) : Except Raised CheckpointPair) = .ok pair := by
    intro first second
    split_ifs with hlt
    · exact ⟨_, rfl⟩
    · exact ⟨_, rfl⟩
  simp only [Normalizes, normalizeCheckpointPair, raiseIf_bind_eq_ok, exists_and_left, hreturns,
    and_true]
  simp [NamedCheckpoint.verified, Truthful, hdigest, and_comm]

variable {trustStore : TransparencyWitnessTrustStorePayload} {verificationTime : UtcDatetime}
  {policy : RevokedWitnessPolicy} {maximumClockSkew : ℤ}

theorem verify_loads {node : FileNode}
    {result : TransparencySplitViewEvidenceVerificationResult}
    (h : verifyTransparencySplitViewEvidence p node trustStore verificationTime policy
      maximumClockSkew = .ok result) :
    ∃ envelope, loadTransparencySplitViewEvidence p node = .ok envelope := by
  obtain ⟨envelope, hload, _⟩ := bind_eq_ok.mp h
  exact ⟨envelope, hload⟩

theorem verify_of_signed {node : FileNode}
    {witness : TransparencyWitnessTrustEntry}
    {message : List UInt8} {id : String}
    (hload : loadTransparencySplitViewEvidence p node = .ok envelope)
    (hlog : envelope.evidence.logId = trustStore.logId)
    (hwitness : trustStore.getWitness envelope.evidence.detectedByWitnessId = .ok witness)
    (htrusted : ensureWitnessTrustedForVerification witness envelope.evidence.detectedAt
      verificationTime policy maximumClockSkew = .ok ())
    (hmessage : evidenceMessage p.datetimes envelope.evidence = .ok message)
    (hverify : verifiesB64 p witness.publicKeyB64.bytes envelope.signatureB64 message = true)
    (hid : transparencySplitViewEvidenceId p envelope = .ok id) :
    verifyTransparencySplitViewEvidence p node trustStore verificationTime policy
        maximumClockSkew =
      .ok ⟨id, envelope.evidence.logId, envelope.evidence.treeSize,
        envelope.evidence.detectedByWitnessId, envelope.evidence.detectedAt⟩ := by
  rw [verifyTransparencySplitViewEvidence, hload, ok_bind]
  simp [raiseIf, hlog, hwitness, htrusted, hmessage, hverify, hid]

/-- Evidence is created once for a pair, in any order and at any time. Ids name the unordered pair
unless it has been signed in the other order as well, and what is accepted is truthful exactly if
the creation would not have refused it. -/
theorem splitViewEvidence_iff (p : TrustPlatform) :
    (Genuine p.ed25519 → ∀ environ checkpoint conflicting node calls,
      Uniform p (attemptAll p environ checkpoint conflicting node calls)) ∧
    (∀ envelope other id otherId, transparencySplitViewEvidenceId p envelope = .ok id →
      transparencySplitViewEvidenceId p other = .ok otherId →
      NoCollision p envelope.evidence other.evidence →
        ((id = otherId ↔ SameConflict envelope.evidence other.evidence) ↔
          ¬Opposite envelope.evidence other.evidence)) ∧
    ∀ node trustStore verificationTime policy maximumClockSkew result,
      verifyTransparencySplitViewEvidence p node trustStore verificationTime policy
        maximumClockSkew = .ok result →
      ∃ envelope, loadTransparencySplitViewEvidence p node = .ok envelope ∧
        (Truthful envelope.evidence ↔ Normalizes envelope.evidence) := by
  refine ⟨fun hgenuine _ _ _ node calls => attemptAll_uniform hgenuine node calls,
    fun _ _ _ _ hid hotherId hcollision => evidenceId_iff_not_opposite hid hotherId hcollision, ?_⟩
  intro node trustStore verificationTime policy maximumClockSkew result hverify
  obtain ⟨envelope, hload⟩ := verify_loads hverify
  exact ⟨envelope, hload, truthful_iff envelope.evidence⟩

def sampleCheckpoint : NamedCheckpoint where
  checkpointSha256 :=
    ⟨"1111111111111111111111111111111111111111111111111111111111111111", by decide +kernel⟩
  rootHash :=
    ⟨"2222222222222222222222222222222222222222222222222222222222222222", by decide +kernel⟩
  logSigningKeyId := ⟨"log-key", logKey_length⟩

def sampleTime : UtcDatetime := ⟨2026, 1, 1, 0, 0, 0, 0, isCalendarTime_newYear⟩

def sampleEvidence : TransparencySplitViewEvidencePayload where
  logId := ⟨"log", log_length⟩
  treeSize := ⟨1, Nat.one_pos⟩
  first := sampleCheckpoint
  second := sampleCheckpoint
  detectedByWitnessId := ⟨"witness", by decide +kernel⟩
  detectedAt := sampleTime

def sampleWitness : TransparencyWitnessTrustEntry where
  witnessId := ⟨"witness", by decide +kernel⟩
  publicKeyB64 := ⟨"6kpsY+KcUgq+9VB7Ey7F+ZVHdq6+vnuSQh7qaRRG0iw=", by decide +kernel⟩
  status := .active
  validFrom := sampleTime
  validUntil := none
  revokedAt := none
  window := nofun
  revocation := nofun
  revoked_iff := by decide

def sampleTrustStore : TransparencyWitnessTrustStorePayload where
  logId := ⟨"log", log_length⟩
  minimumQuorum := ⟨1, Nat.one_pos⟩
  witnesses := [sampleWitness]
  ids_nodup := by simp
  keys_nodup := by simp
  quorum_le := by decide

def sampleSignature : KnownSignature where
  privateKey := List.replicate 32 7
  publicKey := [234, 74, 108, 99, 226, 156, 82, 10, 190, 245, 80, 123, 19, 46, 197, 249, 149,
    71, 118, 174, 190, 190, 123, 146, 66, 30, 234, 105, 20, 70, 210, 44]
  message := transparencySplitViewEvidenceDomain ++ 0 :: TextFile.encode
    ((Json.Value.obj (evidenceMembers utcDatetimes sampleEvidence)).sortKeys.print Json.compact 0)
  signature := [238, 88, 68, 13, 59, 213, 41, 98, 36, 118, 160, 154, 43, 24, 227, 100, 229, 143, 34,
    90, 211, 106, 53, 58, 2, 29, 200, 219, 220, 178, 133, 121, 33, 1, 58, 243, 220, 140, 226, 206,
    167, 145, 201, 163, 31, 236, 140, 239, 185, 137, 103, 175, 222, 80, 149, 86, 180, 145, 83, 54,
    210, 127, 106, 13]

abbrev samplePlatform : TrustPlatform := referenceTrustPlatform [sampleSignature]

def sampleEnvelope : TransparencySplitViewEvidenceEnvelope where
  evidence := sampleEvidence
  signatureB64 :=
    "7lhEDTvVKWIkdqCaKxjjZOWPIlrTajU6Ah3I29yyhXkhATrz3IzizqeRyaMf7IzvuYlnr95QlVa0kVM20n9qDQ=="
  signedAt := sampleTime

def sampleNode : FileNode :=
  .regular (TextFile.encode ((Json.Value.obj (envelopeMembers utcDatetimes sampleEnvelope)).print
    Json.indented 0 ++ ['\n']))

theorem load_sample :
    loadTransparencySplitViewEvidence samplePlatform sampleNode = .ok sampleEnvelope := by
  have hints : (Json.Value.obj (envelopeMembers utcDatetimes sampleEnvelope)).intsWithin
      maxStrDigits = true := by
    decide +kernel
  have hexported : exportedBytes samplePlatform sampleEnvelope = .ok _ :=
    bind_eq_ok.mpr ⟨_, jsonDumps_eq_ok.mpr ⟨hints, rfl⟩, rfl⟩
  exact load_of_exportedBytes hexported (by decide +kernel)

example : sampleEnvelope.signatureB64.length = 4 * ((64 + 2) / 3) := by decide +kernel

theorem evidenceMessage_sample :
    evidenceMessage utcDatetimes sampleEvidence = .ok sampleSignature.message := by
  have hints : (Json.Value.obj (evidenceMembers utcDatetimes
      sampleEvidence)).sortKeys.intsWithin maxStrDigits = true := by
    decide +kernel
  rw [evidenceMessage, canonicalBytes, jsonDumps_eq_ok.mpr ⟨hints, rfl⟩]
  rfl

theorem verifiesB64_sample : verifiesB64 samplePlatform sampleWitness.publicKeyB64.bytes
    sampleEnvelope.signatureB64 sampleSignature.message = true := by
  have hkey : sampleWitness.publicKeyB64.bytes = sampleSignature.publicKey := by decide +kernel
  have hsignature : b64decode? sampleEnvelope.signatureB64.toList =
      some sampleSignature.signature := by
    decide +kernel
  rw [verifiesB64, hsignature, hkey]
  simp [Ed25519.ofKnown]

theorem evidenceId_sample : ∃ id,
    transparencySplitViewEvidenceId samplePlatform sampleEnvelope = .ok id := by
  have hints : (Json.Value.obj (stableMembers sampleEvidence)).sortKeys.intsWithin
      maxStrDigits = true := by
    decide +kernel
  exact ⟨_, bind_eq_ok.mpr ⟨_, bind_eq_ok.mpr ⟨_, jsonDumps_eq_ok.mpr ⟨hints, rfl⟩, rfl⟩, rfl⟩⟩

/-- A trusted witness's signature is enough. -/
theorem verify_not_truthful :
    loadTransparencySplitViewEvidence samplePlatform sampleNode = .ok sampleEnvelope ∧
    (∃ result, verifyTransparencySplitViewEvidence samplePlatform sampleNode sampleTrustStore
      sampleTime .reject 0 = .ok result) ∧
    ¬Truthful sampleEnvelope.evidence := by
  refine ⟨load_sample, ?_, fun h => h.1 rfl⟩
  obtain ⟨id, hid⟩ := evidenceId_sample
  have hwitness : sampleTrustStore.getWitness sampleEvidence.detectedByWitnessId =
      .ok sampleWitness := rfl
  have htrusted : ensureWitnessTrustedForVerification sampleWitness sampleEvidence.detectedAt
      sampleTime .reject 0 = .ok () := by
    decide +kernel
  exact ⟨_, verify_of_signed load_sample rfl hwitness htrusted evidenceMessage_sample
    verifiesB64_sample hid⟩

end AgenticLab.SplitViewEvidence
