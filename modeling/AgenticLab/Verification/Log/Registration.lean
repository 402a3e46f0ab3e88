import AgenticLab.Verification.Log.Chain

/-! # What a registration does to the files -/

namespace AgenticLab

def FileNode.bytes : FileNode → List UInt8
  | .regular content => content
  | _ => []

namespace TransparencyLog

open HashChain

structure Registers (artifact : VerifiedTransparencyArtifact) (recordedAt : UtcDatetime)
    (entry : Entry) : Prop where
  artifactType : entry.unsigned.artifactType = artifact.artifactType
  artifactVersion : (entry.unsigned.artifactVersion.val : ℤ) = artifact.artifactVersion
  artifactIdentifier : entry.unsigned.artifactIdentifier = artifact.artifactIdentifier
  artifactSha256 : entry.unsigned.artifactSha256.val = artifact.artifactSha256
  metadata : entry.unsigned.metadata = artifact.metadata
  recordedAt : entry.unsigned.recordedAt = recordedAt

variable {p : Platform} {artifact : VerifiedTransparencyArtifact} {recordedAt : UtcDatetime}

theorem buildUnsignedEntry_eq_ok {verification : TransparencyLogVerificationResult}
    {unsigned : TransparencyLogEntryUnsignedPayload} {entryHash : Sha256Digest}
    (h : buildUnsignedEntry verification artifact recordedAt = .ok unsigned) :
    Registers artifact recordedAt ⟨unsigned, entryHash⟩ ∧
      unsigned.sequence.val = verification.entryCount + 1 ∧
      unsigned.previousEntryHash = verification.lastEntryHash := by
  unfold buildUnsignedEntry at h
  cases hversion : positiveInt? artifact.artifactVersion with
  | none => simp [hversion] at h
  | some version =>
    cases hdigest : sha256Digest? artifact.artifactSha256 with
    | none => simp [hversion, hdigest] at h
    | some digest =>
      simp only [hversion, hdigest] at h
      split_ifs at h with hconsistent
      obtain rfl := Except.ok.inj h
      exact ⟨⟨rfl, positiveInt?_eq_some hversion, rfl, sha256Digest?_eq_some hdigest, rfl, rfl⟩,
        rfl, rfl⟩

structure Prepared (p : Platform) (entries : List Entry) (artifact : VerifiedTransparencyArtifact)
    (recordedAt : UtcDatetime) (entry : Entry) (line : List UInt8) : Prop where
  count : entries.length < maxTransparencyLogEntries
  registers : Registers artifact recordedAt entry
  follows : Follows p entries entry
  holds : LineHolds p line entry
  single : ∃ body, line = body ++ [TextFile.lineFeed] ∧ TextFile.lineFeed ∉ body

theorem prepareEntry_eq_ok {entries : List Entry} {entry : Entry} {line : List UInt8}
    (hnew : (entries.map keyed).lookup artifact.artifactIdentifier = none)
    (h : prepareEntry p (resultOf entries) artifact recordedAt = .ok (entry, line)) :
    Prepared p entries artifact recordedAt entry line := by
  rw [prepareEntry, raiseIf_bind_eq_ok, resultOf_entryCount, not_le] at h
  obtain ⟨hcount, h⟩ := h
  obtain ⟨unsigned, hunsigned, h⟩ := bind_eq_ok.mp h
  obtain ⟨entryHash, hhash, h⟩ := bind_eq_ok.mp h
  obtain ⟨text, htext, h⟩ := bind_eq_ok.mp h
  rw [raiseIf_bind_eq_ok, not_lt] at h
  obtain ⟨hlength, h⟩ := h
  obtain ⟨rfl, rfl⟩ := Prod.mk.inj (Except.ok.inj h)
  obtain ⟨hregisters, hsequence, hprevious⟩ := buildUnsignedEntry_eq_ok hunsigned
  obtain ⟨hsingle, hblank, hread⟩ := readEntry_of_formatEntryLine htext
  rw [resultOf_entryCount] at hsequence
  rw [resultOf_lastEntryHash] at hprevious
  refine ⟨hcount, hregisters, ⟨hsequence, hprevious, hhash, ?_⟩, ⟨?_, hblank, hlength, hread⟩,
    hsingle⟩
  · intro other hother
    rw [hregisters.artifactIdentifier]
    exact lookup_keyed_eq_none.mp hnew other hother
  · obtain ⟨body, rfl, -⟩ := hsingle
    simp

/-! ## The files -/

/-- The new entry and its line, when a registration gets as far as the append: the files are
accepted, the identifier is new, and neither the entry nor its size is refused. -/
def pendingAppend? (p : Platform) (files : LogFiles) (artifact : VerifiedTransparencyArtifact)
    (recordedAt : UtcDatetime) : Option (Entry × List UInt8) :=
  match verifyTransparencyLogUnlocked p files with
  | .error _ => none
  | .ok verification =>
    match verification.entriesByIdentifier.lookup artifact.artifactIdentifier with
    | some _ => none
    | none =>
      match prepareEntry p verification artifact recordedAt with
      | .error _ => none
      | .ok (entry, line) =>
        if maxTransparencyLogBytes < files.log.bytes.length + line.length then none
        else some (entry, line)

section

variable {files : LogFiles} {entries : List Entry} {artifact : VerifiedTransparencyArtifact}
  {recordedAt : UtcDatetime} {entry : Entry} {line : List UInt8} {fault : Option RegisterFault}

theorem pendingAppend?_eq_some
    (h : pendingAppend? p files artifact recordedAt = some (entry, line)) :
    ∃ entries, Represents p files entries ∧
      (entries.map keyed).lookup artifact.artifactIdentifier = none ∧
      prepareEntry p (resultOf entries) artifact recordedAt = .ok (entry, line) ∧
      files.log.bytes.length + line.length ≤ maxTransparencyLogBytes := by
  unfold pendingAppend? at h
  cases hverify : verifyTransparencyLogUnlocked p files with
  | error failure => simp [hverify] at h
  | ok verification =>
    obtain ⟨entries, hfiles, rfl⟩ := (verify_eq_ok p).mp hverify
    simp only [hverify, resultOf_entriesByIdentifier] at h
    cases hlookup : (entries.map keyed).lookup artifact.artifactIdentifier with
    | some inclusion => simp [hlookup] at h
    | none =>
      cases hprepare : prepareEntry p (resultOf entries) artifact recordedAt with
      | error failure => simp [hlookup, hprepare] at h
      | ok prepared =>
        obtain ⟨newEntry, newLine⟩ := prepared
        simp only [hlookup, hprepare] at h
        split_ifs at h with hsize
        obtain ⟨rfl, rfl⟩ := Prod.mk.inj (Option.some.inj h)
        exact ⟨entries, hfiles, hlookup, hprepare, not_lt.mp hsize⟩

variable {verification : TransparencyLogVerificationResult}

theorem lockAndVerify_eq_ok :
    lockAndVerify p files fault = .ok verification ↔
      fault ≠ some .lock ∧ fault ≠ some .readBefore ∧
        verifyTransparencyLogUnlocked p files = .ok verification := by
  rw [lockAndVerify, raiseIf_bind_eq_ok, raiseIf_bind_eq_ok]

theorem appendLogLine_of_represents (h : Represents p files entries) :
    appendLogLine files.log line fault =
      if maxTransparencyLogBytes < files.log.bytes.length + line.length then
        (.error validationFailure, files.log)
      else
        match fault with
        | some .appendBeforeOpen => (.error writeFailure, files.log)
        | some (.appendAfterOpen written) =>
          (.error writeFailure, .regular (files.log.bytes ++ line.take written))
        | _ => (.ok (), .regular (files.log.bytes ++ line)) := by
  cases h <;> rfl

theorem registerVerifiedArtifact_of_pendingAppend?_eq_none
    (h : pendingAppend? p files artifact recordedAt = none) :
    (registerVerifiedArtifact p files artifact recordedAt fault).2 = files := by
  unfold registerVerifiedArtifact
  cases hverify : lockAndVerify p files fault with
  | error failure => rfl
  | ok verification =>
    have hunlocked := (lockAndVerify_eq_ok.mp hverify).2.2
    obtain ⟨entries, hfiles, rfl⟩ := (verify_eq_ok p).mp hunlocked
    unfold pendingAppend? at h
    simp only [hunlocked] at h
    dsimp only
    cases hlookup : (resultOf entries).entriesByIdentifier.lookup artifact.artifactIdentifier with
    | some inclusion => rfl
    | none =>
      cases hprepare : prepareEntry p (resultOf entries) artifact recordedAt with
      | error failure => rfl
      | ok prepared =>
        simp only [hlookup, hprepare] at h
        split_ifs at h with hsize
        simp only [writeEntry, appendLogLine_of_represents hfiles, if_pos hsize]

theorem registerVerifiedArtifact_of_stopped (h : fault = some .lock ∨ fault = some .readBefore) :
    (registerVerifiedArtifact p files artifact recordedAt fault).2 = files := by
  unfold registerVerifiedArtifact
  cases hverify : lockAndVerify p files fault with
  | error failure => rfl
  | ok verification =>
    obtain ⟨hlock, hread, -⟩ := lockAndVerify_eq_ok.mp hverify
    exact absurd h (not_or.mpr ⟨hlock, hread⟩)

theorem registerVerifiedArtifact_of_pendingAppend?_eq_some
    (h : pendingAppend? p files artifact recordedAt = some (entry, line))
    (hlock : fault ≠ some .lock) (hread : fault ≠ some .readBefore) :
    registerVerifiedArtifact p files artifact recordedAt fault =
      ((do
        (writeEntry p files entry line recordedAt fault).1
        raiseIf (fault = some RegisterFault.readAfter) readFailure
        let verificationAfter ← verifyTransparencyLogUnlocked p
          (writeEntry p files entry line recordedAt fault).2
        let inclusion ← requireTransparencyEntry verificationAfter artifact
        return ⟨inclusion, true, verificationAfter⟩),
        (writeEntry p files entry line recordedAt fault).2) := by
  obtain ⟨entries, hfiles, hlookup, hprepare, -⟩ := pendingAppend?_eq_some h
  have hverify := lockAndVerify_eq_ok.mpr ⟨hlock, hread, verify_eq_ok_of_represents hfiles⟩
  unfold registerVerifiedArtifact
  simp only [hverify, resultOf_entriesByIdentifier, hlookup, hprepare]

theorem writeEntry_of_pending (h : pendingAppend? p files artifact recordedAt = some (entry, line)) :
    writeEntry p files entry line recordedAt fault =
      match fault with
      | some .appendBeforeOpen => (.error writeFailure, files)
      | some (.appendAfterOpen written) => (.error writeFailure,
          ⟨.regular (files.log.bytes ++ line.take written), files.state⟩)
      | _ =>
        ((exportTransparencyLogState p.datetimes files.state
            (buildTransparencyLogState entry recordedAt) (RegisterFault.export? fault)).1,
          ⟨.regular (files.log.bytes ++ line),
            (exportTransparencyLogState p.datetimes files.state
              (buildTransparencyLogState entry recordedAt) (RegisterFault.export? fault)).2⟩) := by
  obtain ⟨entries, hfiles, -, -, hsize⟩ := pendingAppend?_eq_some h
  rw [writeEntry, appendLogLine_of_represents hfiles, if_neg (not_lt.mpr hsize)]
  rcases fault with _ | _ | _ | _ | _ | _ | _ <;> rfl

theorem Represents.lines (h : Represents p files entries) :
    List.Forall₂ (LineHolds p) (TextFile.rawLines files.log.bytes) entries := by
  cases h with
  | empty => exact .nil
  | filled _ hlines => exact hlines

theorem ends_of_lineHolds {lines : List (List UInt8)}
    (h : List.Forall₂ (LineHolds p) lines entries) :
    ∀ l ∈ lines, l.getLast? = some TextFile.lineFeed := by
  induction h with
  | nil => simp
  | cons hline _ ih =>
    intro l hl
    rcases List.mem_cons.mp hl with rfl | hmem
    · exact hline.ends
    · exact ih l hmem

theorem Represents.rawLines_append (h : Represents p files entries) (rest : List UInt8) :
    TextFile.rawLines (files.log.bytes ++ rest) =
      TextFile.rawLines files.log.bytes ++ TextFile.rawLines rest :=
  TextFile.rawLines_append (ends_of_lineHolds h.lines) rest

theorem Prepared.rawLines_line (h : Prepared p entries artifact recordedAt entry line) :
    TextFile.rawLines line = [line] := by
  obtain ⟨body, rfl, hbody⟩ := h.single
  exact TextFile.rawLines_line hbody []

theorem Represents.snoc (h : Represents p files entries)
    (hprepared : Prepared p entries artifact recordedAt entry line)
    (hsize : files.log.bytes.length + line.length ≤ maxTransparencyLogBytes)
    {stateNode : FileNode} {updatedAt : UtcDatetime}
    (hstate : loadTransparencyLogState p.datetimes stateNode =
      .ok (some (buildTransparencyLogState entry updatedAt))) :
    Represents p ⟨.regular (files.log.bytes ++ line), stateNode⟩ (entries ++ [entry]) := by
  refine .filled ?_ ?_ (h.chain.snoc hprepared.follows) (by simp) ?_ hstate ?_ ?_
  · rwa [List.length_append]
  · rw [h.rawLines_append, hprepared.rawLines_line]
    exact forall₂_concat.mpr ⟨h.lines, hprepared.holds⟩
  · rw [List.length_append, List.length_singleton]
    exact hprepared.count
  · rw [List.length_append, List.length_singleton]
    exact hprepared.follows.sequence
  · rw [getLast?_concat_map]
    rfl

theorem Represents.state_node (h : Represents p files entries) :
    files.state.isSymlinkOrDir = false := by
  cases h with
  | empty => rfl
  | filled _ _ _ _ _ hstate => exact StateFormat.isSymlinkOrDir_of_load hstate

theorem exportTransparencyLogState_of_prepared (h : Represents p files entries)
    (hprepared : Prepared p entries artifact recordedAt entry line) (fault : Option ReplaceFault) :
    ∃ content, exportTransparencyLogState p.datetimes files.state
        (buildTransparencyLogState entry recordedAt) fault =
          ((match fault with
            | none => .ok ()
            | some _ => .error stateExportFailure), files.state.replace content fault) ∧
      loadTransparencyLogState p.datetimes (.regular content) =
        .ok (some (buildTransparencyLogState entry recordedAt)) := by
  have hints : (Json.Value.obj (stateMembers p.datetimes
      (buildTransparencyLogState entry recordedAt))).intsWithin maxStrDigits = true := by
    have hsequence : entry.unsigned.sequence.val ≤ maxTransparencyLogEntries := by
      have hfollows := hprepared.follows.sequence
      have hcount := hprepared.count
      omega
    have hversion : transparencyLogEntryVersion ≤ maxTransparencyLogEntries := by decide
    exact stateMembers_intsWithin hversion hsequence
  have htext : (transparencyLogStateFormat p.datetimes).text
      (buildTransparencyLogState entry recordedAt) = .ok _ := jsonDumps_eq_ok.mpr ⟨hints, rfl⟩
  exact ⟨_, StateFormat.exportTo_of_text h.state_node htext fault,
    (transparencyLogStateFormat_lawful p.datetimes).load_text htext⟩

theorem lookup_keyed_concat (hfollows : Follows p entries entry) :
    ((entries ++ [entry]).map keyed).lookup entry.unsigned.artifactIdentifier =
      some (inclusionOf entry) := by
  rw [List.map_append, List.lookup_append, lookup_keyed_eq_none.mpr hfollows.identifier]
  simp [keyed]

variable {inclusion : TransparencyLogInclusionResult}

theorem requireTransparencyEntry_of_lookup
    (h : verification.entriesByIdentifier.lookup artifact.artifactIdentifier = some inclusion)
    (htype : inclusion.artifactType = artifact.artifactType)
    (hdigest : inclusion.artifactSha256.val = artifact.artifactSha256) :
    requireTransparencyEntry verification artifact = .ok inclusion := by
  simp [requireTransparencyEntry, h, htype, hdigest]

theorem requireTransparencyEntry_of_conflict
    (h : verification.entriesByIdentifier.lookup artifact.artifactIdentifier = some inclusion)
    (hconflict : inclusion.artifactType ≠ artifact.artifactType ∨
      inclusion.artifactSha256.val ≠ artifact.artifactSha256) :
    ∃ failure, requireTransparencyEntry verification artifact = .error failure := by
  unfold requireTransparencyEntry
  simp only [h, if_pos hconflict]
  cases artifact.artifactType <;> exact ⟨_, rfl⟩

theorem requireTransparencyEntry_eq_ok
    (h : requireTransparencyEntry verification artifact = .ok inclusion) :
    verification.entriesByIdentifier.lookup artifact.artifactIdentifier = some inclusion ∧
      inclusion.artifactType = artifact.artifactType ∧
      inclusion.artifactSha256.val = artifact.artifactSha256 := by
  unfold requireTransparencyEntry at h
  cases hlookup : verification.entriesByIdentifier.lookup artifact.artifactIdentifier with
  | none => cases htype : artifact.artifactType <;> simp [hlookup, htype] at h
  | some found =>
    simp only [hlookup] at h
    split_ifs at h with hconflict
    · cases htype : artifact.artifactType <;> simp [htype] at h
    · obtain rfl := Except.ok.inj h
      rw [not_or, not_not, not_not] at hconflict
      exact ⟨rfl, hconflict⟩

theorem registerVerifiedArtifact_eq_ok {result : TransparencyLogAppendResult}
    (h : (registerVerifiedArtifact p files artifact recordedAt fault).1 = .ok result) :
    verifyTransparencyLogUnlocked p
        (registerVerifiedArtifact p files artifact recordedAt fault).2 =
          .ok result.verificationResult ∧
      requireTransparencyEntry result.verificationResult artifact = .ok result.inclusion := by
  unfold registerVerifiedArtifact at h ⊢
  cases hverify : lockAndVerify p files fault with
  | error failure => simp [hverify] at h
  | ok verification =>
    have hunlocked := (lockAndVerify_eq_ok.mp hverify).2.2
    simp only [hverify] at h ⊢
    cases hlookup : verification.entriesByIdentifier.lookup artifact.artifactIdentifier with
    | some _ =>
      simp only [hlookup] at h ⊢
      obtain ⟨inclusion, hrequire, hresult⟩ := bind_eq_ok.mp h
      obtain rfl := Except.ok.inj hresult
      exact ⟨hunlocked, hrequire⟩
    | none =>
      simp only [hlookup] at h ⊢
      cases hprepare : prepareEntry p verification artifact recordedAt with
      | error failure => simp [hprepare] at h
      | ok prepared =>
        simp only [hprepare] at h ⊢
        obtain ⟨-, -, h⟩ := bind_eq_ok.mp h
        obtain ⟨-, h⟩ := raiseIf_bind_eq_ok.mp h
        obtain ⟨verificationAfter, hafter, h⟩ := bind_eq_ok.mp h
        obtain ⟨inclusion, hrequire, hresult⟩ := bind_eq_ok.mp h
        obtain rfl := Except.ok.inj hresult
        exact ⟨hafter, hrequire⟩

theorem registerVerifiedArtifact_of_lookup (h : Represents p files entries)
    (hlookup : (entries.map keyed).lookup artifact.artifactIdentifier = some inclusion) :
    registerVerifiedArtifact p files artifact recordedAt none =
      ((do
        let inclusion ← requireTransparencyEntry (resultOf entries) artifact
        return ⟨inclusion, false, resultOf entries⟩), files) := by
  have hverify : lockAndVerify p files none = .ok (resultOf entries) :=
    lockAndVerify_eq_ok.mpr ⟨nofun, nofun, verify_eq_ok_of_represents h⟩
  unfold registerVerifiedArtifact
  simp only [hverify, resultOf_entriesByIdentifier, hlookup]

theorem registerVerifiedArtifact_of_pending
    (h : pendingAppend? p files artifact recordedAt = some (entry, line)) :
    ∃ entries, Represents p files entries ∧ Prepared p entries artifact recordedAt entry line ∧
      (registerVerifiedArtifact p files artifact recordedAt none).1 =
        .ok ⟨inclusionOf entry, true, resultOf (entries ++ [entry])⟩ ∧
      Represents p (registerVerifiedArtifact p files artifact recordedAt none).2
        (entries ++ [entry]) := by
  obtain ⟨entries, hfiles, hlookup, hprepare, hsize⟩ := pendingAppend?_eq_some h
  have hprepared := prepareEntry_eq_ok hlookup hprepare
  obtain ⟨content, hexport, hload⟩ :=
    exportTransparencyLogState_of_prepared hfiles hprepared none
  have hafter := hfiles.snoc hprepared hsize hload
  have hrequire : requireTransparencyEntry (resultOf (entries ++ [entry])) artifact =
      .ok (inclusionOf entry) := by
    apply requireTransparencyEntry_of_lookup
    · rw [resultOf_entriesByIdentifier, ← hprepared.registers.artifactIdentifier]
      exact lookup_keyed_concat hprepared.follows
    · exact hprepared.registers.artifactType
    · exact hprepared.registers.artifactSha256
  have hwrite : writeEntry p files entry line recordedAt none =
      (.ok (), ⟨.regular (files.log.bytes ++ line), .regular content⟩) := by
    rw [writeEntry_of_pending h]
    simp only [RegisterFault.export?, hexport]
    rfl
  refine ⟨entries, hfiles, hprepared, ?_⟩
  have hlock : none ≠ some RegisterFault.lock := nofun
  have hread : none ≠ some RegisterFault.readBefore := nofun
  rw [registerVerifiedArtifact_of_pendingAppend?_eq_some h hlock hread, hwrite]
  refine ⟨?_, hafter⟩
  simp only [ok_bind, verify_eq_ok_of_represents hafter, hrequire]
  rfl

end

/-! ## Entries that fit for any digest -/

theorem zeroDigest_valid :
    isValidSha256Digest (String.ofList (List.replicate 64 '0')) = true := by
  decide

def zeroDigest : Sha256Digest := ⟨String.ofList (List.replicate 64 '0'), zeroDigest_valid⟩

def fitsFirst (datetimes : DatetimeCodec) (artifact : VerifiedTransparencyArtifact)
    (recordedAt : UtcDatetime) : Bool :=
  match buildUnsignedEntry emptyResult artifact recordedAt with
  | .error _ => false
  | .ok unsigned =>
    let value := Json.Value.obj (entryMembers datetimes ⟨unsigned, zeroDigest⟩)
    value.intsWithin maxStrDigits && decide (value.widthBound < maxTransparencyEntryBytes)

section

variable {unsigned : TransparencyLogEntryUnsignedPayload} {digest : Sha256Digest}
  {artifact : VerifiedTransparencyArtifact} {recordedAt : UtcDatetime}

theorem buildUnsignedEntry_digest {verification : TransparencyLogVerificationResult}
    {other : String}
    (hdigest : artifact.artifactSha256 = digest.val)
    (h : buildUnsignedEntry verification { artifact with artifactSha256 := other } recordedAt =
      .ok unsigned) :
    buildUnsignedEntry verification artifact recordedAt =
      .ok { unsigned with artifactSha256 := digest } := by
  unfold buildUnsignedEntry at h ⊢
  dsimp only at h
  rw [hdigest, sha256Digest?_val]
  cases hversion : positiveInt? artifact.artifactVersion with
  | none => simp [hversion] at h
  | some version =>
    cases hother : sha256Digest? other with
    | none => simp [hversion, hother] at h
    | some otherDigest =>
      simp only [hversion, hother] at h
      split_ifs at h with hconsistent
      obtain rfl := Except.ok.inj h
      exact dif_pos hconsistent

theorem widthBound_digest (digest : Sha256Digest) :
    (Json.Value.atom (.str digest.val)).widthBound = 386 := by
  obtain ⟨hlength, _⟩ := Bool.and_eq_true_iff.mp digest.property
  rw [Json.Value.widthBound, Json.Atom.widthBound, beq_iff_eq.mp hlength]

theorem widthBound_entryMembers (datetimes : DatetimeCodec) (entryHash : Sha256Digest) :
    (Json.Value.obj (entryMembers datetimes
      ⟨{ unsigned with artifactSha256 := digest }, entryHash⟩)).widthBound =
    (Json.Value.obj (entryMembers datetimes ⟨unsigned, zeroDigest⟩)).widthBound := by
  rw [Json.Value.widthBound, Json.Value.widthBound]
  simp [entryMembers, unsignedMembers, Json.membersWidthBound, widthBound_digest]

theorem exists_pendingAppend?
    (hdigest : artifact.artifactSha256 = digest.val)
    (h : fitsFirst p.datetimes { artifact with artifactSha256 := zeroDigest.val } recordedAt =
      true) :
    ∃ pending, pendingAppend? p ⟨.absent, .absent⟩ artifact recordedAt = some pending := by
  unfold fitsFirst at h
  split at h
  · cases h
  rename_i unsigned hunsigned
  obtain ⟨hints, hwidth⟩ := Bool.and_eq_true_iff.mp h
  let filled : TransparencyLogEntryUnsignedPayload := { unsigned with artifactSha256 := digest }
  have hbuild : buildUnsignedEntry emptyResult artifact recordedAt = .ok filled :=
    buildUnsignedEntry_digest hdigest hunsigned
  have hcanonical : (Json.Value.obj (unsignedMembers p.datetimes filled)).sortKeys.intsWithin
      maxStrDigits = true := by
    rw [Json.intsWithin_sortKeys]
    rw [Json.Value.intsWithin, entryMembers, Json.membersIntsWithin_eq_all, List.all_append,
      Bool.and_eq_true] at hints
    rw [Json.Value.intsWithin, Json.membersIntsWithin_eq_all]
    exact hints.1
  obtain ⟨entryHash, hhash⟩ : ∃ entryHash, calculateTransparencyEntryHash p filled =
      .ok entryHash :=
    ⟨_, bind_eq_ok.mpr ⟨_, bind_eq_ok.mpr ⟨_, jsonDumps_eq_ok.mpr ⟨hcanonical, rfl⟩, rfl⟩, rfl⟩⟩
  let members := Json.Value.obj (entryMembers p.datetimes ⟨filled, entryHash⟩)
  have hline : formatEntryLine p ⟨filled, entryHash⟩ =
      .ok (TextFile.encode (members.print Json.compact 0 ++ ['\n'])) :=
    bind_eq_ok.mpr ⟨_, jsonDumps_eq_ok.mpr ⟨hints, rfl⟩, rfl⟩
  have hlength : (TextFile.encode (members.print Json.compact 0 ++ ['\n'])).length ≤
      maxTransparencyEntryBytes := by
    have hbound := Json.encode_print_length_le 0 members
    have hnewline : (TextFile.encode ['\n']).length = 1 := by decide
    rw [widthBound_entryMembers] at hbound
    rw [TextFile.encode_append, List.length_append, hnewline]
    exact hbound.trans_lt (of_decide_eq_true hwidth)
  have hprepare : prepareEntry p emptyResult artifact recordedAt =
      .ok (⟨filled, entryHash⟩, TextFile.encode (members.print Json.compact 0 ++ ['\n'])) :=
    raiseIf_bind_eq_ok.mpr ⟨by decide, bind_eq_ok.mpr ⟨_, hbuild, bind_eq_ok.mpr ⟨_, hhash,
      bind_eq_ok.mpr ⟨_, hline, raiseIf_bind_eq_ok.mpr ⟨not_lt.mpr hlength, rfl⟩⟩⟩⟩⟩
  have hverify : verifyTransparencyLogUnlocked p ⟨.absent, .absent⟩ = .ok emptyResult := rfl
  have hlookup : emptyResult.entriesByIdentifier.lookup artifact.artifactIdentifier = none := rfl
  have hempty : (FileNode.absent.bytes).length = 0 := rfl
  refine ⟨(⟨filled, entryHash⟩, TextFile.encode (members.print Json.compact 0 ++ ['\n'])), ?_⟩
  rw [pendingAppend?, hverify]
  simp only [hlookup, hprepare]
  rw [if_neg]
  rw [hempty, Nat.zero_add]
  exact not_lt.mpr (hlength.trans (by decide))

end

theorem sampleTime_valid : isCalendarTime 2026 7 10 0 0 0 0 = true := by decide

def sampleTime : UtcDatetime := ⟨2026, 7, 10, 0, 0, 0, 0, sampleTime_valid⟩

def sampleDigest : Sha256Digest :=
  ⟨"0123456789abcdef0123456789abcdef0123456789abcdef0123456789abcdef", isValid_ascending⟩

def sampleTransition : VerifiedTransparencyArtifact where
  artifactType := .rootTransition
  artifactVersion := 1
  artifactIdentifier := "root-transition:1:2:1"
  artifactSha256 := sampleDigest.val
  metadata := .rootTransition {
    previousRootEpoch := ⟨1, Nat.one_pos⟩
    previousRootKeyId := ⟨"root-a", by decide⟩
    previousRootFingerprint := sampleDigest
    nextRootEpoch := ⟨2, Nat.two_pos⟩
    nextRootKeyId := ⟨"root-b", by decide⟩
    nextRootFingerprint := sampleDigest
    transitionGeneration := ⟨1, Nat.one_pos⟩
    issuedAt := sampleTime
    validFrom := sampleTime
    validUntil := ⟨2027, 7, 10, 0, 0, 0, 0, by decide⟩ }

theorem sampleTransition_pending :
    ∃ entry line, pendingAppend? referencePlatform ⟨.absent, .absent⟩ sampleTransition sampleTime =
      some (entry, line) := by
  have h : fitsFirst utcDatetimes { sampleTransition with artifactSha256 := zeroDigest.val }
      sampleTime = true := by decide +kernel
  have hdigest : sampleTransition.artifactSha256 = sampleDigest.val := rfl
  obtain ⟨pending, hpending⟩ := exists_pendingAppend? (p := referencePlatform) hdigest h
  exact ⟨pending.1, pending.2, hpending⟩

end TransparencyLog

end AgenticLab
