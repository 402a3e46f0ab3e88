import AgenticLab.Model.TransparencyLog
import AgenticLab.Verification.StateFile

/-! # Entries and states survive their encoding -/

namespace AgenticLab

namespace TransparencyLog

section

variable (datetimes : DatetimeCodec)

theorem rootTransitionMetadataFromJson_members (metadata : RootTransitionLogMetadata) :
    rootTransitionMetadataFromJson datetimes (.obj (metadata.members datetimes)) =
      some metadata := by
  have hkeys : (metadata.members datetimes).map Prod.fst = rootTransitionFieldNames := rfl
  rw [rootTransitionMetadataFromJson, objectFields?_eq hkeys]
  have hpreviousEpoch : (metadata.members datetimes).positiveInt? "previous_root_epoch" =
      some metadata.previousRootEpoch := positiveInt?_of_lookup rfl
  have hpreviousKey : (metadata.members datetimes).keyId? "previous_root_key_id" =
      some metadata.previousRootKeyId := keyId?_of_lookup rfl
  have hpreviousFingerprint : (metadata.members datetimes).digest? "previous_root_fingerprint" =
      some metadata.previousRootFingerprint := digest?_of_lookup rfl
  have hnextEpoch : (metadata.members datetimes).positiveInt? "next_root_epoch" =
      some metadata.nextRootEpoch := positiveInt?_of_lookup rfl
  have hnextKey : (metadata.members datetimes).keyId? "next_root_key_id" =
      some metadata.nextRootKeyId := keyId?_of_lookup rfl
  have hnextFingerprint : (metadata.members datetimes).digest? "next_root_fingerprint" =
      some metadata.nextRootFingerprint := digest?_of_lookup rfl
  have hgeneration : (metadata.members datetimes).positiveInt? "transition_generation" =
      some metadata.transitionGeneration := positiveInt?_of_lookup rfl
  have hissued : (metadata.members datetimes).datetime? datetimes "issued_at" =
      some metadata.issuedAt := datetime?_of_lookup rfl
  have hfrom : (metadata.members datetimes).datetime? datetimes "valid_from" =
      some metadata.validFrom := datetime?_of_lookup rfl
  have huntil : (metadata.members datetimes).datetime? datetimes "valid_until" =
      some metadata.validUntil := datetime?_of_lookup rfl
  simp only [Option.bind_eq_bind, Option.bind_some, Option.pure_def, hpreviousEpoch, hpreviousKey,
    hpreviousFingerprint, hnextEpoch, hnextKey, hnextFingerprint, hgeneration, hissued, hfrom,
    huntil]

theorem signingKeyManifestMetadataFromJson_members (metadata : SigningKeyManifestLogMetadata) :
    signingKeyManifestMetadataFromJson datetimes (.obj (metadata.members datetimes)) =
      some metadata := by
  have hkeys : (metadata.members datetimes).map Prod.fst = signingKeyManifestFieldNames := rfl
  rw [signingKeyManifestMetadataFromJson, objectFields?_eq hkeys]
  have hroot : (metadata.members datetimes).keyId? "root_key_id" =
      some metadata.rootKeyId := keyId?_of_lookup rfl
  have hfingerprint : (metadata.members datetimes).digest? "root_key_fingerprint" =
      some metadata.rootKeyFingerprint := digest?_of_lookup rfl
  have hgeneration : (metadata.members datetimes).positiveInt? "manifest_generation" =
      some metadata.manifestGeneration := positiveInt?_of_lookup rfl
  have hissued : (metadata.members datetimes).datetime? datetimes "issued_at" =
      some metadata.issuedAt := datetime?_of_lookup rfl
  have hfrom : (metadata.members datetimes).datetime? datetimes "valid_from" =
      some metadata.validFrom := datetime?_of_lookup rfl
  have huntil : (metadata.members datetimes).datetime? datetimes "valid_until" =
      some metadata.validUntil := datetime?_of_lookup rfl
  have hactive : (metadata.members datetimes).keyId? "active_signing_key_id" =
      some metadata.activeSigningKeyId := keyId?_of_lookup rfl
  have hcount : (metadata.members datetimes).positiveInt? "key_count" =
      some metadata.keyCount := positiveInt?_of_lookup rfl
  simp only [Option.bind_eq_bind, Option.bind_some, Option.pure_def, hroot, hfingerprint,
    hgeneration, hissued, hfrom, huntil, hactive, hcount]

theorem metadataFromJson_toJson (metadata : LogMetadata) :
    metadataFromJson datetimes (metadata.toJson datetimes) = some metadata := by
  cases metadata with
  | rootTransition metadata =>
    rw [metadataFromJson, LogMetadata.toJson, rootTransitionMetadataFromJson_members]
  | signingKeyManifest metadata =>
    have hother : rootTransitionMetadataFromJson datetimes
        (.obj (metadata.members datetimes)) = none := rfl
    rw [metadataFromJson, LogMetadata.toJson, hother, signingKeyManifestMetadataFromJson_members]
    rfl

theorem entryTypeFromValue?_value (artifactType : TransparencyLogEntryType) :
    entryTypeFromValue? artifactType.value = some artifactType := by
  cases artifactType <;> rfl

theorem entryFromJson_members (entry : TransparencyLogEntryPayload) :
    entryFromJson datetimes (.obj (entryMembers datetimes entry)) = some entry := by
  have hkeys : (entryMembers datetimes entry).map Prod.fst = entryFieldNames := rfl
  rw [entryFromJson, objectFields?_eq hkeys]
  have hversion : (entryMembers datetimes entry).literal? "entry_version"
      (.int transparencyLogEntryVersion) = some () := literal?_of_lookup rfl
  have htype : (entryMembers datetimes entry).literal? "entry_type"
      (.str transparencyLogEntryType) = some () := literal?_of_lookup rfl
  have hsequence : (entryMembers datetimes entry).positiveInt? "sequence" =
      some entry.unsigned.sequence := positiveInt?_of_lookup rfl
  have hrecorded : (entryMembers datetimes entry).datetime? datetimes "recorded_at" =
      some entry.unsigned.recordedAt := datetime?_of_lookup rfl
  have hartifact : (entryMembers datetimes entry).str? "artifact_type" =
      some entry.unsigned.artifactType.value := str?_of_lookup rfl
  have hartifactVersion : (entryMembers datetimes entry).positiveInt? "artifact_version" =
      some entry.unsigned.artifactVersion := positiveInt?_of_lookup rfl
  have hidentifier : (entryMembers datetimes entry).str? "artifact_identifier" =
      some entry.unsigned.artifactIdentifier := str?_of_lookup rfl
  have hdigest : (entryMembers datetimes entry).digest? "artifact_sha256" =
      some entry.unsigned.artifactSha256 := digest?_of_lookup rfl
  have hprevious : (entryMembers datetimes entry).optionalDigest? "previous_entry_hash" =
      some entry.unsigned.previousEntryHash := by
    rcases entry with ⟨⟨_, _, _, _, _, _, _ | digest, _, _⟩, _⟩
    · rfl
    · rw [Fields.optionalDigest?, show List.lookup _ _ = some (.atom (.str digest.val)) from rfl]
      simp
  have hmetadata : (entryMembers datetimes entry).lookup "metadata" =
      some (entry.unsigned.metadata.toJson datetimes) := rfl
  have hentryHash : (entryMembers datetimes entry).digest? "entry_hash" =
      some entry.entryHash := digest?_of_lookup rfl
  simp only [Option.bind_eq_bind, Option.bind_some, Option.pure_def, hversion, htype, hsequence,
    hrecorded, hartifact, entryTypeFromValue?_value, hartifactVersion, hidentifier, hdigest,
    hprevious, hmetadata, metadataFromJson_toJson, hentryHash, dif_pos entry.unsigned.consistent]

theorem stateFromJson_members (state : TransparencyLogStatePayload) :
    stateFromJson datetimes (.obj (stateMembers datetimes state)) = some state := by
  have hkeys : (stateMembers datetimes state).map Prod.fst = stateFieldNames := rfl
  rw [stateFromJson, objectFields?_eq hkeys]
  have hversion : (stateMembers datetimes state).literal? "state_version"
      (.int transparencyLogStateVersion) = some () := literal?_of_lookup rfl
  have htype : (stateMembers datetimes state).literal? "state_type"
      (.str transparencyLogStateType) = some () := literal?_of_lookup rfl
  have hlogVersion : (stateMembers datetimes state).positiveInt? "log_version" =
      some state.logVersion := positiveInt?_of_lookup rfl
  have hsequence : (stateMembers datetimes state).positiveInt? "last_sequence" =
      some state.lastSequence := positiveInt?_of_lookup rfl
  have hhash : (stateMembers datetimes state).digest? "last_entry_hash" =
      some state.lastEntryHash := digest?_of_lookup rfl
  have hartifact : (stateMembers datetimes state).str? "last_artifact_type" =
      some state.lastArtifactType.val := str?_of_lookup rfl
  have hidentifier : (stateMembers datetimes state).str? "last_artifact_identifier" =
      some state.lastArtifactIdentifier.val := str?_of_lookup rfl
  have hupdated : (stateMembers datetimes state).datetime? datetimes "updated_at" =
      some state.updatedAt := datetime?_of_lookup rfl
  simp only [Option.bind_eq_bind, Option.bind_some, Option.pure_def, hversion, htype, hlogVersion,
    hsequence, hhash, hartifact, hidentifier, hupdated, dif_pos state.lastArtifactType.property,
    dif_pos state.lastArtifactIdentifier.property]

end

theorem entryMembers_keysUnique (datetimes : DatetimeCodec) (entry : TransparencyLogEntryPayload) :
    (Json.Value.obj (entryMembers datetimes entry)).keysUnique = true := by
  obtain ⟨⟨sequence, recordedAt, artifactType, artifactVersion, artifactIdentifier,
    artifactSha256, previousEntryHash, metadata, consistent⟩, entryHash⟩ := entry
  cases previousEntryHash <;> cases metadata <;> rfl

theorem stateMembers_keysUnique (datetimes : DatetimeCodec) (state : TransparencyLogStatePayload) :
    (Json.Value.obj (stateMembers datetimes state)).keysUnique = true := rfl

section

variable {p : Platform}

theorem readEntry_of_formatEntryLine {entry : TransparencyLogEntryPayload} {line : List UInt8}
    (h : formatEntryLine p entry = .ok line) :
    (∃ body, line = body ++ [TextFile.lineFeed] ∧ TextFile.lineFeed ∉ body) ∧
      isBlankLine line = false ∧ readEntry p line = .ok entry := by
  obtain ⟨text, hdumps, hline⟩ := bind_eq_ok.mp h
  obtain rfl : TextFile.encode (text ++ ['\n']) = line := by simpa using hline
  have hprint := (jsonDumps_eq_ok.mp hdumps).2
  have hnewline : '\n' ∉ text := hprint ▸ Json.newline_not_mem_print 0 _
  have hload := loadsNoDuplicateKeys_of_jsonDumps hdumps
    (entryMembers_keysUnique p.datetimes entry)
    (by simp : ∀ c ∈ ([] : List Char), Json.isSpace c = true)
  rw [List.append_nil] at hload
  refine ⟨⟨TextFile.encode text, by rw [TextFile.encode_append]; rfl,
    TextFile.lineFeed_not_mem_encode hnewline⟩, ?_, ?_⟩
  · have hopen : ∃ rest, text = '{' :: rest := by
      rw [← hprint]
      exact ⟨_, rfl⟩
    obtain ⟨rest, rfl⟩ := hopen
    rfl
  · have hstrip : (text ++ ['\n']).rdropWhile (· == '\n') = text := by
      rw [List.rdropWhile_concat_pos _ _ _ (by simp), List.rdropWhile_eq_self_iff]
      intro hne hlast
      exact hnewline (beq_iff_eq.mp hlast ▸ List.getLast_mem hne)
    rw [readEntry, TextFile.decode_encode]
    simp only [hstrip]
    rw [parseEntry, hload, Option.bind_some, entryFromJson_members]

theorem toDigits_length_le {value : ℕ} (h : value ≤ maxTransparencyLogEntries) :
    (Nat.toDigits 10 value).length ≤ maxStrDigits :=
  ((Nat.length_toDigits_le_iff (by omega) (by omega)).mpr
    (h.trans_lt (by decide : maxTransparencyLogEntries < 10 ^ 6))).trans (by decide)

theorem stateMembers_intsWithin {datetimes : DatetimeCodec} {state : TransparencyLogStatePayload}
    (hversion : state.logVersion.val ≤ maxTransparencyLogEntries)
    (hsequence : state.lastSequence.val ≤ maxTransparencyLogEntries) :
    (Json.Value.obj (stateMembers datetimes state)).intsWithin maxStrDigits = true := by
  have hone : (Nat.toDigits 10 1).length ≤ maxStrDigits := by decide
  simp only [stateMembers, Json.Value.intsWithin, Json.membersIntsWithin, Bool.and_true,
    Bool.true_and, Bool.and_eq_true, decide_eq_true_eq]
  exact ⟨hone, toDigits_length_le hversion, toDigits_length_le hsequence⟩

def stateAtoms (datetimes : DatetimeCodec) (state : TransparencyLogStatePayload) :
    List (String × Json.Atom) :=
  [("state_version", .int transparencyLogStateVersion),
    ("state_type", .str transparencyLogStateType),
    ("log_version", .int state.logVersion.val),
    ("last_sequence", .int state.lastSequence.val),
    ("last_entry_hash", .str state.lastEntryHash.val),
    ("last_artifact_type", .str state.lastArtifactType.val),
    ("last_artifact_identifier", .str state.lastArtifactIdentifier.val),
    ("updated_at", .str (datetimes.format state.updatedAt))]

theorem artifactType_length {value : String} (h : value ∈ allowedArtifactTypes) :
    value.length ≤ 512 := by
  simp only [allowedArtifactTypes, List.mem_cons, List.not_mem_nil, or_false] at h
  rcases h with rfl | rfl <;> decide

theorem transparencyLogStateFormat_lawful (datetimes : DatetimeCodec) :
    (transparencyLogStateFormat datetimes).Lawful where
  fromJson_members := stateFromJson_members datetimes
  keysUnique := stateMembers_keysUnique datetimes
  fits := by
    refine StateFormat.fits_of_atoms (stateAtoms datetimes) stateFieldNames (fun _ => rfl)
      (fun _ => rfl) (by decide) (by decide) ?_ (Nat.le_refl _)
    intro state
    have hhash := digest_isShort state.lastEntryHash
    have hartifact := artifactType_length state.lastArtifactType.property
    have hidentifier := of_decide_eq_true state.lastArtifactIdentifier.property
    have hupdated := datetimes.format_length state.updatedAt
    simp only [stateAtoms, List.forall_mem_cons, List.not_mem_nil, false_imp_iff, implies_true,
      Json.Atom.isShort, decide_eq_true_eq, and_true, true_and]
    exact ⟨by decide, hhash, hartifact, hidentifier.2, hupdated.trans (by decide)⟩

end

end TransparencyLog

end AgenticLab
