import AgenticLab.Model.ManifestTrustState
import AgenticLab.Verification.StateFile

/-! # Trust states survive their encoding -/

namespace AgenticLab

theorem length_of_b64decode? {text : List Char} {bytes : List UInt8}
    (h : b64decode? text = some bytes) : 3 * text.length ≤ 4 * bytes.length + 8 := by
  fun_induction b64decode? text generalizing bytes with
  | case1 => simp
  | case2 a b =>
    obtain ⟨_, _, h⟩ := Option.bind_eq_some_iff.mp h
    obtain ⟨_, _, h⟩ := Option.bind_eq_some_iff.mp h
    simp only [Option.pure_def, Option.some.injEq] at h
    subst h
    simp
  | case3 a b c =>
    obtain ⟨_, _, h⟩ := Option.bind_eq_some_iff.mp h
    obtain ⟨_, _, h⟩ := Option.bind_eq_some_iff.mp h
    obtain ⟨_, _, h⟩ := Option.bind_eq_some_iff.mp h
    simp only [Option.pure_def, Option.some.injEq] at h
    subst h
    simp
  | case4 a b c d rest _ _ ih =>
    obtain ⟨_, _, h⟩ := Option.bind_eq_some_iff.mp h
    obtain ⟨_, _, h⟩ := Option.bind_eq_some_iff.mp h
    obtain ⟨_, _, h⟩ := Option.bind_eq_some_iff.mp h
    obtain ⟨_, _, h⟩ := Option.bind_eq_some_iff.mp h
    obtain ⟨more, hmore, h⟩ := Option.bind_eq_some_iff.mp h
    simp only [Option.pure_def, Option.some.injEq] at h
    subst h
    have hrest := ih hmore
    simp only [List.length_cons]
    omega
  | case5 => cases h

theorem publicKeyB64_isShort (key : PublicKeyB64) : key.val.length ≤ 512 := by
  obtain ⟨bytes, hbytes⟩ := Option.isSome_iff_exists.mp key.property
  have hsize := length_of_decodeB64? hbytes
  have hlength := length_of_b64decode? (Option.filter_eq_some_iff.mp hbytes).1
  rw [String.length_toList, hsize] at hlength
  have hraw : ed25519PublicKeyBytes = 32 := rfl
  omega

theorem publicKeyB64?_val (key : PublicKeyB64) : publicKeyB64? key.val = some key := by
  rw [publicKeyB64?, dif_pos key.property]

namespace ManifestTrustState

variable (datetimes : DatetimeCodec)

theorem stateFromJson_members (state : ManifestTrustStatePayload) :
    stateFromJson datetimes (.obj (stateMembers datetimes state)) = some state := by
  have hkeys : (stateMembers datetimes state).map Prod.fst = stateFieldNames := rfl
  rw [stateFromJson, objectFields?_eq hkeys]
  have hversion : (stateMembers datetimes state).literal? "state_version"
      (.int manifestTrustStateVersion) = some () := literal?_of_lookup rfl
  have htype : (stateMembers datetimes state).literal? "state_type"
      (.str manifestTrustStateType) = some () := literal?_of_lookup rfl
  have hroot : (stateMembers datetimes state).keyId? "root_key_id" =
      some state.rootKeyId := keyId?_of_lookup rfl
  have hfingerprint : (stateMembers datetimes state).digest? "root_key_fingerprint" =
      some state.rootKeyFingerprint := digest?_of_lookup rfl
  have hgeneration : (stateMembers datetimes state).positiveInt? "highest_generation" =
      some state.highestGeneration := positiveInt?_of_lookup rfl
  have hdigest : (stateMembers datetimes state).digest? "manifest_sha256" =
      some state.manifestSha256 := digest?_of_lookup rfl
  have hissued : (stateMembers datetimes state).datetime? datetimes "manifest_issued_at" =
      some state.manifestIssuedAt := datetime?_of_lookup rfl
  have hverified : (stateMembers datetimes state).datetime? datetimes "verified_at" =
      some state.verifiedAt := datetime?_of_lookup rfl
  simp only [Option.bind_eq_bind, Option.bind_some, Option.pure_def, hversion, htype, hroot,
    hfingerprint, hgeneration, hdigest, hissued, hverified]

def stateAtoms (state : ManifestTrustStatePayload) : List (String × Json.Atom) :=
  [("state_version", .int manifestTrustStateVersion),
    ("state_type", .str manifestTrustStateType),
    ("root_key_id", .str state.rootKeyId.val),
    ("root_key_fingerprint", .str state.rootKeyFingerprint.val),
    ("highest_generation", .int state.highestGeneration.val),
    ("manifest_sha256", .str state.manifestSha256.val),
    ("manifest_issued_at", .str (datetimes.format state.manifestIssuedAt)),
    ("verified_at", .str (datetimes.format state.verifiedAt))]

theorem manifestTrustStateFormat_lawful : (manifestTrustStateFormat datetimes).Lawful where
  fromJson_members := stateFromJson_members datetimes
  keysUnique := fun _ => rfl
  fits := by
    refine StateFormat.fits_of_atoms (stateAtoms datetimes) stateFieldNames (fun _ => rfl)
      (fun _ => rfl) (by decide) (by decide) ?_ (Nat.le_refl _)
    intro state
    have hroot := keyId_isShort state.rootKeyId
    have hfingerprint := digest_isShort state.rootKeyFingerprint
    have hdigest := digest_isShort state.manifestSha256
    have hissued := datetimes.format_length state.manifestIssuedAt
    have hverified := datetimes.format_length state.verifiedAt
    simp only [stateAtoms, List.forall_mem_cons, List.not_mem_nil, false_imp_iff, implies_true,
      Json.Atom.isShort, decide_eq_true_eq, and_true, true_and]
    exact ⟨by decide, hroot, hfingerprint, hdigest, hissued.trans (by decide),
      hverified.trans (by decide)⟩

end ManifestTrustState

namespace RootTrustState

variable (sha256 : Sha256) (datetimes : DatetimeCodec)

theorem stateFromJson_members (state : RootTrustStatePayload sha256) :
    stateFromJson datetimes (.obj (stateMembers datetimes state)) = some state := by
  have hkeys : (stateMembers datetimes state).map Prod.fst = stateFieldNames := rfl
  rw [stateFromJson, objectFields?_eq hkeys]
  have hversion : (stateMembers datetimes state).literal? "state_version"
      (.int rootTrustStateVersion) = some () := literal?_of_lookup rfl
  have htype : (stateMembers datetimes state).literal? "state_type"
      (.str rootTrustStateType) = some () := literal?_of_lookup rfl
  have hepoch : (stateMembers datetimes state).positiveInt? "current_root_epoch" =
      some state.currentRootEpoch := positiveInt?_of_lookup rfl
  have hkeyId : (stateMembers datetimes state).keyId? "current_root_key_id" =
      some state.currentRootKeyId := keyId?_of_lookup rfl
  have hkey : ((stateMembers datetimes state).str? "current_root_public_key_b64").bind
      publicKeyB64? = some state.currentRootPublicKeyB64 := by
    rw [str?_of_lookup rfl, Option.bind_some, publicKeyB64?_val]
  have hfingerprint : (stateMembers datetimes state).digest?
      "current_root_public_key_fingerprint" = some state.currentRootPublicKeyFingerprint :=
    digest?_of_lookup rfl
  have hgeneration : ((stateMembers datetimes state).int? "last_transition_generation").bind
      Int.toNat? = some state.lastTransitionGeneration := rfl
  have hdigest : (stateMembers datetimes state).optionalDigest? "last_transition_sha256" =
      some state.lastTransitionSha256 := by
    have hlookup : (stateMembers datetimes state).lookup "last_transition_sha256" =
      some (.atom (optionalDigestAtom state.lastTransitionSha256)) := rfl
    rw [Fields.optionalDigest?, hlookup]
    cases state.lastTransitionSha256 <;> simp [optionalDigestAtom]
  have hupdated : (stateMembers datetimes state).datetime? datetimes "updated_at" =
      some state.updatedAt := datetime?_of_lookup rfl
  simp only [Option.bind_eq_bind, Option.bind_some, Option.pure_def, hversion, htype, hepoch,
    hkeyId, hkey, hfingerprint, hgeneration, hdigest, hupdated, dif_pos state.fingerprint_eq,
    dif_pos state.digest_iff]

theorem stateMembers_keysUnique (state : RootTrustStatePayload sha256) :
    (Json.Value.obj (stateMembers datetimes state)).keysUnique = true := by
  rfl

def stateAtoms (state : RootTrustStatePayload sha256) : List (String × Json.Atom) :=
  [("state_version", .int rootTrustStateVersion),
    ("state_type", .str rootTrustStateType),
    ("current_root_epoch", .int state.currentRootEpoch.val),
    ("current_root_key_id", .str state.currentRootKeyId.val),
    ("current_root_public_key_b64", .str state.currentRootPublicKeyB64.val),
    ("current_root_public_key_fingerprint", .str state.currentRootPublicKeyFingerprint.val),
    ("last_transition_generation", .int state.lastTransitionGeneration),
    ("last_transition_sha256", optionalDigestAtom state.lastTransitionSha256),
    ("updated_at", .str (datetimes.format state.updatedAt))]

theorem optionalDigestAtom_isShort (digest : Option Sha256Digest) :
    (optionalDigestAtom digest).isShort = true := by
  cases digest with
  | none => rfl
  | some digest => exact decide_eq_true (digest_isShort digest)

theorem rootTrustStateFormat_lawful : (rootTrustStateFormat sha256 datetimes).Lawful where
  fromJson_members := stateFromJson_members sha256 datetimes
  keysUnique := stateMembers_keysUnique sha256 datetimes
  fits := by
    refine StateFormat.fits_of_atoms (stateAtoms sha256 datetimes) stateFieldNames (fun _ => rfl)
      (fun _ => rfl) (by decide) (by decide) ?_ (Nat.le_refl _)
    intro state
    have hkeyId := keyId_isShort state.currentRootKeyId
    have hkey := publicKeyB64_isShort state.currentRootPublicKeyB64
    have hfingerprint := digest_isShort state.currentRootPublicKeyFingerprint
    have hupdated := datetimes.format_length state.updatedAt
    simp only [stateAtoms, List.forall_mem_cons, List.not_mem_nil, false_imp_iff, implies_true,
      optionalDigestAtom_isShort]
    simp only [Json.Atom.isShort, decide_eq_true_eq, and_true, true_and]
    exact ⟨by decide, hkeyId, hkey, hfingerprint, hupdated.trans (by decide)⟩

end RootTrustState

end AgenticLab
