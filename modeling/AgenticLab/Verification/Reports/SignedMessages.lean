import AgenticLab.Library.Json.RoundTrip
import AgenticLab.Model.Reports.SignedMessages
import Mathlib

/-! # Which messages can be confused with each other -/

namespace AgenticLab

/-! ## Texts without a zero byte -/

def IsPlain (text : List Char) : Prop := ∀ c ∈ text, 0 < c.toNat ∧ c.toNat < 128

theorem IsPlain.append {first rest : List Char} (hfirst : IsPlain first) (hrest : IsPlain rest) :
    IsPlain (first ++ rest) := by
  intro c hc
  rcases List.mem_append.mp hc with h | h
  · exact hfirst c h
  · exact hrest c h

theorem isPlain_of_all {text : List Char}
    (h : (text.all fun c => decide (0 < c.toNat ∧ c.toNat < 128)) = true) : IsPlain text :=
  fun c hc => of_decide_eq_true (List.all_eq_true.mp h c hc)

theorem zero_not_mem_asciiBytes {text : String} (h : IsPlain text.toList) :
    (0 : UInt8) ∉ asciiBytes text := by
  intro hmem
  obtain ⟨c, hc, hzero⟩ := List.mem_map.mp hmem
  obtain ⟨hpos, hlt⟩ := h c hc
  have htoNat := congrArg UInt8.toNat hzero
  rw [UInt8.toNat_ofNat', Nat.mod_eq_of_lt (by omega)] at htoNat
  exact hpos.ne' htoNat

theorem asciiBytes_injective {text other : String} (htext : IsPlain text.toList)
    (hother : IsPlain other.toList) (h : asciiBytes text = asciiBytes other) : text = other := by
  have hchars : text.toList = other.toList := by
    unfold asciiBytes at h
    generalize text.toList = first at h htext ⊢
    generalize other.toList = second at h hother ⊢
    induction first generalizing second with
    | nil =>
      cases second with
      | nil => rfl
      | cons d second => cases h
    | cons c first ih =>
      cases second with
      | nil => cases h
      | cons d second =>
        obtain ⟨hhead, htail⟩ := List.cons.inj h
        have hc := (htext c List.mem_cons_self).2
        have hd := (hother d List.mem_cons_self).2
        have htoNat := congrArg UInt8.toNat hhead
        rw [UInt8.toNat_ofNat', UInt8.toNat_ofNat', Nat.mod_eq_of_lt (by omega),
          Nat.mod_eq_of_lt (by omega)] at htoNat
        have hsame : c = d := Char.ext (UInt32.toNat_inj.mp htoNat)
        rw [hsame, ih (fun c hc => htext c (List.mem_cons_of_mem _ hc)) second htail
          (fun d hd => hother d (List.mem_cons_of_mem _ hd))]
  exact String.toList_inj.mp hchars

theorem isPlain_of_isDigit {text : List Char} (h : ∀ c ∈ text, c.isDigit = true) :
    IsPlain text := by
  intro c hc
  have hdigit := h c hc
  simp only [Char.isDigit, Bool.and_eq_true, decide_eq_true_eq] at hdigit
  obtain ⟨hlow, hhigh⟩ := hdigit
  have hlow' : 48 ≤ c.toNat := hlow
  have hhigh' : c.toNat ≤ 57 := hhigh
  omega

theorem toString_toList (value : ℕ) : (toString value).toList = Nat.toDigits 10 value := by
  rw [Nat.toString_eq_ofList_toDigits, String.toList_ofList]

theorem isPlain_toString (value : ℕ) : IsPlain (toString value).toList := by
  rw [toString_toList]
  exact isPlain_of_isDigit fun c hc => Nat.isDigit_of_mem_toDigits (by decide) (by decide) hc

theorem isPlain_keyId (keyId : KeyId) : IsPlain keyId.val.toList := by
  intro c hc
  have hvalid := keyId.property
  unfold isValidKeyId at hvalid
  rw [Bool.and_eq_true] at hvalid
  have hchar := List.all_eq_true.mp hvalid.2 c hc
  simp only [isKeyIdChar, Bool.or_eq_true, beq_iff_eq] at hchar
  rcases hchar with ((halnum | rfl) | rfl) | rfl
  · simp only [Char.isAlphanum, Char.isAlpha, Char.isUpper, Char.isLower, Char.isDigit,
      Bool.or_eq_true, Bool.and_eq_true, decide_eq_true_eq] at halnum
    rcases halnum with (⟨hlow, hhigh⟩ | ⟨hlow, hhigh⟩) | ⟨hlow, hhigh⟩
    · have hlow' : 65 ≤ c.toNat := hlow
      have hhigh' : c.toNat ≤ 90 := hhigh
      omega
    · have hlow' : 97 ≤ c.toNat := hlow
      have hhigh' : c.toNat ≤ 122 := hhigh
      omega
    · have hlow' : 48 ≤ c.toNat := hlow
      have hhigh' : c.toNat ≤ 57 := hhigh
      omega
  · decide
  · decide
  · decide

theorem isPlain_digest (digest : Sha256Digest) : IsPlain digest.val.toList := by
  intro c hc
  have hvalid := digest.property
  unfold isValidSha256Digest at hvalid
  rw [Bool.and_eq_true] at hvalid
  have hmem := List.all_eq_true.mp hvalid.2 c hc
  have hplain : IsPlain hexAlphabet := isPlain_of_all (by decide +kernel)
  exact hplain c (List.contains_iff_mem.mp hmem)

theorem isPlain_digitAt (value place : ℕ) :
    0 < (digitAt value place).toNat ∧ (digitAt value place).toNat < 128 := by
  have hdigits : ∀ digit < 10,
      0 < (Nat.digitChar digit).toNat ∧ (Nat.digitChar digit).toNat < 128 := by decide
  exact hdigits _ (Nat.mod_lt _ (by decide))

theorem isPlain_formatUtc (t : UtcDatetime) : IsPlain (formatUtc t) := by
  unfold IsPlain formatUtc
  split_ifs <;>
    simp only [fourDigits, twoDigits, sixDigits, List.forall_mem_append, List.forall_mem_cons,
      isPlain_digitAt, true_and, List.not_mem_nil, false_implies, implies_true, and_true] <;> decide

theorem isPlain_formatIso (t : UtcDatetime) : IsPlain (formatIso t) := by
  exact IsPlain.append (fun c hc => isPlain_formatUtc t c (List.mem_of_mem_dropLast hc))
    (isPlain_of_all (by decide +kernel))

variable {t u : UtcDatetime}

theorem formatIso_injective (h : formatIso t = formatIso u) : t = u := by
  have hparse := congrArg parseIso h
  rw [parseIso_formatIso, parseIso_formatIso] at hparse
  exact Option.some.inj hparse

theorem decimalBytes_injective {m n : ℕ} (h : decimalBytes m = decimalBytes n) : m = n := by
  have htext := asciiBytes_injective (isPlain_toString m) (isPlain_toString n) h
  have hdigits := congrArg String.toList htext
  rw [toString_toList, toString_toList] at hdigits
  have hvalue := congrArg (fun digits => Nat.ofDigitChars 10 digits 0) hdigits
  simpa using hvalue

theorem joinZero_append (fields : List (List UInt8)) (last : List UInt8) :
    joinZero (fields ++ [last]) = SeparatedFields.join 0 fields last := by
  induction fields with
  | nil => simp [joinZero]
  | cons field fields ih =>
    rw [SeparatedFields.join_cons, ← ih]
    cases fields <;> simp [joinZero, List.intercalate]

theorem canonicalBytes_injective {members others : Fields} {bytes : List UInt8}
    (hkeys : members.map Prod.fst = others.map Prod.fst) (hnodup : (members.map Prod.fst).Nodup)
    (hmembers : canonicalBytes members = .ok bytes) (hothers : canonicalBytes others = .ok bytes) :
    Json.sortKeysMembers members = Json.sortKeysMembers others := by
  have hprint : ∀ fields : Fields, canonicalBytes fields = .ok bytes →
      TextFile.encode ((Json.Value.obj fields).sortKeys.print Json.compact 0) = bytes := by
    intro fields h
    unfold canonicalBytes jsonDumps at h
    split_ifs at h
    · exact Except.ok.inj h
    · cases h
  have htext := TextFile.encode_injective ((hprint _ hmembers).trans (hprint _ hothers).symm)
  exact Json.sortKeys_obj_injective hkeys hnodup (Json.print_injective _ htext)

theorem format_injective (datetimes : DatetimeCodec)
    (h : datetimes.format t = datetimes.format u) : t = u := by
  have hparse := congrArg datetimes.parse h
  rw [datetimes.parse_format, datetimes.parse_format] at hparse
  exact Option.some.inj hparse

section

variable {sha256 : Sha256} (datetimes : DatetimeCodec)

theorem keyEntryMembers_injective {entry other : RootTransition.RootTransitionKeyEntry sha256}
    (h : (Json.Value.obj (RootTransition.keyEntryMembers entry)).sortKeys =
      (Json.Value.obj (RootTransition.keyEntryMembers other)).sortKeys) : entry = other := by
  have hsorted := Json.sortKeys_obj_injective (by simp [RootTransition.keyEntryMembers])
    (by simp [RootTransition.keyEntryMembers]) h
  simp only [RootTransition.keyEntryMembers, Json.sortKeysMembers, Json.Value.sortKeys,
    List.cons.injEq, Prod.mk.injEq, Json.Value.atom.injEq, Json.Atom.int.injEq,
    Json.Atom.str.injEq, Nat.cast_inj, true_and, and_true] at hsorted
  obtain ⟨hepoch, hkeyId, hkey, hfingerprint⟩ := hsorted
  cases entry
  cases other
  simp only [RootTransition.RootTransitionKeyEntry.mk.injEq]
  exact ⟨Subtype.ext hepoch, Subtype.ext hkeyId, Subtype.ext hkey, Subtype.ext hfingerprint⟩

variable {bytes : List UInt8}

theorem canonicalizeRootTransition_injective
    {transition other : RootTransition.RootTransitionManifestPayload sha256}
    (h : RootTransition.canonicalizeRootTransition datetimes transition = .ok bytes)
    (hother : RootTransition.canonicalizeRootTransition datetimes other = .ok bytes) :
    transition = other := by
  have hsorted := canonicalBytes_injective
    (by simp [RootTransition.transitionMembers]) (by simp [RootTransition.transitionMembers]) h hother
  simp only [RootTransition.transitionMembers, Json.sortKeysMembers, Json.Value.sortKeys_atom,
    List.cons.injEq, Prod.mk.injEq, Json.Value.atom.injEq, Json.Atom.str.injEq, true_and,
    and_true] at hsorted
  obtain ⟨hissued, hfrom, huntil, hprevious, hnext⟩ := hsorted
  cases transition
  cases other
  simp only [RootTransition.RootTransitionManifestPayload.mk.injEq]
  exact ⟨format_injective datetimes hissued, format_injective datetimes hfrom,
    format_injective datetimes huntil, keyEntryMembers_injective hprevious,
    keyEntryMembers_injective hnext⟩

theorem optionalDatetimeAtom_injective {moment other : Option UtcDatetime}
    (h : SigningKeyManifest.optionalDatetimeAtom datetimes moment =
      SigningKeyManifest.optionalDatetimeAtom datetimes other) : moment = other := by
  cases moment <;> cases other <;>
    simp only [SigningKeyManifest.optionalDatetimeAtom, Json.Atom.str.injEq, reduceCtorEq] at h
  · rfl
  · rw [format_injective datetimes h]

theorem signatureKeyStatus_value_injective {status other : SigningKeyManifest.SignatureKeyStatus}
    (h : status.value = other.value) : status = other := by
  cases status <;> cases other <;> first | rfl | exact absurd h (by decide)

theorem entryMembers_injective {entry other : SigningKeyManifest.SigningKeyManifestEntry sha256}
    (h : (Json.Value.obj (SigningKeyManifest.entryMembers datetimes entry)).sortKeys =
      (Json.Value.obj (SigningKeyManifest.entryMembers datetimes other)).sortKeys) :
    entry = other := by
  have hsorted := Json.sortKeys_obj_injective
    (by simp [SigningKeyManifest.entryMembers]) (by simp [SigningKeyManifest.entryMembers]) h
  simp only [SigningKeyManifest.entryMembers, Json.sortKeysMembers, Json.Value.sortKeys,
    List.cons.injEq, Prod.mk.injEq, Json.Value.atom.injEq, Json.Atom.str.injEq, true_and,
    and_true] at hsorted
  obtain ⟨hkeyId, hkey, hfingerprint, hstatus, hfrom, huntil, hrevoked⟩ := hsorted
  cases entry
  cases other
  simp only [SigningKeyManifest.SigningKeyManifestEntry.mk.injEq]
  exact ⟨Subtype.ext hkeyId, Subtype.ext hkey, Subtype.ext hfingerprint,
    signatureKeyStatus_value_injective hstatus, format_injective datetimes hfrom,
    optionalDatetimeAtom_injective datetimes huntil,
    optionalDatetimeAtom_injective datetimes hrevoked⟩

theorem canonicalizeSigningKeyManifest_injective
    {manifest other : SigningKeyManifest.SigningKeyManifestPayload sha256}
    (h : SigningKeyManifest.canonicalizeSigningKeyManifest datetimes manifest = .ok bytes)
    (hother : SigningKeyManifest.canonicalizeSigningKeyManifest datetimes other = .ok bytes) :
    manifest = other := by
  have hsorted := canonicalBytes_injective
    (by simp [SigningKeyManifest.manifestMembers]) (by simp [SigningKeyManifest.manifestMembers]) h hother
  simp only [SigningKeyManifest.manifestMembers, Json.sortKeysMembers, Json.Value.sortKeys_atom,
    Json.Value.sortKeys_arr, List.cons.injEq, Prod.mk.injEq, Json.Value.atom.injEq,
    Json.Value.arr.injEq, Json.Atom.str.injEq, Json.Atom.int.injEq, Nat.cast_inj, true_and,
    and_true] at hsorted
  obtain ⟨hgeneration, hissued, hfrom, huntil, hissuer, hkeys⟩ := hsorted
  have hroot := Json.sortKeys_obj_injective (by rfl) (by simp) hissuer
  simp only [Json.sortKeysMembers, Json.Value.sortKeys_atom, List.cons.injEq, Prod.mk.injEq,
    Json.Value.atom.injEq, Json.Atom.str.injEq, true_and, and_true] at hroot
  rw [List.map_map, List.map_map] at hkeys
  have hentries := List.map_injective_iff.mpr
    (fun _ _ hentry => entryMembers_injective datetimes hentry) hkeys
  cases manifest
  cases other
  simp only [SigningKeyManifest.SigningKeyManifestPayload.mk.injEq]
  exact ⟨Subtype.ext hgeneration, format_injective datetimes hissued,
    format_injective datetimes hfrom, format_injective datetimes huntil, Subtype.ext hroot.1,
    Subtype.ext hroot.2, hentries⟩

end

/-! ## The messages -/

section

variable {p : Platform}

inductive SignedMessageKind where
  | report
  | archive
  | rootTransition
  | keyManifest

def SignedMessage.kind : SignedMessage p → SignedMessageKind
  | report _ => .report
  | archive _ => .archive
  | rootTransition _ => .rootTransition
  | keyManifest _ => .keyManifest

namespace SignedMessageKind

def domain : SignedMessageKind → String
  | report => "agentic-ai-lab:audit-report:hmac-sha256:v2"
  | archive => "agentic-ai-lab:audit-report-archive:ed25519-signature:v1"
  | rootTransition => "agentic-ai-lab:root-key-transition:ed25519:v1"
  | keyManifest => "agentic-ai-lab:archive-signing-key-manifest:ed25519:v1"

def domainSeparator (kind : SignedMessageKind) : List UInt8 := asciiBytes kind.domain

theorem isPlain_domain (kind : SignedMessageKind) : IsPlain kind.domain.toList := by
  cases kind <;> exact isPlain_of_all (by decide +kernel)

theorem zero_not_mem_domainSeparator (kind : SignedMessageKind) :
    (0 : UInt8) ∉ kind.domainSeparator := zero_not_mem_asciiBytes kind.isPlain_domain

theorem domainSeparator_injective {kind other : SignedMessageKind}
    (h : kind.domainSeparator = other.domainSeparator) : kind = other := by
  have hdomain := asciiBytes_injective kind.isPlain_domain other.isPlain_domain h
  cases kind <;> cases other <;> first | rfl | simp [domain] at hdomain

end SignedMessageKind

def ArchiveSignatureInput.fields (input : ArchiveSignatureInput) : List (List UInt8) :=
  [archiveSignatureDomainSeparator, asciiBytes input.keyId.val,
    asciiBytes (String.ofList (formatIso input.signedAt)), TextFile.encode input.filename.toList,
    decimalBytes input.archiveFormatVersion.val, asciiBytes input.archiveSha256.val]

def RootTransitionInput.fields (input : RootTransitionInput p) : List (List UInt8) :=
  [RootTransition.rootTransitionSignatureDomainSeparator,
    decimalBytes input.transitionVersion.val, decimalBytes input.transitionGeneration.val,
    decimalBytes input.previousRootEpoch.val, asciiBytes input.previousRootKeyId.val,
    decimalBytes input.nextRootEpoch.val, asciiBytes input.nextRootKeyId.val,
    asciiBytes input.transitionSha256.val]

def KeyManifestInput.fields (input : KeyManifestInput p) : List (List UInt8) :=
  [SigningKeyManifest.keyManifestSignatureDomainSeparator, asciiBytes input.rootKeyId.val,
    decimalBytes input.manifestVersion.val, decimalBytes input.generation.val,
    asciiBytes input.manifestSha256.val]

theorem ArchiveSignatureInput.message_eq_join (input : ArchiveSignatureInput) :
    input.message = SeparatedFields.join 0 input.fields input.archiveBytes :=
  joinZero_append input.fields input.archiveBytes

theorem RootTransitionInput.message_eq_join (input : RootTransitionInput p) :
    input.message = SeparatedFields.join 0 input.fields input.canonicalTransitionBytes :=
  joinZero_append input.fields input.canonicalTransitionBytes

theorem RootTransitionInput.message_eq_signatureMessage (input : RootTransitionInput p)
    (hversion : input.transitionVersion.val = RootTransition.rootTransitionVersion)
    (hgeneration : input.transitionGeneration.val = RootTransition.rootTransitionGeneration)
    (hprevious : input.previousRootEpoch = input.transition.previousRoot.epoch ∧
      input.previousRootKeyId = input.transition.previousRoot.keyId)
    (hnext : input.nextRootEpoch = input.transition.nextRoot.epoch ∧
      input.nextRootKeyId = input.transition.nextRoot.keyId) :
    input.message = RootTransition.signatureMessageForTransition input.transition
      input.canonicalTransitionBytes input.transitionSha256 := by
  simp only [message, RootTransition.signatureMessageForTransition, hversion, hgeneration,
    hprevious.1, hprevious.2, hnext.1, hnext.2]

theorem KeyManifestInput.message_eq_join (input : KeyManifestInput p) :
    input.message = SeparatedFields.join 0 input.fields input.canonicalManifestBytes :=
  joinZero_append input.fields input.canonicalManifestBytes

theorem KeyManifestInput.message_eq_signatureMessage (input : KeyManifestInput p)
    (hversion : input.manifestVersion.val = SigningKeyManifest.signingKeyManifestVersion) :
    input.message = SigningKeyManifest.buildKeyManifestSignatureMessage
      input.canonicalManifestBytes input.manifestSha256 input.rootKeyId input.generation := by
  simp only [message, SigningKeyManifest.buildKeyManifestSignatureMessage, hversion]

theorem zero_not_mem_decimalBytes (value : ℕ) : (0 : UInt8) ∉ decimalBytes value :=
  zero_not_mem_asciiBytes (isPlain_toString value)

theorem zero_not_mem_formatIso (t : UtcDatetime) :
    (0 : UInt8) ∉ asciiBytes (String.ofList (formatIso t)) := by
  refine zero_not_mem_asciiBytes ?_
  rw [String.toList_ofList]
  exact isPlain_formatIso t

theorem isoBytes_injective {t u : UtcDatetime}
    (h : asciiBytes (String.ofList (formatIso t)) = asciiBytes (String.ofList (formatIso u))) :
    t = u := by
  have hplain : ∀ t : UtcDatetime, IsPlain (String.ofList (formatIso t)).toList := by
    intro t
    rw [String.toList_ofList]
    exact isPlain_formatIso t
  have htext := asciiBytes_injective (hplain t) (hplain u) h
  exact formatIso_injective (String.ofList_injective htext)

theorem keyIdBytes_injective {keyId other : KeyId}
    (h : asciiBytes keyId.val = asciiBytes other.val) : keyId = other :=
  Subtype.ext (asciiBytes_injective (isPlain_keyId keyId) (isPlain_keyId other) h)

theorem digestBytes_injective {digest other : Sha256Digest}
    (h : asciiBytes digest.val = asciiBytes other.val) : digest = other :=
  Subtype.ext (asciiBytes_injective (isPlain_digest digest) (isPlain_digest other) h)

theorem filenameBytes_injective {filename other : String}
    (h : TextFile.encode filename.toList = TextFile.encode other.toList) : filename = other :=
  String.toList_inj.mp (TextFile.encode_injective h)

theorem ArchiveSignatureInput.zero_not_mem_fields (input : ArchiveSignatureInput) :
    ∀ field ∈ input.fields, (0 : UInt8) ∉ field := by
  have hfilename : Char.ofNat 0 ∉ input.filename.toList := by
    have haccepted := input.accepted
    simp only [ArchiveSignature.isValidArchiveFilename, decide_eq_true_eq] at haccepted
    exact haccepted.2.2.2.2.2.2.2.1
  simp only [fields, List.forall_mem_cons]
  exact ⟨SignedMessageKind.zero_not_mem_domainSeparator .archive,
    zero_not_mem_asciiBytes (isPlain_keyId _), zero_not_mem_formatIso _,
    TextFile.zero_not_mem_encode hfilename, zero_not_mem_decimalBytes _,
    zero_not_mem_asciiBytes (isPlain_digest _), by simp⟩

theorem RootTransitionInput.zero_not_mem_fields (input : RootTransitionInput p) :
    ∀ field ∈ input.fields, (0 : UInt8) ∉ field := by
  simp only [fields, List.forall_mem_cons]
  exact ⟨SignedMessageKind.zero_not_mem_domainSeparator .rootTransition,
    zero_not_mem_decimalBytes _, zero_not_mem_decimalBytes _, zero_not_mem_decimalBytes _,
    zero_not_mem_asciiBytes (isPlain_keyId _), zero_not_mem_decimalBytes _,
    zero_not_mem_asciiBytes (isPlain_keyId _), zero_not_mem_asciiBytes (isPlain_digest _), by simp⟩

theorem KeyManifestInput.zero_not_mem_fields (input : KeyManifestInput p) :
    ∀ field ∈ input.fields, (0 : UInt8) ∉ field := by
  simp only [fields, List.forall_mem_cons]
  exact ⟨SignedMessageKind.zero_not_mem_domainSeparator .keyManifest,
    zero_not_mem_asciiBytes (isPlain_keyId _), zero_not_mem_decimalBytes _,
    zero_not_mem_decimalBytes _, zero_not_mem_asciiBytes (isPlain_digest _), by simp⟩

theorem ArchiveSignatureInput.message_injective {input other : ArchiveSignatureInput}
    (h : input.message = other.message) : input = other := by
  rw [input.message_eq_join, other.message_eq_join] at h
  obtain ⟨hfields, hlast⟩ := SeparatedFields.join_injective input.zero_not_mem_fields
    other.zero_not_mem_fields (by simp [fields]) h
  simp only [fields, List.cons.injEq, true_and, and_true] at hfields
  obtain ⟨hkeyId, hsignedAt, hfilename, hversion, hsha256⟩ := hfields
  cases input
  cases other
  simp only [ArchiveSignatureInput.mk.injEq]
  exact ⟨filenameBytes_injective hfilename, hlast, digestBytes_injective hsha256,
    keyIdBytes_injective hkeyId, isoBytes_injective hsignedAt,
    Subtype.ext (decimalBytes_injective hversion)⟩

theorem RootTransitionInput.message_injective {input other : RootTransitionInput p}
    (h : input.message = other.message) : input = other := by
  rw [input.message_eq_join, other.message_eq_join] at h
  obtain ⟨hfields, hlast⟩ := SeparatedFields.join_injective input.zero_not_mem_fields
    other.zero_not_mem_fields (by simp [fields]) h
  simp only [fields, List.cons.injEq, true_and, and_true] at hfields
  obtain ⟨hversion, hgeneration, hepoch, hkeyId, hnextEpoch, hnextKeyId, hsha256⟩ := hfields
  have htransition : input.transition = other.transition :=
    canonicalizeRootTransition_injective p.datetimes input.canonicalized
      (hlast ▸ other.canonicalized)
  cases input
  cases other
  simp only [RootTransitionInput.mk.injEq]
  exact ⟨htransition, hlast, digestBytes_injective hsha256,
    Subtype.ext (decimalBytes_injective hversion), Subtype.ext (decimalBytes_injective hgeneration),
    Subtype.ext (decimalBytes_injective hepoch), keyIdBytes_injective hkeyId,
    Subtype.ext (decimalBytes_injective hnextEpoch), keyIdBytes_injective hnextKeyId⟩

theorem KeyManifestInput.message_injective {input other : KeyManifestInput p}
    (h : input.message = other.message) : input = other := by
  rw [input.message_eq_join, other.message_eq_join] at h
  obtain ⟨hfields, hlast⟩ := SeparatedFields.join_injective input.zero_not_mem_fields
    other.zero_not_mem_fields (by simp [fields]) h
  simp only [fields, List.cons.injEq, true_and, and_true] at hfields
  obtain ⟨hrootKeyId, hversion, hgeneration, hsha256⟩ := hfields
  have hmanifest : input.manifest = other.manifest :=
    canonicalizeSigningKeyManifest_injective p.datetimes input.canonicalized
      (hlast ▸ other.canonicalized)
  cases input
  cases other
  simp only [KeyManifestInput.mk.injEq]
  exact ⟨hmanifest, hlast, digestBytes_injective hsha256, keyIdBytes_injective hrootKeyId,
    Subtype.ext (decimalBytes_injective hversion),
    Subtype.ext (decimalBytes_injective hgeneration)⟩

/-! ## Filenames with zero characters -/

def FilenamesApart (filename other : String) : Prop :=
  ¬ TextFile.encode filename.toList ++ [0] <+: TextFile.encode other.toList ∧
    ¬ TextFile.encode other.toList ++ [0] <+: TextFile.encode filename.toList

theorem ReportHmacInput.message_injective {input other : ReportHmacInput}
    (hapart : FilenamesApart input.filename other.filename)
    (h : input.message = other.message) : input = other := by
  simp only [message, SeparatedFields.join_cons, SeparatedFields.join_nil] at h
  obtain ⟨-, h⟩ := SeparatedFields.split_injective
    (SignedMessageKind.zero_not_mem_domainSeparator .report)
    (SignedMessageKind.zero_not_mem_domainSeparator .report) h
  obtain ⟨hkeyId, h⟩ := SeparatedFields.split_injective (zero_not_mem_asciiBytes (isPlain_keyId _))
    (zero_not_mem_asciiBytes (isPlain_keyId _)) h
  obtain ⟨htime, h⟩ := SeparatedFields.split_injective (zero_not_mem_formatIso _)
    (zero_not_mem_formatIso _) h
  rcases SeparatedFields.split_or_longer h with ⟨hfilename, hdata⟩ | hlonger | hlonger
  · cases input
    cases other
    simp only [ReportHmacInput.mk.injEq]
    exact ⟨keyIdBytes_injective hkeyId, isoBytes_injective htime,
      filenameBytes_injective hfilename, hdata⟩
  · exact absurd hlonger hapart.1
  · exact absurd hlonger hapart.2

namespace SignedMessage

theorem bytes_eq_domainSeparator (message : SignedMessage p) :
    ∃ rest, message.bytes = message.kind.domainSeparator ++ 0 :: rest := by
  cases message with
  | report input => exact ⟨_, rfl⟩
  | archive input => exact ⟨_, input.message_eq_join⟩
  | rootTransition input => exact ⟨_, input.message_eq_join⟩
  | keyManifest input => exact ⟨_, input.message_eq_join⟩

theorem kind_eq_of_bytes_eq {message other : SignedMessage p} (h : message.bytes = other.bytes) :
    message.kind = other.kind := by
  obtain ⟨rest, hrest⟩ := message.bytes_eq_domainSeparator
  obtain ⟨otherRest, hotherRest⟩ := other.bytes_eq_domainSeparator
  have hsplit := SeparatedFields.split_injective message.kind.zero_not_mem_domainSeparator
    other.kind.zero_not_mem_domainSeparator ((hrest.symm.trans h).trans hotherRest)
  exact SignedMessageKind.domainSeparator_injective hsplit.1

def HasReportFilename (filename : String) : SignedMessage p → Prop
  | report input => input.filename = filename
  | _ => True

variable {filename other : String}

theorem bytes_injective {message second : SignedMessage p} (hapart : FilenamesApart filename other)
    (hmessage : message.HasReportFilename filename) (hsecond : second.HasReportFilename other)
    (h : message.bytes = second.bytes) : message = second := by
  have hkind := kind_eq_of_bytes_eq h
  cases message with
  | report input =>
    cases second with
    | report other =>
      cases hmessage
      cases hsecond
      rw [ReportHmacInput.message_injective hapart h]
    | _ => cases hkind
  | archive input =>
    cases second with
    | archive other => rw [ArchiveSignatureInput.message_injective h]
    | _ => cases hkind
  | rootTransition input =>
    cases second with
    | rootTransition other => rw [RootTransitionInput.message_injective h]
    | _ => cases hkind
  | keyManifest input =>
    cases second with
    | keyManifest other => rw [KeyManifestInput.message_injective h]
    | _ => cases hkind

theorem report_bytes_eq (keyId : KeyId) (authenticatedAt : UtcDatetime) {rest : List UInt8}
    (hfilename : ReportAuthentication.validateAuthenticationFilename filename = .ok ())
    (hother : ReportAuthentication.validateAuthenticationFilename other = .ok ())
    (hrest : TextFile.encode filename.toList ++ [0] ++ rest = TextFile.encode other.toList) :
    (report ⟨keyId, authenticatedAt, filename, rest ++ [0], hfilename⟩ : SignedMessage p).bytes =
      (report ⟨keyId, authenticatedAt, other, [], hother⟩ : SignedMessage p).bytes := by
  simp only [bytes, ReportHmacInput.message, SeparatedFields.join_cons, SeparatedFields.join_nil,
    ← hrest, List.append_assoc, List.cons_append, List.nil_append]

theorem ne_of_longer
    (hlonger : TextFile.encode filename.toList ++ [0] <+: TextFile.encode other.toList) :
    filename ≠ other := by
  rintro rfl
  have hlength := hlonger.length_le
  rw [List.length_append, List.length_singleton] at hlength
  omega

/-- Messages can be told apart exactly when the filenames of the reports can. -/
theorem bytes_injective_iff (filename other : String)
    (hfilename : ReportAuthentication.validateAuthenticationFilename filename = .ok ())
    (hother : ReportAuthentication.validateAuthenticationFilename other = .ok ()) :
    (∀ message second : SignedMessage p, message.HasReportFilename filename →
      second.HasReportFilename other → message.bytes = second.bytes → message = second) ↔
    FilenamesApart filename other := by
  constructor
  · intro hinjective
    have hkey : isValidKeyId "k" = true := by decide
    have hcalendar : isCalendarTime 2026 7 10 0 0 0 0 = true := by decide
    have hreports : ∀ {first second : ReportHmacInput},
        (report first : SignedMessage p) = report second → first.filename = second.filename := by
      intro first second h
      rw [report.inj h]
    refine ⟨fun hlonger => ?_, fun hlonger => ?_⟩
    · obtain ⟨rest, hrest⟩ := hlonger
      have hbytes := report_bytes_eq (p := p) ⟨"k", hkey⟩ ⟨2026, 7, 10, 0, 0, 0, 0, hcalendar⟩
        hfilename hother hrest
      have hsame := hinjective _ _ (by rfl) (by rfl) hbytes
      exact ne_of_longer ⟨rest, hrest⟩ (hreports hsame)
    · obtain ⟨rest, hrest⟩ := hlonger
      have hbytes := report_bytes_eq (p := p) ⟨"k", hkey⟩ ⟨2026, 7, 10, 0, 0, 0, 0, hcalendar⟩
        hother hfilename hrest
      have hsame := hinjective _ _ (by rfl) (by rfl) hbytes.symm
      exact ne_of_longer ⟨rest, hrest⟩ (hreports hsame).symm
  · intro hapart message second hmessage hsecond h
    exact bytes_injective hapart hmessage hsecond h

theorem bytes_injective_two_reports :
    (∀ message second : SignedMessage referencePlatform,
      message.HasReportFilename "report.json" → second.HasReportFilename "other.json" →
      message.bytes = second.bytes → message = second) ↔
    FilenamesApart "report.json" "other.json" :=
  bytes_injective_iff "report.json" "other.json" (by decide) (by decide)

/-- Two reports, with one message: the second filename goes on behind a zero character. -/
theorem bytes_not_injective : ¬ ∀ message second : SignedMessage referencePlatform,
    message.bytes = second.bytes → message = second := by
  intro hinjective
  have haccepted : ReportAuthentication.validateAuthenticationFilename
      (String.ofList ['r', Char.ofNat 0, 'x']) = .ok () := by decide
  have hr : ReportAuthentication.validateAuthenticationFilename "r" = .ok () := by decide
  have hrest : TextFile.encode "r".toList ++ [0] ++ [120] =
      TextFile.encode (String.ofList ['r', Char.ofNat 0, 'x']).toList := by decide
  have hbytes := report_bytes_eq (p := referencePlatform) ⟨"k", by decide⟩
    ⟨2026, 7, 10, 0, 0, 0, 0, by decide⟩ hr haccepted hrest
  have hsame : "r" = String.ofList ['r', Char.ofNat 0, 'x'] :=
    congrArg ReportHmacInput.filename (report.inj (hinjective _ _ hbytes))
  exact absurd hsame (by decide)

end SignedMessage

end

end AgenticLab
