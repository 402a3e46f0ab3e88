import AgenticLab.Model.Reports.Sidecars

/-! # Round trips of the report sidecars -/

namespace AgenticLab

open DoubledSeparator (split split_append split_of_not_infix join join_split)

/-- What separates the fields of a sidecar and ends it is not in the name. -/
def FitsSidecar (filename : String) : Prop :=
  ¬[' ', ' '] <:+: filename.toList ∧ '\n' ∉ filename.toList ∧ '\r' ∉ filename.toList

variable {failure : Raised}

theorem ne_nil_of_validFilename {filename : String}
    (h : validateFilename failure filename = .ok ()) : filename.toList ≠ [] := by
  obtain ⟨hnonempty, _⟩ := raiseIf_bind_eq_ok.mp h
  intro hnil
  exact hnonempty (String.toList_inj.mp hnil)

theorem removeLineFeed_concat (body : List Char) : removeLineFeed (body ++ ['\n']) = body := by
  simp [removeLineFeed]

theorem sidecarBody_of {body : List Char} (hfeed : '\n' ∉ body) (hreturn : '\r' ∉ body) :
    sidecarBody failure (String.ofList (body ++ ['\n'])) = .ok body := by
  have hend : ¬['\n', '\n'] <:+ body ++ ['\n'] := by
    rintro ⟨front, hfront⟩
    have hbody : front ++ ['\n'] = body := by
      have hdrop := congrArg List.dropLast hfront
      simpa using hdrop
    rw [← hbody] at hfeed
    simp at hfeed
  simp [sidecarBody, raiseIf, String.toList_ofList, hend, removeLineFeed_concat, hfeed, hreturn]

theorem text_of_sidecarBody {text : String} {body : List Char}
    (h : sidecarBody failure text = .ok body) :
    text = String.ofList body ∨ text = String.ofList (body ++ ['\n']) := by
  obtain ⟨_, h⟩ := raiseIf_bind_eq_ok.mp h
  obtain ⟨_, h⟩ := raiseIf_bind_eq_ok.mp h
  cases h
  rw [removeLineFeed]
  by_cases hlast : text.toList.getLast? = some '\n'
  · right
    rw [if_pos hlast, List.dropLast_append_getLast? '\n' hlast, String.ofList_toList]
  · left
    rw [if_neg hlast, String.ofList_toList]

theorem plain_of_validSha256Digest {digest : String} (h : isValidSha256Digest digest = true)
    {c : Char} (hc : c ∈ digest.toList) : c ∉ [' ', '\n', '\r'] := by
  rw [isValidSha256Digest, Bool.and_eq_true] at h
  have hhex : hexAlphabet.all (fun c => !([' ', '\n', '\r'].contains c)) = true := by decide
  have hplain := List.all_eq_true.mp hhex c
    (List.contains_iff_mem.mp (List.all_eq_true.mp h.2 c hc))
  simpa using hplain

namespace ReportChecksum

variable {checksum : ReportChecksum} {text : String}

theorem format_eq_ok :
    formatReportChecksum checksum = .ok text ↔
      checksum.algorithm = checksumAlgorithm ∧ isValidSha256Digest checksum.digest = true ∧
      validateChecksumFilename checksum.filename = .ok () ∧
      text = String.ofList (join ' ' [checksum.digest.toList, checksum.filename.toList] ++
        ['\n']) := by
  have htext : checksum.digest ++ "  " ++ checksum.filename ++ "\n" =
      String.ofList (join ' ' [checksum.digest.toList, checksum.filename.toList] ++ ['\n']) := by
    simp [join, ← String.toList_inj]
  unfold formatReportChecksum
  rw [raiseIf_bind_eq_ok, raiseIf_bind_eq_ok, bind_eq_ok, htext]
  simp only [ne_eq, not_not, Bool.not_eq_false, pure_eq_ok, Except.ok.injEq]
  constructor
  · rintro ⟨halgorithm, hdigest, _, hfilename, rfl⟩
    exact ⟨halgorithm, hdigest, hfilename, rfl⟩
  · rintro ⟨halgorithm, hdigest, hfilename, rfl⟩
    exact ⟨halgorithm, hdigest, (), hfilename, rfl⟩

theorem parse_format (h : formatReportChecksum checksum = .ok text)
    (hfits : FitsSidecar checksum.filename) : parseReportChecksum text = .ok checksum := by
  obtain ⟨halgorithm, hdigest, hfilename, rfl⟩ := format_eq_ok.mp h
  have hplain : ∀ c ∈ checksum.digest.toList, c ∉ [' ', '\n', '\r'] := fun c hc =>
    plain_of_validSha256Digest hdigest hc
  have hsplit : split ' ' (join ' ' [checksum.digest.toList, checksum.filename.toList]) =
      [checksum.digest.toList, checksum.filename.toList] := by
    rw [join, split_append fun hmem => hplain ' ' hmem (by simp), join, split_of_not_infix hfits.1]
  have hfeed : '\n' ∉ join ' ' [checksum.digest.toList, checksum.filename.toList] := by
    simp only [join, List.mem_append, List.mem_cons, not_or]
    exact ⟨fun hmem => hplain '\n' hmem (by simp), by decide, by decide, hfits.2.1⟩
  have hreturn : '\r' ∉ join ' ' [checksum.digest.toList, checksum.filename.toList] := by
    simp only [join, List.mem_append, List.mem_cons, not_or]
    exact ⟨fun hmem => hplain '\r' hmem (by simp), by decide, by decide, hfits.2.2⟩
  rw [parseReportChecksum, sidecarBody_of hfeed hreturn, ok_bind, hsplit]
  simp [raiseIf, hdigest, hfilename, ← halgorithm]

theorem format_parse (h : parseReportChecksum text = .ok checksum) :
    ∃ written, formatReportChecksum checksum = .ok written ∧
      (text = written ∨ text ++ "\n" = written) := by
  obtain ⟨body, hbody, h⟩ := bind_eq_ok.mp h
  split at h
  · rename_i digest filename hsplit
    obtain ⟨hdigest, h⟩ := raiseIf_bind_eq_ok.mp h
    obtain ⟨_, hfilename, h⟩ := bind_eq_ok.mp h
    cases h
    have hjoin : join ' ' [digest, filename] = body := by
      rw [← hsplit, join_split]
    refine ⟨String.ofList (body ++ ['\n']), format_eq_ok.mpr ⟨rfl, by simpa using hdigest,
      hfilename, by simp only [String.toList_ofList, hjoin]⟩, ?_⟩
    rcases text_of_sidecarBody hbody with rfl | rfl
    · right
      rw [String.ofList_append]
    · exact .inl rfl
  · cases h

end ReportChecksum

/-! ## Authentication codes -/

namespace ReportAuthentication

variable {datetimes : IsoDatetimes} {authentication : ReportAuthentication} {text : String}

def body (keyId authenticatedAtText digest filename : List Char) : List Char :=
  join ' ' [hmacAlgorithm.toList, keyId, authenticatedAtText, digest, filename]

theorem format_eq_ok : formatReportAuthentication datetimes authentication = .ok text ↔
    authentication.algorithm = hmacAlgorithm ∧
    authentication.protocolVersion = hmacProtocolVersion ∧
    isValidKeyId authentication.keyId = true ∧
    isValidHmacDigest authentication.digest = true ∧
    validateAuthenticationFilename authentication.filename = .ok () ∧
    text = String.ofList (body authentication.keyId.toList
      (datetimes.isoformat authentication.authenticatedAt).toList authentication.digest.toList
      authentication.filename.toList ++ ['\n']) := by
  have htext : hmacAlgorithm ++ "  " ++ authentication.keyId ++ "  " ++
      datetimes.isoformat authentication.authenticatedAt ++ "  " ++ authentication.digest ++
      "  " ++ authentication.filename ++ "\n" = String.ofList (body authentication.keyId.toList
        (datetimes.isoformat authentication.authenticatedAt).toList authentication.digest.toList
        authentication.filename.toList ++ ['\n']) := by
    simp [body, join, ← String.toList_inj]
  unfold formatReportAuthentication
  rw [raiseIf_bind_eq_ok, raiseIf_bind_eq_ok, raiseIf_bind_eq_ok, raiseIf_bind_eq_ok, bind_eq_ok]
  simp only [ne_eq, not_not, Bool.not_eq_false, pure_eq_ok, Except.ok.injEq]
  constructor
  · rintro ⟨halgorithm, hversion, hkeyId, hdigest, _, hfilename, rfl⟩
    exact ⟨halgorithm, hversion, hkeyId, hdigest, hfilename, by rw [halgorithm, htext]⟩
  · rintro ⟨halgorithm, hversion, hkeyId, hdigest, hfilename, rfl⟩
    exact ⟨halgorithm, hversion, hkeyId, hdigest, (), hfilename, by rw [halgorithm, htext]⟩

theorem plain_of_validKeyId {keyId : String} (h : isValidKeyId keyId = true) {c : Char}
    (hc : c ∈ keyId.toList) : c ∉ [' ', '\n', '\r'] := by
  rw [isValidKeyId, Bool.and_eq_true] at h
  have hchar := List.all_eq_true.mp h.2 c hc
  simp only [List.mem_cons, List.not_mem_nil, or_false, not_or]
  refine ⟨?_, ?_, ?_⟩
  · rintro rfl
    exact absurd hchar (by decide)
  · rintro rfl
    exact absurd hchar (by decide)
  · rintro rfl
    exact absurd hchar (by decide)

theorem parse_format (h : formatReportAuthentication datetimes authentication = .ok text)
    (hfits : FitsSidecar authentication.filename) :
    parseReportAuthentication datetimes text = .ok authentication := by
  obtain ⟨halgorithm, hversion, hkeyId, hdigest, hfilename, rfl⟩ := format_eq_ok.mp h
  have hkeyPlain : ∀ c ∈ authentication.keyId.toList, c ∉ [' ', '\n', '\r'] :=
    fun c hc => plain_of_validKeyId hkeyId hc
  have htimePlain := datetimes.isoformat_plain authentication.authenticatedAt
  have hdigestPlain : ∀ c ∈ authentication.digest.toList, c ∉ [' ', '\n', '\r'] :=
    fun c hc => plain_of_validSha256Digest hdigest hc
  have halgorithmPlain : ∀ c ∈ [' ', '\n', '\r'], c ∉ hmacAlgorithm.toList := by
    have hall : [' ', '\n', '\r'].all (fun c => !(hmacAlgorithm.toList.contains c)) = true := by
      decide
    intro c hc
    simpa using List.all_eq_true.mp hall c hc
  have hsplit : split ' ' (body authentication.keyId.toList
      (datetimes.isoformat authentication.authenticatedAt).toList authentication.digest.toList
      authentication.filename.toList) = [hmacAlgorithm.toList, authentication.keyId.toList,
        (datetimes.isoformat authentication.authenticatedAt).toList, authentication.digest.toList,
        authentication.filename.toList] := by
    rw [body, join, split_append (halgorithmPlain ' ' (by simp)), join,
      split_append fun hmem => hkeyPlain ' ' hmem (by simp), join,
      split_append fun hmem => htimePlain ' ' hmem (by simp), join,
      split_append fun hmem => hdigestPlain ' ' hmem (by simp), join,
      split_of_not_infix hfits.1]
  have hbreak : ∀ c ∈ ['\n', '\r'], c ∉ authentication.filename.toList →
      c ∉ body authentication.keyId.toList
        (datetimes.isoformat authentication.authenticatedAt).toList authentication.digest.toList
        authentication.filename.toList := by
    intro c hc hname
    have hplain : c ∈ [' ', '\n', '\r'] := List.mem_cons_of_mem ' ' hc
    have hblank : c ≠ ' ' := by
      rintro rfl
      exact absurd hc (by decide)
    simp only [body, join, List.mem_append, List.mem_cons, not_or]
    exact ⟨halgorithmPlain c hplain, hblank, hblank, fun hmem => hkeyPlain c hmem hplain, hblank,
      hblank, fun hmem => htimePlain c hmem hplain, hblank, hblank,
      fun hmem => hdigestPlain c hmem hplain, hblank, hblank, hname⟩
  have hempty : "" ∉ [hmacAlgorithm, authentication.keyId,
      datetimes.isoformat authentication.authenticatedAt, authentication.digest,
      authentication.filename] := by
    have hkeyNe : authentication.keyId ≠ "" := by
      intro heq
      rw [heq] at hkeyId
      exact absurd hkeyId (by decide)
    have htimeNe : datetimes.isoformat authentication.authenticatedAt ≠ "" := by
      intro heq
      exact datetimes.isoformat_ne_nil authentication.authenticatedAt (by rw [heq]; rfl)
    have hdigestNe : authentication.digest ≠ "" := by
      intro heq
      rw [heq] at hdigest
      exact absurd hdigest (by decide)
    have hnameNe : authentication.filename ≠ "" := by
      intro heq
      exact ne_nil_of_validFilename hfilename (by rw [heq]; rfl)
    have halgorithmNe : hmacAlgorithm ≠ "" := by decide
    simp [Ne.symm halgorithmNe, Ne.symm hkeyNe, Ne.symm htimeNe, Ne.symm hdigestNe, Ne.symm hnameNe]
  have htime : parseAwareDatetime datetimes
      (datetimes.isoformat authentication.authenticatedAt) = .ok authentication.authenticatedAt := by
    have htimeNe : datetimes.isoformat authentication.authenticatedAt ≠ "" := fun heq =>
      hempty (heq ▸ by simp)
    simp [parseAwareDatetime, datetimes.fromisoformat_isoformat, htimeNe]
  rw [parseReportAuthentication,
    sidecarBody_of (hbreak '\n' (by simp) hfits.2.1) (hbreak '\r' (by simp) hfits.2.2), ok_bind,
    hsplit]
  simp only [List.map_cons, List.map_nil, String.ofList_toList, List.length_cons, List.length_nil]
  rw [raiseIf, if_neg (by simpa using hempty), ok_bind]
  simp [raiseIf, hkeyId, hdigest, hfilename, htime, ← halgorithm, ← hversion]

/-- What has been read is written again, up to one line feed at the end and the form of the
time. -/
theorem format_parse (h : parseReportAuthentication datetimes text = .ok authentication) :
    ∃ keyId authenticatedAtText digest filename,
      (text = String.ofList (body keyId authenticatedAtText digest filename) ∨
        text = String.ofList (body keyId authenticatedAtText digest filename ++ ['\n'])) ∧
      datetimes.fromisoformat (String.ofList authenticatedAtText) =
        some authentication.authenticatedAt ∧
      formatReportAuthentication datetimes authentication = .ok (String.ofList (body keyId
        (datetimes.isoformat authentication.authenticatedAt).toList digest filename ++
          ['\n'])) := by
  obtain ⟨written, hwritten, h⟩ := bind_eq_ok.mp h
  obtain ⟨_, h⟩ := raiseIf_bind_eq_ok.mp h
  split at h
  · rename_i algorithm keyId authenticatedAtText digest filename hfields
    obtain ⟨halgorithm, h⟩ := raiseIf_bind_eq_ok.mp h
    obtain ⟨hkeyId, h⟩ := raiseIf_bind_eq_ok.mp h
    obtain ⟨hdigest, h⟩ := raiseIf_bind_eq_ok.mp h
    obtain ⟨_, hfilename, h⟩ := bind_eq_ok.mp h
    obtain ⟨authenticatedAt, htime, h⟩ := bind_eq_ok.mp h
    cases h
    have hsplit : split ' ' written = [algorithm, keyId, authenticatedAtText, digest,
        filename].map String.toList := by
      rw [← hfields, List.map_map]
      simp
    have hjoin : body keyId.toList authenticatedAtText.toList digest.toList filename.toList =
        written := by
      rw [← join_split written, hsplit, body, not_not.mp halgorithm]
      rfl
    refine ⟨keyId.toList, authenticatedAtText.toList, digest.toList, filename.toList, ?_, ?_,
      format_eq_ok.mpr ⟨rfl, rfl, by simpa using hkeyId, by simpa using hdigest, hfilename, rfl⟩⟩
    · rw [hjoin]
      exact text_of_sidecarBody hwritten
    · rw [String.ofList_toList]
      unfold parseAwareDatetime at htime
      split at htime
      · rename_i t ht
        split at htime
        · cases htime
        · cases htime
          exact ht
      · cases htime
  · cases h

end ReportAuthentication

/-- Names that fit into a sidecar are read again, and so are the texts, up to one line feed at the
end and the form of a time. -/
theorem sidecars_round_trip (datetimes : IsoDatetimes) :
    (∀ checksum text, ReportChecksum.formatReportChecksum checksum = .ok text →
      FitsSidecar checksum.filename → ReportChecksum.parseReportChecksum text = .ok checksum) ∧
    (∀ text checksum, ReportChecksum.parseReportChecksum text = .ok checksum →
      ∃ written, ReportChecksum.formatReportChecksum checksum = .ok written ∧
        (text = written ∨ text ++ "\n" = written)) ∧
    (∀ authentication text,
      ReportAuthentication.formatReportAuthentication datetimes authentication = .ok text →
      FitsSidecar authentication.filename →
      ReportAuthentication.parseReportAuthentication datetimes text = .ok authentication) ∧
    ∀ text authentication,
      ReportAuthentication.parseReportAuthentication datetimes text = .ok authentication →
      ∃ keyId authenticatedAtText digest filename,
        (text = String.ofList
            (ReportAuthentication.body keyId authenticatedAtText digest filename) ∨
          text = String.ofList
            (ReportAuthentication.body keyId authenticatedAtText digest filename ++ ['\n'])) ∧
        datetimes.fromisoformat (String.ofList authenticatedAtText) =
          some authentication.authenticatedAt ∧
        ReportAuthentication.formatReportAuthentication datetimes authentication =
          .ok (String.ofList (ReportAuthentication.body keyId
            (datetimes.isoformat authentication.authenticatedAt).toList digest filename ++
              ['\n'])) :=
  ⟨fun _ _ => ReportChecksum.parse_format, fun _ _ => ReportChecksum.format_parse,
    fun _ _ => ReportAuthentication.parse_format, fun _ _ => ReportAuthentication.format_parse⟩

def sampleDigest : String := String.ofList (List.replicate 64 'a')

def doubleBlankChecksum : ReportChecksum := ⟨"sha256", sampleDigest, "audit  report.json"⟩

def zuluSidecar : String :=
  "hmac-sha256-v2  key-1  2026-07-10T00:00:00Z  " ++ sampleDigest ++ "  report.json\n"

theorem sidecars_not_read_again :
    (¬∀ checksum text, ReportChecksum.formatReportChecksum checksum = .ok text →
      ReportChecksum.parseReportChecksum text = .ok checksum) ∧
    ¬∀ text authentication,
      ReportAuthentication.parseReportAuthentication utcIsoDatetimes text = .ok authentication →
      ∃ written,
        ReportAuthentication.formatReportAuthentication utcIsoDatetimes authentication =
          .ok written ∧
        (text = written ∨ text ++ "\n" = written) := by
  constructor
  · intro h
    have hread := h doubleBlankChecksum (sampleDigest ++ "  audit  report.json\n")
      (by decide +kernel)
    have hrefused : (ReportChecksum.parseReportChecksum
        (sampleDigest ++ "  audit  report.json\n")).toOption.isNone = true := by
      decide +kernel
    rw [hread] at hrefused
    cases hrefused
  · intro h
    have hparsed : (ReportAuthentication.parseReportAuthentication utcIsoDatetimes
        zuluSidecar).toOption.any (fun authentication =>
          (ReportAuthentication.formatReportAuthentication utcIsoDatetimes
            authentication).toOption.any (fun written =>
              written ≠ zuluSidecar ∧ written ≠ zuluSidecar ++ "\n")) = true := by
      decide +kernel
    cases hread : ReportAuthentication.parseReportAuthentication utcIsoDatetimes zuluSidecar with
    | error failure =>
      rw [hread] at hparsed
      cases hparsed
    | ok authentication =>
      obtain ⟨written, hwritten, hsame⟩ := h zuluSidecar authentication hread
      rw [hread] at hparsed
      simp only [Except.toOption, Option.any_some, hwritten, decide_eq_true_eq] at hparsed
      rcases hsame with rfl | hsame
      · exact hparsed.1 rfl
      · exact hparsed.2 hsame.symm

end AgenticLab
