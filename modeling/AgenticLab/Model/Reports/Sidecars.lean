import AgenticLab.Library.SeparatedFields
import AgenticLab.Model.Application.Values
import AgenticLab.Model.Fields

/-! # The sidecars of an exported report

The texts of `app/report_integrity.py` and `app/report_authenticity.py`. -/

namespace AgenticLab

open DoubledSeparator (split)

/-- `Path(text).name` -/
def pathName (text : String) : String :=
  String.ofList (((text.toList.splitOn '/').filter fun part =>
    part ≠ [] ∧ part ≠ ['.']).getLast?.getD [])

def validateFilename (failure : Raised) (filename : String) : Except Raised Unit := do
  raiseIf (filename = "") failure
  raiseIf (filename ≠ strip filename) failure
  raiseIf (filename = "." ∨ filename = "..") failure
  raiseIf ('/' ∈ filename.toList ∨ '\\' ∈ filename.toList) failure
  raiseIf (pathName filename ≠ filename) failure

/-- `text.removesuffix("\n")` -/
def removeLineFeed (text : List Char) : List Char :=
  if text.getLast? = some '\n' then text.dropLast else text

def sidecarBody (failure : Raised) (text : String) : Except Raised (List Char) := do
  raiseIf (['\n', '\n'] <:+ text.toList) failure
  let body := removeLineFeed text.toList
  raiseIf ('\n' ∈ body ∨ '\r' ∈ body) failure
  return body

structure ReportChecksum where
  algorithm : String
  digest : String
  filename : String
  deriving DecidableEq

namespace ReportChecksum

def checksumAlgorithm : String := "sha256"

def invalidFormat : Raised :=
  ⟨.invalidChecksumFormatError, "The audit report checksum file has an invalid format."⟩

def validateChecksumFilename : String → Except Raised Unit := validateFilename invalidFormat

def formatReportChecksum (checksum : ReportChecksum) : Except Raised String := do
  raiseIf (checksum.algorithm ≠ checksumAlgorithm) invalidFormat
  raiseIf (isValidSha256Digest checksum.digest = false) invalidFormat
  validateChecksumFilename checksum.filename
  return checksum.digest ++ "  " ++ checksum.filename ++ "\n"

def parseReportChecksum (text : String) : Except Raised ReportChecksum := do
  let body ← sidecarBody invalidFormat text
  -- `body.count("  ") != 1`
  match split ' ' body with
  | [digest, filename] => do
      raiseIf (isValidSha256Digest (String.ofList digest) = false) invalidFormat
      validateChecksumFilename (String.ofList filename)
      return ⟨checksumAlgorithm, String.ofList digest, String.ofList filename⟩
  | _ => .error invalidFormat

end ReportChecksum

/-! ## Authentication codes -/

/-- `datetime.isoformat` of a time in UTC and `datetime.fromisoformat`, which yields nothing for a
text without a timezone, for one that is no time and for one that leaves the calendar in UTC. -/
structure IsoDatetimes where
  isoformat : UtcDatetime → String
  fromisoformat : String → Option UtcDatetime
  fromisoformat_isoformat : ∀ t, fromisoformat (isoformat t) = some t
  isoformat_plain : ∀ t, ∀ c ∈ (isoformat t).toList, c ∉ [' ', '\n', '\r']
  isoformat_ne_nil : ∀ t, (isoformat t).toList ≠ []

/-- `2026-07-10T00:00:00+00:00`, with six fraction digits when there are microseconds. -/
def formatIso (t : UtcDatetime) : List Char := (formatUtc t).dropLast ++ "+00:00".toList

/-- Reads the written form, and the one that ends in `Z`. -/
def parseIso (text : List Char) : Option UtcDatetime :=
  if "+00:00".toList <:+ text then parseUtc (text.take (text.length - 6) ++ ['Z'])
  else parseUtc text

theorem formatUtc_dropLast (t : UtcDatetime) : (formatUtc t).dropLast ++ ['Z'] = formatUtc t := by
  refine List.dropLast_append_getLast? 'Z' ?_
  unfold formatUtc
  split_ifs <;> simp [fourDigits, twoDigits, sixDigits]

theorem parseIso_formatIso (t : UtcDatetime) : parseIso (formatIso t) = some t := by
  have htake : (formatIso t).take ((formatIso t).length - 6) = (formatUtc t).dropLast := by
    rw [formatIso, List.length_append]
    exact List.take_left' rfl
  have hsuffix : "+00:00".toList <:+ formatIso t := List.suffix_append _ _
  rw [parseIso, if_pos hsuffix, htake, formatUtc_dropLast, parseUtc_formatUtc]

theorem digitAt_plain (value place : ℕ) : digitAt value place ∉ [' ', '\n', '\r'] := by
  have hdigits : ∀ digit < 10, Nat.digitChar digit ∉ [' ', '\n', '\r'] := by decide
  exact hdigits _ (Nat.mod_lt _ (by decide))

theorem formatUtc_plain (t : UtcDatetime) : ∀ c ∈ formatUtc t, c ∉ [' ', '\n', '\r'] := by
  unfold formatUtc
  split_ifs <;>
    simp only [fourDigits, twoDigits, sixDigits, List.forall_mem_append, List.forall_mem_cons,
      digitAt_plain, not_false_eq_true, true_and, List.not_mem_nil, false_implies, implies_true,
      and_true] <;> decide

def utcIsoDatetimes : IsoDatetimes where
  isoformat t := String.ofList (formatIso t)
  fromisoformat text := parseIso text.toList
  fromisoformat_isoformat t := by rw [String.toList_ofList, parseIso_formatIso]
  isoformat_plain t := by
    rw [String.toList_ofList, formatIso, List.forall_mem_append]
    refine ⟨fun c hc => formatUtc_plain t c (List.mem_of_mem_dropLast hc), fun c hc => ?_⟩
    have hzone : "+00:00".toList.all (fun c => !([' ', '\n', '\r'].contains c)) = true := by decide
    simpa using List.all_eq_true.mp hzone c hc
  isoformat_ne_nil t := by
    rw [String.toList_ofList, formatIso]
    exact List.append_ne_nil_of_right_ne_nil _ (by decide)

/-- Times that are the same instant are equal, so a time stands for its instant. -/
structure ReportAuthentication where
  algorithm : String
  protocolVersion : ℕ
  keyId : String
  authenticatedAt : UtcDatetime
  digest : String
  filename : String
  deriving DecidableEq

namespace ReportAuthentication

def hmacAlgorithm : String := "hmac-sha256-v2"

def hmacProtocolVersion : ℕ := 2

def invalidFormat : Raised := ⟨.invalidAuthenticationFormatError,
  "The audit report authentication file has an invalid format."⟩

def isValidHmacDigest (value : String) : Bool := isValidSha256Digest value

def validateAuthenticationFilename : String → Except Raised Unit := validateFilename invalidFormat

variable (datetimes : IsoDatetimes)

def formatReportAuthentication (authentication : ReportAuthentication) : Except Raised String := do
  raiseIf (authentication.algorithm ≠ hmacAlgorithm) invalidFormat
  raiseIf (authentication.protocolVersion ≠ hmacProtocolVersion) invalidFormat
  raiseIf (isValidKeyId authentication.keyId = false) invalidFormat
  raiseIf (isValidHmacDigest authentication.digest = false) invalidFormat
  validateAuthenticationFilename authentication.filename
  return authentication.algorithm ++ "  " ++ authentication.keyId ++ "  " ++
    datetimes.isoformat authentication.authenticatedAt ++ "  " ++ authentication.digest ++
    "  " ++ authentication.filename ++ "\n"

/-- `parse_aware_datetime`, whose error `parse_report_authentication` replaces. -/
def parseAwareDatetime (value : String) : Except Raised UtcDatetime :=
  match datetimes.fromisoformat value with
  | some t => if value = "" then .error invalidFormat else .ok t
  | none => .error invalidFormat

def parseReportAuthentication (text : String) : Except Raised ReportAuthentication := do
  let body ← sidecarBody invalidFormat text
  let fields := (split ' ' body).map String.ofList
  raiseIf (fields.length ≠ 5 ∨ "" ∈ fields) invalidFormat
  match fields with
  | [algorithm, keyId, authenticatedAtText, digest, filename] => do
      raiseIf (algorithm ≠ hmacAlgorithm) invalidFormat
      raiseIf (isValidKeyId keyId = false) invalidFormat
      raiseIf (isValidHmacDigest digest = false) invalidFormat
      validateAuthenticationFilename filename
      let authenticatedAt ← parseAwareDatetime datetimes authenticatedAtText
      return ⟨hmacAlgorithm, hmacProtocolVersion, keyId, authenticatedAt, digest, filename⟩
  | _ => .error invalidFormat

end ReportAuthentication

end AgenticLab
