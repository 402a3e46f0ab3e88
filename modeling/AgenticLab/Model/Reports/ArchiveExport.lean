import AgenticLab.Model.Ed25519
import AgenticLab.Model.StateFile
import AgenticLab.Model.Reports.Sidecars

/-! # Export of report archives

`export_report_archive` and its authenticated and signed forms in `app/report_archive.py`, with
what they use of `app/archive_authenticity.py`, `app/archive_signature.py`,
`app/authentication_trust.py` and `app/signature_trust.py`. -/

namespace AgenticLab

/-- `hmac.new(secret, message, digestmod="sha256").hexdigest()` -/
def hmacHexdigest (sha256 : Sha256) (secret message : List UInt8) : String :=
  let short := if 64 < secret.length then digestBytes (sha256.hexdigest secret) else secret
  let block := short ++ List.replicate (64 - short.length) 0
  let inner := digestBytes (sha256.hexdigest (block.map (· ^^^ 0x36) ++ message))
  sha256.hexdigest (block.map (· ^^^ 0x5c) ++ inner)

inductive AuthenticationKeyStatus where
  | active
  | verifyOnly
  | revoked
  deriving DecidableEq, Repr

structure TrustedAuthenticationKey where
  keyId : KeyId
  secret : List UInt8
  status : AuthenticationKeyStatus
  validFrom : UtcDatetime
  validUntil : Option UtcDatetime

def selectSigningKey (keys : List TrustedAuthenticationKey) (authenticatedAt : UtcDatetime) :
    Except Raised TrustedAuthenticationKey :=
  match keys.filter fun key => key.status = .active ∧ key.validFrom ≤ authenticatedAt ∧
      ∀ last ∈ key.validUntil, authenticatedAt < last with
  | [] => .error ⟨.noActiveAuthenticationKeyError,
      "No active authentication key is valid for signing."⟩
  | [key] => .ok key
  | _ => .error ⟨.multipleActiveAuthenticationKeysError,
      "Multiple active authentication keys are valid for signing."⟩

structure ArchiveSigningPrivateKey where
  keyId : KeyId
  privateKeyBytes : List UInt8
  publicKeyFingerprint : Sha256Digest

/-! ## One export -/

structure ArchiveFiles where
  archive : FileNode
  authentication : FileNode
  signature : FileNode
  /-- A symlink at the path of the signature leads nowhere. -/
  signatureDangles : Bool
  deriving DecidableEq

/-- Where a call meets an operating system error. -/
inductive ArchiveFault where
  /-- Before `os.replace` has put the archive in place. -/
  | archive
  | archiveDigest
  | authenticationRead
  | authentication
  | signatureRead
  | signature
  deriving DecidableEq

/-- The libraries: SHA-256, times, Ed25519. -/
structure ArchivePlatform extends TrustPlatform where
  isoDatetimes : IsoDatetimes

/-- The arguments of an export. The report bundle is given as it is verified and packed. -/
structure ArchiveExport where
  archiveName : String
  trustStore : List TrustedAuthenticationKey
  authenticatedAt : UtcDatetime
  bundle : Except Raised (List UInt8)
  fault : Option ArchiveFault

/-- What a signed export takes besides. What `ensure_private_key_trusted_for_signing` says is
given. -/
structure ArchiveSigning where
  signingKey : ArchiveSigningPrivateKey
  trusted : Except Raised Unit
  signedAt : UtcDatetime

abbrev ArchiveProgram := Stateful ArchiveFiles Raised

/-- An operating system error, as the code around it raises it again. -/
def ArchiveExport.meets (call : ArchiveExport) (fault : ArchiveFault) (failure : Raised) :
    Except Raised Unit :=
  raiseIf (call.fault = some fault) failure

/-- `path.suffix` -/
def pathSuffix (name : String) : List Char :=
  let behind := name.toList.reverse.takeWhile (· ≠ '.')
  if behind = [] ∨ name.length ≤ behind.length + 1 then [] else '.' :: behind.reverse

namespace ReportArchive

def maxArchiveCompressedBytes : ℕ := 20 * 1024 * 1024

def reportArchiveFormatVersion : ℕ := 1

def validateArchiveOutputPath (name : String) (node : FileNode) : Except Raised Unit := do
  raiseIf ((pathSuffix name).map Char.toLower ≠ ".zip".toList)
    ⟨.invalidReportArchivePathError, "The audit report archive path is invalid."⟩
  raiseIf (node.isSymlinkOrDir = true)
    ⟨.invalidReportArchivePathError, "The audit report archive path is invalid."⟩

def exportReportArchive (call : ArchiveExport) : ArchiveProgram Unit := do
  let files ← Stateful.get
  validateArchiveOutputPath call.archiveName files.archive
  let data ← call.bundle
  call.meets .archive ⟨.reportArchiveExportError, "Failed to export the audit report archive."⟩
  Stateful.set { files with archive := .regular data }
  -- `calculate_sha256(archive_path)`
  call.meets .archiveDigest
    ⟨.reportIntegrityReadError, "Failed to read the audit report integrity file."⟩

end ReportArchive

/-! ## Archive authentication -/

namespace ArchiveAuthentication

open ReportArchive (maxArchiveCompressedBytes reportArchiveFormatVersion)

def readFailure : Raised := ⟨.archiveAuthenticationReadError,
  "Failed to read the audit report archive authentication data."⟩

def formatFailure : Raised := ⟨.invalidArchiveAuthenticationFormatError,
  "The audit report archive authentication file has an invalid format."⟩

def exportFailure : Raised := ⟨.archiveAuthenticationExportError,
  "Failed to export the audit report archive authentication file."⟩

def validateArchiveFilename (value : String) : Bool :=
  value ≠ "" ∧ value = strip value ∧
    ['/', '\\', ':', Char.ofNat 0].any value.toList.contains = false ∧
    ".bundle.zip".toList <:+ value.toList ∧ pathName value = value

variable (p : ArchivePlatform)

/-- The message of `_create_archive_hmac`, with the archive behind it. -/
def authenticatedBytes (call : ArchiveExport) (key : TrustedAuthenticationKey)
    (data : List UInt8) : List UInt8 :=
  asciiBytes "agentic-ai-lab:audit-report-archive:hmac-sha256:v1" ++ 0 ::
    (asciiBytes key.keyId.val ++ 0 ::
      (asciiBytes (p.isoDatetimes.isoformat call.authenticatedAt) ++ 0 ::
        (TextFile.encode call.archiveName.toList ++ 0 ::
          (decimalBytes reportArchiveFormatVersion ++ 0 :: data))))

def calculateArchiveHmac (call : ArchiveExport) (key : TrustedAuthenticationKey) :
    ArchiveProgram String := do
  match (← Stateful.get).archive with
  | .regular data => do
      raiseIf (maxArchiveCompressedBytes < data.length) readFailure
      raiseIf (validateArchiveFilename call.archiveName = false) formatFailure
      call.meets .authenticationRead readFailure
      return hmacHexdigest p.sha256 key.secret (authenticatedBytes p call key data)
  | _ => Stateful.raise readFailure

/-- `format_archive_authentication` of what `build_archive_authentication` makes. -/
def formatArchiveAuthentication (call : ArchiveExport) (key : TrustedAuthenticationKey)
    (digest : String) : List UInt8 :=
  TextFile.encode ("archive-hmac-sha256-v1  " ++ toString reportArchiveFormatVersion ++ "  " ++
    key.keyId.val ++ "  " ++ p.isoDatetimes.isoformat call.authenticatedAt ++ "  " ++ digest ++
    "  " ++ call.archiveName ++ "\n").toList

/-- `build_archive_authentication` and `export_archive_authentication_file` -/
def exportAuthentication (call : ArchiveExport) (key : TrustedAuthenticationKey) :
    ArchiveProgram Unit := do
  let digest ← calculateArchiveHmac p call key
  -- `archive_authentication_path_for`
  raiseIf (validateArchiveFilename call.archiveName = false) formatFailure
  let files ← Stateful.get
  raiseIf (files.authentication.isSymlinkOrDir = true) exportFailure
  call.meets .authentication exportFailure
  Stateful.set { files with
    authentication := .regular (formatArchiveAuthentication p call key digest) }

end ArchiveAuthentication

/-! ## Archive signatures -/

namespace ArchiveSignature

open ReportArchive (maxArchiveCompressedBytes reportArchiveFormatVersion)

def invalidSignature : Raised := ⟨.archiveSignatureValidationError,
  "The audit report archive signature failed validation."⟩

def readFailure : Raised := ⟨.archiveSignatureReadError,
  "Failed to read the audit report archive signature data."⟩

def exportFailure : Raised := ⟨.archiveSignatureExportError,
  "Failed to export the audit report archive signature file."⟩

def isValidArchiveFilename (value : String) : Bool :=
  ".bundle.zip".toList <:+ value.toList ∧ strip value = value ∧ value ≠ "." ∧ value ≠ ".." ∧
    '/' ∉ value.toList ∧ '\\' ∉ value.toList ∧ ':' ∉ value.toList ∧
    Char.ofNat 0 ∉ value.toList ∧ pathName value = value

variable (p : ArchivePlatform)

/-- `build_archive_signature_message` -/
def signatureMessage (call : ArchiveExport) (signing : ArchiveSigning) (data : List UInt8) :
    List UInt8 :=
  joinZero [asciiBytes "agentic-ai-lab:audit-report-archive:ed25519-signature:v1",
    asciiBytes signing.signingKey.keyId.val,
    asciiBytes (p.isoDatetimes.isoformat signing.signedAt),
    TextFile.encode call.archiveName.toList, decimalBytes reportArchiveFormatVersion,
    asciiBytes (p.sha256.hexdigest data), data]

/-- The document of `format_archive_signature_json`. -/
def signatureFields (call : ArchiveExport) (signing : ArchiveSigning) (data : List UInt8) :
    Fields :=
  [("signature_version", .atom (.int 1)),
    ("signature_type", .atom (.str "audit_report_archive_ed25519")),
    ("algorithm", .atom (.str "ed25519-v1")),
    ("archive_format_version", .atom (.int reportArchiveFormatVersion)),
    ("key_id", .atom (.str signing.signingKey.keyId.val)),
    ("public_key_fingerprint", .atom (.str signing.signingKey.publicKeyFingerprint.val)),
    ("signed_at", .atom (.str (p.datetimes.format signing.signedAt))),
    ("archive_sha256", .atom (.str (p.sha256.hexdigest data))),
    ("signature_b64", .atom (.str (String.ofList (b64encode
      (p.ed25519.sign signing.signingKey.privateKeyBytes (signatureMessage p call signing data)))))),
    ("filename", .atom (.str call.archiveName))]

def formatArchiveSignature (call : ArchiveExport) (signing : ArchiveSigning)
    (data : List UInt8) : List UInt8 :=
  TextFile.encode ((Json.Value.obj (signatureFields p call signing data)).print Json.indented 0 ++
    ['\n'])

/-- `sign_archive` and `export_archive_signature_file` -/
def exportSignature (call : ArchiveExport) (signing : ArchiveSigning) : ArchiveProgram Unit := do
  raiseIf (isValidArchiveFilename call.archiveName = false) invalidSignature
  let files ← Stateful.get
  match files.archive with
  | .regular data => do
      call.meets .signatureRead readFailure
      raiseIf (maxArchiveCompressedBytes < data.length) invalidSignature
      raiseIf (files.signature = .directory ∨
        files.signature = .symlink ∧ files.signatureDangles = false) invalidSignature
      call.meets .signature exportFailure
      Stateful.set { files with
        signature := .regular (formatArchiveSignature p call signing data) }
  | _ => Stateful.raise readFailure

end ArchiveSignature

namespace ReportArchive

variable (p : ArchivePlatform)

def exportAuthenticatedReportArchive (call : ArchiveExport) : ArchiveProgram Unit := do
  let key ← selectSigningKey call.trustStore call.authenticatedAt
  exportReportArchive call
  ArchiveAuthentication.exportAuthentication p call key

def exportSignedAuthenticatedReportArchive (call : ArchiveExport) (signing : ArchiveSigning) :
    ArchiveProgram Unit := do
  signing.trusted
  exportAuthenticatedReportArchive p call
  ArchiveSignature.exportSignature p call signing

end ReportArchive

end AgenticLab
