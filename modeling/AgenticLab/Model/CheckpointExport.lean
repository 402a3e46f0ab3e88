import AgenticLab.Model.CheckpointState
import AgenticLab.Model.Ed25519
import Mathlib.Data.List.DropRight

/-! # The export of a signed checkpoint

`_export_checkpoint_pair` and `_atomic_export_many` of `app/transparency_checkpoint.py`, operation
by operation, since any of them may fail. -/

namespace AgenticLab.TransparencyCheckpointExport

open TransparencyCheckpointState (Name)

def transparencyCheckpointVersion : ℕ := 1
def transparencyCheckpointType : String := "audit_report_transparency_checkpoint"
def transparencyCheckpointSignatureVersion : ℕ := 1
def transparencyCheckpointSignatureType : String :=
  "audit_report_transparency_checkpoint_signature"
def transparencyCheckpointSignatureAlgorithm : String := "ed25519-transparency-checkpoint-v1"

def validationFailure : Raised :=
  ⟨.transparencyCheckpointValidationError, "The transparency checkpoint is invalid."⟩
def exportFailure : Raised :=
  ⟨.transparencyCheckpointExportError, "Failed to export the transparency checkpoint."⟩

/-! ## What is exported -/

/-- `TransparencyCheckpointPayload`, without its two constant fields. -/
structure TransparencyCheckpointPayload where
  logId : Name
  treeSize : PositiveInt
  rootHash : Sha256Digest
  firstSequence : PositiveInt
  lastSequence : PositiveInt
  lastEntryHash : Sha256Digest
  issuedAt : UtcDatetime
  logSigningKeyId : Name
  firstSequence_eq : firstSequence.val = 1
  lastSequence_eq : lastSequence = treeSize

/-- `TransparencyCheckpointSignaturePayload`, without its three constant fields. -/
structure TransparencyCheckpointSignaturePayload where
  logId : Name
  logSigningKeyId : Name
  checkpointSha256 : Sha256Digest
  signatureB64 : SignatureB64
  signedAt : UtcDatetime

variable (datetimes : DatetimeCodec)

def checkpointMembers (checkpoint : TransparencyCheckpointPayload) : Fields :=
  [("checkpoint_version", .atom (.int transparencyCheckpointVersion)),
    ("checkpoint_type", .atom (.str transparencyCheckpointType)),
    ("log_id", .atom (.str checkpoint.logId.val)),
    ("tree_size", .atom (.int checkpoint.treeSize.val)),
    ("root_hash", .atom (.str checkpoint.rootHash.val)),
    ("first_sequence", .atom (.int checkpoint.firstSequence.val)),
    ("last_sequence", .atom (.int checkpoint.lastSequence.val)),
    ("last_entry_hash", .atom (.str checkpoint.lastEntryHash.val)),
    ("issued_at", .atom (.str (datetimes.format checkpoint.issuedAt))),
    ("log_signing_key_id", .atom (.str checkpoint.logSigningKeyId.val))]

def signatureMembers (signature : TransparencyCheckpointSignaturePayload) : Fields :=
  [("signature_version", .atom (.int transparencyCheckpointSignatureVersion)),
    ("signature_type", .atom (.str transparencyCheckpointSignatureType)),
    ("algorithm", .atom (.str transparencyCheckpointSignatureAlgorithm)),
    ("log_id", .atom (.str signature.logId.val)),
    ("log_signing_key_id", .atom (.str signature.logSigningKeyId.val)),
    ("checkpoint_sha256", .atom (.str signature.checkpointSha256.val)),
    ("signature_b64", .atom (.str signature.signatureB64.val)),
    ("signed_at", .atom (.str (datetimes.format signature.signedAt)))]

/-- What is written for a text: the bytes of `text.rstrip("\n") + "\n"`. -/
def fileContent (text : List Char) : List UInt8 :=
  TextFile.encode (text.rdropWhile (· = '\n') ++ ['\n'])

/-- A path that `with_name` takes: its name is not empty. -/
structure TargetPath where
  parent : String
  name : String
  named : name ≠ ""
  deriving DecidableEq

def checkpointSignaturePathFor (checkpointPath : TargetPath) : TargetPath where
  parent := checkpointPath.parent
  name := checkpointPath.name ++ ".sig"
  named := by simp

/-! ## The operations -/

/-- What the export asks of the operating system for one file. -/
inductive FileStep where
  /-- `path.is_symlink()` and `path.is_dir()` -/
  | inspect
  | mkdir
  | createTemporary
  | write
  | flush
  | fsync
  | chmod
  | close
  | replace
  /-- `temp.exists()` -/
  | temporaryExists
  /-- `path.exists()` -/
  | targetExists
  | unlink
  deriving DecidableEq

/-- The operations of an export, each of them made at most once. Files are counted from zero. -/
inductive FileOperation where
  | file (index : ℕ) (step : FileStep)
  | openDirectory
  | syncDirectory
  deriving DecidableEq

/-- The files, the temporary file made for each exported one, and the variable `temp_paths`.
Nothing is said of directories. -/
structure ExportState where
  nodes : TargetPath → FileNode
  temporaries : ℕ → Option (List UInt8)
  tempPaths : List (ℕ × TargetPath)

namespace ExportState

def start (nodes : TargetPath → FileNode) : ExportState := ⟨nodes, fun _ => none, []⟩

def withTemporary (state : ExportState) (index : ℕ) (content : Option (List UInt8)) :
    ExportState :=
  { state with temporaries := Function.update state.temporaries index content }

def withTempPath (state : ExportState) (index : ℕ) (path : TargetPath) : ExportState :=
  { state with tempPaths := state.tempPaths ++ [(index, path)] }

/-- `os.replace(temp, path)` -/
def replace (state : ExportState) (index : ℕ) (path : TargetPath) : ExportState :=
  match state.temporaries index with
  | none => state
  | some content =>
    { state.withTemporary index none with
      nodes := Function.update state.nodes path (.regular content) }

end ExportState

abbrev ExportProgram := Stateful ExportState Raised

abbrev Failing := FileOperation → Bool

variable (fails : Failing)

def osFailure : Raised := ⟨.osError, ""⟩

def attempt (operation : FileOperation) : ExportProgram Unit :=
  if fails operation then .raise osFailure else pure ()

/-! ## `_atomic_export_many` -/

def prepareFile (index : ℕ) (path : TargetPath) (text : List Char) : ExportProgram Unit := do
  attempt fails (.file index .inspect)
  let state ← Stateful.get
  liftM (raiseIf ((state.nodes path).isSymlinkOrDir = true) validationFailure)
  attempt fails (.file index .mkdir)
  attempt fails (.file index .createTemporary)
  Stateful.modify (·.withTemporary index (some []))
  attempt fails (.file index .write)
  Stateful.modify (·.withTemporary index (some (fileContent text)))
  attempt fails (.file index .flush)
  attempt fails (.file index .fsync)
  attempt fails (.file index .chmod)
  attempt fails (.file index .close)
  -- only a temporary file that was written is remembered
  Stateful.modify (·.withTempPath index path)

def prepareFiles : ℕ → List (TargetPath × List Char) → ExportProgram Unit
  | _, [] => pure ()
  | index, (path, text) :: files => do
      prepareFile fails index path text
      prepareFiles (index + 1) files

def replaceFiles : List (ℕ × TargetPath) → ExportProgram Unit
  | [] => pure ()
  | (index, path) :: tempPaths => do
      attempt fails (.file index .replace)
      Stateful.modify (·.replace index path)
      replaceFiles tempPaths

def syncDirectory (files : List (TargetPath × List Char)) : ExportProgram Unit :=
  if files = [] then pure ()
  else do
    attempt fails .openDirectory
    attempt fails .syncDirectory

/-- The body of the `try`. -/
def exportFiles (files : List (TargetPath × List Char)) : ExportProgram Unit := do
  prepareFiles fails 0 files
  let state ← Stateful.get
  replaceFiles fails state.tempPaths
  syncDirectory fails files

/-- One round of the loop behind `finally`. A path there is no symlink, so it exists when it is
present. -/
def cleanupFile (index : ℕ) (path : TargetPath) : ExportProgram Unit := do
  attempt fails (.file index .temporaryExists)
  let state ← Stateful.get
  if state.temporaries index = none then pure ()
  else do
    attempt fails (.file index .targetExists)
    if (state.nodes path).isPresent || fails (.file index .unlink) then pure ()
    else Stateful.modify (·.withTemporary index none)

def cleanupFiles : List (ℕ × TargetPath) → ExportProgram Unit
  | [] => pure ()
  | (index, path) :: tempPaths => do
      cleanupFile fails index path
      cleanupFiles tempPaths

/-- `except OSError` -/
def asExportFailure (failure : Raised) : Raised :=
  if failure.cls = .osError then exportFailure else failure

def atomicExportMany (files : List (TargetPath × List Char)) : ExportProgram Unit :=
  ((exportFiles fails files).tryCatch fun failure => .raise (asExportFailure failure)).tryFinally do
    let state ← Stateful.get
    cleanupFiles fails state.tempPaths

def exportCheckpointPair (checkpointPath : TargetPath)
    (checkpoint : TransparencyCheckpointPayload)
    (signature : TransparencyCheckpointSignaturePayload) : ExportProgram Unit := do
  let checkpointText ← jsonDumps Json.indented (.obj (checkpointMembers datetimes checkpoint))
  let signatureText ← jsonDumps Json.indented (.obj (signatureMembers datetimes signature))
  atomicExportMany fails [(checkpointPath, checkpointText),
    (checkpointSignaturePathFor checkpointPath, signatureText)]

end AgenticLab.TransparencyCheckpointExport
