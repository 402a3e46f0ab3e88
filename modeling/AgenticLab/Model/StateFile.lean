import AgenticLab.Library.TextFile
import AgenticLab.Model.Fields

/-! # Files as the modules see them -/

namespace AgenticLab

/-- What a path leads to. Special files are left out. -/
inductive FileNode where
  | absent
  | symlink
  | directory
  | regular (content : List UInt8)
  deriving DecidableEq

/-- `path.is_symlink() or path.is_dir()` -/
def FileNode.isSymlinkOrDir : FileNode → Bool
  | .symlink => true
  | .directory => true
  | _ => false

/-- Where an atomic export fails: before `os.replace` has put the new file in place, or behind
it, when the directory is synced. -/
inductive ReplaceFault where
  | beforeReplace
  | afterReplace
  deriving DecidableEq

/-- What an atomic export leaves at its path: the new file once it was replaced. -/
def FileNode.replace (node : FileNode) (content : List UInt8) : Option ReplaceFault → FileNode
  | some .beforeReplace => node
  | _ => .regular content

/-- Where a call on a state file meets an operating system error: at its lock, in its reading or
in its one durable step. -/
inductive StateFault where
  | lock
  | read
  | replace (fault : ReplaceFault)
  deriving DecidableEq

def StateFault.replace? : Option StateFault → Option ReplaceFault
  | some (.replace fault) => some fault
  | _ => none

/-- `path.exists() or path.is_symlink()` -/
def FileNode.isPresent : FileNode → Bool
  | .absent => false
  | _ => true

end AgenticLab

/-! # State files

The modules keep their states in files of one pydantic document each, and load and export them
in the same way. -/

namespace AgenticLab

/-- What distinguishes one kind of state file: its errors and its document. -/
structure StateFormat (State : Type) where
  maxBytes : ℕ
  validationFailure : Raised
  decodeFailure : Raised
  exportFailure : Raised
  members : State → Fields
  fromJson : Json.Value → Option State

namespace StateFormat

variable {State : Type} (format : StateFormat State)

/-- `load_..._state` -/
def load (node : FileNode) : Except Raised (Option State) :=
  match node with
  | .symlink => .error format.validationFailure
  | .absent => .ok none
  | .directory => .error format.validationFailure
  | .regular content => do
      raiseIf (format.maxBytes < content.length) format.validationFailure
      match TextFile.decode content with
      | none => throw format.decodeFailure
      | some text =>
        match (loadsNoDuplicateKeys text).bind format.fromJson with
        | none => throw format.validationFailure
        | some state => return some state

/-- `format_..._state_json`. The text never ends with line feeds, so `rstrip` does nothing. -/
def text (state : State) : Except Raised (List Char) :=
  jsonDumps Json.indented (.obj (format.members state))

/-- The result of `export_..._state` and the file it leaves behind. -/
def exportTo (node : FileNode) (state : State) (fault : Option ReplaceFault) :
    Except Raised Unit × FileNode :=
  if node.isSymlinkOrDir then (.error format.validationFailure, node)
  else
    match format.text state with
    | .error failure => (.error failure, node)
    | .ok text =>
      (match fault with
        | none => .ok ()
        | some _ => .error format.exportFailure,
        node.replace (TextFile.encode (text ++ ['\n'])) fault)

end StateFormat

def undecodable : Raised := ⟨.unicodeDecodeError, "'utf-8' codec can't decode the file"⟩

end AgenticLab
