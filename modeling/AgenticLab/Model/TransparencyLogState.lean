import AgenticLab.Model.StateFile

/-! # State of the transparency log tip (`app/transparency_log_state.py`) -/

namespace AgenticLab.TransparencyLog

def transparencyLogStateVersion : ℕ := 1
def transparencyLogStateType : String := "audit_report_transparency_log_state"
def maxTransparencyLogStateBytes : ℕ := 64 * 1024

def stateValidationFailure : Raised :=
  ⟨.transparencyLogStateValidationError, "The transparency log state is invalid."⟩
def stateExportFailure : Raised :=
  ⟨.transparencyLogStateExportError, "Failed to export the transparency log state."⟩

def allowedArtifactTypes : List String := ["root_transition", "signing_key_manifest"]

/-- `TransparencyLogStatePayload`, without its two constant fields. -/
structure TransparencyLogStatePayload where
  logVersion : PositiveInt
  lastSequence : PositiveInt
  lastEntryHash : Sha256Digest
  lastArtifactType : {value : String // value ∈ allowedArtifactTypes}
  lastArtifactIdentifier : {value : String // fitsIdentifier value = true}
  updatedAt : UtcDatetime
  deriving DecidableEq

def stateFieldNames : List String :=
  ["state_version", "state_type", "log_version", "last_sequence", "last_entry_hash",
    "last_artifact_type", "last_artifact_identifier", "updated_at"]

def stateMembers (datetimes : DatetimeCodec) (state : TransparencyLogStatePayload) : Fields :=
  [("state_version", .atom (.int transparencyLogStateVersion)),
    ("state_type", .atom (.str transparencyLogStateType)),
    ("log_version", .atom (.int state.logVersion.val)),
    ("last_sequence", .atom (.int state.lastSequence.val)),
    ("last_entry_hash", .atom (.str state.lastEntryHash.val)),
    ("last_artifact_type", .atom (.str state.lastArtifactType.val)),
    ("last_artifact_identifier", .atom (.str state.lastArtifactIdentifier.val)),
    ("updated_at", .atom (.str (datetimes.format state.updatedAt)))]

/-- `TransparencyLogStatePayload.model_validate_json` -/
def stateFromJson (datetimes : DatetimeCodec) (value : Json.Value) :
    Option TransparencyLogStatePayload := do
  let fields ← objectFields? stateFieldNames value
  fields.literal? "state_version" (.int transparencyLogStateVersion)
  fields.literal? "state_type" (.str transparencyLogStateType)
  let logVersion ← fields.positiveInt? "log_version"
  let lastSequence ← fields.positiveInt? "last_sequence"
  let lastEntryHash ← fields.digest? "last_entry_hash"
  let lastArtifactType ← fields.str? "last_artifact_type"
  let lastArtifactIdentifier ← fields.str? "last_artifact_identifier"
  let updatedAt ← fields.datetime? datetimes "updated_at"
  if hType : lastArtifactType ∈ allowedArtifactTypes then
    if hIdentifier : fitsIdentifier lastArtifactIdentifier = true then
      return ⟨logVersion, lastSequence, lastEntryHash, ⟨lastArtifactType, hType⟩,
        ⟨lastArtifactIdentifier, hIdentifier⟩, updatedAt⟩
    else none
  else none

def transparencyLogStateFormat (datetimes : DatetimeCodec) :
    StateFormat TransparencyLogStatePayload where
  maxBytes := maxTransparencyLogStateBytes
  validationFailure := stateValidationFailure
  decodeFailure := undecodable
  exportFailure := stateExportFailure
  members := stateMembers datetimes
  fromJson := stateFromJson datetimes

def loadTransparencyLogState (datetimes : DatetimeCodec) (node : FileNode) :
    Except Raised (Option TransparencyLogStatePayload) :=
  (transparencyLogStateFormat datetimes).load node

def exportTransparencyLogState (datetimes : DatetimeCodec) (node : FileNode)
    (state : TransparencyLogStatePayload) (fault : Option ReplaceFault) :
    Except Raised Unit × FileNode :=
  (transparencyLogStateFormat datetimes).exportTo node state fault

end AgenticLab.TransparencyLog
