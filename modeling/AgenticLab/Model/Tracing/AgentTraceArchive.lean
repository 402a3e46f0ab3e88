import AgenticLab.Model.Tracing.TraceSessions

/-! # The archive of traces

`agent_trace_file_writer.py`, `agent_trace_archive_service.py` and
`agent_trace_policy_archive_service.py` of `app/tracing` with their schemas. The directory holds no
symbolic links, and its file system tells upper from lower case. -/

namespace AgenticLab

inductive AgentTraceExportFormat where
  | json
  | text
  | markdown
  deriving DecidableEq

def AgentTraceExportFormat.mediaType : AgentTraceExportFormat → String
  | .json => "application/json"
  | .text => "text/plain"
  | .markdown => "text/markdown"

def AgentTraceExportFormat.fileExtension : AgentTraceExportFormat → String
  | .json => ".json"
  | .text => ".txt"
  | .markdown => ".md"

structure AgentTraceExportResult where
  traceId : String
  format : AgentTraceExportFormat
  content : String
  mediaType : String
  fileExtension : String

structure AgentTraceExporter where
  content : AgentTraceTimeline → AgentTraceSummary → AgentTraceExportFormat → String
  content_nonblank : ∀ timeline summary format, isBlank (content timeline summary format) = false

def AgentTraceExporter.export (exporter : AgentTraceExporter) (timeline : AgentTraceTimeline)
    (summary : AgentTraceSummary) (format : AgentTraceExportFormat) :
    Except Raised AgentTraceExportResult := do
  raiseIf (timeline.traceId ≠ summary.traceId)
    ⟨.valueError, "timeline and summary trace IDs must match"⟩
  let result := ⟨timeline.traceId, format, exporter.content timeline summary format,
    format.mediaType, format.fileExtension⟩
  requireTexts [("trace_id", result.traceId), ("content", result.content),
    ("media_type", result.mediaType), ("file_extension", result.fileExtension)]
  raiseIf (result.fileExtension.toList.head? ≠ some '.')
    ⟨.validationError, "file_extension must start with a dot"⟩
  .ok result

/-! ## The file writer -/

structure AgentTraceFileWriteRequest where
  fileName : Option String
  overwrite : Bool
  fileName_nonblank : ∀ name ∈ fileName, isBlank name = false

structure AgentTraceFileWriteResult where
  traceId : String
  format : AgentTraceExportFormat
  path : List String
  byteCount : ℕ
  overwritten : Bool

/-- What is stored under the absolute paths. -/
abbrev TraceFiles := List String → Option ByteArray

namespace AgentTraceFileWriter

def invalidFileName (message : String) : Raised :=
  ⟨.external "AgentTraceInvalidFileNameError" .runtimeOrValueError, message⟩

/-- `[A-Za-z0-9._-]` -/
def isNameChar (character : Char) : Bool :=
  character.isAlphanum || character == '.' || character == '_' || character == '-'

def isSeparator (character : Char) : Bool :=
  character == '.' || character == '_' || character == '-'

/-- `re.sub(r"[^A-Za-z0-9._-]+", "-", ...)`. `replaced` is true inside a run of other characters. -/
def collapse (replaced : Bool) : List Char → List Char
  | [] => []
  | character :: rest =>
    if isNameChar character then character :: collapse false rest
    else if replaced then collapse true rest
    else '-' :: collapse true rest

/-- `.strip("._-")` -/
def trim (characters : List Char) : List Char :=
  ((characters.dropWhile isSeparator).reverse.dropWhile isSeparator).reverse

/-- `_sanitize_trace_id` before its check -/
def stem (traceId : String) : String :=
  String.ofList (trim (collapse false (strip traceId).toList))

def sanitizeTraceId (traceId : String) : Except Raised String := do
  raiseIf (stem traceId = "") (invalidFileName "trace_id cannot produce a safe file name")
  .ok (stem traceId)

/-- The parts of a relative path, as `pathlib` reads it. -/
def pathParts (fileName : String) : List String :=
  ((fileName.toList.splitOn '/').filter fun part => part ≠ [] ∧ part ≠ ['.']).map String.ofList

/-- `Path(file_name).name` -/
def pathName (fileName : String) : String := (pathParts fileName).getLast?.getD ""

/-- `Path(file_name).suffix`: from the last dot on, if it is neither first nor last. -/
def pathSuffix (fileName : String) : String :=
  let characters := (pathName fileName).toList
  let ending := (characters.reverse.takeWhile (· ≠ '.')).reverse
  if ending = [] ∨ characters.length ≤ ending.length + 1 then "" else String.ofList ('.' :: ending)

/-- `_SAFE_FILE_NAME.fullmatch` -/
def isSafeFileName (fileName : String) : Bool :=
  match fileName.toList with
  | [] => false
  | first :: rest => first.isAlphanum && rest.all isNameChar

def validateFileName (fileName : String) : Except Raised Unit := do
  raiseIf (fileName = "") (invalidFileName "file name must not be blank")
  raiseIf (fileName = "." ∨ fileName = "..") (invalidFileName "file name is not allowed")
  raiseIf (pathName fileName ≠ fileName) (invalidFileName "file name must not contain a path")
  raiseIf (isSafeFileName fileName = false) (invalidFileName "file name contains unsafe characters")

def resolveFileName (exported : AgentTraceExportResult) (requestedFileName : Option String) :
    Except Raised String :=
  match requestedFileName with
  | none => do
      let traceComponent ← sanitizeTraceId exported.traceId
      .ok (traceComponent ++ exported.fileExtension)
  | some requested => do
      let fileName := strip requested
      validateFileName fileName
      if pathSuffix fileName = "" then .ok (fileName ++ exported.fileExtension)
      else do
        raiseIf (pathSuffix fileName ≠ exported.fileExtension)
          (invalidFileName "file extension does not match export format")
        .ok fileName

/-- `(directory / file_name).resolve()` -/
def resolvePath (directory : List String) (fileName : String) : List String :=
  (pathParts fileName).foldl
    (fun path part => if part = ".." then path.dropLast else path ++ [part]) directory

def safeTarget (outputDirectory : List String) (fileName : String) :
    Except Raised (List String) := do
  validateFileName fileName
  raiseIf ((resolvePath outputDirectory fileName).dropLast ≠ outputDirectory)
    (invalidFileName "target path escapes output directory")
  .ok (resolvePath outputDirectory fileName)

def write (outputDirectory : List String) (exported : AgentTraceExportResult)
    (request : AgentTraceFileWriteRequest) (files : TraceFiles) :
    Except Raised (AgentTraceFileWriteResult × TraceFiles) := do
  let fileName ← resolveFileName exported request.fileName
  let target ← safeTarget outputDirectory fileName
  raiseIf ((files target).isSome ∧ request.overwrite = false)
    ⟨.external "AgentTraceFileAlreadyExistsError" .runtimeOrValueError,
      "trace export already exists: " ++ fileName⟩
  let encoded := exported.content.toUTF8
  requireTexts [("trace_id", exported.traceId)]
  .ok (⟨exported.traceId, exported.format, target, encoded.size, (files target).isSome⟩,
    Function.update files target (some encoded))

end AgentTraceFileWriter

/-! ## The policy -/

structure AgentTraceArchivePolicy where
  formats : List AgentTraceExportFormat
  archiveCompleted : Bool
  archiveFailed : Bool
  archiveIncomplete : Bool
  overwrite : Bool
  formats_nonempty : formats ≠ []
  formats_nodup : formats.Nodup
  some_outcome : (archiveCompleted || archiveFailed || archiveIncomplete) = true

def AgentTraceArchivePolicy.shouldArchive (policy : AgentTraceArchivePolicy) :
    AgentTraceOutcome → Bool
  | .completed => policy.archiveCompleted
  | .failed => policy.archiveFailed
  | .incomplete => policy.archiveIncomplete

structure AgentTracePolicyArchiveResult where
  traceId : String
  outcome : AgentTraceOutcome
  archived : Bool
  files : List AgentTraceFileWriteResult
  reason : String

def AgentTracePolicyArchiveResult.validate (result : AgentTracePolicyArchiveResult) :
    Except Raised Unit := do
  requireTexts [("trace_id", result.traceId), ("reason", result.reason)]
  raiseIf (result.archived = true ∧ result.files = [])
    ⟨.validationError, "archived result must contain files"⟩
  raiseIf (result.archived = false ∧ result.files ≠ [])
    ⟨.validationError, "non-archived result must not contain files"⟩
  raiseIf (¬(result.files.map (·.format)).Nodup)
    ⟨.validationError, "archived file formats must be unique"⟩

/-- The recorder's events, the files, and the exports that were written, the latest ones first. -/
structure ArchiveWorld where
  events : List AgentTraceEvent
  files : TraceFiles
  writes : List AgentTraceExportResult

/-- The services over one recorder and one directory. -/
structure AgentTraceArchive where
  exporter : AgentTraceExporter
  milliseconds : ℕ → ℕ
  outputDirectory : List String
  policy : AgentTraceArchivePolicy

namespace AgentTraceArchive

variable (archive : AgentTraceArchive)

/-- `AgentTraceReadService._events` -/
def traceEvents (events : List AgentTraceEvent) (traceId : String) :
    Except Raised (List AgentTraceEvent) := do
  let trace ← InMemoryTraceRecorder.getTrace events traceId
  raiseIf (trace = [])
    ⟨.external "AgentTraceNotFoundError" .exception, "trace not found: " ++ traceId⟩
  .ok trace

def timeline (events : List AgentTraceEvent) (traceId : String) :
    Except Raised AgentTraceTimeline := do
  let trace ← traceEvents events traceId
  AgentTraceTimelineBuilder.build archive.milliseconds trace

def summary (events : List AgentTraceEvent) (traceId : String) :
    Except Raised AgentTraceSummary := do
  let trace ← traceEvents events traceId
  AgentTraceSummaryBuilder.build archive.milliseconds trace

/-- `AgentTraceExportService.export` -/
def exportTrace (events : List AgentTraceEvent) (traceId : String)
    (format : AgentTraceExportFormat) : Except Raised AgentTraceExportResult := do
  let timeline ← archive.timeline events traceId
  let summary ← archive.summary events traceId
  archive.exporter.export timeline summary format

/-- `AgentTraceFileWriteRequest(overwrite=self.policy.overwrite)` -/
def request : AgentTraceFileWriteRequest := ⟨none, archive.policy.overwrite, isBlank_of_mem_none⟩

/-- `AgentTraceArchiveService.archive` for one format after the other. -/
def archiveFormats (traceId : String) : List AgentTraceExportFormat → ArchiveWorld →
    Except Raised (List AgentTraceFileWriteResult) × ArchiveWorld
  | [], world => (.ok [], world)
  | format :: formats, world =>
    match archive.exportTrace world.events traceId format with
    | .error raised => (.error raised, world)
    | .ok exported =>
      match AgentTraceFileWriter.write archive.outputDirectory exported archive.request
          world.files with
      | .error raised => (.error raised, world)
      | .ok (result, files) =>
        let (results, last) := archiveFormats traceId formats
          { world with files := files, writes := exported :: world.writes }
        (results.map fun results => result :: results, last)

/-- `AgentTracePolicyArchiveService.archive` -/
def policyArchive (traceId : String) (world : ArchiveWorld) :
    Except Raised AgentTracePolicyArchiveResult × ArchiveWorld :=
  if isBlank traceId then (.error ⟨.valueError, "trace_id must not be blank"⟩, world)
  else
    match archive.summary world.events traceId with
    | .error raised => (.error raised, world)
    | .ok summary =>
      if archive.policy.shouldArchive summary.outcome = false then
        let result : AgentTracePolicyArchiveResult := ⟨traceId, summary.outcome, false, [],
          "Trace outcome is disabled by the archive policy."⟩
        (result.validate.map fun _ => result, world)
      else
        let (files, last) := archive.archiveFormats traceId archive.policy.formats world
        let answer := do
          let files ← files
          let result : AgentTracePolicyArchiveResult := ⟨traceId, summary.outcome, true, files,
            "Trace archived according to the configured policy."⟩
          result.validate
          .ok result
        (answer, last)

inductive Action where
  /-- The recorder is written or cleared. -/
  | recorder (events : List AgentTraceEvent)
  | archive (traceId : String)

def step (world : ArchiveWorld) : Action → ArchiveWorld
  | .recorder events => { world with events := events }
  | .archive traceId => (archive.policyArchive traceId world).2

end AgentTraceArchive

end AgenticLab
