import AgenticLab.Model.EmbeddingCache
import AgenticLab.Model.Research.ParsedDocumentCache

/-! # Pruning the persistent caches

`execute_prune` of `app/persistent_cache_maintenance.py`, with the models of
`app/schemas/persistent_cache_status.py` that it reads and builds. -/

namespace AgenticLab

/-! ## Plans and reports -/

inductive CacheKind where
  | embedding
  | parsed
  deriving DecidableEq, Repr

def entryFilename (entryKey : Sha256Digest) : String := entryKey.val ++ ".json"

structure CachePruneCandidate where
  cacheKind : CacheKind
  filename : String
  entryKey : Sha256Digest
  sizeBytes : ℕ
  mtimeNs : ℕ
  filename_eq : filename = entryFilename entryKey

/-- What `execute_prune` reads of a plan. -/
structure CachePrunePlan where
  cacheKind : CacheKind
  directory : String
  selectedEntryCount : ℕ
  selectedEntryBytes : ℕ
  candidates : List CachePruneCandidate
  count_eq : candidates.length = selectedEntryCount
  bytes_eq : (candidates.map fun candidate => candidate.sizeBytes).sum = selectedEntryBytes
  kind_eq : ∀ candidate ∈ candidates, candidate.cacheKind = cacheKind

inductive CachePruneOutcome where
  | deleted
  | alreadyAbsent
  | stale
  | invalid
  deriving DecidableEq, Repr

structure CachePruneExecutionItem where
  cacheKind : CacheKind
  filename : String
  entryKey : Sha256Digest
  plannedSizeBytes : ℕ
  outcome : CachePruneOutcome
  deletedBytes : ℕ
  filename_eq : filename = entryFilename entryKey
  deletedBytes_eq : deletedBytes = if outcome = .deleted then plannedSizeBytes else 0

structure CachePruneResult where
  cacheKind : CacheKind
  directory : String
  plannedEntryCount : ℕ
  plannedEntryBytes : ℕ
  deletedEntryCount : ℕ
  deletedEntryBytes : ℕ
  skippedEntryCount : ℕ
  items : List CachePruneExecutionItem

def deletedItems (items : List CachePruneExecutionItem) : List CachePruneExecutionItem :=
  items.filter fun item => item.outcome = .deleted

/-- `validate_result` -/
def CachePruneResult.validate (result : CachePruneResult) : Except Raised Unit := do
  raiseIf (result.items.length ≠ result.plannedEntryCount)
    ⟨.validationError, "execution items must match planned entry count"⟩
  raiseIf ((result.items.map fun item => item.plannedSizeBytes).sum ≠ result.plannedEntryBytes)
    ⟨.validationError, "planned entry bytes must match execution items"⟩
  raiseIf (∃ item ∈ result.items, item.cacheKind ≠ result.cacheKind)
    ⟨.validationError, "execution item cache kind must match result"⟩
  raiseIf ((deletedItems result.items).length ≠ result.deletedEntryCount)
    ⟨.validationError, "deleted entry count must match execution items"⟩
  raiseIf (((deletedItems result.items).map fun item => item.deletedBytes).sum ≠
      result.deletedEntryBytes)
    ⟨.validationError, "deleted entry bytes must match execution items"⟩
  raiseIf ((result.skippedEntryCount : ℤ) ≠
      result.plannedEntryCount - (deletedItems result.items).length)
    ⟨.validationError, "skipped entry count must match execution items"⟩

/-- An exception, with the `completed_items` of a `PersistentCachePruneError`. -/
structure PruneFailure where
  raised : Raised
  completedItems : List CachePruneExecutionItem

/-- A `PersistentCachePruneError` without items. -/
def pruneFailure (message : String) : PruneFailure := ⟨⟨.persistentCachePruneError, message⟩, []⟩

def osFailure : PruneFailure := ⟨⟨.osError, ""⟩, []⟩

/-- What the checks of an entry's content take from the platform. -/
structure CacheFormats (casefold : Casefold) (floats : FiniteFloats) where
  sha256 : Sha256
  /-- Whether `json` meets the recursion limit in a text. -/
  tooDeep : List Char → Bool

variable {casefold : Casefold} {floats : FiniteFloats}

def CacheFormats.payloadIsValid (formats : CacheFormats casefold floats) (cacheKind : CacheKind)
    (payloadBytes : List UInt8) (expectedKey : Sha256Digest) : Except Raised Bool :=
  match TextFile.decode payloadBytes with
  | none => .ok false
  | some payloadText => do
      raiseIf (formats.tooDeep payloadText = true)
        ⟨.recursionError, "maximum recursion depth exceeded"⟩
      match cacheKind, loadsNoDuplicateKeys payloadText with
      | _, none => return false
      | .embedding, some payload =>
        match embeddingEntryFromJson floats payload with
        | none => return false
        | some fields =>
          match ← fields.accepted with
          | none => return false
          | some entry =>
            return decide (entry.cacheKey = expectedKey ∧ expectedKey =
              buildEmbeddingCacheKey formats.sha256 entry.textSha256 entry.modelName
                entry.dimensions)
      | .parsed, some payload =>
        match (cacheEntryFromJson casefold payload).filter (·.isValid formats.sha256) with
        | none => return false
        | some entry => return decide (entry.cacheKey = expectedKey)

/-! ## The file system

Others act on it between any two system calls of the service. -/

/-- What a path of the directory leads to. -/
inductive Target where
  | symlink
  | directory
  | special
  | regular (inode : ℕ)
  deriving DecidableEq

structure FileContent where
  mtimeNs : ℤ
  content : List UInt8

structure FileSystem where
  directory : Option Target
  targets : String → Option Target
  inodes : ℕ → FileContent

structure FileStat where
  inode : ℕ
  sizeBytes : ℕ
  mtimeNs : ℤ
  deriving DecidableEq

def FileSystem.fstat (files : FileSystem) (inode : ℕ) : FileStat :=
  ⟨inode, (files.inodes inode).content.length, (files.inodes inode).mtimeNs⟩

/-- What `lstat` tells. -/
inductive Inspection where
  | absent
  | irregular
  | regular (stat : FileStat)
  deriving DecidableEq

def FileSystem.inspect (files : FileSystem) (name : String) : Inspection :=
  match files.targets name with
  | none => .absent
  | some (.regular inode) => .regular (files.fstat inode)
  | some _ => .irregular

/-- What others do before a system call, given by its number, which calls fail with an error that
is no `FileNotFoundError`, and how much a call reads at most. -/
structure Interference where
  acts : ℕ → FileSystem → FileSystem
  fails : ℕ → Bool
  readSize : ℕ → ℕ

/-- What the service has seen of the entries and done to them. -/
inductive PruneEvent where
  | inspected (filename : String) (inspection : Inspection)
  | read (filename : String) (inode : ℕ) (content : List UInt8)
  | unlinked (filename : String)
  deriving DecidableEq

/-- `events` holds the latest one first. -/
structure PruneWorld where
  files : FileSystem
  calls : ℕ
  events : List PruneEvent
  completed : List CachePruneExecutionItem

abbrev PruneProgram := Stateful PruneWorld PruneFailure

namespace PersistentCacheMaintenance

variable (others : Interference) (formats : CacheFormats casefold floats)

def systemCall (failure : PruneFailure) : PruneProgram PruneWorld := do
  let world ← Stateful.get
  let now := { world with
    files := others.acts world.calls world.files
    calls := world.calls + 1 }
  Stateful.set now
  if others.fails world.calls = true then Stateful.raise failure
  return now

def record (event : PruneEvent) : PruneProgram Unit := do
  let world ← Stateful.get
  Stateful.set { world with events := event :: world.events }

def lstat (filename : String) (failure : PruneFailure) : PruneProgram Inspection := do
  let now ← systemCall others failure
  record (.inspected filename (now.files.inspect filename))
  return now.files.inspect filename

/-- `_open_candidate`, with what `fstat` tells of the open file. -/
def openCandidate (filename : String) : PruneProgram (Option FileStat) := do
  let now ← systemCall others (pruneFailure "cache prune candidate could not be opened safely")
  match now.files.targets filename with
  | none => return none
  | some .symlink =>
    Stateful.raise (pruneFailure "cache prune candidate could not be opened safely")
  | some (.regular inode) =>
    let later ← systemCall others osFailure
    return some (later.files.fstat inode)
  | some _ =>
    let _ ← systemCall others osFailure
    Stateful.raise (pruneFailure "cache prune candidate must remain a regular file")

def maximumReadBytes : ℕ := 1024 * 1024

/-- The loop of `_read_descriptor`, with the number of bytes that remain as its fuel too. -/
def readChunks (inode : ℕ) : ℕ → ℕ → List UInt8 → PruneProgram (Option (List UInt8))
  | _, 0, chunks => return some chunks
  | 0, _ + 1, _ => return none
  | fuel + 1, remaining + 1, chunks => do
      let now ← systemCall others (pruneFailure "cache prune candidate could not be read")
      let size := min (min (remaining + 1) maximumReadBytes) (others.readSize now.calls)
      let chunk := ((now.files.inodes inode).content.drop chunks.length).take size
      if chunk = [] then return none
      readChunks inode fuel (remaining + 1 - chunk.length) (chunks ++ chunk)

def readDescriptor (inode sizeBytes : ℕ) : PruneProgram (Option (List UInt8)) :=
  readChunks others inode sizeBytes sizeBytes []

inductive CandidateState where
  | valid
  | alreadyAbsent
  | stale
  | invalid
  deriving DecidableEq

def isPlanned (candidate : CachePruneCandidate) (stat : FileStat) : Bool :=
  decide (stat.sizeBytes = candidate.sizeBytes ∧ stat.mtimeNs = candidate.mtimeNs)

/-- The last check of `_revalidate_candidate`. -/
def reinspectCandidate (candidate : CachePruneCandidate) (inode : ℕ) :
    PruneProgram CandidateState := do
  match ← lstat others candidate.filename
      (pruneFailure "cache prune candidate could not be re-inspected") with
  | .absent => return .alreadyAbsent
  | .irregular =>
    Stateful.raise (pruneFailure "cache prune candidate became an unsafe filesystem target")
  | .regular final =>
    if final.inode ≠ inode ∨ isPlanned candidate final = false then return .stale
    return .valid

/-- `_revalidate_candidate` behind its comparison of the open file with the one it inspected. -/
def checkContent (candidate : CachePruneCandidate) (opened : FileStat) :
    PruneProgram CandidateState := do
  match ← readDescriptor others opened.inode opened.sizeBytes with
  | none => return .stale
  | some payload =>
    record (.read candidate.filename opened.inode payload)
    match formats.payloadIsValid candidate.cacheKind payload candidate.entryKey with
    | .error raised => Stateful.raise ⟨raised, []⟩
    | .ok false => return .invalid
    | .ok true => reinspectCandidate others candidate opened.inode

def revalidateCandidate (candidate : CachePruneCandidate) : PruneProgram CandidateState := do
  match ← lstat others candidate.filename
      (pruneFailure "cache prune candidate could not be inspected") with
  | .absent => return .alreadyAbsent
  | .irregular =>
    Stateful.raise (pruneFailure "cache prune candidate is an unsafe filesystem target")
  | .regular observed =>
    if isPlanned candidate observed = false then return .stale
    match ← openCandidate others candidate.filename with
    | none => return .alreadyAbsent
    | some opened =>
      if opened.inode ≠ observed.inode ∨ isPlanned candidate opened = false then
        return .stale
      checkContent others formats candidate opened

/-- `path.unlink()`, and whether there was something to remove. -/
def unlink (filename : String) : PruneProgram Bool := do
  let now ← systemCall others (pruneFailure "cache prune candidate could not be deleted")
  match now.files.targets filename with
  | none => return false
  | some .directory =>
    Stateful.raise (pruneFailure "cache prune candidate could not be deleted")
  | some _ =>
    Stateful.set { now with
      files := { now.files with targets := Function.update now.files.targets filename none }
      events := .unlinked filename :: now.events }
    return true

def executionItem (candidate : CachePruneCandidate) (outcome : CachePruneOutcome) :
    CachePruneExecutionItem :=
  ⟨candidate.cacheKind, candidate.filename, candidate.entryKey, candidate.sizeBytes, outcome,
    if outcome = .deleted then candidate.sizeBytes else 0, candidate.filename_eq, rfl⟩

def executeCandidate (candidate : CachePruneCandidate) :
    PruneProgram CachePruneExecutionItem := do
  match ← revalidateCandidate others formats candidate with
  | .valid =>
    if (← unlink others candidate.filename) = true then
      return executionItem candidate .deleted
    return executionItem candidate .alreadyAbsent
  | .alreadyAbsent => return executionItem candidate .alreadyAbsent
  | .stale => return executionItem candidate .stale
  | .invalid => return executionItem candidate .invalid

/-- The lock of the cache or, of a parsed document, of its entry. Making the lock file counts as an
act of the others. -/
def takeLock (cacheKind : CacheKind) : PruneProgram Unit := do
  let _ ← systemCall others
    (match cacheKind with
    | .embedding => ⟨⟨.embeddingCacheError, "embedding cache lock could not be acquired"⟩, []⟩
    | .parsed =>
      ⟨⟨.parsedDocumentCacheError, "parsed-document cache lock could not be acquired"⟩, []⟩)

def appendCompleted (item : CachePruneExecutionItem) : PruneProgram Unit := do
  let world ← Stateful.get
  Stateful.set { world with completed := world.completed ++ [item] }

def executeCandidates (cacheKind : CacheKind) : List CachePruneCandidate → PruneProgram Unit
  | [] => return ()
  | candidate :: candidates => do
      if cacheKind = .parsed then takeLock others .parsed
      let item ← executeCandidate others formats candidate
      appendCompleted item
      executeCandidates cacheKind candidates

def validateExecutionDirectory (directory : String) : PruneProgram Unit := do
  if directory.startsWith "/" = false then
    Stateful.raise (pruneFailure "cache prune directory must be absolute")
  let now ← systemCall others (pruneFailure "cache prune directory could not be inspected")
  match now.files.directory with
  | none => Stateful.raise (pruneFailure "cache prune directory no longer exists")
  | some .symlink => Stateful.raise (pruneFailure "cache prune directory must not be a symlink")
  | some .directory => return ()
  | some _ => Stateful.raise (pruneFailure "cache prune path must be a directory")

def pruneFailureWith (message : String) (items : List CachePruneExecutionItem) : PruneFailure :=
  ⟨⟨.persistentCachePruneError, message⟩, items⟩

/-- `_fsync_directory`: its calls of `open`, `fstat` and `fsync`. -/
def fsyncDirectory (completed : List CachePruneExecutionItem) : PruneProgram Unit := do
  let failure := pruneFailureWith "cache prune directory could not be synchronized" completed
  let now ← systemCall others failure
  if now.files.directory ≠ some .directory then Stateful.raise failure
  let _ ← systemCall others failure
  let _ ← systemCall others failure

def fsyncIfDeleted (completed : List CachePruneExecutionItem) : PruneProgram Unit :=
  if deletedItems completed ≠ [] then fsyncDirectory others completed else return ()

/-- The classes of the `except` clause of `execute_prune`. -/
def isCaught (raised : Raised) : Bool :=
  raised.cls ∈ [.embeddingCacheError, .parsedDocumentCacheError, .persistentCachePruneError,
    .osError]

def raiseExecutionFailure (cause : PruneFailure) : PruneProgram Unit := do
  let world ← Stateful.get
  fsyncIfDeleted others world.completed
  let message := if cause.raised.cls = .persistentCachePruneError then cause.raised.message
    else "cache prune execution failed"
  Stateful.raise (pruneFailureWith message world.completed)

/-- The `try` statement of `execute_prune`. -/
def runLocked (plan : CachePrunePlan) : PruneProgram Unit :=
  Stateful.tryCatch
    (do
      if plan.cacheKind = .embedding then takeLock others .embedding
      executeCandidates others formats plan.cacheKind plan.candidates)
    fun failure =>
      if isCaught failure.raised = true then raiseExecutionFailure others failure
      else Stateful.raise failure

def pruneResult (plan : CachePrunePlan) (items : List CachePruneExecutionItem) :
    PruneProgram CachePruneResult :=
  let result : CachePruneResult :=
    { cacheKind := plan.cacheKind
      directory := plan.directory
      plannedEntryCount := plan.selectedEntryCount
      plannedEntryBytes := plan.selectedEntryBytes
      deletedEntryCount := (deletedItems items).length
      deletedEntryBytes := ((deletedItems items).map fun item => item.deletedBytes).sum
      skippedEntryCount := items.length - (deletedItems items).length
      items := items }
  match result.validate with
  | .ok () => return result
  | .error raised => Stateful.raise ⟨raised, []⟩

def executePrune (plan : CachePrunePlan) : PruneProgram CachePruneResult := do
  if plan.candidates = [] then pruneResult plan []
  else
    validateExecutionDirectory others plan.directory
    runLocked others formats plan
    let world ← Stateful.get
    fsyncIfDeleted others world.completed
    pruneResult plan world.completed

def run (plan : CachePrunePlan) (files : FileSystem) :
    Except PruneFailure CachePruneResult × PruneWorld :=
  executePrune others formats plan ⟨files, 0, [], []⟩

end PersistentCacheMaintenance

end AgenticLab
