import AgenticLab.Library.ReadModifyWrite
import AgenticLab.Model.Application.Values
import Mathlib.Data.List.Sort

/-! # The persistent vector index

`app/schemas/persistent_vector_index.py`, `app/research/persistent_vector_index_lifecycle.py` and
what it uses of `app/research/file_persistent_vector_index.py`. What the clock returns is an
argument of a call. -/

namespace AgenticLab

/-- What the index reads of an embedded chunk. `content` is everything else, which can be written
as JSON and is compared by `==`. -/
structure EmbeddedDocumentChunk (α : Type) where
  chunkId : String
  modelName : String
  dimensions : ℕ
  content : α
  deriving DecidableEq

/-- A snapshot is its content: the digest that seals it is a function of this. -/
structure PersistentVectorIndexSnapshot (α : Type) where
  indexId : String
  generation : ℕ
  embeddingModel : String
  embeddingDimensions : ℕ
  createdAt : Datetime
  updatedAt : Datetime
  records : List (EmbeddedDocumentChunk α)
  deriving DecidableEq

namespace PersistentVectorIndexLifecycle

variable {α : Type} [DecidableEq α] (casefold : Casefold)

/-- `item.chunk.chunk_id.casefold()` -/
def key (item : EmbeddedDocumentChunk α) : String := casefold item.chunkId

/-- `item.chunk.chunk_id.strip().casefold()` -/
def strippedKey (item : EmbeddedDocumentChunk α) : String := casefold (strip item.chunkId)

/-- The loop over the records. The vectors have the dimensions that they say, and are finite. -/
def validateRecords (embeddingModel : String) (embeddingDimensions : ℕ) :
    List (EmbeddedDocumentChunk α) → Except Raised Unit
  | [] => .ok ()
  | item :: rest => do
      raiseIf (item.modelName ≠ embeddingModel)
        ⟨.validationError, "all index records must use the snapshot embedding_model"⟩
      raiseIf (item.dimensions ≠ embeddingDimensions)
        ⟨.validationError, "all index records must use the snapshot embedding_dimensions"⟩
      validateRecords embeddingModel embeddingDimensions rest

/-- The constructor of `PersistentVectorIndexContent`, with `validate_content`. -/
def newContent (content : PersistentVectorIndexSnapshot α) :
    Except Raised (PersistentVectorIndexSnapshot α) := do
  raiseIf (content.generation < 1)
    ⟨.validationError, "generation should be greater than or equal to 1"⟩
  raiseIf (content.embeddingDimensions = 0)
    ⟨.validationError, "embedding_dimensions should be greater than 0"⟩
  raiseIf (isBlank content.indexId) ⟨.validationError, "index_id must not be blank"⟩
  raiseIf (isBlank content.embeddingModel) ⟨.validationError, "embedding_model must not be blank"⟩
  raiseIf content.createdAt.isNaive ⟨.validationError, "created_at must be timezone-aware"⟩
  raiseIf content.updatedAt.isNaive ⟨.validationError, "updated_at must be timezone-aware"⟩
  raiseIf (content.updatedAt < content.createdAt)
    ⟨.validationError, "updated_at must not be before created_at"⟩
  let chunkIds := content.records.map (strippedKey casefold)
  raiseIf (¬chunkIds.Nodup) ⟨.validationError, "persistent index chunk IDs must be unique"⟩
  raiseIf (chunkIds ≠ chunkIds.insertionSort (· ≤ ·))
    ⟨.validationError, "persistent index records must be ordered by chunk_id"⟩
  validateRecords content.embeddingModel content.embeddingDimensions content.records
  return content

/-! ## Transitions -/

/-- `sorted(records, key=lambda item: item.chunk.chunk_id.casefold())` -/
def sortedByKey (records : List (EmbeddedDocumentChunk α)) : List (EmbeddedDocumentChunk α) :=
  records.insertionSort fun a b => key casefold a ≤ key casefold b

/-- `_timestamp`, when the clock returns `value`. -/
def timestamp (value : Datetime) : Except Raised Datetime := do
  raiseIf value.isNaive ⟨.persistentVectorIndexLifecycleError,
    "lifecycle clock must return a timezone-aware datetime"⟩
  return value

def normalizeRecords (records : List (EmbeddedDocumentChunk α)) :
    Except Raised (List (EmbeddedDocumentChunk α)) := do
  raiseIf (¬(records.map (key casefold)).Nodup)
    ⟨.persistentVectorIndexLifecycleError, "incoming chunk IDs must be unique"⟩
  return sortedByKey casefold records

def normalizeChunkIds : List String → Except Raised (List String)
  | [] => .ok []
  | value :: rest => do
      raiseIf (isBlank value) ⟨.persistentVectorIndexLifecycleError,
        "chunk_ids must not contain blank values"⟩
      return casefold value :: (← normalizeChunkIds rest)

def validateCompatibility (content : PersistentVectorIndexSnapshot α) :
    List (EmbeddedDocumentChunk α) → Except Raised Unit
  | [] => .ok ()
  | item :: rest => do
      raiseIf (item.modelName ≠ content.embeddingModel)
        ⟨.persistentVectorIndexLifecycleError,
          "record embedding model does not match persistent index"⟩
      raiseIf (item.dimensions ≠ content.embeddingDimensions)
        ⟨.persistentVectorIndexLifecycleError,
          "record embedding dimensions do not match persistent index"⟩
      validateCompatibility content rest

/-- `merged[item.chunk.chunk_id.casefold()] = item` -/
def setItem (merged : List (EmbeddedDocumentChunk α)) (item : EmbeddedDocumentChunk α) :
    List (EmbeddedDocumentChunk α) :=
  if merged.any fun other => key casefold other = key casefold item then
    merged.map fun other => if key casefold other = key casefold item then item else other
  else merged ++ [item]

def requireSnapshot (stored : Option (PersistentVectorIndexSnapshot α)) :
    Except Raised (PersistentVectorIndexSnapshot α) :=
  match stored with
  | some snapshot => .ok snapshot
  | none => .error ⟨.persistentVectorIndexLifecycleError, "persistent vector index does not exist"⟩

/-- `_save_transition`, up to the save. -/
def transition (current : PersistentVectorIndexSnapshot α)
    (records : List (EmbeddedDocumentChunk α)) (clock : Datetime) :
    Except Raised (PersistentVectorIndexSnapshot α) := do
  let now ← timestamp clock
  raiseIf (now < current.updatedAt)
    ⟨.persistentVectorIndexLifecycleError, "lifecycle clock must not move backwards"⟩
  newContent casefold { current with
    generation := current.generation + 1
    updatedAt := now
    records := records }

/-! ## Calls -/

inductive Call (α : Type) where
  | create (indexId embeddingModel : String) (embeddingDimensions : ℕ)
      (records : List (EmbeddedDocumentChunk α)) (clock : Datetime)
  | upsert (records : List (EmbeddedDocumentChunk α)) (clock : Datetime)
  | delete (chunkIds : List String) (clock : Datetime)

abbrev Saving (α : Type) := PersistentVectorIndexSnapshot α × Bool

/-- `create`, when `stored` has been loaded. -/
def create (indexId embeddingModel : String) (embeddingDimensions : ℕ)
    (records : List (EmbeddedDocumentChunk α)) (clock : Datetime)
    (stored : Option (PersistentVectorIndexSnapshot α)) : Except Raised (Saving α) := do
  raiseIf (stored.isSome = true)
    ⟨.persistentVectorIndexLifecycleError, "persistent vector index already exists"⟩
  let now ← timestamp clock
  let normalized ← normalizeRecords casefold records
  let snapshot ← newContent casefold
    ⟨indexId, 1, embeddingModel, embeddingDimensions, now, now, normalized⟩
  return (snapshot, true)

/-- `upsert`, when `stored` has been loaded. -/
def upsert (records : List (EmbeddedDocumentChunk α)) (clock : Datetime)
    (stored : Option (PersistentVectorIndexSnapshot α)) : Except Raised (Saving α) := do
  let current ← requireSnapshot stored
  let incoming ← normalizeRecords casefold records
  validateCompatibility current incoming
  let merged := (current.records ++ incoming).foldl (setItem casefold) []
  let nextRecords := sortedByKey casefold merged
  if nextRecords = current.records then return (current, false)
  else return (← transition casefold current nextRecords clock, true)

/-- `delete`, when `stored` has been loaded. -/
def delete (chunkIds : List String) (clock : Datetime)
    (stored : Option (PersistentVectorIndexSnapshot α)) : Except Raised (Saving α) := do
  let current ← requireSnapshot stored
  let normalizedIds ← normalizeChunkIds casefold chunkIds
  if normalizedIds = [] then return (current, false)
  else
    let nextRecords := current.records.filter fun item => key casefold item ∉ normalizedIds
    if nextRecords = current.records then return (current, false)
    else return (← transition casefold current nextRecords clock, true)

def resultOf (call : Call α) (stored : Option (PersistentVectorIndexSnapshot α)) :
    Except Raised (Saving α) :=
  match call with
  | .create indexId embeddingModel embeddingDimensions records clock =>
    create casefold indexId embeddingModel embeddingDimensions records clock stored
  | .upsert records clock => upsert casefold records clock stored
  | .delete chunkIds clock => delete casefold chunkIds clock stored

/-- What `FilePersistentVectorIndex` is made with, and the length in bytes of a snapshot that is
written. -/
structure FileIndex (α : Type) where
  maximumSnapshotBytes : ℕ
  encodedLength : PersistentVectorIndexSnapshot α → ℕ

open ReadModifyWrite (Decision)

/-- `load` gives back what has been saved last; `save` refuses what is too large before it takes
the lock. -/
def respond (file : FileIndex α) (call : Call α)
    (stored : Option (PersistentVectorIndexSnapshot α)) :
    Decision (Option (PersistentVectorIndexSnapshot α)) Raised (PersistentVectorIndexSnapshot α) :=
  match resultOf casefold call stored with
  | .error failure => .raises failure
  | .ok (snapshot, false) => .keeps snapshot
  | .ok (snapshot, true) =>
    if file.maximumSnapshotBytes < file.encodedLength snapshot then
      .raises ⟨.persistentVectorIndexStorageError, "vector index snapshot exceeds maximum size"⟩
    else .writes snapshot (some snapshot)

end PersistentVectorIndexLifecycle

end AgenticLab
