import AgenticLab.Library.SeparatedFields
import AgenticLab.Model.Research.BoundedResearchPlanningLoop

/-! # Chunks of a document

`app/rag/document_chunker.py` and `app/schemas/document_chunk.py`. Positions count characters. -/

namespace AgenticLab

/-- `metadata` is a dictionary that the chunkers only copy. -/
structure DocumentChunk (μ : Type) where
  documentId : String
  chunkId : String
  ordinal : ℕ
  text : String
  startChar : ℕ
  endChar : ℕ
  metadata : μ
  deriving DecidableEq, Repr

namespace DocumentChunker

variable {μ : Type}

/-- The constructor of `DocumentChunk`, with `validate_character_range`. -/
def newDocumentChunk (chunk : DocumentChunk μ) : Except Raised (DocumentChunk μ) := do
  raiseIf (chunk.documentId.length < 1)
    ⟨.validationError, "document_id: String should have at least 1 character"⟩
  raiseIf (chunk.chunkId.length < 1)
    ⟨.validationError, "chunk_id: String should have at least 1 character"⟩
  raiseIf (chunk.text.length < 1)
    ⟨.validationError, "text: String should have at least 1 character"⟩
  raiseIf (chunk.endChar ≤ 0) ⟨.validationError, "end_char: Input should be greater than 0"⟩
  raiseIf (chunk.endChar ≤ chunk.startChar)
    ⟨.validationError, "end_char must be greater than start_char"⟩
  raiseIf (chunk.text.length ≠ chunk.endChar - chunk.startChar)
    ⟨.validationError, "Chunk text length must match character range"⟩
  return chunk

/-- `DocumentChunkingError` -/
def chunkingError (message : String) : Raised :=
  ⟨.external "DocumentChunkingError" .runtimeOrValueError, message⟩

def checkTexts (documentId text : String) : Except Raised Unit := do
  raiseIf (isBlank documentId) (chunkingError "document_id must not be blank")
  raiseIf (text = "") (chunkingError "document text must not be empty")
  raiseIf (isBlank text) (chunkingError "document text must not be blank")

/-- The sizes that the checks of both chunkers let pass. -/
structure ChunkSizes where
  chunkSize : ℕ
  chunkOverlap : ℕ
  smaller : chunkOverlap < chunkSize

def checkSizes (chunkSize chunkOverlap : ℤ) : Except Raised ChunkSizes :=
  if hsize : chunkSize ≤ 0 then
    .error (chunkingError "chunk_size must be greater than zero")
  else if hoverlap : chunkOverlap < 0 then
    .error (chunkingError "chunk_overlap must not be negative")
  else if hsmaller : chunkOverlap ≥ chunkSize then
    .error (chunkingError "chunk_overlap must be smaller than chunk_size")
  else .ok ⟨chunkSize.toNat, chunkOverlap.toNat, by omega⟩

def chunkAt (documentId text : String) (metadata : μ) (ordinal startChar endChar : ℕ) :
    DocumentChunk μ where
  documentId := documentId
  chunkId := documentId ++ ":chunk:" ++ BoundedResearchPlanningLoop.fourDigits ordinal
  ordinal := ordinal
  text := textSlice text startChar endChar
  startChar := startChar
  endChar := endChar
  metadata := metadata

section

variable (documentId text : String) (sizes : ChunkSizes) (metadata : μ)

/-- `while start_char < len(text)` -/
def chunkLoop (startChar ordinal : ℕ) : Except Raised (List (DocumentChunk μ)) :=
  if startChar < text.length then
    if text.length ≤ startChar + sizes.chunkSize then do
      -- `end_char == len(text)`, where the loop breaks
      let chunk ← newDocumentChunk (chunkAt documentId text metadata ordinal startChar text.length)
      return [chunk]
    else do
      let endChar := startChar + sizes.chunkSize
      let chunk ← newDocumentChunk (chunkAt documentId text metadata ordinal startChar endChar)
      let rest ← chunkLoop (endChar - sizes.chunkOverlap) (ordinal + 1)
      return chunk :: rest
  else .ok []
termination_by text.length - startChar
decreasing_by
  have := sizes.smaller
  omega

end

def chunkDocumentText (documentId text : String) (chunkSize chunkOverlap : ℤ) (metadata : μ) :
    Except Raised (List (DocumentChunk μ)) := do
  checkTexts documentId text
  let sizes ← checkSizes chunkSize chunkOverlap
  chunkLoop documentId text sizes metadata 0 0

/-! ## Paragraphs -/

/-- The loop of `_paragraph_spans`. -/
def spansFrom (cursor : ℕ) : List (List Char) → List (ℕ × ℕ)
  | [] => []
  | part :: parts =>
    let partEnd := cursor + part.length
    if isBlank (.ofList part) then spansFrom (partEnd + 2) parts
    else (cursor, partEnd) :: spansFrom (partEnd + 2) parts

def paragraphSpans (text : String) : List (ℕ × ℕ) :=
  spansFrom 0 (DoubledSeparator.split '\n' text.toList)

/-- The variables of the loop. `current_start` and `current_end` are set and reset together. -/
structure Grouping (μ : Type) where
  chunks : List (DocumentChunk μ)
  current : Option (ℕ × ℕ)

section

variable (documentId text : String) (metadata : μ)

def appendChunk (chunks : List (DocumentChunk μ)) (range : ℕ × ℕ) :
    Except Raised (List (DocumentChunk μ)) := do
  let chunk ← newDocumentChunk (chunkAt documentId text metadata chunks.length range.1 range.2)
  return chunks ++ [chunk]

def appendCurrent (grouping : Grouping μ) : Except Raised (List (DocumentChunk μ)) :=
  match grouping.current with
  | none => .ok grouping.chunks
  | some range => appendChunk documentId text metadata grouping.chunks range

def addParagraph (chunkSize chunkOverlap : ℤ) (grouping : Grouping μ) (paragraph : ℕ × ℕ) :
    Except Raised (Grouping μ) :=
  if ((paragraph.2 : ℤ) - paragraph.1 > chunkSize) then do
    let chunks ← appendCurrent documentId text metadata grouping
    let subchunks ← chunkDocumentText documentId (textSlice text paragraph.1 paragraph.2) chunkSize
      chunkOverlap metadata
    let chunks ← subchunks.foldlM (fun chunks subchunk =>
      appendChunk documentId text metadata chunks
        (paragraph.1 + subchunk.startChar, paragraph.1 + subchunk.endChar)) chunks
    return ⟨chunks, none⟩
  else
    match grouping.current with
    | none => .ok ⟨grouping.chunks, some paragraph⟩
    | some (currentStart, currentEnd) =>
      if (paragraph.2 : ℤ) - currentStart ≤ chunkSize then
        .ok ⟨grouping.chunks, some (currentStart, paragraph.2)⟩
      else do
        let chunks ← appendChunk documentId text metadata grouping.chunks (currentStart, currentEnd)
        return ⟨chunks, some paragraph⟩

end

def chunkDocumentByParagraphs (documentId text : String) (chunkSize chunkOverlap : ℤ)
    (metadata : μ) : Except Raised (List (DocumentChunk μ)) := do
  checkTexts documentId text
  let _ ← checkSizes chunkSize chunkOverlap
  let grouping ← (paragraphSpans text).foldlM
    (addParagraph documentId text metadata chunkSize chunkOverlap) ⟨[], none⟩
  appendCurrent documentId text metadata grouping

end DocumentChunker

end AgenticLab
