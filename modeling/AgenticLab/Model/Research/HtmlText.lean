import AgenticLab.Library.SeparatedFields
import AgenticLab.Library.Slices
import AgenticLab.Model.Application.Values

/-! # The text of a read source and its sections

`_VisibleTextParser` and `_build_sections` of `app/research/http_html_research_source_reader.py` and
the read documents of `app/schemas/research_source_document.py`. Positions count characters. -/

namespace AgenticLab.HttpHtmlResearchSourceReader

open Slices (slice)

/-- `text.split()` -/
def splitWords (text : List Char) : List (List Char) :=
  (text.splitOnP isSpace).filter fun word => word ≠ []

/-- A character at which `str.splitlines` cuts. -/
def isLineBreak (character : Char) : Bool :=
  character.toNat ∈ [0x0a, 0x0b, 0x0c, 0x0d, 0x1c, 0x1d, 0x1e, 0x85, 0x2028, 0x2029]

def consLine (character : Char) : List (List Char) → List (List Char)
  | [] => [[character]]
  | line :: lines => (character :: line) :: lines

/-- `text.splitlines()` -/
def splitLines : List Char → List (List Char)
  | [] => []
  | '\r' :: '\n' :: rest => [] :: splitLines rest
  | character :: rest =>
    if isLineBreak character then [] :: splitLines rest
    else consLine character (splitLines rest)

/-- `separator.join(parts)` -/
def joinWith (separator : List Char) : List (List Char) → List Char
  | [] => []
  | [part] => part
  | part :: next :: parts => part ++ separator ++ joinWith separator (next :: parts)

/-- `text.strip()` -/
def stripChars (text : List Char) : List Char :=
  ((text.dropWhile isSpace).reverse.dropWhile isSpace).reverse

/-! ## `_VisibleTextParser` -/

/-- The calls that `HTMLParser.feed` makes. -/
inductive HtmlEvent where
  | startTag (tag : String)
  | endTag (tag : String)
  | data (text : List Char)
  deriving DecidableEq, Repr

def blockTags : List String :=
  ["article", "aside", "blockquote", "br", "div", "footer", "h1", "h2", "h3", "h4", "h5", "h6",
    "header", "li", "main", "nav", "p", "pre", "section", "table", "td", "th", "tr"]

def ignoredTags : List String := ["script", "style", "noscript", "template"]

structure VisibleTextParser where
  ignoredDepth : ℕ
  parts : List (List Char)
  deriving DecidableEq

namespace VisibleTextParser

def initial : VisibleTextParser := ⟨0, []⟩

variable (parser : VisibleTextParser)

/-- `handle_starttag`, `handle_endtag` and `handle_data` -/
def handle : HtmlEvent → VisibleTextParser
  | .startTag tag =>
    if tag ∈ ignoredTags then { parser with ignoredDepth := parser.ignoredDepth + 1 }
    else if parser.ignoredDepth = 0 ∧ tag ∈ blockTags then
      { parser with parts := parser.parts ++ [['\n']] }
    else parser
  | .endTag tag =>
    if tag ∈ ignoredTags then { parser with ignoredDepth := parser.ignoredDepth - 1 }
    else if parser.ignoredDepth = 0 ∧ tag ∈ blockTags then
      { parser with parts := parser.parts ++ [['\n']] }
    else parser
  | .data text =>
    if parser.ignoredDepth = 0 ∧ stripChars text ≠ [] then
      { parser with parts := parser.parts ++ [text] }
    else parser

def feed (events : List HtmlEvent) : VisibleTextParser := events.foldl handle parser

/-- `paragraphs.append(" ".join(current))` where there is something in `current`. -/
def endParagraph (current : List (List Char)) : List (List Char) :=
  if current = [] then [] else [joinWith [' '] current]

def paragraphs (current : List (List Char)) : List (List Char) → List (List Char)
  | [] => endParagraph current
  | line :: lines =>
    if line ≠ [] then paragraphs (current ++ [line]) lines
    else endParagraph current ++ paragraphs [] lines

def text : List Char :=
  let lines := (splitLines parser.parts.flatten).map fun line => joinWith [' '] (splitWords line)
  stripChars (joinWith ['\n', '\n'] (paragraphs [] lines))

end VisibleTextParser

/-- `_html_to_text` behind the events that the parser sees. -/
def htmlToText (events : List HtmlEvent) : List Char :=
  (VisibleTextParser.initial.feed events).text

/-! ## Sections -/

/-- The fields of `ResearchSourceDocumentSection`. -/
structure ResearchSourceDocumentSection where
  sectionId : String
  heading : Option String
  content : List Char
  order : ℕ
  startCharacter : ℕ
  endCharacter : ℕ
  metadata : List (String × String)
  deriving DecidableEq

/-- `validate_section` behind the constraints of the fields. -/
def newSection (fields : ResearchSourceDocumentSection) :
    Except Raised ResearchSourceDocumentSection := do
  raiseIf (fields.order < 1) ⟨.validationError, "order: Input should be greater than or equal to 1"⟩
  raiseIf (fields.endCharacter < 1)
    ⟨.validationError, "end_character: Input should be greater than or equal to 1"⟩
  raiseIf (isBlank fields.sectionId) ⟨.validationError, "section_id must not be blank"⟩
  raiseIf (fields.heading.any isBlank) ⟨.validationError, "heading must not be blank when provided"⟩
  raiseIf (stripChars fields.content = []) ⟨.validationError, "section content must not be blank"⟩
  raiseIf (fields.endCharacter ≤ fields.startCharacter)
    ⟨.validationError, "end_character must be greater than start_character"⟩
  validateMetadata fields.metadata
  return fields

/-- The first place from `position` on where `pattern` stands in what follows. -/
def findIn (pattern : List Char) : List Char → ℕ → Option ℕ
  | text, position =>
    if pattern <+: text then some position
    else match text with
      | [] => none
      | _ :: rest => findIn pattern rest (position + 1)

/-- `content.find(pattern, start)`, without a result in the place of -1. -/
def find (content pattern : List Char) (start : ℕ) : Option ℕ :=
  findIn pattern (content.drop start) start

/-- `f"section-{order:03d}"` -/
def formatSectionId (order : ℕ) : String :=
  "section-" ++ String.ofList ((Nat.toDigits 10 order).leftpad 3 '0')

/-- The loop of `_build_sections`, behind the sections built so far. -/
def buildFrom (content : List Char) (built searchPosition : ℕ) :
    List (List Char) → Except Raised (List ResearchSourceDocumentSection)
  | [] => .ok []
  | paragraph :: paragraphs =>
    if stripChars paragraph = [] then
      buildFrom content built (searchPosition + paragraph.length + 2) paragraphs
    else
      match find content paragraph searchPosition with
      | none => .error ⟨.valueError, "paragraph could not be located within document content"⟩
      | some start => do
          let stop := start + paragraph.length
          let order := built + 1
          let documentSection ← newSection {
            sectionId := formatSectionId order
            heading := none
            content := paragraph
            order := order
            startCharacter := start
            endCharacter := stop
            metadata := [] }
          let rest ← buildFrom content order (stop + 2) paragraphs
          return documentSection :: rest

def buildSections (content : List Char) : Except Raised (List ResearchSourceDocumentSection) :=
  buildFrom content 0 0 (DoubledSeparator.split '\n' content)

/-! ## Documents -/

inductive ResearchSourceDocumentStatus where
  | read
  | failed
  deriving DecidableEq, Repr

inductive ResearchSourceContentType where
  | text
  | html
  | markdown
  | pdfText
  | hwpxText
  | json
  | other
  deriving DecidableEq, Repr

structure ResearchSourceDocumentError where
  errorType : String
  message : String
  retryable : Bool
  deriving DecidableEq

/-- `validate_error` -/
def newDocumentError (error : ResearchSourceDocumentError) :
    Except Raised ResearchSourceDocumentError := do
  raiseIf (isBlank error.errorType) ⟨.validationError, "error_type must not be blank"⟩
  raiseIf (isBlank error.message) ⟨.validationError, "message must not be blank"⟩
  return error

/-- What the reader uses of a candidate. -/
structure ReadCandidate where
  requestId : String
  sourceId : String
  url : String
  deriving DecidableEq

structure ResearchSourceDocument where
  documentId : String
  candidate : ReadCandidate
  status : ResearchSourceDocumentStatus
  contentType : ResearchSourceContentType
  content : List Char
  language : Option String
  sections : List ResearchSourceDocumentSection
  wordCount : ℕ
  characterCount : ℕ
  reader : String
  error : Option ResearchSourceDocumentError
  metadata : List (String × String)
  deriving DecidableEq

namespace ResearchSourceDocument

variable (casefold : Casefold) (document : ResearchSourceDocument)

/-- The loop over the sections of `_validate_read_document`. -/
def validateRanges : List ResearchSourceDocumentSection → Except Raised Unit
  | [] => .ok ()
  | documentSection :: sections => do
      raiseIf (document.content.length < documentSection.endCharacter)
        ⟨.validationError, "section character range must be within document content"⟩
      raiseIf (slice document.content documentSection.startCharacter documentSection.endCharacter ≠
          documentSection.content)
        ⟨.validationError, "section content must match the document character range"⟩
      validateRanges sections

def validateReadDocument : Except Raised Unit := do
  raiseIf (stripChars document.content = [])
    ⟨.validationError, "read document content must not be blank"⟩
  raiseIf (document.error ≠ none) ⟨.validationError, "read document must not contain an error"⟩
  raiseIf (document.characterCount ≠ document.content.length)
    ⟨.validationError, "character_count must match content length"⟩
  raiseIf (document.wordCount ≠ (splitWords document.content).length)
    ⟨.validationError, "word_count must match content word count"⟩
  raiseIf (¬(document.sections.map fun documentSection =>
      normalizeId casefold documentSection.sectionId).Nodup)
    ⟨.validationError, "section IDs must be unique"⟩
  raiseIf (¬(document.sections.map (·.order)).Nodup)
    ⟨.validationError, "section orders must be unique"⟩
  document.validateRanges document.sections

def validateFailedDocument : Except Raised Unit := do
  raiseIf (document.content ≠ []) ⟨.validationError, "failed document must not contain content"⟩
  raiseIf (document.sections ≠ []) ⟨.validationError, "failed document must not contain sections"⟩
  raiseIf (document.wordCount ≠ 0) ⟨.validationError, "failed document word_count must be zero"⟩
  raiseIf (document.characterCount ≠ 0)
    ⟨.validationError, "failed document character_count must be zero"⟩
  raiseIf (document.error = none) ⟨.validationError, "failed document must contain an error"⟩

/-- `validate_document` -/
def validate : Except Raised Unit := do
  raiseIf (isBlank document.documentId) ⟨.validationError, "document_id must not be blank"⟩
  raiseIf (isBlank document.reader) ⟨.validationError, "reader must not be blank"⟩
  raiseIf (document.language.any isBlank)
    ⟨.validationError, "language must not be blank when provided"⟩
  match document.status with
  | .read => document.validateReadDocument casefold
  | .failed => document.validateFailedDocument
  validateMetadata document.metadata

end ResearchSourceDocument

end AgenticLab.HttpHtmlResearchSourceReader
