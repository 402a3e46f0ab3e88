import AgenticLab.Library.DoubleCheckedCache
import AgenticLab.Model.Reports.ArchiveExport

/-! # The cache of parsed local documents

`app/schemas/parsed_local_document.py` and, of `app/research/`, `parsed_document_cache.py` and
`file_parsed_document_cache.py`. -/

namespace AgenticLab

/-! ## Documents -/

inductive ResearchSourceContentType where
  | text
  | html
  | markdown
  | pdfText
  | hwpxText
  | json
  | other
  deriving DecidableEq, Repr

namespace ResearchSourceContentType

def value : ResearchSourceContentType → String
  | text => "text"
  | html => "html"
  | markdown => "markdown"
  | pdfText => "pdf_text"
  | hwpxText => "hwpx_text"
  | json => "json"
  | other => "other"

def fromValue? (name : String) : Option ResearchSourceContentType :=
  [text, html, markdown, pdfText, hwpxText, json, other].find? fun type => type.value == name

end ResearchSourceContentType

def isTextDict (members : List (String × String)) : Bool :=
  decide (members.map Prod.fst).Nodup &&
    members.all fun member => !isBlank member.1 && !isBlank member.2

def validateSection (sectionId : String) (heading : Option String) (content : String)
    (order startCharacter endCharacter : ℕ) (sectionMetadata : List (String × String)) : Bool :=
  !isBlank sectionId && heading.all (fun title => !isBlank title) && !isBlank content &&
    decide (1 ≤ order ∧ startCharacter < endCharacter) && isTextDict sectionMetadata

structure ResearchSourceDocumentSection where
  sectionId : String
  heading : Option String
  content : String
  order : ℕ
  startCharacter : ℕ
  endCharacter : ℕ
  sectionMetadata : List (String × String)
  valid : validateSection sectionId heading content order startCharacter endCharacter
    sectionMetadata = true
  deriving DecidableEq

def validateParsedDocument (casefold : Casefold) (content : String)
    (sections : List ResearchSourceDocumentSection) (formatMetadata : List (String × String)) :
    Bool :=
  !isBlank content && decide (sections.map fun part => normalizeId casefold part.sectionId).Nodup &&
    decide ((sections.map fun part => part.order).Pairwise (· < ·)) &&
    (sections.all fun part => decide (part.endCharacter ≤ content.length) &&
      textSlice content part.startCharacter part.endCharacter == part.content) &&
    isTextDict formatMetadata

structure ParsedLocalDocument (casefold : Casefold) where
  content : String
  contentType : ResearchSourceContentType
  sections : List ResearchSourceDocumentSection
  formatMetadata : List (String × String)
  valid : validateParsedDocument casefold content sections formatMetadata = true
  deriving DecidableEq

/-! ## Identities -/

structure ParsedDocumentParserIdentity where
  contentType : ResearchSourceContentType
  parserId : String
  parserRevision : PositiveInt
  configurationIdentity : String
  dependencyIdentity : Option String
  parserId_nonblank : isBlank parserId = false
  configuration_nonblank : isBlank configurationIdentity = false
  dependency_nonblank : ∀ dependency ∈ dependencyIdentity, isBlank dependency = false

instance : DecidableEq ParsedDocumentParserIdentity :=
  Function.Injective.decidableEq (f := fun identity => (identity.contentType, identity.parserId,
    identity.parserRevision, identity.configurationIdentity, identity.dependencyIdentity))
    fun first second h => by cases first; cases second; simpa using h

structure ParsedDocumentCacheIdentity where
  rawContentSha256 : Sha256Digest
  rawFileSizeBytes : ℕ
  parser : ParsedDocumentParserIdentity
  deriving DecidableEq

def parsedDocumentCacheSchemaVersion : ℕ := 1

def localDocumentParserRevision : PositiveInt := ⟨1, Nat.one_pos⟩

/-- `build_local_document_parser_identity`, where `pypdf` is the version that is installed. -/
def buildLocalDocumentParserIdentity (casefold : Casefold) (pypdf : Option String)
    (suffix : String) : Except Raised ParsedDocumentParserIdentity :=
  let normalized := if casefold suffix = ".markdown" then ".md" else casefold suffix
  if normalized = ".txt" then
    .ok ⟨.text, "aira-text", localDocumentParserRevision, "utf8-exact-v1", none,
      by decide, by decide, by simp⟩
  else if normalized = ".md" then
    .ok ⟨.markdown, "aira-markdown", localDocumentParserRevision, "utf8-exact-v1", none,
      by decide, by decide, by simp⟩
  else if normalized = ".pdf" then
    match pypdf with
    | none => .error ⟨.runtimeError, "pypdf dependency identity is unavailable"⟩
    | some version => .ok ⟨.pdfText, "aira-pdf-text", localDocumentParserRevision,
        "normalized-pages-double-newline-v1", some ("pypdf==" ++ version), by decide, by decide,
        fun dependency hdependency =>
          Option.some.inj hdependency ▸ isBlank_append (by decide)⟩
  else if normalized = ".hwpx" then
    .ok ⟨.hwpxText, "aira-hwpx-text", localDocumentParserRevision,
      "spine-body-paragraphs-double-newline-v1", none, by decide, by decide, by simp⟩
  else .error ⟨.valueError, "suffix does not identify a supported local document parser"⟩

def optionalStrAtom : Option String → Json.Atom
  | none => .null
  | some text => .str text

def ParsedDocumentParserIdentity.members (parser : ParsedDocumentParserIdentity) : Fields :=
  [("content_type", .atom (.str parser.contentType.value)),
    ("parser_id", .atom (.str parser.parserId)),
    ("parser_revision", .atom (.int parser.parserRevision.val)),
    ("configuration_identity", .atom (.str parser.configurationIdentity)),
    ("dependency_identity", .atom (optionalStrAtom parser.dependencyIdentity))]

def ParsedDocumentCacheIdentity.members (identity : ParsedDocumentCacheIdentity) : Fields :=
  [("schema_version", .atom (.int parsedDocumentCacheSchemaVersion)),
    ("raw_content_sha256", .atom (.str identity.rawContentSha256.val)),
    ("raw_file_size_bytes", .atom (.int identity.rawFileSizeBytes)),
    ("parser", .obj identity.parser.members)]

/-- `build_parsed_document_cache_key` of an identity whose size has a number of digits that Python
writes. -/
def ParsedDocumentCacheIdentity.cacheKey (sha256 : Sha256)
    (identity : ParsedDocumentCacheIdentity) : String :=
  sha256.hexdigest (TextFile.encode
    ((Json.Value.obj identity.members).sortKeys.print Json.compact 0))

structure ParsedDocumentCacheEntry (casefold : Casefold) where
  cacheKey : Sha256Digest
  identity : ParsedDocumentCacheIdentity
  parsedDocument : ParsedLocalDocument casefold

/-- `validate_entry_identity` -/
def ParsedDocumentCacheEntry.isValid {casefold : Casefold} (sha256 : Sha256)
    (entry : ParsedDocumentCacheEntry casefold) : Bool :=
  entry.cacheKey.val = entry.identity.cacheKey sha256 ∧
    entry.parsedDocument.contentType = entry.identity.parser.contentType

def textDictValue (members : List (String × String)) : Json.Value :=
  .obj (members.map fun member => (member.1, .atom (.str member.2)))

def ResearchSourceDocumentSection.members (part : ResearchSourceDocumentSection) : Fields :=
  [("section_id", .atom (.str part.sectionId)),
    ("heading", .atom (optionalStrAtom part.heading)),
    ("content", .atom (.str part.content)),
    ("order", .atom (.int part.order)),
    ("start_character", .atom (.int part.startCharacter)),
    ("end_character", .atom (.int part.endCharacter)),
    ("metadata", textDictValue part.sectionMetadata)]

def ParsedLocalDocument.members {casefold : Casefold} (document : ParsedLocalDocument casefold) :
    Fields :=
  [("content", .atom (.str document.content)),
    ("content_type", .atom (.str document.contentType.value)),
    ("sections", .arr (document.sections.map fun part => .obj part.members)),
    ("format_metadata", textDictValue document.formatMetadata)]

def ParsedDocumentCacheEntry.members {casefold : Casefold}
    (entry : ParsedDocumentCacheEntry casefold) : Fields :=
  [("schema_version", .atom (.int parsedDocumentCacheSchemaVersion)),
    ("cache_key", .atom (.str entry.cacheKey.val)),
    ("identity", .obj entry.identity.members),
    ("parsed_document", .obj entry.parsedDocument.members)]

/-! ## Reading them back -/

def Fields.nat? (fields : Fields) (name : String) : Option ℕ :=
  (fields.int? name).bind fun value => if 0 ≤ value then some value.toNat else none

def Fields.optionalStr? (fields : Fields) (name : String) : Option (Option String) :=
  (fields.lookup name).bind fun value =>
    match value with
    | .atom .null => some none
    | .atom (.str text) => some (some text)
    | _ => none

/-- A field of type `dict[str, str]`. -/
def textDict? : Json.Value → Option (List (String × String))
  | .obj members => members.mapM fun member => (jsonStr? member.2).map (member.1, ·)
  | _ => none

def Fields.contentType? (fields : Fields) (name : String) : Option ResearchSourceContentType :=
  (fields.str? name).bind ResearchSourceContentType.fromValue?

def parserIdentityFieldNames : List String :=
  ["content_type", "parser_id", "parser_revision", "configuration_identity", "dependency_identity"]

def parserIdentityFromJson (value : Json.Value) : Option ParsedDocumentParserIdentity := do
  let fields ← objectFields? parserIdentityFieldNames value
  let contentType ← fields.contentType? "content_type"
  let parserId ← fields.str? "parser_id"
  let parserRevision ← fields.positiveInt? "parser_revision"
  let configurationIdentity ← fields.str? "configuration_identity"
  let dependencyIdentity ← fields.optionalStr? "dependency_identity"
  if h : isBlank parserId = false ∧ isBlank configurationIdentity = false ∧
      ∀ dependency ∈ dependencyIdentity, isBlank dependency = false then
    some ⟨contentType, parserId, parserRevision, configurationIdentity, dependencyIdentity, h.1,
      h.2.1, h.2.2⟩
  else none

def cacheIdentityFieldNames : List String :=
  ["schema_version", "raw_content_sha256", "raw_file_size_bytes", "parser"]

def cacheIdentityFromJson (value : Json.Value) : Option ParsedDocumentCacheIdentity := do
  let fields ← objectFields? cacheIdentityFieldNames value
  let _ ← fields.literal? "schema_version" (.int parsedDocumentCacheSchemaVersion)
  let rawContentSha256 ← fields.digest? "raw_content_sha256"
  let rawFileSizeBytes ← fields.nat? "raw_file_size_bytes"
  let parser ← (fields.lookup "parser").bind parserIdentityFromJson
  return ⟨rawContentSha256, rawFileSizeBytes, parser⟩

def sectionFieldNames : List String :=
  ["section_id", "heading", "content", "order", "start_character", "end_character", "metadata"]

def sectionFromJson (value : Json.Value) : Option ResearchSourceDocumentSection := do
  let fields ← objectFields? sectionFieldNames value
  let sectionId ← fields.str? "section_id"
  let heading ← fields.optionalStr? "heading"
  let content ← fields.str? "content"
  let order ← fields.nat? "order"
  let startCharacter ← fields.nat? "start_character"
  let endCharacter ← fields.nat? "end_character"
  let sectionMetadata ← (fields.lookup "metadata").bind textDict?
  if h : validateSection sectionId heading content order startCharacter endCharacter
      sectionMetadata = true then
    some ⟨sectionId, heading, content, order, startCharacter, endCharacter, sectionMetadata, h⟩
  else none

def sectionsFromJson : Json.Value → Option (List ResearchSourceDocumentSection)
  | .arr items => items.mapM sectionFromJson
  | _ => none

def documentFieldNames : List String :=
  ["content", "content_type", "sections", "format_metadata"]

def documentFromJson (casefold : Casefold) (value : Json.Value) :
    Option (ParsedLocalDocument casefold) := do
  let fields ← objectFields? documentFieldNames value
  let content ← fields.str? "content"
  let contentType ← fields.contentType? "content_type"
  let sections ← (fields.lookup "sections").bind sectionsFromJson
  let formatMetadata ← (fields.lookup "format_metadata").bind textDict?
  if h : validateParsedDocument casefold content sections formatMetadata = true then
    some ⟨content, contentType, sections, formatMetadata, h⟩
  else none

def cacheEntryFieldNames : List String :=
  ["schema_version", "cache_key", "identity", "parsed_document"]

/-- The fields of `ParsedDocumentCacheEntry`, without `validate_entry_identity`. -/
def cacheEntryFromJson (casefold : Casefold) (value : Json.Value) :
    Option (ParsedDocumentCacheEntry casefold) := do
  let fields ← objectFields? cacheEntryFieldNames value
  let _ ← fields.literal? "schema_version" (.int parsedDocumentCacheSchemaVersion)
  let cacheKey ← fields.digest? "cache_key"
  let identity ← (fields.lookup "identity").bind cacheIdentityFromJson
  let parsedDocument ← (fields.lookup "parsed_document").bind (documentFromJson casefold)
  return ⟨cacheKey, identity, parsedDocument⟩

/-! ## The files -/

/-- A cache directory, with what its code takes from the platform. -/
structure FileParsedDocumentCache (casefold : Casefold) where
  sha256 : Sha256
  maximumEntryBytes : PositiveInt
  /-- Whether `json` meets the recursion limit in a text. -/
  tooDeep : List Char → Bool
  tooDeep_entry : ∀ entry : ParsedDocumentCacheEntry casefold,
    tooDeep ((Json.Value.obj entry.members).print Json.indented 0 ++ ['\n']) = false

namespace FileParsedDocumentCache

def cacheFailure (message : String) : Raised := ⟨.parsedDocumentCacheError, message⟩

def recursionFailure : Raised := ⟨.recursionError, "maximum recursion depth exceeded"⟩

variable {casefold : Casefold} (cache : FileParsedDocumentCache casefold)

def parseEntry (text : List Char) : Except Raised (Option (ParsedDocumentCacheEntry casefold)) := do
  raiseIf (cache.tooDeep text = true) recursionFailure
  return ((loadsNoDuplicateKeys text).bind (cacheEntryFromJson casefold)).filter fun entry =>
    entry.isValid cache.sha256

def readEntryBytes : FileNode → Except Raised (Option (List UInt8))
  | .absent => .ok none
  | .symlink => .error (cacheFailure "parsed-document cache entry must not be a symlink")
  | .directory => .error (cacheFailure "parsed-document cache entry must be a regular file")
  | .regular content =>
    if cache.maximumEntryBytes.val < content.length then .ok none else .ok (some content)

def getUnlocked (identity : ParsedDocumentCacheIdentity) (node : FileNode) :
    Except Raised (Option (ParsedLocalDocument casefold)) := do
  match ← cache.readEntryBytes node with
  | none => return none
  | some entryBytes =>
    match TextFile.decode entryBytes with
    | none => return none
    | some payloadText =>
      match ← cache.parseEntry payloadText with
      | none => return none
      | some entry =>
        if entry.identity ≠ identity then return none else return some entry.parsedDocument

/-- The entry that `_serialize_entry` builds. -/
def entryOf (identity : ParsedDocumentCacheIdentity) (document : ParsedLocalDocument casefold) :
    ParsedDocumentCacheEntry casefold :=
  ⟨⟨identity.cacheKey cache.sha256, cache.sha256.hexdigest_valid _⟩, identity, document⟩

/-- `_serialize_entry` as far as the size check. -/
def serializeEntry (identity : ParsedDocumentCacheIdentity)
    (document : ParsedLocalDocument casefold) : Except Raised (List UInt8) := do
  raiseIf ((cache.entryOf identity document).isValid cache.sha256 = false)
    ⟨.validationError, "parsed content type does not match parser identity"⟩
  let text ← jsonDumps Json.indented (.obj (cache.entryOf identity document).members)
  return TextFile.encode (text ++ ['\n'])

def putUnlocked (identity : ParsedDocumentCacheIdentity) (document : ParsedLocalDocument casefold)
    (fault : Option ReplaceFault) (node : FileNode) : DoubleCheckedCache.Put FileNode Raised :=
  match cache.serializeEntry identity document with
  | .error failure => .failed failure
  | .ok serialized =>
    if cache.maximumEntryBytes.val < serialized.length then .tooLarge
    else if node.isSymlinkOrDir then
      .failed (cacheFailure "parsed-document cache entry path is unsafe")
    else
      let writeFailure := cacheFailure "parsed-document cache entry could not be written"
      match fault with
      | none => .stored (.regular serialized)
      | some .beforeReplace => .failed writeFailure
      | some .afterReplace => .storedAndFailed (.regular serialized) writeFailure

end FileParsedDocumentCache

end AgenticLab
