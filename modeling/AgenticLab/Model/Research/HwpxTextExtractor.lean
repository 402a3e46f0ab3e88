import AgenticLab.Library.Slices
import AgenticLab.Model.Application.Values
import Mathlib.Data.List.Infix
import Mathlib.Data.List.Dedup

/-! # Extraction of text from HWPX packages (`app/research/local_hwpx_text_extractor.py`) -/

namespace AgenticLab.LocalHwpxTextExtractor

open Slices (slice)

/-- What an element of an `ElementTree` contains, in document order. The characters may carry more
than themselves. -/
inductive Nodes (α : Type) where
  | nil
  | text (characters : List α) (rest : Nodes α)
  | element (tag : String) (attributes : List (String × String)) (content rest : Nodes α)

structure Element (α : Type) where
  tag : String
  attributes : List (String × String)
  content : Nodes α

variable {α : Type}

/-- The elements of `Element.iter()` below the content's own element. -/
def Nodes.iter : Nodes α → List (Element α)
  | .nil => []
  | .text _ rest => rest.iter
  | .element tag attributes content rest => ⟨tag, attributes, content⟩ :: content.iter ++ rest.iter

/-- `"".join(element.itertext())` -/
def Nodes.itertext : Nodes α → List α
  | .nil => []
  | .text characters rest => characters ++ rest.itertext
  | .element _ _ content rest => content.itertext ++ rest.itertext

/-- `Element.iter()` -/
def Element.iter (element : Element α) : List (Element α) := element :: element.content.iter

def localName (tag : String) : String :=
  String.ofList (tag.toList.reverse.takeWhile (· ≠ '}')).reverse

/-! ## `_section_text` -/

section

variable (space : α → Bool)

/-- `text.strip()` -/
def stripText (text : List α) : List α :=
  ((text.dropWhile space).reverse.dropWhile space).reverse

def textData (elements : List (Element α)) : List α :=
  (elements.filter fun element => localName element.tag = "t").flatMap (·.content.itertext)

def paragraphTexts (root : Element α) : List (List α) :=
  ((root.iter.filter fun element => localName element.tag = "p").map fun paragraph =>
    stripText space (textData paragraph.iter)).filter fun text => text ≠ []

def sectionParts (root : Element α) : List (List α) :=
  if paragraphTexts space root ≠ [] then paragraphTexts space root
  else [stripText space (textData root.iter)]

end

/-- `separator.join(parts)` -/
def joinWith (separator : List α) : List (List α) → List α
  | [] => []
  | [part] => part
  | part :: next :: parts => part ++ separator ++ joinWith separator (next :: parts)

def sectionSeparator : List Char := ['\n', '\n']

/-- `_section_text` on the parsed document. -/
def sectionText (root : Element Char) : List Char :=
  joinWith sectionSeparator (sectionParts isSpace root)

/-! ## Paths -/

/-- `path.replace("\\", "/")` -/
def replaceBackslashes (path : String) : String :=
  String.ofList (path.toList.map fun character => if character = '\\' then '/' else character)

/-- `path.split("/")` -/
def splitSlashes (path : String) : List (List Char) := path.toList.splitOn '/'

/-- `PurePosixPath(path).is_absolute()` -/
def isAbsolute (path : String) : Bool := path.toList.head? = some '/'

/-- `path.is_absolute() or ".." in path.parts` -/
def isUnsafe (path : String) : Bool := isAbsolute path || decide (['.', '.'] ∈ splitSlashes path)

/-- The loop of `posixpath.normpath` over the components. -/
def normComponents (absolute : Bool) : List (List Char) → List (List Char) → List (List Char)
  | kept, [] => kept
  | kept, component :: components =>
    if component = [] ∨ component = ['.'] then normComponents absolute kept components
    else if component ≠ ['.', '.'] ∨ (absolute = false ∧ kept = []) ∨
        kept.getLast? = some ['.', '.'] then
      normComponents absolute (kept ++ [component]) components
    else normComponents absolute kept.dropLast components

/-- The slashes that `posixpath.normpath` keeps in front. -/
def initialSlashes (path : String) : List Char :=
  if ['/', '/'] <+: path.toList ∧ ¬['/', '/', '/'] <+: path.toList then ['/', '/']
  else if isAbsolute path then ['/'] else []

def normpath (path : String) : String :=
  let normalized := initialSlashes path ++
    joinWith ['/'] (normComponents (isAbsolute path) [] (splitSlashes path))
  if normalized = [] then "." else String.ofList normalized

/-! ## Archives -/

/-- A member of an archive, with what reading it gives. -/
structure ZipInfo where
  filename : String
  fileSize : ℕ
  stored : Except Raised (List UInt8)

def extractionError (message : String) : Raised := ⟨.localHwpxTextExtractionError, message⟩

/-- `archive.read(name)`: members are looked up by the names they are stored under, and a later
one replaces an earlier one. -/
def archiveRead (archive : List ZipInfo) (name : String) : Except Raised (List UInt8) :=
  match archive.reverse.find? fun info => info.filename = name with
  | some info => info.stored
  | none => .error ⟨.keyError, "There is no item named " ++ name ++ " in the archive"⟩

def contentHpfPath : String := "Contents/content.hpf"
def maximumArchiveMemberCount : ℕ := 2048
def maximumMemberUncompressedBytes : ℕ := 16 * 1024 * 1024
def maximumTotalUncompressedBytes : ℕ := 128 * 1024 * 1024

/-- The loop of `_validate_archive`, with the members found so far. -/
def validateMembers (members : List (String × ZipInfo)) (totalSize : ℕ) :
    List ZipInfo → Except Raised (List (String × ZipInfo))
  | [] => .ok members
  | info :: infos => do
      let packagePath := replaceBackslashes info.filename
      raiseIf (isUnsafe packagePath = true)
        (extractionError ("HWPX archive contains an unsafe member path: " ++ info.filename))
      raiseIf (packagePath ∈ members.map Prod.fst)
        (extractionError ("HWPX archive contains duplicate member paths: " ++ packagePath))
      raiseIf (maximumMemberUncompressedBytes < info.fileSize)
        (extractionError ("HWPX archive member exceeds uncompressed size limit: " ++ packagePath))
      raiseIf (maximumTotalUncompressedBytes < totalSize + info.fileSize)
        (extractionError "HWPX archive total uncompressed size exceeds safety limit")
      validateMembers (members ++ [(packagePath, info)]) (totalSize + info.fileSize) infos

def validateArchive (infos : List ZipInfo) : Except Raised (List (String × ZipInfo)) := do
  raiseIf (maximumArchiveMemberCount < infos.length)
    (extractionError "HWPX archive member count exceeds safety limit")
  validateMembers [] 0 infos

/-- `DefusedElementTree.fromstring` -/
abbrev XmlParser := List UInt8 → Except Raised (Element Char)

/-- The classes of `except (DefusedXmlException, ParseError)`. -/
def parseErrors : List ExceptionClass :=
  [.external "ParseError" .exception, .external "DefusedXmlException" .runtimeOrValueError,
    .external "DTDForbidden" .runtimeOrValueError,
    .external "EntitiesForbidden" .runtimeOrValueError,
    .external "ExternalReferenceForbidden" .runtimeOrValueError,
    .external "NotSupportedError" .runtimeOrValueError]

variable (xml : XmlParser)

def parseXml (data : List UInt8) (packagePath : String) : Except Raised (Element Char) :=
  match xml data with
  | .ok root => .ok root
  | .error failure => .error
      (if failure.cls ∈ parseErrors then
        extractionError ("HWPX XML is malformed or unsafe: " ++ packagePath)
      else failure)

/-- `cls._parse_xml(archive.read(path), package_path=path)` -/
def readXml (archive : List ZipInfo) (packagePath : String) : Except Raised (Element Char) := do
  parseXml xml (← archiveRead archive packagePath) packagePath

/-- `element.attrib.get(name, "").strip()` -/
def attributeText (element : Element Char) (name : String) : String :=
  strip ((element.attributes.lookup name).getD "")

def manifestItems (root : Element Char) : List (String × String) :=
  (root.iter.filter fun element => localName element.tag = "item").filterMap fun element =>
    if attributeText element "id" ≠ "" ∧ attributeText element "href" ≠ "" then
      some (attributeText element "id", attributeText element "href")
    else none

/-- `manifest.get(item_id)`, where a later item replaces an earlier one. -/
def manifestGet (root : Element Char) (itemId : String) : Option String :=
  (manifestItems root).reverse.lookup itemId

def spineReferences (root : Element Char) : List String :=
  (root.iter.filter fun element => localName element.tag = "itemref").map (attributeText · "idref")

def resolveManifestHref (members : List (String × ZipInfo)) (href : String) :
    Except Raised String := do
  let normalizedHref := replaceBackslashes href
  raiseIf (isUnsafe normalizedHref = true)
    (extractionError ("HWPX spine target is unsafe: " ++ href))
  let candidates := [normpath normalizedHref, normpath ("Contents/" ++ normalizedHref)].dedup
  match candidates.filter fun candidate => candidate ∈ members.map Prod.fst with
  | [] => .error (extractionError ("HWPX spine target is invalid or missing: " ++ href))
  | [found] => .ok found
  | _ :: _ :: _ => .error (extractionError ("HWPX spine target is ambiguous: " ++ href))

def resolveReference (members : List (String × ZipInfo)) (root : Element Char) (itemId : String) :
    Except Raised String :=
  match manifestGet root itemId with
  | none => .error (extractionError ("HWPX spine references a missing manifest item: " ++ itemId))
  | some href => resolveManifestHref members href

def collectSections (archive : List ZipInfo) (members : List (String × ZipInfo))
    (root : Element Char) : List String → Except Raised (List String)
  | [] => .ok []
  | itemId :: itemIds => do
      let packagePath ← resolveReference members root itemId
      let target ← readXml xml archive packagePath
      let rest ← collectSections archive members root itemIds
      return if localName target.tag = "sec" then packagePath :: rest else rest

def sectionPaths (archive : List ZipInfo) (members : List (String × ZipInfo)) :
    Except Raised (List String) := do
  raiseIf (contentHpfPath ∉ members.map Prod.fst)
    (extractionError ("HWPX package is missing " ++ contentHpfPath))
  let root ← readXml xml archive contentHpfPath
  let idrefs := spineReferences root
  raiseIf (idrefs = [] ∨ "" ∈ idrefs) (extractionError "HWPX package has no valid spine references")
  let paths ← collectSections xml archive members root idrefs
  raiseIf (paths = []) (extractionError "HWPX package contains no body section documents")
  return paths

def extractTexts (archive : List ZipInfo) :
    List String → Except Raised (List (String × List Char))
  | [] => .ok []
  | packagePath :: paths => do
      let root ← readXml xml archive packagePath
      return (packagePath, sectionText root) :: (← extractTexts archive paths)

/-! ## Results -/

structure LocalHwpxTextSection where
  sectionIndex : ℕ
  packagePath : String
  content : List Char
  startCharacter : ℕ
  endCharacter : ℕ
  deriving DecidableEq

def invalid (message : String) : Raised := ⟨.validationError, message⟩

/-- `validate_section` behind the constraints of the fields. -/
def newSection (fields : LocalHwpxTextSection) : Except Raised LocalHwpxTextSection := do
  raiseIf (fields.sectionIndex < 1)
    (invalid "section_index: Input should be greater than or equal to 1")
  raiseIf (isBlank fields.packagePath) (invalid "package_path must not be blank")
  if fields.content ≠ [] then
    raiseIf (stripText isSpace fields.content = [])
      (invalid "section content must be normalized or empty")
    raiseIf (fields.endCharacter ≤ fields.startCharacter)
      (invalid "nonblank section range must not be empty")
    raiseIf (fields.endCharacter - fields.startCharacter ≠ fields.content.length)
      (invalid "section range length must match content length")
  else
    raiseIf (fields.endCharacter ≠ fields.startCharacter)
      (invalid "blank section range must be empty")
  return fields

structure LocalHwpxTextExtractionResult where
  content : List Char
  sections : List LocalHwpxTextSection
  totalSectionCount : ℕ
  deriving DecidableEq

/-- The loop over the sections of `validate_result`. -/
def validateRanges (content : List Char) : List LocalHwpxTextSection → Except Raised Unit
  | [] => .ok ()
  | textSection :: sections => do
      raiseIf (content.length < textSection.endCharacter)
        (invalid "section range must be within document content")
      raiseIf (slice content textSection.startCharacter textSection.endCharacter ≠
          textSection.content)
        (invalid "section content must match its document range")
      validateRanges content sections

/-- `validate_result` behind the constraints of the fields. -/
def LocalHwpxTextExtractionResult.validate (result : LocalHwpxTextExtractionResult) :
    Except Raised Unit := do
  raiseIf (result.totalSectionCount < 1)
    (invalid "total_section_count: Input should be greater than or equal to 1")
  raiseIf (stripText isSpace result.content = [])
    (invalid "HWPX extraction content must not be blank")
  raiseIf (result.sections.length ≠ result.totalSectionCount)
    (invalid "total_section_count must match sections")
  raiseIf (result.sections.map (·.sectionIndex) ≠ List.range' 1 result.totalSectionCount)
    (invalid "HWPX sections must preserve spine order")
  validateRanges result.content result.sections

/-- The variables of the loop over the extracted sections. -/
structure Assembly where
  contentParts : List (List Char)
  cursor : ℕ
  sections : List LocalHwpxTextSection

def assembleSection (assembly : Assembly) (extracted : String × List Char) :
    Except Raised Assembly := do
  let (packagePath, content) := extracted
  let separated := content ≠ [] ∧ assembly.contentParts ≠ []
  let parts := if separated then assembly.contentParts ++ [sectionSeparator]
    else assembly.contentParts
  let start := if separated then assembly.cursor + sectionSeparator.length else assembly.cursor
  let parts := if content ≠ [] then parts ++ [content] else parts
  let stop := start + content.length
  let textSection ← newSection ⟨assembly.sections.length + 1, packagePath, content, start, stop⟩
  return ⟨parts, stop, assembly.sections ++ [textSection]⟩

def assembleAll (assembly : Assembly) : List (String × List Char) → Except Raised Assembly
  | [] => .ok assembly
  | extracted :: rest => do assembleAll (← assembleSection assembly extracted) rest

/-- `extract` behind the `try` statement. -/
def buildResult (extracted : List (String × List Char)) :
    Except Raised LocalHwpxTextExtractionResult := do
  raiseIf (extracted.all (·.2.isEmpty))
    (extractionError "HWPX contains no extractable nonblank body text")
  let assembly ← assembleAll ⟨[], 0, []⟩ extracted
  let result : LocalHwpxTextExtractionResult :=
    ⟨assembly.contentParts.flatten, assembly.sections, assembly.sections.length⟩
  result.validate
  return result

/-- A path with what `_validate_path` and `ZipFile` find there. -/
structure PackageFile where
  path : String
  pathExists : Bool
  isFile : Bool
  suffix : String
  archive : Except Raised (List ZipInfo)

def validatePath (casefold : Casefold) (file : PackageFile) : Except Raised Unit := do
  raiseIf (file.pathExists = false) (extractionError ("HWPX path does not exist: " ++ file.path))
  raiseIf (file.isFile = false) (extractionError ("HWPX path is not a file: " ++ file.path))
  raiseIf (casefold file.suffix ≠ ".hwpx") (extractionError "path must have a .hwpx suffix")

/-- The body of the `try` statement. -/
def readPackage (file : PackageFile) : Except Raised (List (String × List Char)) := do
  let archive ← file.archive
  let members ← validateArchive archive
  extractTexts xml archive (← sectionPaths xml archive members)

def badZipFile : ExceptionClass := .external "BadZipFile" .exception

/-- The `except` clauses. -/
def exceptClause (path : String) (failure : Raised) : Raised :=
  if failure.cls = badZipFile then
    extractionError ("HWPX is not a valid ZIP archive: " ++ path)
  else if failure.cls = .osError then extractionError ("HWPX could not be opened: " ++ path)
  else failure

def extract (casefold : Casefold) (file : PackageFile) :
    Except Raised LocalHwpxTextExtractionResult := do
  validatePath casefold file
  match readPackage xml file with
  | .ok extracted => buildResult extracted
  | .error failure => .error (exceptClause file.path failure)

end AgenticLab.LocalHwpxTextExtractor
