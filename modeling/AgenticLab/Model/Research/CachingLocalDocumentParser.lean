import AgenticLab.Model.Research.ParsedDocumentCache

/-! # Parsing local documents through the cache

`local_document_access_policy.py`, `local_document_parser.py` and `caching_local_document_parser.py`
of `app/research/`. A path is given by the parts of its resolved form. -/

namespace AgenticLab

/-- What the path of a source leads to; a symlink is given with the file it resolves to. -/
inductive SourceNode where
  | absent
  | directory
  | regular (content : List UInt8)
  | symlink (target : Option (List String × List UInt8))
  deriving DecidableEq

abbrev SourceFiles := List String → SourceNode

structure LocalDocumentAccessPolicy where
  allowedRoots : List (List String)
  maximumFileBytes : PositiveInt

structure LocalDocumentAccessResult where
  resolvedPath : List String
  fileSizeBytes : ℕ
  contentSha256 : Sha256Digest
  deriving DecidableEq

namespace LocalDocumentAccessGate

def failure (message : String) : Raised := ⟨.localDocumentAccessError, message⟩

/-- `validate` as far as the size. -/
def inspect (policy : LocalDocumentAccessPolicy) (path : List String) :
    SourceNode → Except Raised ℕ
  | .symlink _ => .error (failure "local document source must not be a symlink")
  | .absent => .error (failure "local document source does not exist")
  | .directory => .error (failure "local document source must be a regular file")
  | .regular content => do
      raiseIf (¬policy.allowedRoots.any (·.isPrefixOf path))
        (failure "local document source is outside the allowed roots")
      raiseIf (policy.maximumFileBytes.val < content.length)
        (failure "local document source exceeds the maximum file size")
      return content.length

/-- The rest of `validate`, which reads the file once more. -/
def fingerprint (sha256 : Sha256) (path : List String) (size : ℕ) :
    SourceNode → Except Raised LocalDocumentAccessResult
  | .regular content => .ok ⟨path, size, ⟨sha256.hexdigest content, sha256.hexdigest_valid _⟩⟩
  | _ => .error (failure "local document source could not be hashed")

end LocalDocumentAccessGate

/-! ## Parsing -/

/-- `\r\n` and `\r` become `\n`, as text files are read. -/
def universalNewlines : List Char → List Char
  | [] => []
  | '\r' :: '\n' :: rest => '\n' :: universalNewlines rest
  | '\r' :: rest => '\n' :: universalNewlines rest
  | character :: rest => character :: universalNewlines rest

def resolvedSuffix (path : List String) : String :=
  String.ofList (pathSuffix (path.getLast?.getD ""))

/-- A parser, with the extractors of the formats that libraries read. -/
structure LocalDocumentParser (casefold : Casefold) where
  extractPdf : List UInt8 →
    Except Raised {document : ParsedLocalDocument casefold // document.contentType = .pdfText}
  extractHwpx : List UInt8 →
    Except Raised {document : ParsedLocalDocument casefold // document.contentType = .hwpxText}

namespace LocalDocumentParser

variable {casefold : Casefold} (parser : LocalDocumentParser casefold)

def parseText (contentType : ResearchSourceContentType) (content : List UInt8) :
    Except Raised (ParsedLocalDocument casefold) :=
  match TextFile.decode content with
  | none => .error ⟨.valueError, "local document is not valid UTF-8"⟩
  | some decoded =>
    let text := String.ofList (universalNewlines decoded)
    if h : validateParsedDocument casefold text [] [] = true then
      .ok ⟨text, contentType, [], [], h⟩
    else .error ⟨.valueError, "local document must not be empty"⟩

/-- `_parse_path` of a file with these bytes. -/
def parseContent (path : List String) (content : List UInt8) :
    Except Raised (ParsedLocalDocument casefold) :=
  let suffix := casefold (resolvedSuffix path)
  if suffix = ".pdf" then (parser.extractPdf content).map Subtype.val
  else if suffix = ".hwpx" then (parser.extractHwpx content).map Subtype.val
  else if suffix = ".md" ∨ suffix = ".markdown" then parseText .markdown content
  else if suffix = ".txt" then parseText .text content
  else .error ⟨.valueError, "local document must be Markdown, text, PDF, or HWPX"⟩

/-- `_parse_path`, which resolves the path again. -/
def parsePath (path : List String) : SourceNode → Except Raised (ParsedLocalDocument casefold)
  | .regular content => parser.parseContent path content
  | .symlink (some (target, content)) => parser.parseContent target content
  | .directory => .error ⟨.valueError, "local document is not a file"⟩
  | _ => .error ⟨.valueError, "local document does not exist"⟩

end LocalDocumentParser

def SourceNode.opened? : SourceNode → Option (List UInt8)
  | .regular content => some content
  | .symlink target => target.map Prod.snd
  | _ => none

structure CachingLocalDocumentParser (casefold : Casefold) where
  parser : LocalDocumentParser casefold
  cache : FileParsedDocumentCache casefold
  pypdf : Option String

def identityFromValidatedSource (casefold : Casefold) (pypdf : Option String)
    (source : LocalDocumentAccessResult) : Except Raised ParsedDocumentCacheIdentity := do
  let parser ← buildLocalDocumentParserIdentity casefold pypdf (resolvedSuffix source.resolvedPath)
  return ⟨source.contentSha256, source.fileSizeBytes, parser⟩

structure ParseRequest {casefold : Casefold} (caching : CachingLocalDocumentParser casefold) where
  source : LocalDocumentAccessResult
  identity : ParsedDocumentCacheIdentity
  identified : identityFromValidatedSource casefold caching.pypdf source = .ok identity

namespace CachingLocalDocumentParser

variable {casefold : Casefold} (caching : CachingLocalDocumentParser casefold)

def entries : DoubleCheckedCache.Interface String (ParseRequest caching) FileNode
    (ParsedLocalDocument casefold) (Option ReplaceFault) Raised where
  key request := request.identity.cacheKey caching.cache.sha256
  lookup request node := caching.cache.getUnlocked request.identity node
  check request document := raiseIf (document.contentType ≠ request.identity.parser.contentType)
    ⟨.valueError, "parsed document content type does not match parser identity"⟩
  put request document fault node :=
    caching.cache.putUnlocked request.identity document fault node

/-- The workers of `parse`. -/
abbrev Workers (ω : Type) :=
  DoubleCheckedCache.State ω String (ParseRequest caching) FileNode (ParsedLocalDocument casefold)
    Raised

abbrev WorkerAction (ω : Type) :=
  ω × DoubleCheckedCache.Action (ParseRequest caching) (ParsedLocalDocument casefold)
    (Option ReplaceFault) Raised

structure Runtime (ω : Type) where
  files : SourceFiles
  inspected : List (List String × ℕ)
  validated : List LocalDocumentAccessResult
  workers : caching.Workers ω

inductive RuntimeAction (ω : Type) where
  /-- Something else changes a file. -/
  | interfere (path : List String) (node : SourceNode)
  | inspect (path : List String)
  | fingerprint (path : List String) (size : ℕ)
  | worker (action : caching.WorkerAction ω)

variable {ω : Type} [DecidableEq ω] (policy : LocalDocumentAccessPolicy)

variable {caching} in
def Runtime.step (s : caching.Runtime ω) : caching.RuntimeAction ω → caching.Runtime ω
  | .interfere path node => { s with files := Function.update s.files path node }
  | .inspect path =>
    match LocalDocumentAccessGate.inspect policy path (s.files path) with
    | .ok size => { s with inspected := (path, size) :: s.inspected }
    | .error _ => s
  | .fingerprint path size =>
    match LocalDocumentAccessGate.fingerprint caching.cache.sha256 path size (s.files path) with
    | .ok source => { s with validated := source :: s.validated }
    | .error _ => s
  | .worker action =>
    { s with workers := DoubleCheckedCache.step caching.entries s.workers action }

/-- Locks exclude each other, what is parsed was validated before, and the inner parser reads the
file as it is. -/
def Runtime.Allowed (s : caching.Runtime ω) : caching.RuntimeAction ω → Prop
  | .fingerprint path size => (path, size) ∈ s.inspected
  | .worker (worker, action) =>
    DoubleCheckedCache.Granted caching.entries s.workers (worker, action) ∧
      match action with
      | .call request _ => request.source ∈ s.validated
      | .compute outcome => ∀ request, s.workers.phases worker = .computing request →
          outcome = caching.parser.parsePath request.source.resolvedPath
            (s.files request.source.resolvedPath)
      | _ => True
  | _ => True

def Runtime.start (ω : Type) (files : SourceFiles) (cells : String → FileNode) :
    caching.Runtime ω := ⟨files, [], [], .start ω cells⟩

end CachingLocalDocumentParser

end AgenticLab
