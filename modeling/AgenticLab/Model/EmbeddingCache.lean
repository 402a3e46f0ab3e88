import AgenticLab.Model.Application.Values
import AgenticLab.Model.StateFile

/-! # Cached text embeddings

`app/schemas/document_embedding.py` (text embeddings), `app/schemas/embedding_cache_entry.py` and, of
`app/rag/`, `embedding_cache.py`, `file_embedding_cache.py` and `caching_embedding_provider.py`,
without file system failures. -/

namespace AgenticLab

/-- The finite floats: how a field of type `float` takes the number of a JSON document, and
`repr`. -/
structure FiniteFloats where
  Float : Type
  ofAtom : Json.Atom → Option Float
  repr : Float → {word : List Char // Json.isFloatWord word = true}
  ofAtom_repr : ∀ number, ofAtom (.float (repr number)) = some number

structure TextEmbedding (floats : FiniteFloats) where
  modelName : String
  dimensions : PositiveInt
  vector : List floats.Float
  modelName_ne : modelName ≠ ""
  length_eq : vector.length = dimensions.val

def calculateTextSha256 (sha256 : Sha256) (text : String) : Sha256Digest :=
  ⟨sha256.hexdigest (TextFile.encode text.toList), sha256.hexdigest_valid _⟩

def buildEmbeddingCacheKey (sha256 : Sha256) (textSha256 : Sha256Digest) (modelName : String)
    (dimensions : PositiveInt) : Sha256Digest :=
  ⟨sha256.hexdigest (TextFile.encode ((Json.Value.obj
    [("dimensions", .atom (.int dimensions.val)), ("model_name", .atom (.str modelName)),
      ("text_sha256", .atom (.str textSha256.val))]).sortKeys.print Json.compact 0)),
    sha256.hexdigest_valid _⟩

/-! ## Entries -/

structure EmbeddingCacheEntry (floats : FiniteFloats) where
  cacheKey : Sha256Digest
  textSha256 : Sha256Digest
  modelName : String
  dimensions : PositiveInt
  embedding : TextEmbedding floats

def embeddingCacheEntryVersion : ℕ := 1

def isAscii (text : String) : Bool := text.toList.all (·.toNat < 128)

/-- `hmac.compare_digest` on texts. -/
def compareDigest (a b : String) : Except Raised Bool := do
  raiseIf (¬(isAscii a = true ∧ isAscii b = true))
    ⟨.typeError, "comparing strings with non-ASCII characters is not supported"⟩
  return a == b

variable {floats : FiniteFloats}

/-- The checks of `EmbeddingCacheEntry` behind those of its fields. -/
def EmbeddingCacheEntry.validate (entry : EmbeddingCacheEntry floats) : Except Raised Unit := do
  raiseIf (isBlank entry.modelName) ⟨.validationError, "model_name must not be blank"⟩
  raiseIf ((← compareDigest entry.embedding.modelName entry.modelName) = false)
    ⟨.validationError, "embedding model does not match cache entry"⟩
  raiseIf (entry.embedding.dimensions ≠ entry.dimensions)
    ⟨.validationError, "embedding dimensions do not match cache entry"⟩

def TextEmbedding.members (embedding : TextEmbedding floats) : Fields :=
  [("model_name", .atom (.str embedding.modelName)),
    ("dimensions", .atom (.int embedding.dimensions.val)),
    ("vector", .arr (embedding.vector.map fun number => .atom (.float (floats.repr number))))]

def EmbeddingCacheEntry.members (entry : EmbeddingCacheEntry floats) : Fields :=
  [("version", .atom (.int embeddingCacheEntryVersion)),
    ("cache_key", .atom (.str entry.cacheKey.val)),
    ("text_sha256", .atom (.str entry.textSha256.val)),
    ("model_name", .atom (.str entry.modelName)),
    ("dimensions", .atom (.int entry.dimensions.val)),
    ("embedding", .obj entry.embedding.members)]

variable (floats) in
def vectorFromJson : Json.Value → Option (List floats.Float)
  | .arr items => items.mapM fun item =>
    match item with
    | .atom number => floats.ofAtom number
    | _ => none
  | _ => none

def textEmbeddingFieldNames : List String := ["model_name", "dimensions", "vector"]

variable (floats) in
def textEmbeddingFromJson (value : Json.Value) : Option (TextEmbedding floats) := do
  let fields ← objectFields? textEmbeddingFieldNames value
  let modelName ← fields.str? "model_name"
  let dimensions ← fields.positiveInt? "dimensions"
  let vector ← (fields.lookup "vector").bind (vectorFromJson floats)
  if h : modelName ≠ "" ∧ vector.length = dimensions.val then
    some ⟨modelName, dimensions, vector, h.1, h.2⟩
  else none

def embeddingEntryFieldNames : List String :=
  ["version", "cache_key", "text_sha256", "model_name", "dimensions", "embedding"]

variable (floats) in
/-- The fields of `EmbeddingCacheEntry`, without `validate_embedding_identity`. -/
def embeddingEntryFromJson (value : Json.Value) : Option (EmbeddingCacheEntry floats) := do
  let fields ← objectFields? embeddingEntryFieldNames value
  let _ ← fields.literal? "version" (.int embeddingCacheEntryVersion)
  let cacheKey ← fields.digest? "cache_key"
  let textSha256 ← fields.digest? "text_sha256"
  let modelName ← fields.str? "model_name"
  let dimensions ← fields.positiveInt? "dimensions"
  let embedding ← (fields.lookup "embedding").bind (textEmbeddingFromJson floats)
  return ⟨cacheKey, textSha256, modelName, dimensions, embedding⟩

/-- `model_validate`, whose own errors are all caught; a `TypeError` is not. -/
def EmbeddingCacheEntry.accepted (entry : EmbeddingCacheEntry floats) :
    Except Raised (Option (EmbeddingCacheEntry floats)) :=
  match entry.validate with
  | .ok () => .ok (some entry)
  | .error failure => if failure.cls = .validationError then .ok none else .error failure

/-! ## The files -/

/-- A cache directory, with what its code takes from the platform. -/
structure FileEmbeddingCache (floats : FiniteFloats) where
  sha256 : Sha256
  maximumEntryBytes : PositiveInt
  /-- Whether `json` meets the recursion limit in a text. -/
  tooDeep : List Char → Bool
  tooDeep_entry : ∀ entry : EmbeddingCacheEntry floats,
    tooDeep ((Json.Value.obj entry.members).print Json.indented 0 ++ ['\n']) = false

structure EmbeddingWorld where
  files : String → FileNode
  asked : List (List String)

abbrev EmbeddingProgram := Stateful EmbeddingWorld Raised

namespace FileEmbeddingCache

def cacheFailure (message : String) : Raised := ⟨.embeddingCacheError, message⟩

variable (cache : FileEmbeddingCache floats)

def identity (text modelName : String) (dimensions : PositiveInt) :
    Except Raised (Sha256Digest × Sha256Digest) := do
  raiseIf (isBlank modelName) ⟨.valueError, "model_name must not be blank"⟩
  let textSha256 := calculateTextSha256 cache.sha256 text
  return (textSha256, buildEmbeddingCacheKey cache.sha256 textSha256 modelName dimensions)

def parseEntry (text : List Char) : Except Raised (Option (EmbeddingCacheEntry floats)) := do
  raiseIf (cache.tooDeep text = true) ⟨.recursionError, "maximum recursion depth exceeded"⟩
  match (loadsNoDuplicateKeys text).bind (embeddingEntryFromJson floats) with
  | none => return none
  | some entry => entry.accepted

def entryMatches (entry : EmbeddingCacheEntry floats) (cacheKey textSha256 : Sha256Digest)
    (modelName : String) (dimensions : PositiveInt) : Except Raised Bool := do
  if (← compareDigest entry.cacheKey.val cacheKey.val) = false then return false
  if (← compareDigest entry.textSha256.val textSha256.val) = false then return false
  if (← compareDigest entry.modelName modelName) = false then return false
  return decide (entry.dimensions = dimensions)

/-- The text of an entry file; the translation of line ends changes blanks only. -/
def readEntry : FileNode → Except Raised (Option (List Char))
  | .symlink => .error (cacheFailure "embedding cache entry must not be a symlink")
  | .absent => .ok none
  | .directory => .error (cacheFailure "embedding cache entry must be a regular file")
  | .regular content =>
    if cache.maximumEntryBytes.val < content.length then .ok none
    else .ok (TextFile.decode content)

def get (files : String → FileNode) (text modelName : String) (dimensions : PositiveInt) :
    Except Raised (Option (TextEmbedding floats)) := do
  let (textSha256, cacheKey) ← cache.identity text modelName dimensions
  match ← cache.readEntry (files cacheKey.val) with
  | none => return none
  | some payloadText =>
    match ← cache.parseEntry payloadText with
    | none => return none
    | some entry =>
      if (← entryMatches entry cacheKey textSha256 modelName dimensions) = false then
        return none
      return some entry.embedding

/-- The key of `put` and the bytes it writes. -/
def serializeEntry (text : String) (embedding : TextEmbedding floats) :
    Except Raised (String × List UInt8) := do
  let (textSha256, cacheKey) ← cache.identity text embedding.modelName embedding.dimensions
  let entry : EmbeddingCacheEntry floats :=
    ⟨cacheKey, textSha256, embedding.modelName, embedding.dimensions, embedding⟩
  entry.validate
  let dumped ← jsonDumps Json.indented (.obj entry.members)
  return (cacheKey.val, TextFile.encode (dumped ++ ['\n']))

def put (text : String) (embedding : TextEmbedding floats) : EmbeddingProgram Unit := do
  raiseIf (isBlank text) (cacheFailure "blank text must not be cached")
  let (cacheKey, serialized) ← cache.serializeEntry text embedding
  raiseIf (cache.maximumEntryBytes.val < serialized.length)
    (cacheFailure "embedding cache entry exceeds maximum size")
  let world ← Stateful.get
  raiseIf ((world.files cacheKey).isSymlinkOrDir = true)
    (cacheFailure "embedding cache entry path is unsafe")
  Stateful.set { world with files := Function.update world.files cacheKey (.regular serialized) }

end FileEmbeddingCache

/-! ## The provider -/

structure EmbeddingProvider (floats : FiniteFloats) where
  modelName : String
  dimensions : PositiveInt
  embedTexts : List String → Except Raised (List (TextEmbedding floats))

def EmbeddingProvider.ask (provider : EmbeddingProvider floats) (texts : List String) :
    EmbeddingProgram (List (TextEmbedding floats)) := do
  let world ← Stateful.get
  Stateful.set { world with asked := texts :: world.asked }
  provider.embedTexts texts

structure CachingEmbeddingProvider (floats : FiniteFloats) where
  provider : EmbeddingProvider floats
  cache : FileEmbeddingCache floats

namespace CachingEmbeddingProvider

variable (caching : CachingEmbeddingProvider floats)

def lookUp (files : String → FileNode) :
    List String → Except Raised (List String × List (String × TextEmbedding floats))
  | [] => .ok ([], [])
  | text :: texts => do
      let cached ← caching.cache.get files text caching.provider.modelName
        caching.provider.dimensions
      let (missing, found) ← lookUp files texts
      match cached with
      | none => return (text :: missing, found)
      | some embedding => return (missing, (text, embedding) :: found)

def putAll : List (String × TextEmbedding floats) → EmbeddingProgram Unit
  | [] => return ()
  | (text, embedding) :: rest => do
      raiseIf (embedding.modelName ≠ caching.provider.modelName ∨
          embedding.dimensions ≠ caching.provider.dimensions)
        ⟨.embeddingProviderError, "provider embedding identity did not match configuration"⟩
      caching.cache.put text embedding
      putAll rest

/-- `embeddings_by_text[text] for text in normalized_texts` -/
def collect (embeddings : List (String × TextEmbedding floats)) :
    List String → Except Raised (List (TextEmbedding floats))
  | [] => .ok []
  | text :: texts =>
    match embeddings.lookup text with
    | none => .error ⟨.external "KeyError" .exception, text⟩
    | some embedding => (collect embeddings texts).map (embedding :: ·)

def embedTexts (texts : List String) : EmbeddingProgram (List (TextEmbedding floats)) := do
  if texts = [] ∨ texts.any isBlank then caching.provider.ask texts
  else
    let world ← Stateful.get
    let (missing, found) ← caching.lookUp world.files texts.eraseDups
    if missing = [] then collect found texts
    else
      let generated ← caching.provider.ask missing
      raiseIf (generated.length ≠ missing.length)
        ⟨.embeddingProviderError, "provider returned an unexpected embedding count"⟩
      caching.putAll (missing.zip generated)
      collect (found ++ missing.zip generated) texts

def embedAll (world : EmbeddingWorld) :
    List (List String) → List (Except Raised (List (TextEmbedding floats))) × EmbeddingWorld
  | [] => ([], world)
  | texts :: calls =>
    let (answer, next) := caching.embedTexts texts world
    let (answers, last) := embedAll next calls
    (answer :: answers, last)

end CachingEmbeddingProvider

end AgenticLab
