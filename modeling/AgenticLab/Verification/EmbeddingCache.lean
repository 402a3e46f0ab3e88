import AgenticLab.Model.EmbeddingCache
import AgenticLab.Model.Reports.ArchiveExport
import AgenticLab.Verification.StateFile

/-! # The embedding cache is transparent -/

namespace AgenticLab

variable {floats : FiniteFloats}

theorem vectorFromJson_members (vector : List floats.Float) :
    vectorFromJson floats
      (.arr (vector.map fun number => .atom (.float (floats.repr number)))) = some vector := by
  rw [vectorFromJson]
  induction vector with
  | nil => rfl
  | cons number vector ih =>
    rw [List.map_cons, List.mapM_cons, ih]
    simp [floats.ofAtom_repr]

theorem textEmbeddingFromJson_members (embedding : TextEmbedding floats) :
    textEmbeddingFromJson floats (.obj embedding.members) = some embedding := by
  have hkeys : embedding.members.map Prod.fst = textEmbeddingFieldNames := rfl
  rw [textEmbeddingFromJson, objectFields?_eq hkeys]
  have hmodel : embedding.members.str? "model_name" = some embedding.modelName :=
    str?_of_lookup rfl
  have hdimensions : embedding.members.positiveInt? "dimensions" = some embedding.dimensions :=
    positiveInt?_of_lookup rfl
  have hvector : (embedding.members.lookup "vector").bind (vectorFromJson floats) =
      some embedding.vector := vectorFromJson_members embedding.vector
  simp only [Option.bind_eq_bind, Option.bind_some, hmodel, hdimensions, hvector]
  rw [dif_pos ⟨embedding.modelName_ne, embedding.length_eq⟩]

theorem embeddingEntryFromJson_members (entry : EmbeddingCacheEntry floats) :
    embeddingEntryFromJson floats (.obj entry.members) = some entry := by
  have hkeys : entry.members.map Prod.fst = embeddingEntryFieldNames := rfl
  rw [embeddingEntryFromJson, objectFields?_eq hkeys]
  have hversion : entry.members.literal? "version" (.int embeddingCacheEntryVersion) = some () :=
    literal?_of_lookup rfl
  have hkey : entry.members.digest? "cache_key" = some entry.cacheKey := digest?_of_lookup rfl
  have htext : entry.members.digest? "text_sha256" = some entry.textSha256 :=
    digest?_of_lookup rfl
  have hmodel : entry.members.str? "model_name" = some entry.modelName := str?_of_lookup rfl
  have hdimensions : entry.members.positiveInt? "dimensions" = some entry.dimensions :=
    positiveInt?_of_lookup rfl
  have hembedding : (entry.members.lookup "embedding").bind (textEmbeddingFromJson floats) =
      some entry.embedding := textEmbeddingFromJson_members entry.embedding
  simp only [Option.bind_eq_bind, Option.bind_some, Option.pure_def, hversion, hkey, htext, hmodel,
    hdimensions, hembedding]

theorem keysUnique_embeddingEntry (entry : EmbeddingCacheEntry floats) :
    (Json.Value.obj entry.members).keysUnique = true := by
  have hvector : ∀ vector : List floats.Float, Json.itemsKeysUnique
      (vector.map fun number => .atom (.float (floats.repr number))) = true := by
    intro vector
    induction vector with
    | nil => rfl
    | cons number vector ih => rw [List.map_cons, Json.itemsKeysUnique, ih]; rfl
  simp [EmbeddingCacheEntry.members, TextEmbedding.members, Json.Value.keysUnique,
    Json.membersKeysUnique, hvector]

theorem compareDigest_of_isAscii {a b : String} (ha : isAscii a = true) (hb : isAscii b = true) :
    compareDigest a b = .ok (a == b) := by
  simp [compareDigest, raiseIf, ha, hb]

theorem isAscii_of_compareDigest {a b : String} {equal : Bool}
    (h : compareDigest a b = .ok equal) : isAscii a = true ∧ isAscii b = true := by
  rw [compareDigest, raiseIf_bind_eq_ok, not_not] at h
  exact h.1

theorem isAscii_digest (digest : Sha256Digest) : isAscii digest.val = true := by
  have hvalid := digest.property
  rw [isValidSha256Digest, Bool.and_eq_true, List.all_eq_true] at hvalid
  have halphabet : hexAlphabet.all (·.toNat < 128) = true := by decide +kernel
  rw [isAscii, List.all_eq_true]
  intro character hmem
  exact List.all_eq_true.mp halphabet character (List.contains_iff_mem.mp (hvalid.2 character hmem))

/-! ## One entry -/

namespace FileEmbeddingCache

variable {cache : FileEmbeddingCache floats} {files : String → FileNode} {text modelName : String}
  {dimensions : PositiveInt} {embedding : TextEmbedding floats} {key : String}
  {serialized : List UInt8}

variable (cache) in
def entryKey (text modelName : String) (dimensions : PositiveInt) : String :=
  (buildEmbeddingCacheKey cache.sha256 (calculateTextSha256 cache.sha256 text) modelName
    dimensions).val

variable (cache) in
def CollisionFree (identities : List (String × String × PositiveInt)) : Prop :=
  ∀ identity ∈ identities, ∀ other ∈ identities,
    cache.entryKey identity.1 identity.2.1 identity.2.2 =
      cache.entryKey other.1 other.2.1 other.2.2 → identity = other

variable (cache text embedding) in
/-- The entry of `put`. -/
def entryOf : EmbeddingCacheEntry floats :=
  ⟨buildEmbeddingCacheKey cache.sha256 (calculateTextSha256 cache.sha256 text) embedding.modelName
    embedding.dimensions, calculateTextSha256 cache.sha256 text, embedding.modelName,
    embedding.dimensions, embedding⟩

theorem identity_eq (h : isBlank modelName = false) :
    cache.identity text modelName dimensions =
      .ok (calculateTextSha256 cache.sha256 text, buildEmbeddingCacheKey cache.sha256
        (calculateTextSha256 cache.sha256 text) modelName dimensions) := by
  simp [identity, raiseIf, h]

theorem validate_entryOf :
    (cache.entryOf text embedding).validate = .ok () ↔
      isBlank embedding.modelName = false ∧ isAscii embedding.modelName = true := by
  rw [EmbeddingCacheEntry.validate, raiseIf_bind_eq_ok]
  refine and_congr (Bool.not_eq_true _).to_iff ⟨fun h => ?_, fun h => ?_⟩
  · obtain ⟨equal, hequal, -⟩ := bind_eq_ok.mp h
    exact (isAscii_of_compareDigest hequal).1
  · simp [entryOf, compareDigest_of_isAscii h h, raiseIf]

theorem serializeEntry_eq_ok :
    cache.serializeEntry text embedding = .ok (key, serialized) ↔
      (isBlank embedding.modelName = false ∧ isAscii embedding.modelName = true) ∧
        key = cache.entryKey text embedding.modelName embedding.dimensions ∧
        ∃ dumped,
          jsonDumps Json.indented (.obj (cache.entryOf text embedding).members) = .ok dumped ∧
          serialized = TextFile.encode (dumped ++ ['\n']) := by
  constructor
  · intro h
    obtain ⟨⟨textSha256, cacheKey⟩, hidentity, h⟩ := bind_eq_ok.mp h
    rw [identity, raiseIf_bind_eq_ok] at hidentity
    cases Except.ok.inj hidentity.2
    obtain ⟨_, hvalidate, h⟩ := bind_eq_ok.mp h
    obtain ⟨dumped, hdumped, hpair⟩ := bind_eq_ok.mp h
    cases Except.ok.inj hpair
    exact ⟨validate_entryOf.mp hvalidate, rfl, dumped, hdumped, rfl⟩
  · rintro ⟨hmodel, rfl, dumped, hdumped, rfl⟩
    have hvalidate : (cache.entryOf text embedding).validate = .ok () :=
      validate_entryOf.mpr hmodel
    rw [entryOf] at hvalidate hdumped
    rw [serializeEntry, identity_eq hmodel.1, ok_bind]
    simp only [hvalidate, hdumped, ok_bind]
    rfl

theorem parseEntry_written (hmodel : isBlank embedding.modelName = false ∧
    isAscii embedding.modelName = true) {dumped : List Char}
    (hdumped : jsonDumps Json.indented (.obj (cache.entryOf text embedding).members) = .ok dumped) :
    cache.parseEntry (dumped ++ ['\n']) = .ok (some (cache.entryOf text embedding)) := by
  have hshallow : cache.tooDeep (dumped ++ ['\n']) = false := by
    rw [← (jsonDumps_eq_ok.mp hdumped).2]
    exact cache.tooDeep_entry _
  have hloads := loadsNoDuplicateKeys_of_jsonDumps hdumped (keysUnique_embeddingEntry _)
    (List.all_eq_true.mp (by decide +kernel : ['\n'].all Json.isSpace = true))
  rw [parseEntry, raiseIf, if_neg (by rw [hshallow]; decide), ok_bind, hloads, Option.bind_some,
    embeddingEntryFromJson_members]
  simp only [EmbeddingCacheEntry.accepted, validate_entryOf.mpr hmodel]

theorem entryMatches_entryOf (hascii : isAscii embedding.modelName = true) :
    entryMatches (cache.entryOf text embedding) (cache.entryOf text embedding).cacheKey
      (cache.entryOf text embedding).textSha256 embedding.modelName embedding.dimensions =
        .ok true := by
  simp [entryMatches, entryOf, compareDigest_of_isAscii, isAscii_digest, hascii]

theorem get_absent (hmodel : isBlank modelName = false)
    (hfile : files (cache.entryKey text modelName dimensions) = .absent) :
    cache.get files text modelName dimensions = .ok none := by
  rw [entryKey] at hfile
  simp only [get, identity_eq hmodel, ok_bind, hfile, readEntry]
  rfl

theorem get_serialized (h : cache.serializeEntry text embedding = .ok (key, serialized))
    (hfits : serialized.length ≤ cache.maximumEntryBytes.val)
    (hfile : files key = .regular serialized) :
    cache.get files text embedding.modelName embedding.dimensions = .ok (some embedding) := by
  obtain ⟨hmodel, rfl, dumped, hdumped, rfl⟩ := serializeEntry_eq_ok.mp h
  rw [entryKey] at hfile
  have hread : cache.readEntry (.regular (TextFile.encode (dumped ++ ['\n']))) =
      .ok (some (dumped ++ ['\n'])) := by
    rw [readEntry, if_neg (by omega), TextFile.decode_encode]
  have hmatches : entryMatches (cache.entryOf text embedding)
      (cache.entryOf text embedding).cacheKey (cache.entryOf text embedding).textSha256
      embedding.modelName embedding.dimensions = .ok true := entryMatches_entryOf hmodel.2
  simp only [entryOf] at hmatches
  simp only [get, identity_eq hmodel.1, ok_bind, hfile, hread, parseEntry_written hmodel hdumped]
  simp [entryOf, hmatches]

theorem put_eq {world : EmbeddingWorld} (htext : isBlank text = false)
    (h : cache.serializeEntry text embedding = .ok (key, serialized)) :
    cache.put text embedding world =
      if cache.maximumEntryBytes.val < serialized.length then
        (.error (cacheFailure "embedding cache entry exceeds maximum size"), world)
      else if (world.files key).isSymlinkOrDir = true then
        (.error (cacheFailure "embedding cache entry path is unsafe"), world)
      else (.ok (),
        { world with files := Function.update world.files key (.regular serialized) }) := by
  rw [put, run_raiseIf_bind, if_neg (by simp [htext]), Stateful.run_lift_bind_of_ok h]
  change (((liftM (raiseIf _ _) : EmbeddingProgram Unit) >>= _) world) = _
  rw [run_raiseIf_bind]
  split_ifs with hlarge hunsafe
  · rfl
  · rw [Stateful.run_get_bind, run_raiseIf_bind, if_pos hunsafe]
  · rw [Stateful.run_get_bind, run_raiseIf_bind, if_neg hunsafe, Stateful.run_set]

/-- `put` writes this embedding: it has an entry, and the entry is not too large. -/
def Accepts (cache : FileEmbeddingCache floats) (text : String) (embedding : TextEmbedding floats) :
    Prop :=
  ∃ key serialized, cache.serializeEntry text embedding = .ok (key, serialized) ∧
    serialized.length ≤ cache.maximumEntryBytes.val

/-- A directory that nothing but the cache has written to, with what was put into it. -/
inductive WrittenBy (cache : FileEmbeddingCache floats) :
    List (String × TextEmbedding floats) → (String → FileNode) → Prop
  | empty : WrittenBy cache [] fun _ => .absent
  | put {puts : List (String × TextEmbedding floats)} {world next : EmbeddingWorld} {text : String}
      {embedding : TextEmbedding floats} (h : WrittenBy cache puts world.files)
      (hput : cache.put text embedding world = (.ok (), next)) :
      WrittenBy cache ((text, embedding) :: puts) next.files

theorem files_of_put {world next : EmbeddingWorld}
    (h : cache.put text embedding world = (.ok (), next)) :
    ∃ key serialized, cache.serializeEntry text embedding = .ok (key, serialized) ∧
      next.files = Function.update world.files key (.regular serialized) := by
  have hblank : isBlank text = false := by
    by_contra hblank
    rw [put, run_raiseIf_bind, if_pos (by simpa using hblank)] at h
    cases h
  cases hserialize : cache.serializeEntry text embedding with
  | error failure =>
    rw [put, run_raiseIf_bind, if_neg (by simp [hblank]),
      Stateful.run_lift_bind_of_error hserialize] at h
    cases h
  | ok pair =>
    obtain ⟨key, serialized⟩ := pair
    refine ⟨key, serialized, rfl, ?_⟩
    rw [put_eq hblank hserialize] at h
    split_ifs at h <;> cases h
    rfl

theorem WrittenBy.file_eq {puts : List (String × TextEmbedding floats)}
    (h : cache.WrittenBy puts files) (key : String) :
    files key = .absent ∨ ∃ text embedding serialized, (text, embedding) ∈ puts ∧
      cache.serializeEntry text embedding = .ok (key, serialized) ∧
        files key = .regular serialized := by
  induction h with
  | empty => exact .inl rfl
  | @put puts world next text embedding h hput ih =>
    obtain ⟨written, serialized, hserialize, hfiles⟩ := files_of_put hput
    by_cases hkey : key = written
    · subst hkey
      refine .inr ⟨text, embedding, serialized, List.mem_cons_self, hserialize, ?_⟩
      rw [hfiles, Function.update_self]
    · rw [hfiles, Function.update_of_ne hkey]
      rcases ih with habsent | ⟨text, embedding, serialized, hmem, hold⟩
      · exact .inl habsent
      · exact .inr ⟨text, embedding, serialized, List.mem_cons_of_mem _ hmem, hold⟩

end FileEmbeddingCache

/-! ## The caching provider -/

/-- A provider that has one embedding for each text, of the model and with the dimensions it is
configured with. -/
structure EmbeddingProvider.Returns (provider : EmbeddingProvider floats)
    (f : String → TextEmbedding floats) : Prop where
  embedTexts_eq : ∀ texts : List String, texts.any isBlank = false →
    provider.embedTexts texts = .ok (texts.map f)
  modelName_eq : ∀ text, isBlank text = false → (f text).modelName = provider.modelName
  dimensions_eq : ∀ text, isBlank text = false → (f text).dimensions = provider.dimensions

namespace CachingEmbeddingProvider

variable {caching : CachingEmbeddingProvider floats} {f : String → TextEmbedding floats}
  {known : String → Prop} {files : String → FileNode} {texts : List String}

variable (caching) in
def keyOf (text : String) : String :=
  caching.cache.entryKey text caching.provider.modelName caching.provider.dimensions

variable (caching) in
def isMissing (files : String → FileNode) (text : String) : Bool :=
  files (caching.keyOf text) = .absent

structure Serves (caching : CachingEmbeddingProvider floats) (f : String → TextEmbedding floats)
    (known : String → Prop) : Prop where
  returns : caching.provider.Returns f
  nonblank : ∀ text, known text → isBlank text = false
  accepts : ∀ text, known text → caching.cache.Accepts text (f text)
  injective : ∀ text other, known text → known other →
    caching.keyOf text = caching.keyOf other → text = other

/-- The entry files of these texts hold what the provider returns, where they are present. -/
def Compatible (caching : CachingEmbeddingProvider floats) (f : String → TextEmbedding floats)
    (known : String → Prop) (files : String → FileNode) : Prop :=
  ∀ text, known text → caching.isMissing files text = false →
    ∃ serialized, caching.cache.serializeEntry text (f text) =
      .ok (caching.keyOf text, serialized) ∧ files (caching.keyOf text) = .regular serialized

variable {text : String}

theorem Serves.serialize (h : caching.Serves f known) (hknown : known text) :
    ∃ serialized, caching.cache.serializeEntry text (f text) =
      .ok (caching.keyOf text, serialized) ∧
        serialized.length ≤ caching.cache.maximumEntryBytes.val := by
  obtain ⟨key, serialized, hserialize, hfits⟩ := h.accepts text hknown
  have hblank := h.nonblank text hknown
  obtain ⟨-, hkey, -⟩ := FileEmbeddingCache.serializeEntry_eq_ok.mp hserialize
  rw [h.returns.modelName_eq text hblank, h.returns.dimensions_eq text hblank] at hkey
  subst hkey
  exact ⟨serialized, hserialize, hfits⟩

theorem Serves.get (h : caching.Serves f known) (hfiles : caching.Compatible f known files)
    (hknown : known text) :
    caching.cache.get files text caching.provider.modelName caching.provider.dimensions =
      .ok (if caching.isMissing files text then none else some (f text)) := by
  have hblank := h.nonblank text hknown
  obtain ⟨serialized, hserialize, hfits⟩ := h.serialize hknown
  cases hmissing : caching.isMissing files text with
  | true =>
    have hmodel := (FileEmbeddingCache.serializeEntry_eq_ok.mp hserialize).1.1
    rw [h.returns.modelName_eq text hblank] at hmodel
    exact FileEmbeddingCache.get_absent hmodel (of_decide_eq_true hmissing)
  | false =>
    obtain ⟨stored, hstored, hfile⟩ := hfiles text hknown hmissing
    cases hserialize.symm.trans hstored
    rw [← h.returns.modelName_eq text hblank, ← h.returns.dimensions_eq text hblank]
    exact FileEmbeddingCache.get_serialized hserialize hfits hfile

theorem Serves.lookUp (h : caching.Serves f known) (hfiles : caching.Compatible f known files)
    (hknown : ∀ text ∈ texts, known text) :
    caching.lookUp files texts = .ok (texts.filter (caching.isMissing files),
      (texts.filter (!caching.isMissing files ·)).map fun text => (text, f text)) := by
  induction texts with
  | nil => rfl
  | cons text texts ih =>
    obtain ⟨hhead, htail⟩ := List.forall_mem_cons.mp hknown
    rw [CachingEmbeddingProvider.lookUp, h.get hfiles hhead, ok_bind, ih htail, ok_bind]
    cases hmissing : caching.isMissing files text with
    | true => simp [hmissing]
    | false => simp [hmissing]

variable {keys : List String}

theorem lookup_map_of_mem (h : text ∈ keys) :
    (keys.map fun text => (text, f text)).lookup text = some (f text) := by
  induction keys with
  | nil => cases h
  | cons key keys ih =>
    rw [List.map_cons, List.lookup_cons]
    by_cases hkey : text = key
    · simp [hkey]
    · rw [beq_false_of_ne hkey]
      exact ih ((List.mem_cons.mp h).resolve_left hkey)

theorem collect_map (h : ∀ text ∈ texts, text ∈ keys) :
    collect (keys.map fun text => (text, f text)) texts = .ok (texts.map f) := by
  induction texts with
  | nil => rfl
  | cons text texts ih =>
    obtain ⟨hhead, htail⟩ := List.forall_mem_cons.mp h
    rw [collect, lookup_map_of_mem hhead]
    simp [ih htail, Except.map]

variable {world : EmbeddingWorld}

theorem Serves.put (h : caching.Serves f known)
    (hfiles : caching.Compatible f known world.files) (hknown : known text) :
    ∃ next, caching.cache.put text (f text) world = (.ok (), next) ∧ next.asked = world.asked ∧
      caching.Compatible f known next.files ∧ ∀ other, known other →
        caching.isMissing next.files other =
          (caching.isMissing world.files other && other != text) := by
  obtain ⟨serialized, hserialize, hfits⟩ := h.serialize hknown
  have hsafe : ¬(world.files (caching.keyOf text)).isSymlinkOrDir = true := by
    cases hmissing : caching.isMissing world.files text with
    | true => simp [of_decide_eq_true hmissing, FileNode.isSymlinkOrDir]
    | false =>
      obtain ⟨_, -, hfile⟩ := hfiles text hknown hmissing
      simp [hfile, FileNode.isSymlinkOrDir]
  refine ⟨⟨Function.update world.files (caching.keyOf text) (.regular serialized), world.asked⟩,
    ?_, rfl, ?_, ?_⟩
  · rw [FileEmbeddingCache.put_eq (h.nonblank text hknown) hserialize, if_neg (by omega),
      if_neg hsafe]
  · intro other hother hmissing
    by_cases hsame : other = text
    · subst hsame
      exact ⟨serialized, hserialize, Function.update_self _ _ _⟩
    · have hkey : caching.keyOf other ≠ caching.keyOf text :=
        fun hkey => hsame (h.injective other text hother hknown hkey)
      simp only [isMissing, Function.update_of_ne hkey] at hmissing ⊢
      exact hfiles other hother hmissing
  · intro other hother
    by_cases hsame : other = text
    · subst hsame
      simp [isMissing, Function.update_self]
    · have hkey : caching.keyOf other ≠ caching.keyOf text :=
        fun hkey => hsame (h.injective other text hother hknown hkey)
      simp [isMissing, Function.update_of_ne hkey, hsame]

theorem Serves.putAll (h : caching.Serves f known)
    (hfiles : caching.Compatible f known world.files) (hknown : ∀ text ∈ texts, known text) :
    ∃ next, caching.putAll (texts.map fun text => (text, f text)) world = (.ok (), next) ∧
      next.asked = world.asked ∧ caching.Compatible f known next.files ∧
      ∀ other, known other →
        caching.isMissing next.files other =
          (caching.isMissing world.files other && !texts.contains other) := by
  induction texts generalizing world with
  | nil => exact ⟨world, rfl, rfl, hfiles, by simp⟩
  | cons text texts ih =>
    obtain ⟨hhead, htail⟩ := List.forall_mem_cons.mp hknown
    obtain ⟨middle, hput, hasked, hmiddle, hmissing⟩ := h.put hfiles hhead
    obtain ⟨next, hrest, hnext, hcompatible, hothers⟩ := ih hmiddle htail
    have hblank := h.nonblank text hhead
    refine ⟨next, ?_, hnext.trans hasked, hcompatible, fun other hother => ?_⟩
    · rw [List.map_cons, CachingEmbeddingProvider.putAll, run_raiseIf_bind,
        if_neg (by simp [h.returns.modelName_eq text hblank,
          h.returns.dimensions_eq text hblank]), Stateful.run_bind_of_ok hput, hrest]
    · rw [hothers other hother, hmissing other hother, List.contains_cons, Bool.not_or,
        Bool.and_assoc]
      rfl

/-! ## Runs -/

def askedTexts (world : EmbeddingWorld) : List String :=
  (world.asked.filter (!·.any isBlank)).flatten

/-- The invariant: nothing was asked for twice, since what was asked for is stored. -/
structure AskedOnce (caching : CachingEmbeddingProvider floats) (f : String → TextEmbedding floats)
    (known : String → Prop) (world : EmbeddingWorld) : Prop where
  compatible : caching.Compatible f known world.files
  nodup : (askedTexts world).Nodup
  stored : ∀ text ∈ askedTexts world, known text ∧ caching.isMissing world.files text = false

theorem nodup_eraseDups (texts : List String) : texts.eraseDups.Nodup := by
  induction hlength : texts.length using Nat.strong_induction_on generalizing texts with
  | _ length ih =>
    cases texts with
    | nil => exact List.nodup_nil
    | cons text texts =>
      rw [List.eraseDups_cons, List.nodup_cons, List.mem_eraseDups]
      refine ⟨by simp, ih _ ?_ _ rfl⟩
      have hle := List.length_filter_le (fun other => !other == text) texts
      rw [List.length_cons] at hlength
      omega

theorem zip_map_right (texts : List String) :
    texts.zip (texts.map f) = texts.map fun text => (text, f text) := by
  induction texts with
  | nil => rfl
  | cons text texts ih => rw [List.map_cons, List.zip_cons_cons, ih, List.map_cons]

theorem AskedOnce.ask {world next : EmbeddingWorld} (hworld : caching.AskedOnce f known world)
    {missing : List String} (hnodup : missing.Nodup)
    (hmissing : ∀ text ∈ missing, known text ∧ isBlank text = false ∧
      caching.isMissing world.files text = true)
    (hasked : next.asked = missing :: world.asked)
    (hcompatible : caching.Compatible f known next.files)
    (hstored : ∀ other, known other → caching.isMissing next.files other =
      (caching.isMissing world.files other && !missing.contains other)) :
    caching.AskedOnce f known next := by
  have hblank : missing.any isBlank = false := by
    rw [List.any_eq_false]
    intro text hmem
    rw [(hmissing text hmem).2.1]
    decide
  have htexts : askedTexts next = missing ++ askedTexts world := by
    simp [askedTexts, hasked, hblank]
  refine ⟨hcompatible, ?_, fun text hmem => ?_⟩
  · rw [htexts, List.nodup_append']
    refine ⟨hnodup, hworld.nodup, fun text hnew hold => ?_⟩
    have habsent := (hmissing text hnew).2.2
    rw [(hworld.stored text hold).2] at habsent
    cases habsent
  · rw [htexts, List.mem_append] at hmem
    rcases hmem with hnew | hold
    · refine ⟨(hmissing text hnew).1, ?_⟩
      simp [hstored text (hmissing text hnew).1, hnew]
    · obtain ⟨hknown, hpresent⟩ := hworld.stored text hold
      exact ⟨hknown, by rw [hstored text hknown, hpresent, Bool.false_and]⟩

theorem AskedOnce.embedTexts (h : caching.Serves f known)
    (hworld : caching.AskedOnce f known world) (hnonempty : texts ≠ [])
    (hblank : texts.any isBlank = false) (hknown : ∀ text ∈ texts, known text) :
    ∃ next, caching.embedTexts texts world = (.ok (texts.map f), next) ∧
      caching.AskedOnce f known next := by
  have hdistinct : ∀ text ∈ texts.eraseDups, known text :=
    fun text hmem => hknown text (List.mem_eraseDups.mp hmem)
  have hmem : ∀ text ∈ texts.eraseDups.filter (caching.isMissing world.files),
      known text ∧ isBlank text = false ∧ caching.isMissing world.files text = true := by
    intro text hmem
    obtain ⟨hdup, hmissing⟩ := List.mem_filter.mp hmem
    exact ⟨hdistinct text hdup, h.nonblank text (hdistinct text hdup), hmissing⟩
  rw [CachingEmbeddingProvider.embedTexts, if_neg (by simp [hnonempty, hblank]),
    Stateful.run_get_bind, Stateful.run_lift_bind_of_ok (h.lookUp hworld.compatible hdistinct)]
  generalize hmisses : texts.eraseDups.filter (caching.isMissing world.files) = missing at hmem
  by_cases hnone : missing = []
  · refine ⟨world, ?_, hworld⟩
    simp only [if_pos hnone]
    rw [collect_map]
    · rfl
    · intro text htext
      have hpresent := List.filter_eq_nil_iff.mp (hmisses.trans hnone) text
        (List.mem_eraseDups.mpr htext)
      simp [htext, hpresent]
  · have hnodup : missing.Nodup := hmisses ▸ (nodup_eraseDups texts).filter _
    have hgenerated : caching.provider.embedTexts missing = .ok (missing.map f) := by
      refine h.returns.embedTexts_eq missing (List.any_eq_false.mpr fun text htext => ?_)
      rw [(hmem text htext).2.1]
      decide
    have hcompatible : caching.Compatible f known
        (⟨world.files, missing :: world.asked⟩ : EmbeddingWorld).files := hworld.compatible
    obtain ⟨next, hput, hasked, hcompatible, hstored⟩ :=
      h.putAll hcompatible fun text htext => (hmem text htext).1
    have hask : caching.provider.ask missing world =
        (.ok (missing.map f), ⟨world.files, missing :: world.asked⟩) := by
      rw [← hgenerated]
      rfl
    refine ⟨next, ?_, hworld.ask hnodup hmem hasked hcompatible hstored⟩
    simp only [if_neg hnone]
    rw [Stateful.run_bind_of_ok hask, run_raiseIf_bind, if_neg (by simp), zip_map_right,
      Stateful.run_bind_of_ok hput, ← List.map_append, collect_map]
    · rfl
    · intro text htext
      simp [← hmisses, htext]

theorem AskedOnce.step (h : caching.Serves f known) (hworld : caching.AskedOnce f known world)
    (hknown : texts.any isBlank = false → ∀ text ∈ texts, known text) :
    ∃ next, caching.embedTexts texts world = (caching.provider.embedTexts texts, next) ∧
      caching.AskedOnce f known next := by
  by_cases hdelegated : texts = [] ∨ texts.any isBlank = true
  · refine ⟨⟨world.files, texts :: world.asked⟩, ?_, ?_⟩
    · rw [CachingEmbeddingProvider.embedTexts, if_pos hdelegated]
      rfl
    · have hasked : askedTexts ⟨world.files, texts :: world.asked⟩ = askedTexts world := by
        rw [askedTexts, askedTexts]
        rcases hdelegated with rfl | hblank
        · simp
        · simp only [List.filter_cons, hblank]
          rfl
      exact ⟨hworld.compatible, by rw [hasked]; exact hworld.nodup,
        by rw [hasked]; exact hworld.stored⟩
  · rw [not_or, Bool.not_eq_true] at hdelegated
    rw [h.returns.embedTexts_eq texts hdelegated.2]
    exact hworld.embedTexts h hdelegated.1 hdelegated.2 (hknown hdelegated.2)

theorem AskedOnce.embedAll (h : caching.Serves f known)
    (hworld : caching.AskedOnce f known world) (calls : List (List String))
    (hknown : ∀ texts ∈ calls, texts.any isBlank = false → ∀ text ∈ texts, known text) :
    (caching.embedAll world calls).1 = calls.map caching.provider.embedTexts ∧
      caching.AskedOnce f known (caching.embedAll world calls).2 := by
  induction calls generalizing world with
  | nil => exact ⟨rfl, hworld⟩
  | cons texts calls ih =>
    obtain ⟨hhead, htail⟩ := List.forall_mem_cons.mp hknown
    obtain ⟨next, hrun, hnext⟩ := hworld.step h hhead
    obtain ⟨hanswers, hlast⟩ := ih hnext htail
    simp only [CachingEmbeddingProvider.embedAll, hrun]
    exact ⟨by rw [List.map_cons, hanswers], hlast⟩

def cachedTexts (calls : List (List String)) : List String :=
  (calls.filter (!·.any isBlank)).flatten

theorem mem_cachedTexts {calls : List (List String)} :
    text ∈ cachedTexts calls ↔ ∃ texts ∈ calls, texts.any isBlank = false ∧ text ∈ texts := by
  simp [cachedTexts, List.mem_flatten, List.mem_filter, and_assoc]

/-- Starting from a directory of the cache, every call is answered as the provider answers it, and
no text is asked for twice, lists with a blank text apart. -/
theorem embedAll_transparent {puts : List (String × TextEmbedding floats)}
    (calls : List (List String)) (hreturns : caching.provider.Returns f)
    (hwritten : caching.cache.WrittenBy puts files)
    (hputs : ∀ text embedding, (text, embedding) ∈ puts →
      embedding.modelName = caching.provider.modelName →
        embedding.dimensions = caching.provider.dimensions → embedding = f text)
    (hfree : caching.cache.CollisionFree
      (puts.map (fun put => (put.1, put.2.modelName, put.2.dimensions)) ++
        (cachedTexts calls).map fun text =>
          (text, caching.provider.modelName, caching.provider.dimensions)))
    (haccepts : ∀ text ∈ cachedTexts calls, caching.cache.Accepts text (f text)) :
    (caching.embedAll ⟨files, []⟩ calls).1 = calls.map caching.provider.embedTexts ∧
      (askedTexts (caching.embedAll ⟨files, []⟩ calls).2).Nodup := by
  have hidentity : ∀ text ∈ cachedTexts calls,
      (text, caching.provider.modelName, caching.provider.dimensions) ∈
        puts.map (fun put => (put.1, put.2.modelName, put.2.dimensions)) ++
          (cachedTexts calls).map fun text =>
            (text, caching.provider.modelName, caching.provider.dimensions) :=
    fun text hmem => List.mem_append_right _ (List.mem_map_of_mem hmem)
  have hserves : caching.Serves f (· ∈ cachedTexts calls) := by
    refine ⟨hreturns, fun text hmem => ?_, haccepts, fun text other htext hother hkey => ?_⟩
    · obtain ⟨texts, -, hblank, htext⟩ := mem_cachedTexts.mp hmem
      exact Bool.eq_false_iff.mpr fun h =>
        Bool.false_ne_true (hblank.symm.trans (List.any_eq_true.mpr ⟨text, htext, h⟩))
    · exact congrArg Prod.fst (hfree _ (hidentity text htext) _ (hidentity other hother) hkey)
  have hcompatible : caching.Compatible f (· ∈ cachedTexts calls) files := by
    intro text hmem hpresent
    rcases hwritten.file_eq (caching.keyOf text) with habsent | hfile
    · simp [isMissing, habsent] at hpresent
    · obtain ⟨other, embedding, serialized, hput, hserialize, hfile⟩ := hfile
      obtain ⟨-, hkey, -⟩ := FileEmbeddingCache.serializeEntry_eq_ok.mp hserialize
      have hsame := hfree _ (hidentity text hmem) _
        (List.mem_append_left _ (List.mem_map_of_mem hput)) hkey
      obtain ⟨rfl, hmodel, hdimensions⟩ : text = other ∧
          caching.provider.modelName = embedding.modelName ∧
            caching.provider.dimensions = embedding.dimensions := by
        simpa [Prod.ext_iff] using hsame
      obtain rfl := hputs text embedding hput hmodel.symm hdimensions.symm
      exact ⟨serialized, hserialize, hfile⟩
  have hstart : caching.AskedOnce f (· ∈ cachedTexts calls) ⟨files, []⟩ :=
    ⟨hcompatible, List.nodup_nil, by simp [askedTexts]⟩
  obtain ⟨hanswers, hlast⟩ := hstart.embedAll hserves calls
    fun texts hcall hblank text htext => mem_cachedTexts.mpr ⟨texts, hcall, hblank, htext⟩
  exact ⟨hanswers, hlast.nodup⟩

def sampleFloats : FiniteFloats where
  Float := Unit
  ofAtom
    | .float word => if word.val = "1.0".toList then some () else none
    | _ => none
  repr _ := ⟨"1.0".toList, by decide⟩
  ofAtom_repr _ := rfl

def sampleEmbedding : TextEmbedding sampleFloats :=
  ⟨"model-001", ⟨1, Nat.one_pos⟩, [()], by decide, rfl⟩

def sampleEmbeddingProvider : EmbeddingProvider sampleFloats :=
  ⟨"model-001", ⟨1, Nat.one_pos⟩, fun texts => .ok (texts.map fun _ => sampleEmbedding)⟩

def sampleEmbeddingCache (maximumEntryBytes : PositiveInt) :
    CachingEmbeddingProvider sampleFloats :=
  ⟨sampleEmbeddingProvider, hashlibSha256, maximumEntryBytes, fun _ => false, fun _ => rfl⟩

theorem sampleEmbeddingProvider_returns :
    sampleEmbeddingProvider.Returns fun _ => sampleEmbedding :=
  ⟨fun _ _ => rfl, fun _ _ => rfl, fun _ _ => rfl⟩

theorem sampleCache_accepts :
    (sampleEmbeddingCache ⟨1000, by decide⟩).cache.Accepts "alpha" sampleEmbedding := by
  have hfits : ((sampleEmbeddingCache ⟨1000, by decide⟩).cache.serializeEntry "alpha"
      sampleEmbedding).toOption.any (·.2.length ≤ 1000) = true := by decide +kernel
  cases hserialize : (sampleEmbeddingCache ⟨1000, by decide⟩).cache.serializeEntry "alpha"
      sampleEmbedding with
  | error failure =>
    rw [hserialize] at hfits
    cases hfits
  | ok pair =>
    rw [hserialize] at hfits
    exact ⟨pair.1, pair.2, hserialize, of_decide_eq_true hfits⟩

example : cachedTexts [["alpha", "alpha"], [], ["beta"]] = ["alpha", "alpha", "beta"] := by
  decide +kernel

/-- A blank text is asked for in every call, and an entry that is too large makes a call fail that
the provider answers. -/
theorem embedAll_not_transparent :
    ¬(((sampleEmbeddingCache ⟨1000, by decide⟩).embedAll ⟨fun _ => .absent, []⟩
        [[" "], [" "]]).2.asked.flatten).Nodup ∧
      sampleEmbeddingProvider.embedTexts ["alpha"] = .ok [sampleEmbedding] ∧
      ((sampleEmbeddingCache ⟨1, by decide⟩).embedAll ⟨fun _ => .absent, []⟩
        [["alpha"]]).1.map Except.isOk = [false] :=
  ⟨by decide +kernel, rfl, by decide +kernel⟩

theorem embedAll_transparent_repeated :
    ((sampleEmbeddingCache ⟨1000, by decide⟩).embedAll ⟨fun _ => .absent, []⟩
        [["alpha", "alpha"], [" "], ["alpha"]]).1 =
          [["alpha", "alpha"], [" "], ["alpha"]].map sampleEmbeddingProvider.embedTexts ∧
      (askedTexts ((sampleEmbeddingCache ⟨1000, by decide⟩).embedAll ⟨fun _ => .absent, []⟩
        [["alpha", "alpha"], [" "], ["alpha"]]).2).Nodup := by
  have htexts : cachedTexts [["alpha", "alpha"], [" "], ["alpha"]] =
      ["alpha", "alpha", "alpha"] := by decide +kernel
  refine embedAll_transparent (f := fun _ => sampleEmbedding) _ sampleEmbeddingProvider_returns
    .empty (fun _ _ h => by cases h) ?_ ?_
  · rw [htexts]
    intro identity hidentity other hother _
    simp only [List.map_nil, List.nil_append, List.map_cons, List.mem_cons, List.not_mem_nil,
      or_false, or_self] at hidentity hother
    rw [hidentity, hother]
  · rw [htexts]
    intro text htext
    simp only [List.mem_cons, List.not_mem_nil, or_false, or_self] at htext
    subst htext
    exact sampleCache_accepts

end CachingEmbeddingProvider

end AgenticLab
