import AgenticLab.Model.Research.CachingLocalDocumentParser
import AgenticLab.Verification.Research.ParsedDocumentCache

/-! # One parse for each identity, and what is cached for it -/

namespace AgenticLab

variable {casefold : Casefold}

namespace FileParsedDocumentCache

variable {cache : FileParsedDocumentCache casefold} {identity : ParsedDocumentCacheIdentity}
  {document : ParsedLocalDocument casefold} {serialized : List UInt8}

theorem getUnlocked_serialized (h : cache.serializeEntry identity document = .ok serialized)
    (hfits : serialized.length ≤ cache.maximumEntryBytes.val)
    (other : ParsedDocumentCacheIdentity) :
    cache.getUnlocked other (.regular serialized) =
      .ok (if identity = other then some document else none) := by
  rw [serializeEntry, raiseIf_bind_eq_ok, Bool.not_eq_false] at h
  obtain ⟨hvalid, h⟩ := h
  obtain ⟨text, htext, hbytes⟩ := bind_eq_ok.mp h
  obtain rfl := Except.ok.inj hbytes
  have hshallow : cache.tooDeep (text ++ ['\n']) = false := by
    rw [← (jsonDumps_eq_ok.mp htext).2]
    exact cache.tooDeep_entry _
  have hloads := loadsNoDuplicateKeys_of_jsonDumps htext (keysUnique_entry _)
    (List.all_eq_true.mp (by decide +kernel : ['\n'].all Json.isSpace = true))
  have hparse : cache.parseEntry (text ++ ['\n']) =
      .ok (some (cache.entryOf identity document)) := by
    rw [parseEntry, raiseIf, if_neg (by rw [hshallow]; decide), ok_bind, hloads, Option.bind_some,
      cacheEntryFromJson_members, Option.filter_some, hvalid, if_pos rfl]
    rfl
  rw [getUnlocked, readEntryBytes, if_neg (by omega), ok_bind]
  simp only [TextFile.decode_encode, hparse, ok_bind]
  by_cases hsame : identity = other
  · simp [entryOf, hsame]
  · simp [entryOf, hsame]

theorem written_putUnlocked {fault : Option ReplaceFault} {node cell : FileNode}
    (h : (cache.putUnlocked identity document fault node).written? = some cell) :
    ∃ serialized, cache.serializeEntry identity document = .ok serialized ∧
      serialized.length ≤ cache.maximumEntryBytes.val ∧ cell = .regular serialized := by
  unfold putUnlocked at h
  cases hserialize : cache.serializeEntry identity document with
  | error failure =>
    rw [hserialize] at h
    cases h
  | ok serialized =>
    simp only [hserialize] at h
    refine ⟨serialized, rfl, ?_⟩
    split_ifs at h with hlarge hunsafe
    · cases h
    · cases h
    · refine ⟨by omega, ?_⟩
      rcases fault with _ | _ | _
      · exact (Option.some.inj h).symm
      · cases h
      · exact (Option.some.inj h).symm

end FileParsedDocumentCache

namespace CachingLocalDocumentParser

variable (caching : CachingLocalDocumentParser casefold)
  {request : ParseRequest caching} {document : ParsedLocalDocument casefold}
  {serialized : List UInt8} {fault : Option ReplaceFault}

theorem put_of_large {node : FileNode}
    (h : caching.cache.serializeEntry request.identity document = .ok serialized)
    (hlarge : caching.cache.maximumEntryBytes.val < serialized.length) :
    caching.entries.put request document fault node = .tooLarge := by
  simp only [entries, FileParsedDocumentCache.putUnlocked, h, if_pos hlarge]

theorem put_of_fits (h : caching.cache.serializeEntry request.identity document = .ok serialized)
    (hfits : ¬ caching.cache.maximumEntryBytes.val < serialized.length) :
    caching.entries.put request document none .absent = .stored (.regular serialized) := by
  simp only [entries, FileParsedDocumentCache.putUnlocked, h, if_neg hfits]
  rfl

theorem lookup_written {request other : ParseRequest caching} {node cell : FileNode}
    (h : (caching.entries.put request document fault node).written? = some cell) :
    caching.entries.lookup other cell =
      .ok (if request.identity = other.identity then some document else none) := by
  obtain ⟨serialized, hserialize, hfits, rfl⟩ := FileParsedDocumentCache.written_putUnlocked h
  exact FileParsedDocumentCache.getUnlocked_serialized hserialize hfits other.identity

theorem entries_oneKey (identity : ParsedDocumentCacheIdentity) :
    DoubleCheckedCache.OneKey caching.entries (identity.cacheKey caching.cache.sha256)
      fun request => request.identity = identity where
  key_eq := fun request hrequest => by
    rw [← hrequest]
    rfl
  lookup_put := fun request other document fault node cell hrequest hother _ hwritten => by
    rw [caching.lookup_written hwritten, if_pos (hrequest.trans hother.symm)]

theorem identity_contentSha256 (request : ParseRequest caching) :
    request.identity.rawContentSha256 = request.source.contentSha256 := by
  obtain ⟨_, -, hidentity⟩ := bind_eq_ok.mp request.identified
  rw [← Except.ok.inj hidentity]

def sampleCaching : CachingLocalDocumentParser asciiCasefold where
  parser := ⟨fun _ => .error ⟨.valueError, "local PDF could not be read"⟩,
    fun _ => .error ⟨.valueError, "local HWPX could not be read"⟩⟩
  cache := ⟨hashlibSha256, ⟨268435456, by decide⟩, fun _ => false, fun _ => rfl⟩
  pypdf := none

def sampleSource : LocalDocumentAccessResult :=
  ⟨["srv", "a.txt"], 1, ⟨hashlibSha256.hexdigest [65], hashlibSha256.hexdigest_valid _⟩⟩

theorem text_isBlank : isBlank "aira-text" = false := by decide

theorem exact_isBlank : isBlank "utf8-exact-v1" = false := by decide

def sampleParseRequest : ParseRequest sampleCaching where
  source := sampleSource
  identity := ⟨sampleSource.contentSha256, 1, .text, "aira-text", localDocumentParserRevision,
    "utf8-exact-v1", none, text_isBlank, exact_isBlank, isBlank_of_mem_none⟩
  identified := by rfl

def samplePolicy : LocalDocumentAccessPolicy := ⟨[["srv"]], ⟨1000, by decide⟩⟩

def sampleFiles : SourceFiles := fun path =>
  if path = ["srv", "a.txt"] then .regular [65] else .absent

variable {ω : Type} [DecidableEq ω]

/-- What a run of calls for one identity keeps to. The latest event stands first in the history. -/
structure ParsesOnce (identity : ParsedDocumentCacheIdentity) (s : caching.Workers ω) : Prop where
  /-- At most one worker is parsing. -/
  oneParser : ∀ worker other request otherRequest, s.phases worker = .computing request →
    s.phases other = .computing otherRequest → worker = other
  /-- Behind a put the inner parser is never invoked. -/
  notAgain : ∀ later earlier worker request,
    s.history = later ++ .invoked worker request :: earlier →
      ∀ other document, .stored other document ∉ earlier
  /-- A cached value is one that was put before for this identity. -/
  fromStore : ∀ later earlier worker request document,
    s.history = later ++ .returned worker request (.cached document) :: earlier →
      ∃ other : ParseRequest caching, other.identity = identity ∧ .stored other document ∈ earlier
  /-- A document that does not fit is returned all the same, and nothing else changes. -/
  tooLarge : ∀ worker request document fault serialized,
    s.phases worker = .putting request document →
      caching.cache.serializeEntry request.identity document = .ok serialized →
        caching.cache.maximumEntryBytes.val < serialized.length →
          Runs.run (DoubleCheckedCache.step caching.entries) s
              [(worker, .put fault), (worker, .release)] =
            { s with
              phases := Function.update s.phases worker .idle
              history := .returned worker request (.uncached document) :: s.history }

/-- In every interleaving of calls for one identity, from an entry that does not hold a document for
it, the document is parsed once. -/
theorem parses_once (identity : ParsedDocumentCacheIdentity) {cells : String → FileNode}
    (hstart : ∀ document, caching.cache.getUnlocked identity
      (cells (identity.cacheKey caching.cache.sha256)) ≠ .ok (some document))
    {s : caching.Workers ω}
    (h : Runs.Reachable (DoubleCheckedCache.step caching.entries)
      (fun s action => DoubleCheckedCache.Granted caching.entries s action ∧
        DoubleCheckedCache.CallsOnly (fun request => request.identity = identity) action)
      (.start ω cells) s) : ParsesOnce caching identity s := by
  have hkey := caching.entries_oneKey identity
  have hmiss : ∀ request document, request.identity = identity → caching.entries.lookup request
      (cells (identity.cacheKey caching.cache.sha256)) ≠ .ok (some document) := by
    intro request document hrequest
    have hnone := hstart document
    rw [← hrequest] at hnone ⊢
    exact hnone
  have hs := DoubleCheckedCache.single_of_reachable hkey hmiss h
  refine ⟨?_, ?_, ?_, ?_⟩
  · intro worker other request otherRequest hworker hother
    exact hs.exclusive_unique hkey (by rw [hworker]; rfl) (by rw [hother]; rfl)
  · intro later earlier worker request hhistory
    exact hs.orderly later _ earlier hhistory
  · intro later earlier worker request document hhistory
    obtain ⟨other, hstored⟩ := hs.orderly later _ earlier hhistory
    refine ⟨other, hs.owners other document ?_, hstored⟩
    rw [hhistory]
    exact List.mem_append_right _ (List.mem_cons_of_mem _ hstored)
  · intro worker request document fault serialized hphase hserialize hlarge
    exact DoubleCheckedCache.run_put_tooLarge hphase (caching.put_of_large hserialize hlarge)

def sampleMiss : List (sampleCaching.WorkerAction Bool) :=
  [(true, .call sampleParseRequest none), (true, .read none), (true, .unlockShared),
    (true, .acquire none), (true, .recheck none)]

theorem parses_once_miss : ParsesOnce sampleCaching sampleParseRequest.identity
    (Runs.run (DoubleCheckedCache.step sampleCaching.entries) (.start Bool fun _ => .absent)
      sampleMiss) := by
  refine parses_once sampleCaching sampleParseRequest.identity (fun document h => by cases h)
    (Runs.reachable_run_of_admits ⟨⟨?_, rfl⟩, ⟨trivial, trivial⟩, ⟨trivial, trivial⟩,
      ⟨?_, trivial⟩, ⟨trivial, trivial⟩, trivial⟩)
  · intro worker hexclusive
    cases hexclusive
  · intro request _ worker hlocks
    cases worker <;> rcases hlocks with hlock | hlock <;> cases hlock

def ParsedFrom (contentSha256 : Sha256Digest) (document : ParsedLocalDocument casefold) : Prop :=
  ∃ path content, caching.cache.sha256.hexdigest content = contentSha256.val ∧
    caching.parser.parseContent path content = .ok document

theorem entries_putsGood : DoubleCheckedCache.PutsGood caching.entries
    fun request document => caching.ParsedFrom request.source.contentSha256 document := by
  intro request other document found fault node cell hgood hwritten _ hlookup
  rw [caching.lookup_written hwritten] at hlookup
  split_ifs at hlookup with hidentity
  · obtain rfl := Option.some.inj (Except.ok.inj hlookup)
    rw [← caching.identity_contentSha256 other, ← hidentity, caching.identity_contentSha256 request]
    exact hgood
  · cases Except.ok.inj hlookup

/-- The file that the inner parser opens still has the bytes that were hashed for the source. -/
def Unchanged (s : caching.Runtime ω) : caching.RuntimeAction ω → Prop
  | .worker (worker, .compute _) => ∀ request, s.workers.phases worker = .computing request →
      ∀ content, (s.files request.source.resolvedPath).opened? = some content →
        caching.cache.sha256.hexdigest content = request.source.contentSha256.val
  | _ => True

/-- Whatever is stored, found or returned for a source is the parse of bytes with the digest of the
source. -/
structure BoundToContent (s : caching.Runtime ω) : Prop where
  found : ∀ (request : ParseRequest caching) document, caching.cache.getUnlocked request.identity
    (s.workers.cells (request.identity.cacheKey caching.cache.sha256)) = .ok (some document) →
      caching.ParsedFrom request.source.contentSha256 document
  stored : ∀ request document, .stored request document ∈ s.workers.history →
    caching.ParsedFrom request.source.contentSha256 document
  returned : ∀ worker request answer document,
    .returned worker request answer ∈ s.workers.history → answer.value? = some document →
      caching.ParsedFrom request.source.contentSha256 document

variable {path : List String}

theorem parsedFrom_of_parsePath {node : SourceNode}
    {contentSha256 : Sha256Digest}
    (hparse : caching.parser.parsePath path node = .ok document)
    (hunchanged : ∀ content, node.opened? = some content →
      caching.cache.sha256.hexdigest content = contentSha256.val) :
    caching.ParsedFrom contentSha256 document := by
  cases node with
  | absent => cases hparse
  | directory => cases hparse
  | regular content => exact ⟨path, content, hunchanged content rfl, hparse⟩
  | symlink target =>
    cases target with
    | none => cases hparse
    | some target => exact ⟨target.1, target.2, hunchanged target.2 rfl, hparse⟩

/-- Where the parser meets the bytes that were hashed, documents stay with their digests, whatever
else happens to the files. -/
theorem entries_bound {policy : LocalDocumentAccessPolicy} {files : SourceFiles}
    {cells : String → FileNode}
    (hcells : ∀ (request : ParseRequest caching) document,
      caching.cache.getUnlocked request.identity
        (cells (request.identity.cacheKey caching.cache.sha256)) = .ok (some document) →
          caching.ParsedFrom request.source.contentSha256 document)
    {s : caching.Runtime ω}
    (h : Runs.Reachable (Runtime.step policy)
      (fun s action => Runtime.Allowed caching s action ∧ caching.Unchanged s action)
      (Runtime.start caching ω files cells) s) : caching.BoundToContent s := by
  have hgood := h.invariant
    (fun s => DoubleCheckedCache.AllGood caching.entries
      (fun request document => caching.ParsedFrom request.source.contentSha256 document) s.workers)
    (DoubleCheckedCache.AllGood.start _ hcells) ?_
  · exact ⟨hgood.cells, hgood.stored, hgood.returned⟩
  · intro s action hs ⟨hallowed, hunchanged⟩
    cases action with
    | interfere path node => exact hs
    | inspect path =>
      simp only [Runtime.step]
      split <;> exact hs
    | fingerprint path size =>
      simp only [Runtime.step]
      split <;> exact hs
    | worker action =>
      refine hs.step caching.entries_putsGood ?_
      obtain ⟨worker, action⟩ := action
      cases action with
      | compute outcome =>
        cases outcome with
        | error failure => trivial
        | ok document =>
          intro request hphase
          have hparse := hallowed.2 request hphase
          exact caching.parsedFrom_of_parsePath hparse.symm (hunchanged request hphase)
      | _ => trivial

def unchangedRun : List (sampleCaching.RuntimeAction Unit) :=
  [.inspect ["srv", "a.txt"], .fingerprint ["srv", "a.txt"] 1,
    .worker ((), .call sampleParseRequest none), .worker ((), .read none),
    .worker ((), .unlockShared), .worker ((), .acquire none), .worker ((), .recheck none),
    .worker ((), .compute (.ok ⟨"A", .text, [], [], by decide⟩))]

theorem entries_bound_unchanged : sampleCaching.BoundToContent
    (Runs.run (Runtime.step samplePolicy)
      (Runtime.start sampleCaching Unit sampleFiles fun _ => .absent) unchangedRun) := by
  refine entries_bound sampleCaching (fun request document h => by cases h)
    (Runs.reachable_run_of_admits ⟨⟨trivial, trivial⟩, ⟨?_, trivial⟩, ⟨⟨?_, ?_⟩, trivial⟩,
      ⟨⟨trivial, trivial⟩, trivial⟩, ⟨⟨trivial, trivial⟩, trivial⟩, ⟨⟨?_, trivial⟩, trivial⟩,
      ⟨⟨trivial, trivial⟩, trivial⟩, ⟨⟨trivial, ?_⟩, ?_⟩, trivial⟩)
  · exact List.mem_cons_self
  · intro worker hexclusive
    cases hexclusive
  · exact List.mem_cons_self
  · intro request _ worker hlocks
    rcases hlocks with hlock | hlock <;> cases hlock
  · intro request hphase
    obtain rfl := DoubleCheckedCache.Phase.computing.inj hphase
    rfl
  · intro request hphase content hcontent
    obtain rfl := DoubleCheckedCache.Phase.computing.inj hphase
    obtain rfl := Option.some.inj hcontent
    rfl

/-! ## A file that is replaced -/

theorem Runtime.stored_or_returned (policy : LocalDocumentAccessPolicy) (s : caching.Runtime ω)
    (worker : ω) (request : ParseRequest caching) (document : ParsedLocalDocument casefold)
    (hphase : s.workers.phases worker = .putting request document)
    (habsent : s.workers.cells (caching.entries.key request) = .absent)
    (hserialize : caching.cache.serializeEntry request.identity document = .ok serialized) :
    .stored request document ∈
        (Runs.run (Runtime.step policy) s [.worker (worker, .put none)]).workers.history ∨
      .returned worker request (.uncached document) ∈ (Runs.run (Runtime.step policy) s
        [.worker (worker, .put none), .worker (worker, .release)]).workers.history := by
  simp only [Runs.run, List.foldl_cons, List.foldl_nil, Runtime.step]
  by_cases hlarge : caching.cache.maximumEntryBytes.val < serialized.length
  · right
    have hput : caching.entries.put request document none
        (s.workers.cells (caching.entries.key request)) = .tooLarge :=
      caching.put_of_large hserialize hlarge
    have hrun := DoubleCheckedCache.run_put_tooLarge hphase hput
    simp only [Runs.run, List.foldl_cons, List.foldl_nil] at hrun
    rw [hrun]
    exact List.mem_cons_self
  · left
    have hstored := caching.put_of_fits hserialize hlarge
    rw [← habsent] at hstored
    have heffect : DoubleCheckedCache.effect caching.entries worker s.workers.cells
        (s.workers.phases worker) (.put none) = some {
          phase := .finishing request (.computed document)
          written := some (caching.entries.key request, .regular serialized)
          event := some (.stored request document) } := by
      simp only [hphase, DoubleCheckedCache.effect, hstored]
    rw [DoubleCheckedCache.step_of_effect heffect]
    exact List.mem_cons_self

def replacedDocument : ParsedLocalDocument asciiCasefold := ⟨"B", .text, [], [], by decide⟩

def replacedRun : List (sampleCaching.RuntimeAction Unit) :=
  [.inspect ["srv", "a.txt"], .fingerprint ["srv", "a.txt"] 1,
    .interfere ["srv", "a.txt"] (.regular [66]), .worker ((), .call sampleParseRequest none),
    .worker ((), .read none), .worker ((), .unlockShared), .worker ((), .acquire none),
    .worker ((), .recheck none), .worker ((), .compute (.ok replacedDocument))]

def replacedState : sampleCaching.Runtime Unit :=
  Runs.run (Runtime.step samplePolicy)
    (Runtime.start sampleCaching Unit sampleFiles fun _ => .absent) replacedRun

theorem replacedState_reachable : Runs.Reachable (Runtime.step samplePolicy)
    (Runtime.Allowed sampleCaching)
    (Runtime.start sampleCaching Unit sampleFiles fun _ => .absent) replacedState := by
  refine Runs.reachable_run_of_admits ⟨trivial, ?_, trivial, ⟨?_, ?_⟩, ⟨trivial, trivial⟩,
    ⟨trivial, trivial⟩, ⟨?_, trivial⟩, ⟨trivial, trivial⟩, ⟨trivial, ?_⟩, trivial⟩
  · exact List.mem_cons_self
  · intro worker hexclusive
    cases hexclusive
  · exact List.mem_cons_self
  · intro request _ worker hlocks
    rcases hlocks with hlock | hlock <;> cases hlock
  · intro request hphase
    obtain rfl := DoubleCheckedCache.Phase.computing.inj hphase
    rfl

theorem universalNewlines_eq_nil {text : List Char} (h : universalNewlines text = []) :
    text = [] := by
  revert h
  fun_cases universalNewlines text <;> intro h <;> first | rfl | cases h

theorem universalNewlines_eq_singleton {text : List Char} {c : Char} (hc : c ≠ '\n')
    (h : universalNewlines text = [c]) : text = [c] := by
  revert h
  fun_cases universalNewlines text <;> intro h
  · cases h
  · exact absurd (List.cons.inj h).1.symm hc
  · exact absurd (List.cons.inj h).1.symm hc
  · obtain ⟨rfl, hnil⟩ := List.cons.inj h
    rw [universalNewlines_eq_nil hnil]

variable {content : List UInt8}

theorem content_of_parseText {contentType : ResearchSourceContentType}
    (h : LocalDocumentParser.parseText contentType content = .ok replacedDocument) :
    content = [66] := by
  unfold LocalDocumentParser.parseText at h
  cases hdecode : TextFile.decode content with
  | none =>
    rw [hdecode] at h
    cases h
  | some decoded =>
    simp only [hdecode] at h
    split_ifs at h with hvalid
    · have htext : String.ofList (universalNewlines decoded) = "B" :=
        congrArg ParsedLocalDocument.content (Except.ok.inj h)
      have hchars : universalNewlines decoded = ['B'] := by
        rw [← String.toList_ofList (l := universalNewlines decoded), htext]
        rfl
      rw [← TextFile.encode_of_decode hdecode, universalNewlines_eq_singleton (by decide) hchars]
      rfl

theorem content_of_parseContent
    (h : sampleCaching.parser.parseContent path content = .ok replacedDocument) :
    content = [66] := by
  simp only [LocalDocumentParser.parseContent] at h
  split_ifs at h
  · cases h
  · cases h
  · exact content_of_parseText h
  · exact content_of_parseText h

theorem serializeEntry_sample : ∃ serialized, sampleCaching.cache.serializeEntry
    sampleParseRequest.identity replacedDocument = .ok serialized := by
  have hvalid : (sampleCaching.cache.entryOf sampleParseRequest.identity replacedDocument).isValid
      sampleCaching.cache.sha256 = true :=
    decide_eq_true ⟨rfl, rfl⟩
  have hints : (Json.Value.obj (sampleCaching.cache.entryOf sampleParseRequest.identity
      replacedDocument).members).intsWithin maxStrDigits = true := by
    rfl
  rw [FileParsedDocumentCache.serializeEntry, hvalid, jsonDumps, if_pos hints]
  exact ⟨_, rfl⟩

theorem not_parsedFrom_replaced :
    ¬ sampleCaching.ParsedFrom sampleParseRequest.source.contentSha256 replacedDocument := by
  rintro ⟨path, content, hsha256, hparse⟩
  rw [content_of_parseContent hparse] at hsha256
  exact absurd hsha256 (by decide +kernel)

/-- The document of the new file is stored under the digest of the old one. -/
theorem entries_not_bound : ¬ ∀ s : sampleCaching.Runtime Unit,
    Runs.Reachable (Runtime.step samplePolicy) (Runtime.Allowed sampleCaching)
      (Runtime.start sampleCaching Unit sampleFiles fun _ => .absent) s →
        sampleCaching.BoundToContent s := by
  intro hbound
  obtain ⟨serialized, hserialize⟩ := serializeEntry_sample
  have hput : ∀ s : sampleCaching.Runtime Unit, Runtime.Allowed sampleCaching s
      (.worker ((), .put none)) := fun _ => ⟨trivial, trivial⟩
  have hrelease : ∀ s : sampleCaching.Runtime Unit, Runtime.Allowed sampleCaching s
      (.worker ((), .release)) := fun _ => ⟨trivial, trivial⟩
  have hreach := replacedState_reachable.step (hput replacedState)
  rcases Runtime.stored_or_returned sampleCaching samplePolicy replacedState () sampleParseRequest
      replacedDocument rfl rfl hserialize with hstored | hreturned
  · exact not_parsedFrom_replaced ((hbound _ hreach).stored _ _ hstored)
  · exact not_parsedFrom_replaced
      ((hbound _ (hreach.step (hrelease _))).returned _ _ _ _ hreturned rfl)

end CachingLocalDocumentParser

end AgenticLab
