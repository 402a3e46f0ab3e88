import AgenticLab.Model.Research.SourceReading
import AgenticLab.Verification.Research.HtmlText

/-! # When reading a source yields a document -/

namespace AgenticLab.HttpHtmlResearchSourceReader

section

variable (libraries : ReaderLibraries) (config : HttpHtmlReaderConfig)

structure LooksUp (url : String) (parsed : SplitResult) (hostname : String) : Prop where
  split : libraries.urlsplit (strip url) = .ok parsed
  scheme : libraries.casefold parsed.scheme ∈ ["http", "https"]
  host : parsed.hostname.getD "" ≠ ""
  anonymous : ¬(parsed.username ≠ none ∨ parsed.password ≠ none)
  hostname_eq : hostname = rstripDots (libraries.casefold (parsed.hostname.getD ""))
  remote : ¬(hostname = "localhost" ∨ ".localhost".toList <:+ hostname.toList)
  indirect : libraries.ipAddress hostname = none

structure Answered (redirects : ℕ) (url : String) (response : Response) : Prop where
  allowed : ∃ checked, validatePublicUrl libraries.toNetwork redirects url = .ok checked
  respond : libraries.respond redirects (requestHead config url) = .ok response

inductive RoundRaises (redirects : ℕ) (url : String) (failure : Raised) : Prop where
  | urlsplit (h : libraries.urlsplit (strip url) = .error failure)
  | port {parsed : SplitResult} {hostname : String} (hlookup : LooksUp libraries url parsed hostname)
      (h : parsed.port = .error failure)
  | resolver {parsed : SplitResult} {hostname : String} {port : Option ℕ}
      (hlookup : LooksUp libraries url parsed hostname) (hport : parsed.port = .ok port)
      (h : libraries.resolver redirects hostname port = .error failure)
  | respond {checked : List IpAddress × ℕ}
      (hallowed : validatePublicUrl libraries.toNetwork redirects url = .ok checked)
      (h : libraries.respond redirects (requestHead config url) = .error failure)
  | urljoin {response : Response} {location : String}
      (hanswered : Answered libraries config redirects url response)
      (hstatus : response.statusCode ∈ [301, 302, 303, 307, 308])
      (hlimit : redirects < config.maximumRedirects)
      (hlocation : (response.location.filter fun location => isBlank location = false) =
        some location)
      (h : libraries.urljoin url (strip location) = .error failure)
  | body {response : Response} (hanswered : Answered libraries config redirects url response)
      (hredirect : response.statusCode ∉ [301, 302, 303, 307, 308])
      (hstatus : 200 ≤ response.statusCode ∧ response.statusCode < 300)
      (hsize : validateDeclaredSize libraries.toNetwork config response = .ok ())
      (h : (readBody config response.failure [] response.chunks).2 = .error failure)

inductive Reached (start : String) : ℕ → String → Prop where
  | start : Reached start 0 start
  | redirect {redirects : ℕ} {url next : String} (h : Reached start redirects url)
      (hstep : fetchStep libraries config redirects url = .redirect next) :
      Reached start (redirects + 1) next

end

inductive LibraryRaises (reader : SourceReader) (candidate : ReadCandidate) (failure : Raised) :
    Prop where
  | fetch {redirects : ℕ} {url : String}
      (hreached : Reached reader.libraries reader.config candidate.url redirects url)
      (h : RoundRaises reader.libraries reader.config redirects url failure)
  | text {fetched : FetchedSource} {normalizedType : ResearchSourceContentType}
      (hfetched : fetchSource reader.libraries reader.config candidate.url = .ok fetched)
      (htype : allowedContentTypes.lookup (contentTypeOf reader.libraries fetched.head) =
        some normalizedType)
      (h : reader.extractText fetched normalizedType = .error failure)

def OwnFailure (failure : Raised) : Prop :=
  failure = unsafeSource ∨ failure = redirectLimit ∨ failure = documentTooLarge

variable {failure : Raised}

theorem OwnFailure.caught (h : OwnFailure failure) : exceptClause failure ≠ none := by
  rcases h with rfl | rfl | rfl <;> simp [exceptClause, unsafeSource, redirectLimit, documentTooLarge]

variable {libraries : ReaderLibraries} {config : HttpHtmlReaderConfig}

/-! ## One round -/

variable {network : Network}

theorem mapM_validateAddress_error {addresses : List String}
    (h : addresses.mapM (validateAddress network) = .error failure) : failure = unsafeSource := by
  induction addresses with
  | nil => cases h
  | cons address addresses ih =>
    rw [List.mapM_cons] at h
    rcases bind_eq_error.mp h with haddress | ⟨resolved, -, hrest⟩
    · unfold validateAddress at haddress
      split at haddress
      next => exact (Except.error.inj haddress).symm
      next =>
        rcases bind_eq_error.mp haddress with hglobal | ⟨_, -, hok⟩
        · exact (raiseIf_eq_error.mp hglobal).2.symm
        · cases hok
    · rcases bind_eq_error.mp hrest with hrest | ⟨_, -, hok⟩
      · exact ih hrest
      · cases hok

variable {redirects : ℕ} {url : String}

theorem validatePublicUrl_error
    (h : validatePublicUrl libraries.toNetwork redirects url = .error failure) :
    RoundRaises libraries config redirects url failure ∨ OwnFailure failure := by
  rcases bind_eq_error.mp h with hsplit | ⟨parsed, hsplit, h⟩
  · exact .inl (.urlsplit hsplit)
  rcases bind_eq_error.mp h with hscheme | ⟨_, hscheme, h⟩
  · exact .inr (.inl (raiseIf_eq_error.mp hscheme).2.symm)
  rcases bind_eq_error.mp h with hhost | ⟨_, hhost, h⟩
  · exact .inr (.inl (raiseIf_eq_error.mp hhost).2.symm)
  rcases bind_eq_error.mp h with huser | ⟨_, huser, h⟩
  · exact .inr (.inl (raiseIf_eq_error.mp huser).2.symm)
  rcases bind_eq_error.mp h with hlocal | ⟨_, hlocal, h⟩
  · exact .inr (.inl (raiseIf_eq_error.mp hlocal).2.symm)
  rcases bind_eq_error.mp h with hresolve | ⟨addresses, -, h⟩
  · unfold resolveHostname at hresolve
    split at hresolve
    next => cases hresolve
    next hindirect =>
      have hlookup : LooksUp libraries url parsed _ :=
        ⟨hsplit, not_not.mp (raiseIf_eq_ok.mp hscheme), raiseIf_eq_ok.mp hhost,
          raiseIf_eq_ok.mp huser, rfl, raiseIf_eq_ok.mp hlocal, hindirect⟩
      rcases bind_eq_error.mp hresolve with hport | ⟨port, hport, hresolve⟩
      · exact .inl (.port hlookup hport)
      · rcases bind_eq_error.mp hresolve with hresolver | ⟨_, -, hok⟩
        · exact .inl (.resolver hlookup hport hresolver)
        · cases hok
  rcases bind_eq_error.mp h with hempty | ⟨_, -, h⟩
  · exact .inr (.inl (raiseIf_eq_error.mp hempty).2.symm)
  rcases bind_eq_error.mp h with haddresses | ⟨_, -, hok⟩
  · exact .inr (.inl (mapM_validateAddress_error haddresses))
  · cases hok

variable {parsed : SplitResult}

theorem LooksUp.validatePublicUrl_eq {url hostname : String}
    (h : LooksUp libraries url parsed hostname)
    (hresolve : resolveHostname libraries.toNetwork redirects parsed hostname = .error failure) :
    validatePublicUrl libraries.toNetwork redirects url = .error failure := by
  obtain ⟨hsplit, hscheme, hhost, huser, rfl, hremote, -⟩ := h
  have hpasses {condition : Prop} [Decidable condition] (hnot : ¬condition) :
      raiseIf condition unsafeSource = .ok () := if_neg hnot
  rw [validatePublicUrl, hsplit, ok_bind, hpasses (not_not.mpr hscheme), ok_bind, hpasses hhost,
    ok_bind, hpasses huser, ok_bind]
  dsimp only
  rw [hpasses hremote, ok_bind, hresolve, error_bind]

variable {hostname : String}

theorem resolveHostname_port (hindirect : network.ipAddress hostname = none)
    (h : parsed.port = .error failure) :
    resolveHostname network redirects parsed hostname = .error failure := by
  rw [resolveHostname, hindirect]
  dsimp only
  rw [h, error_bind]

theorem resolveHostname_resolver {port : Option ℕ} (hindirect : network.ipAddress hostname = none)
    (hport : parsed.port = .ok port)
    (h : network.resolver redirects hostname port = .error failure) :
    resolveHostname network redirects parsed hostname = .error failure := by
  rw [resolveHostname, hindirect]
  dsimp only
  rw [hport, ok_bind, h, error_bind]

variable {response : Response}

theorem validateDeclaredSize_error
    (h : validateDeclaredSize network config response = .error failure) :
    failure = documentTooLarge := by
  unfold validateDeclaredSize at h
  split at h
  next => cases h
  next => exact (raiseIf_eq_error.mp h).2.symm

theorem fetchStep_of_answered (h : Answered libraries config redirects url response) :
    fetchStep libraries config redirects url =
      receiveResponse libraries config redirects url response := by
  obtain ⟨⟨checked, hchecked⟩, hrespond⟩ := h
  rw [fetchStep, hchecked]
  dsimp only
  rw [hrespond]

theorem RoundRaises.fetchStep_eq (h : RoundRaises libraries config redirects url failure) :
    fetchStep libraries config redirects url = .stop (.error (.raised failure)) := by
  have hinvalid (hvalid : validatePublicUrl libraries.toNetwork redirects url = .error failure) :
      fetchStep libraries config redirects url = .stop (.error (.raised failure)) := by
    rw [fetchStep, hvalid]
  cases h with
  | urlsplit h => exact hinvalid (by rw [validatePublicUrl, h, error_bind])
  | port hlookup h =>
    exact hinvalid (hlookup.validatePublicUrl_eq (resolveHostname_port hlookup.indirect h))
  | resolver hlookup hport h =>
    exact hinvalid
      (hlookup.validatePublicUrl_eq (resolveHostname_resolver hlookup.indirect hport h))
  | respond hallowed h =>
    rw [fetchStep, hallowed]
    dsimp only
    rw [h]
  | urljoin hanswered hstatus hlimit hlocation h =>
    rw [fetchStep_of_answered hanswered, receiveResponse, if_pos hstatus,
      if_neg (not_le.mpr hlimit), hlocation]
    dsimp only
    rw [h]
  | @body response hanswered hredirect hstatus hsize h =>
    rw [fetchStep_of_answered hanswered, receiveResponse, if_neg hredirect,
      if_neg (not_not.mpr hstatus), hsize]
    dsimp only
    cases hbody : readBody config response.failure [] response.chunks with
    | mk chunks outcome =>
      rw [hbody] at h
      dsimp only at h
      rw [h]

theorem fetchStep_raised
    (h : fetchStep libraries config redirects url = .stop (.error (.raised failure))) :
    RoundRaises libraries config redirects url failure ∨ OwnFailure failure := by
  unfold fetchStep at h
  split at h
  next found hinvalid =>
    cases h
    exact validatePublicUrl_error hinvalid
  next checked hallowed =>
    split at h
    next found hrespond =>
      cases h
      exact .inl (.respond hallowed hrespond)
    next response hrespond =>
      have hanswered : Answered libraries config redirects url response :=
        ⟨⟨checked, hallowed⟩, hrespond⟩
      unfold receiveResponse at h
      split_ifs at h with hredirect hlimit hstatus
      · cases h
        exact .inr (.inr (.inl rfl))
      · split at h
        next => cases h
        next location hlocation =>
          split at h
          next hjoin =>
            cases h
            exact .inl (.urljoin hanswered hredirect (not_le.mp hlimit) hlocation hjoin)
          next => cases h
      · split at h
        next found hsize =>
          cases h
          exact .inr (.inr (.inr (validateDeclaredSize_error hsize)))
        next hsize =>
          split at h
          next hbody =>
            cases h
            exact .inl (.body hanswered hredirect hstatus hsize (by rw [hbody]))
          next => cases h
      · cases h

theorem fetchSourceFrom_stop {result : Except FetchFailure FetchedSource}
    (h : fetchStep libraries config redirects url = .stop result) :
    fetchSourceFrom libraries config redirects url = result := by
  rw [fetchSourceFrom]
  split
  next found hfound => rw [h] at hfound; cases hfound; rfl
  next next hfound => rw [h] at hfound; cases hfound

theorem fetchSourceFrom_redirect {url next : String}
    (h : fetchStep libraries config redirects url = .redirect next) :
    fetchSourceFrom libraries config redirects url =
      fetchSourceFrom libraries config (redirects + 1) next := by
  rw [fetchSourceFrom]
  split
  next found hfound => rw [h] at hfound; cases hfound
  next next hfound => rw [h] at hfound; cases hfound; rfl

variable {start url : String}

theorem Reached.fetchSource_eq (h : Reached libraries config start redirects url) :
    fetchSource libraries config start = fetchSourceFrom libraries config redirects url := by
  induction h with
  | start => rfl
  | redirect h hstep ih => rw [ih, fetchSourceFrom_redirect hstep]

theorem fetchSourceFrom_raised (hreached : Reached libraries config start redirects url)
    (h : fetchSourceFrom libraries config redirects url = .error (.raised failure)) :
    (∃ redirects url, Reached libraries config start redirects url ∧
      RoundRaises libraries config redirects url failure) ∨ OwnFailure failure := by
  induction redirects, url using fetchSourceFrom.induct libraries config with
  | case1 redirects url result hstep =>
    rw [fetchSourceFrom_stop hstep] at h
    rw [h] at hstep
    exact (fetchStep_raised hstep).imp (fun hraises => ⟨_, _, hreached, hraises⟩) id
  | case2 redirects url next hstep _ ih =>
    rw [fetchSourceFrom_redirect hstep] at h
    exact ih (hreached.redirect hstep) h

/-! ## Documents -/

theorem isBlank_documentId (candidate : ReadCandidate) : isBlank (documentId candidate) = false := by
  rw [Bool.eq_false_iff, Ne, isBlank_iff]
  intro hall
  have hdash : isSpace '-' = true := hall '-' (by simp [documentId])
  exact absurd hdash (by decide)

structure FailedRead.Nonblank (failed : FailedRead) : Prop where
  errorType : isBlank failed.errorType = false
  message : isBlank failed.message = false
  metadata : ∀ entry ∈ failed.metadata, isBlank entry.1 = false ∧ isBlank entry.2 = false

namespace SourceReader

variable {reader : SourceReader} {candidate : ReadCandidate}

/-- A document that `read` may return. -/
def Returns (reader : SourceReader) (candidate : ReadCandidate)
    (result : Except Raised ResearchSourceDocument) : Prop :=
  ∃ document, result = .ok document ∧ document.candidate = candidate ∧
    document.validate reader.libraries.casefold = .ok ()

variable {failed : FailedRead}

theorem failedDocument_returns (h : failed.Nonblank) :
    Returns reader candidate (reader.failedDocument candidate failed) := by
  have herror : newDocumentError ⟨failed.errorType, failed.message, failed.retryable⟩ =
      .ok ⟨failed.errorType, failed.message, failed.retryable⟩ := by
    simp [newDocumentError, raiseIf, h.errorType, h.message]
  have hmetadata : validateMetadata (("transport", "http") :: failed.metadata) = .ok () := by
    refine validateMetadata_eq_ok.mpr fun entry hmem => ?_
    rcases List.mem_cons.mp hmem with rfl | hmem
    · exact ⟨by decide, by decide⟩
    · exact h.metadata entry hmem
  have hvalid (error : ResearchSourceDocumentError) : ResearchSourceDocument.validate
      reader.libraries.casefold ⟨documentId candidate, candidate, .failed, .other, [], none, [], 0, 0,
        reader.name, some error, ("transport", "http") :: failed.metadata⟩ = .ok () := by
    simp [ResearchSourceDocument.validate, ResearchSourceDocument.validateFailedDocument, raiseIf,
      isBlank_documentId, reader.name_nonblank, hmetadata]
  refine ⟨_, ?_, rfl, hvalid ⟨failed.errorType, failed.message, failed.retryable⟩⟩
  rw [failedDocument, herror, ok_bind]
  dsimp only
  rw [hvalid, ok_bind]
  rfl

variable {contentType : String} {normalizedType : ResearchSourceContentType}

theorem readDocument_returns (hcasefold : KeepsLowercase reader.libraries.casefold)
    {fetched : FetchedSource}
    {text : List Char} (hcontentType : isBlank contentType = false) (htext : stripChars text ≠ []) :
    Returns reader candidate
      (reader.readDocument candidate fetched contentType normalizedType text) := by
  obtain ⟨sections, hbuild, hsections⟩ := buildSections_sectionsOf text
  have hmetadata : validateMetadata [("transport", "http"),
      ("http_status", toString fetched.statusCode), ("content_type", contentType),
      ("final_url", fetched.head.url), ("redirect_count", toString fetched.redirects),
      ("received_bytes", toString fetched.body.length)] = .ok () := by
    refine validateMetadata_eq_ok.mpr fun entry hmem => ?_
    simp only [List.mem_cons, List.not_mem_nil, or_false] at hmem
    rcases hmem with rfl | rfl | rfl | rfl | rfl | rfl
    · exact ⟨by decide, by decide⟩
    · exact ⟨(by decide : isBlank "http_status" = false), isBlank_toString _⟩
    · exact ⟨(by decide : isBlank "content_type" = false), hcontentType⟩
    · exact ⟨(by decide : isBlank "final_url" = false), fetched.head.url_nonblank⟩
    · exact ⟨(by decide : isBlank "redirect_count" = false), isBlank_toString _⟩
    · exact ⟨(by decide : isBlank "received_bytes" = false), isBlank_toString _⟩
  rw [readDocument, hbuild, ok_bind]
  dsimp only
  set document : ResearchSourceDocument := ⟨documentId candidate, candidate, .read, normalizedType,
    text, none, sections, (splitWords text).length, text.length, reader.name, none, _⟩ with hdocument
  have hread : document.validateReadDocument reader.libraries.casefold = .ok () :=
    validateReadDocument_eq_ok hcasefold htext rfl rfl rfl hsections
  have hvalid : document.validate reader.libraries.casefold = .ok () := by
    rw [ResearchSourceDocument.validate, raiseIf, if_neg (by simp [hdocument, isBlank_documentId]),
      ok_bind, raiseIf, if_neg (by simp [hdocument, reader.name_nonblank]), ok_bind, raiseIf,
      if_neg (by simp [hdocument]), ok_bind]
    simp only [hdocument]
    rw [← hdocument, hread, ok_bind]
    exact hmetadata
  rw [hvalid, ok_bind]
  exact ⟨document, rfl, rfl, hvalid⟩

theorem nonblank_of_exceptClause {failure : Raised}
    (h : exceptClause failure = some failed) : failed.Nonblank := by
  unfold exceptClause at h
  split_ifs at h <;> cases h <;>
    exact ⟨by decide +kernel, by decide +kernel, fun _ hmem => absurd hmem List.not_mem_nil⟩

theorem nonblank_httpFailure (statusCode : ℕ) : (httpFailure statusCode).Nonblank where
  errorType := (by decide : isBlank "DocumentHttpError" = false)
  message := by
    rw [httpFailure, String.append_assoc]
    exact isBlank_append (by decide)
  metadata := by
    intro entry hmem
    rw [List.mem_singleton.mp hmem]
    exact ⟨(by decide : isBlank "http_status" = false), isBlank_toString _⟩

theorem answerFailure_returns {failure : Raised} :
    Returns reader candidate (reader.answerFailure candidate failure) ↔
      exceptClause failure ≠ none := by
  unfold answerFailure
  cases hclause : exceptClause failure with
  | none =>
    refine iff_of_false ?_ (by simp)
    rintro ⟨document, hdocument, -⟩
    cases hdocument
  | some failed =>
    exact iff_of_true (failedDocument_returns (nonblank_of_exceptClause hclause)) (by simp)

/-- What the reader relies on of `casefold`. -/
structure CasefoldFacts (casefold : Casefold) : Prop where
  keepsLowercase : KeepsLowercase casefold
  nonblank : ∀ text, isBlank (casefold text) = true → isBlank text = true

theorem isBlank_contentTypeOf (hfacts : CasefoldFacts libraries.casefold) {head : ResponseHead}
    (h : contentTypeOf libraries head ≠ "") : isBlank (contentTypeOf libraries head) = false := by
  rw [Bool.eq_false_iff]
  intro hblank
  have hempty := strip_eq_empty (hfacts.nonblank _ hblank)
  refine h ?_
  rw [contentTypeOf, hempty]
  exact hfacts.keepsLowercase "" fun character hmem => absurd hmem List.not_mem_nil

theorem isBlank_of_lookup (h : allowedContentTypes.lookup contentType = some normalizedType) :
    isBlank contentType = false := by
  have hkeys : ∀ key ∈ allowedContentTypes.map Prod.fst, isBlank key = false := by decide +kernel
  refine hkeys contentType ?_
  by_contra hmissing
  have hnone : allowedContentTypes.lookup contentType = none := by
    rw [List.lookup_eq_none_iff]
    intro entry hentry
    rw [bne_iff_ne]
    rintro rfl
    exact hmissing (List.mem_map_of_mem hentry)
  rw [hnone] at h
  cases h

theorem nonblank_metadata {statusCode : ℕ} (h : isBlank contentType = false) :
    ∀ entry ∈ [("http_status", toString statusCode), ("content_type", contentType)],
      isBlank entry.1 = false ∧ isBlank entry.2 = false := by
  intro entry hmem
  simp only [List.mem_cons, List.not_mem_nil, or_false] at hmem
  rcases hmem with rfl | rfl
  · exact ⟨(by decide : isBlank "http_status" = false), isBlank_toString _⟩
  · exact ⟨(by decide : isBlank "content_type" = false), h⟩

theorem readFetched_cases (hfacts : CasefoldFacts reader.libraries.casefold)
    (fetched : FetchedSource) :
    (∃ normalizedType failure, allowedContentTypes.lookup
        (contentTypeOf reader.libraries fetched.head) = some normalizedType ∧
      reader.extractText fetched normalizedType = .error failure ∧
      reader.readFetched candidate fetched = .error failure) ∨
    (∀ normalizedType failure, allowedContentTypes.lookup
        (contentTypeOf reader.libraries fetched.head) = some normalizedType →
      reader.extractText fetched normalizedType ≠ .error failure) ∧
      Returns reader candidate (reader.readFetched candidate fetched) := by
  unfold readFetched
  dsimp only
  cases htype : allowedContentTypes.lookup (contentTypeOf reader.libraries fetched.head) with
  | none =>
    refine .inr ⟨fun _ _ h => (nomatch h), failedDocument_returns ?_⟩
    refine ⟨(by decide : isBlank "UnsupportedContentType" = false),
      (by decide +kernel :
        isBlank "Source content type is not supported by the HTTP/HTML reader." = false),
      nonblank_metadata ?_⟩
    split
    case isTrue => decide
    case isFalse hne => exact isBlank_contentTypeOf hfacts hne
  | some normalizedType =>
    have hcontentType := isBlank_of_lookup htype
    cases htext : reader.extractText fetched normalizedType with
    | error failure =>
      refine .inl ⟨normalizedType, failure, rfl, htext, ?_⟩
      dsimp only
      rw [htext, error_bind]
    | ok text =>
      refine .inr ⟨fun _ failure h => ?_, ?_⟩
      · obtain rfl := Option.some.inj h
        rw [htext]
        exact fun hne => nomatch hne
      · dsimp only
        rw [htext, ok_bind]
        split
        case isTrue =>
          exact failedDocument_returns
            ⟨(by decide : isBlank "EmptyDocument" = false),
              (by decide +kernel : isBlank "Source document contains no readable text." = false),
              nonblank_metadata hcontentType⟩
        case isFalse hne =>
          refine readDocument_returns hfacts.keepsLowercase hcontentType ?_
          rwa [Ne, stripChars_eq_nil, nonspace_stripChars, ← stripChars_eq_nil]

/-- Reading yields a valid document exactly if the exceptions of the libraries on the way are of
the classes that the `except` clauses list. -/
theorem read_returns_iff (reader : SourceReader) (hfacts : CasefoldFacts reader.libraries.casefold)
    (candidate : ReadCandidate) :
    Returns reader candidate (reader.read candidate) ↔
      ∀ failure, LibraryRaises reader candidate failure → exceptClause failure ≠ none := by
  unfold read
  have hraised (failure : Raised)
      (hfetch : fetchSource reader.libraries reader.config candidate.url = .error (.raised failure))
      {other : Raised} (hother : LibraryRaises reader candidate other) : other = failure := by
    cases hother with
    | fetch hreached h =>
      rw [hreached.fetchSource_eq, fetchSourceFrom_stop h.fetchStep_eq] at hfetch
      exact FetchFailure.raised.inj (Except.error.inj hfetch)
    | text hfetched => rw [hfetch] at hfetched; cases hfetched
  cases hfetch : fetchSource reader.libraries reader.config candidate.url with
  | error failure =>
    cases failure with
    | httpStatus statusCode =>
      refine iff_of_true (failedDocument_returns (nonblank_httpFailure statusCode)) ?_
      intro other hother
      cases hother with
      | fetch hreached h =>
        rw [hreached.fetchSource_eq, fetchSourceFrom_stop h.fetchStep_eq] at hfetch
        cases hfetch
      | text hfetched => rw [hfetch] at hfetched; cases hfetched
    | raised failure =>
      dsimp only
      rw [answerFailure_returns]
      constructor
      · intro hcaught other hother
        rw [hraised failure hfetch hother]
        exact hcaught
      · intro hall
        rcases fetchSourceFrom_raised .start hfetch with ⟨_, _, hreached, hraises⟩ | hown
        · exact hall failure (.fetch hreached hraises)
        · exact hown.caught
  | ok fetched =>
    dsimp only
    rcases @readFetched_cases reader candidate hfacts fetched with
      ⟨normalizedType, failure, htype, htext, hread⟩ | ⟨hnone, document, hread, hdocument⟩
    · rw [hread]
      dsimp only
      rw [answerFailure_returns]
      constructor
      · intro hcaught other hother
        cases hother with
        | fetch hreached h =>
          rw [hreached.fetchSource_eq, fetchSourceFrom_stop h.fetchStep_eq] at hfetch
          cases hfetch
        | text hfetched htype' h =>
          rw [hfetch] at hfetched
          obtain rfl := Except.ok.inj hfetched
          rw [htype] at htype'
          obtain rfl := Option.some.inj htype'
          rw [htext] at h
          rw [← Except.error.inj h]
          exact hcaught
      · exact fun hall => hall failure (.text hfetch htype htext)
    · rw [hread]
      refine iff_of_true ⟨document, rfl, hdocument⟩ ?_
      intro other hother
      cases hother with
      | fetch hreached h =>
        rw [hreached.fetchSource_eq, fetchSourceFrom_stop h.fetchStep_eq] at hfetch
        cases hfetch
      | text hfetched htype h =>
        rw [hfetch] at hfetched
        obtain rfl := Except.ok.inj hfetched
        exact absurd h (hnone _ _ htype)

theorem casefoldFacts_ascii : CasefoldFacts asciiCasefold where
  keepsLowercase := keepsLowercase_asciiCasefold
  nonblank := by
    intro text hblank
    rw [isBlank_iff] at hblank ⊢
    intro character hmem
    have hlower := hblank character.toLower (by
      rw [asciiCasefold, String.toList_ofList]
      exact List.mem_map_of_mem hmem)
    by_cases hupper : 'A' ≤ character ∧ character ≤ 'Z'
    · exfalso
      obtain ⟨hlow, hhigh⟩ := hupper
      rw [Char.le_def, UInt32.le_iff_toNat_le] at hlow hhigh
      have hA : 'A'.val.toNat = 65 := rfl
      have hZ : 'Z'.val.toNat = 90 := rfl
      have hletters : ∀ code : Fin 91, 65 ≤ code.val →
          isSpace (Char.ofNat code.val).toLower = false := by decide +kernel
      have hcode := hletters ⟨character.toNat, by change character.val.toNat < 91; omega⟩
        (by change 65 ≤ character.val.toNat; omega)
      rw [Char.ofNat_toNat, hlower] at hcode
      cases hcode
    · rwa [toLower_of_not_upper hupper] at hlower

/-- `socket.gaierror` -/
def nameResolutionFailure : Raised :=
  ⟨.external "gaierror" .exception, "Name or service not known"⟩

def sampleReader : SourceReader where
  libraries := {
    casefold := asciiCasefold
    urlsplit := fun _ => .ok ⟨"https", some "s", none, none, .ok none⟩
    urljoin := fun _ url => .ok url
    ipAddress := fun _ => none
    parseInt := fun _ => none
    connectTarget := fun _ => .ok ("s", none)
    resolver := fun _ _ _ => .error nameResolutionFailure
    respond := fun _ _ => .error ⟨.external "RequestError" .exception, ""⟩
    responseHead := fun _ => ⟨none, none, "u", by decide⟩
    decode := fun _ _ => .ok []
    htmlEvents := fun _ => .ok [] }
  config := ⟨1024, 3, "a"⟩
  name := "n"
  name_nonblank := by decide

def sampleCandidate : ReadCandidate := ⟨"r", "s", "https://s/"⟩

theorem read_returns_iff_sample :
    Returns sampleReader sampleCandidate (sampleReader.read sampleCandidate) ↔
      ∀ failure, LibraryRaises sampleReader sampleCandidate failure → exceptClause failure ≠ none :=
  read_returns_iff sampleReader casefoldFacts_ascii sampleCandidate

theorem looksUp_sample (url : String) :
    LooksUp sampleReader.libraries url ⟨"https", some "s", none, none, .ok none⟩ "s" where
  split := rfl
  scheme := by decide +kernel
  host := by decide
  anonymous := by decide
  hostname_eq := by decide +kernel
  remote := by decide
  indirect := rfl

/-- The failed lookup of a host name leaves `read`. -/
theorem read_raises_unresolved :
    ¬Returns sampleReader sampleCandidate (sampleReader.read sampleCandidate) := by
  have hraises : RoundRaises sampleReader.libraries sampleReader.config 0 sampleCandidate.url
      nameResolutionFailure := .resolver (looksUp_sample _) rfl rfl
  have hfetch : fetchSource sampleReader.libraries sampleReader.config sampleCandidate.url =
      .error (.raised nameResolutionFailure) := fetchSourceFrom_stop hraises.fetchStep_eq
  rw [read, hfetch]
  dsimp only
  rw [answerFailure_returns, not_not]
  rfl

end SourceReader

end AgenticLab.HttpHtmlResearchSourceReader
