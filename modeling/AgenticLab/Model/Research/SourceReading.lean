import AgenticLab.Model.Research.HtmlText
import AgenticLab.Model.Research.HttpSourceReader

/-! # Reading a source (`HttpHtmlResearchSourceReader.read`)

How the connection to a checked address is made belongs to `respond` here. An exception of a
library stands under the name of the class that an `except` clause would catch it by. -/

namespace AgenticLab.HttpHtmlResearchSourceReader

/-- What is read of a response beside its body and its status. -/
structure ResponseHead where
  contentType : Option String
  encoding : Option String
  url : String
  url_nonblank : isBlank url = false

/-- The libraries that `read` uses. `responseHead` belongs to the response of the request with that
number. -/
structure ReaderLibraries extends Network where
  responseHead : ℕ → ResponseHead
  decode : String → List UInt8 → Except Raised (List Char)
  /-- The calls that `HTMLParser.feed` and `close` make. -/
  htmlEvents : List Char → Except Raised (List HtmlEvent)

structure SourceReader where
  libraries : ReaderLibraries
  config : HttpHtmlReaderConfig
  name : String
  name_nonblank : isBlank name = false

/-! ## Fetching -/

/-- What `_fetch` raises. The response of an `HTTPStatusError` is read. -/
inductive FetchFailure where
  | raised (failure : Raised)
  | httpStatus (statusCode : ℕ)

/-- What `_fetch` returns. -/
structure FetchedSource where
  statusCode : ℕ
  head : ResponseHead
  redirects : ℕ
  body : List UInt8

inductive FetchStep where
  | stop (result : Except FetchFailure FetchedSource)
  | redirect (url : String)

variable (libraries : ReaderLibraries) (config : HttpHtmlReaderConfig)

def receiveResponse (redirects : ℕ) (url : String) (response : Response) : FetchStep :=
  if response.statusCode ∈ [301, 302, 303, 307, 308] then
    if config.maximumRedirects ≤ redirects then .stop (.error (.raised redirectLimit))
    else
      match response.location.filter fun location => isBlank location = false with
      -- `raise_for_status` raises for every status that is no success
      | none => .stop (.error (.httpStatus response.statusCode))
      | some location =>
        match libraries.urljoin url (strip location) with
        | .error failure => .stop (.error (.raised failure))
        | .ok next => .redirect next
  else if ¬(200 ≤ response.statusCode ∧ response.statusCode < 300) then
    .stop (.error (.httpStatus response.statusCode))
  else
    match validateDeclaredSize libraries.toNetwork config response with
    | .error failure => .stop (.error (.raised failure))
    | .ok () =>
      match readBody config response.failure [] response.chunks with
      | (_, .error failure) => .stop (.error (.raised failure))
      | (chunks, .ok ()) =>
        .stop (.ok ⟨response.statusCode, libraries.responseHead redirects, redirects,
          chunks.flatten⟩)

/-- One round of the loop of `_fetch`. -/
def fetchStep (redirects : ℕ) (url : String) : FetchStep :=
  match validatePublicUrl libraries.toNetwork redirects url with
  | .error failure => .stop (.error (.raised failure))
  | .ok _ =>
    match libraries.respond redirects (requestHead config url) with
    | .error failure => .stop (.error (.raised failure))
    | .ok response => receiveResponse libraries config redirects url response

variable {url next : String}

theorem receiveResponse_redirect {redirects : ℕ} {response : Response}
    (h : receiveResponse libraries config redirects url response = .redirect next) :
    redirects < config.maximumRedirects := by
  unfold receiveResponse at h
  split_ifs at h with hredirect hlimit hstatus
  · exact not_le.mp hlimit
  · split at h
    next => cases h
    next => split at h <;> cases h

theorem fetchStep_redirect {redirects : ℕ}
    (h : fetchStep libraries config redirects url = .redirect next) :
    redirects < config.maximumRedirects := by
  unfold fetchStep at h
  split at h
  next => cases h
  next =>
    split at h
    next => cases h
    next => exact receiveResponse_redirect libraries config h

/-- The loop of `_fetch`. -/
def fetchSourceFrom (redirects : ℕ) (url : String) : Except FetchFailure FetchedSource :=
  match h : fetchStep libraries config redirects url with
  | .stop result => result
  | .redirect next =>
    have := fetchStep_redirect libraries config h
    fetchSourceFrom (redirects + 1) next
termination_by config.maximumRedirects - redirects

/-- `_fetch` -/
def fetchSource (url : String) : Except FetchFailure FetchedSource :=
  fetchSourceFrom libraries config 0 url

/-! ## Documents -/

/-- The arguments of `_failed_document`. -/
structure FailedRead where
  errorType : String
  message : String
  retryable : Bool
  metadata : List (String × String)

def documentId (candidate : ReadCandidate) : String :=
  strip candidate.requestId ++ "-document-" ++ strip candidate.sourceId

def allowedContentTypes : List (String × ResearchSourceContentType) :=
  [("text/html", .html), ("application/xhtml+xml", .html), ("text/plain", .text),
    ("text/markdown", .markdown)]

/-- `_content_type` -/
def contentTypeOf (head : ResponseHead) : String :=
  let value := head.contentType.getD ""
  libraries.casefold (strip (String.ofList (value.toList.takeWhile (· ≠ ';'))))

/-- `response.encoding or "utf-8"` -/
def encodingOf (head : ResponseHead) : String :=
  match head.encoding with
  | some encoding => if encoding = "" then "utf-8" else encoding
  | none => "utf-8"

/-- The `except` clauses of `read` for everything but an `HTTPStatusError`. -/
def exceptClause (failure : Raised) : Option FailedRead :=
  if failure.cls = unsafeSource.cls then
    some ⟨"UnsafeSourceUrl", "Source URL is not allowed by the HTTP reader safety policy.", false, []⟩
  else if failure.cls = redirectLimit.cls then
    some ⟨"RedirectLimitExceeded", "Source exceeded the configured redirect limit.", false, []⟩
  else if failure.cls = documentTooLarge.cls then
    some ⟨"DocumentTooLarge", "Source document exceeds the configured size limit.", false, []⟩
  else if failure.cls = .external "TimeoutException" .exception then
    some ⟨"DocumentReadTimeout", "Source reading timed out.", true, []⟩
  else if failure.cls = .external "RequestError" .exception then
    some ⟨"DocumentNetworkError", "Source could not be reached.", true, []⟩
  else if failure.cls = .unicodeDecodeError ∨ failure.cls = .external "LookupError" .exception then
    some ⟨"DocumentDecodeError", "Source text encoding could not be decoded.", false, []⟩
  else none

def httpFailure (statusCode : ℕ) : FailedRead where
  errorType := "DocumentHttpError"
  message := "Source request failed with HTTP status " ++ toString statusCode ++ "."
  retryable := statusCode = 429 ∨ 500 ≤ statusCode
  metadata := [("http_status", toString statusCode)]

namespace SourceReader

variable (reader : SourceReader) (candidate : ReadCandidate)

def failedDocument (failed : FailedRead) : Except Raised ResearchSourceDocument := do
  let error ← newDocumentError ⟨failed.errorType, failed.message, failed.retryable⟩
  let document : ResearchSourceDocument := {
    documentId := documentId candidate
    candidate := candidate
    status := .failed
    contentType := .other
    content := []
    language := none
    sections := []
    wordCount := 0
    characterCount := 0
    reader := reader.name
    error := some error
    metadata := ("transport", "http") :: failed.metadata }
  document.validate reader.libraries.casefold
  return document

def readDocument (fetched : FetchedSource) (contentType : String)
    (normalizedType : ResearchSourceContentType) (text : List Char) :
    Except Raised ResearchSourceDocument := do
  let sections ← buildSections text
  let document : ResearchSourceDocument := {
    documentId := documentId candidate
    candidate := candidate
    status := .read
    contentType := normalizedType
    content := text
    language := none
    sections := sections
    wordCount := (splitWords text).length
    characterCount := text.length
    reader := reader.name
    error := none
    metadata := [("transport", "http"), ("http_status", toString fetched.statusCode),
      ("content_type", contentType), ("final_url", fetched.head.url),
      ("redirect_count", toString fetched.redirects),
      ("received_bytes", toString fetched.body.length)] }
  document.validate reader.libraries.casefold
  return document

/-- `_decode` and, for HTML, `_html_to_text`. -/
def extractText (fetched : FetchedSource) (normalizedType : ResearchSourceContentType) :
    Except Raised (List Char) := do
  let text ← reader.libraries.decode (encodingOf fetched.head) fetched.body
  if normalizedType = .html then
    let events ← reader.libraries.htmlEvents text
    return htmlToText events
  else return text

/-- The body of the `try` statement behind `_fetch`. -/
def readFetched (fetched : FetchedSource) : Except Raised ResearchSourceDocument :=
  let contentType := contentTypeOf reader.libraries fetched.head
  match allowedContentTypes.lookup contentType with
  | none =>
    reader.failedDocument candidate {
      errorType := "UnsupportedContentType"
      message := "Source content type is not supported by the HTTP/HTML reader."
      retryable := false
      metadata := [("http_status", toString fetched.statusCode),
        ("content_type", if contentType = "" then "missing" else contentType)] }
  | some normalizedType => do
      let text := stripChars (← reader.extractText fetched normalizedType)
      if text = [] then
        reader.failedDocument candidate {
          errorType := "EmptyDocument"
          message := "Source document contains no readable text."
          retryable := false
          metadata := [("http_status", toString fetched.statusCode),
            ("content_type", contentType)] }
      else reader.readDocument candidate fetched contentType normalizedType text

/-- An `except` clause answers, or the exception leaves `read`. -/
def answerFailure (failure : Raised) : Except Raised ResearchSourceDocument :=
  match exceptClause failure with
  | some failed => reader.failedDocument candidate failed
  | none => .error failure

def read : Except Raised ResearchSourceDocument :=
  match fetchSource reader.libraries reader.config candidate.url with
  | .error (.httpStatus statusCode) => reader.failedDocument candidate (httpFailure statusCode)
  | .error (.raised failure) => reader.answerFailure candidate failure
  | .ok fetched =>
    match reader.readFetched candidate fetched with
    | .ok document => .ok document
    | .error failure => reader.answerFailure candidate failure

end SourceReader

end AgenticLab.HttpHtmlResearchSourceReader
