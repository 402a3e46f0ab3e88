import AgenticLab.Model.Application.Values

/-! # Fetching a source (`app/research/http_html_research_source_reader.py`) -/

namespace AgenticLab.HttpHtmlResearchSourceReader

def unsafeSource : Raised := ⟨.external "_UnsafeSourceError" .runtimeOrValueError, ""⟩
def redirectLimit : Raised := ⟨.external "_RedirectLimitError" .runtimeOrValueError, ""⟩
def documentTooLarge : Raised := ⟨.external "_DocumentTooLargeError" .runtimeOrValueError, ""⟩
def httpStatusFailure : Raised := ⟨.external "HTTPStatusError" .exception, ""⟩

/-- `HttpHtmlReaderConfig`, without its timeout. -/
structure HttpHtmlReaderConfig where
  maximumBytes : ℕ
  maximumRedirects : ℕ
  userAgent : String

/-! ## Libraries and network -/

/-- What is read of `urlsplit(url)`; reading the port may raise. -/
structure SplitResult where
  scheme : String
  hostname : Option String
  username : Option String
  password : Option String
  port : Except Raised (Option ℕ)

structure IpAddress where
  text : String
  isGlobal : Bool
  deriving DecidableEq

/-- A response of `httpx`, its body chunk by chunk, with the error that breaks it off. -/
structure Response where
  statusCode : ℕ
  location : Option String
  contentLength : Option String
  chunks : List (List UInt8)
  failure : Option Raised

structure RequestHead where
  url : String
  userAgent : String
  accept : String

/-- What the reader takes from Python's libraries and from the network. Lookups and requests are
numbered, as the same one may be answered in another way the next time. `connectTarget` is the host
that `httpx` connects to for a URL. -/
structure Network where
  casefold : Casefold
  urlsplit : String → Except Raised SplitResult
  urljoin : String → String → Except Raised String
  ipAddress : String → Option IpAddress
  parseInt : String → Option ℤ
  connectTarget : String → Except Raised (String × Option ℕ)
  resolver : ℕ → String → Option ℕ → Except Raised (List String)
  respond : ℕ → RequestHead → Except Raised Response

variable (network : Network) (config : HttpHtmlReaderConfig)

/-- `value.rstrip(".")` -/
def rstripDots (value : String) : String :=
  String.ofList (value.toList.reverse.dropWhile (· = '.')).reverse

/-- The body of the loop over `addresses`. -/
def validateAddress (address : String) : Except Raised IpAddress :=
  match network.ipAddress address with
  | none => .error unsafeSource
  | some resolved => do
      raiseIf (resolved.isGlobal = false) unsafeSource
      return resolved

def resolveHostname (lookups : ℕ) (parsed : SplitResult) (hostname : String) :
    Except Raised (List String × ℕ) :=
  match network.ipAddress hostname with
  | some directIp => .ok ([directIp.text], lookups)
  | none => do
      let port ← parsed.port
      let addresses ← network.resolver lookups hostname port
      return (addresses, lookups + 1)

/-- `_validate_public_url`, behind that many lookups, with the addresses it has checked and the
lookups so far. -/
def validatePublicUrl (lookups : ℕ) (url : String) : Except Raised (List IpAddress × ℕ) := do
  let parsed ← network.urlsplit (strip url)
  raiseIf (network.casefold parsed.scheme ∉ ["http", "https"]) unsafeSource
  raiseIf (parsed.hostname.getD "" = "") unsafeSource
  raiseIf (parsed.username ≠ none ∨ parsed.password ≠ none) unsafeSource
  let hostname := rstripDots (network.casefold (parsed.hostname.getD ""))
  raiseIf (hostname = "localhost" ∨ ".localhost".toList <:+ hostname.toList) unsafeSource
  let (addresses, lookups) ← resolveHostname network lookups parsed hostname
  raiseIf (addresses = []) unsafeSource
  let resolved ← addresses.mapM (validateAddress network)
  return (resolved, lookups)

/-! ## Requests -/

/-- The addresses that `httpx` can connect to. -/
def connectAddresses (lookups : ℕ) (url : String) : Except Raised (List String × ℕ) := do
  let (host, port) ← network.connectTarget url
  match network.ipAddress host with
  | some directIp => .ok ([directIp.text], lookups)
  | none => do
      let addresses ← network.resolver lookups host port
      return (addresses, lookups + 1)

/-- A request that was sent: the lookups ahead of its round, the addresses that were checked, and
those that it could be sent to. -/
structure Request where
  head : RequestHead
  lookups : ℕ
  validated : List IpAddress
  addresses : List String

def requestHead (url : String) : RequestHead :=
  ⟨url, config.userAgent, "text/html,application/xhtml+xml,text/plain,text/markdown;q=0.9"⟩

/-- What `_fetch` has sent and kept, and how it ends. -/
structure Fetched where
  requests : List Request
  chunks : List (List UInt8)
  result : Except Raised (ℕ × List UInt8)

def validateDeclaredSize (response : Response) : Except Raised Unit :=
  match response.contentLength.bind network.parseInt with
  | none => .ok ()
  | some declared => raiseIf (config.maximumBytes < declared) documentTooLarge

/-- The loop over `response.iter_bytes()`, with the chunks in `body`. -/
def readBody (failure : Option Raised) (body : List (List UInt8)) :
    List (List UInt8) → List (List UInt8) × Except Raised Unit
  | [] => (body, match failure with
      | none => .ok ()
      | some failure => .error failure)
  | chunk :: chunks =>
    if config.maximumBytes < (body ++ [chunk]).flatten.length then
      (body ++ [chunk], .error documentTooLarge)
    else readBody failure (body ++ [chunk]) chunks

/-- A round of the loop comes to an end of the fetching or to the next URL. -/
inductive Round where
  | stop (requests : List Request) (chunks : List (List UInt8))
      (result : Except Raised (ℕ × List UInt8))
  | redirect (request : Request) (lookups : ℕ) (url : String)

def receive (redirects lookups : ℕ) (request : Request) (response : Response) : Round :=
  if response.statusCode ∈ [301, 302, 303, 307, 308] then
    if config.maximumRedirects ≤ redirects then .stop [request] [] (.error redirectLimit)
    else
      match response.location.filter fun location => isBlank location = false with
      -- `raise_for_status` raises for every status that is no success
      | none => .stop [request] [] (.error httpStatusFailure)
      | some location =>
        match network.urljoin request.head.url (strip location) with
        | .error failure => .stop [request] [] (.error failure)
        | .ok url => .redirect request lookups url
  else if ¬(200 ≤ response.statusCode ∧ response.statusCode < 300) then
    .stop [request] [] (.error httpStatusFailure)
  else
    match validateDeclaredSize network config response with
    | .error failure => .stop [request] [] (.error failure)
    | .ok () =>
      let (chunks, outcome) := readBody config response.failure [] response.chunks
      .stop [request] chunks (outcome.map fun _ => (redirects, chunks.flatten))

/-- One round of the loop of `_fetch`. -/
def fetchRound (redirects lookups : ℕ) (url : String) : Round :=
  match validatePublicUrl network lookups url with
  | .error failure => .stop [] [] (.error failure)
  | .ok (validated, validationLookups) =>
    match connectAddresses network validationLookups url with
    | .error failure => .stop [] [] (.error failure)
    | .ok (addresses, connectionLookups) =>
      let request := ⟨requestHead config url, lookups, validated, addresses⟩
      match network.respond redirects request.head with
      | .error failure => .stop [request] [] (.error failure)
      | .ok response => receive network config redirects connectionLookups request response

variable {redirects lookups after : ℕ}

theorem receive_redirect {request sent : Request} {response : Response} {url : String}
    (h : receive network config redirects lookups request response = .redirect sent after url) :
    redirects < config.maximumRedirects ∧ sent = request ∧ after = lookups := by
  unfold receive at h
  split_ifs at h with hredirect hlimit hstatus
  · split at h
    next => cases h
    next =>
      split at h
      next => cases h
      next =>
        cases h
        exact ⟨not_le.mp hlimit, rfl, rfl⟩
  · split at h
    next => cases h
    next => cases h

/-- A round that goes on has sent a request and is not the last one allowed. -/
theorem fetchRound_redirect {url next : String} {request : Request}
    (h : fetchRound network config redirects lookups url = .redirect request after next) :
    redirects < config.maximumRedirects := by
  unfold fetchRound at h
  split at h
  next => cases h
  next =>
    split at h
    next => cases h
    next =>
      dsimp only at h
      split at h
      next => cases h
      next => exact (receive_redirect network config h).1

/-- The loop of `_fetch`. -/
def fetchFrom (redirects lookups : ℕ) (url : String) : Fetched :=
  match h : fetchRound network config redirects lookups url with
  | .stop requests chunks result => ⟨requests, chunks, result⟩
  | .redirect request after next =>
    have := fetchRound_redirect network config h
    let rest := fetchFrom (redirects + 1) after next
    { rest with requests := request :: rest.requests }
termination_by config.maximumRedirects - redirects

def fetch (url : String) : Fetched := fetchFrom network config 0 0 url

end AgenticLab.HttpHtmlResearchSourceReader
