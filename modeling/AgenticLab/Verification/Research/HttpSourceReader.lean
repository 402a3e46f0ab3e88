import AgenticLab.Model.Research.HttpSourceReader
import Mathlib.Data.List.Flatten

/-! # Where the requests of a fetch go -/

namespace AgenticLab.HttpHtmlResearchSourceReader

variable {network : Network} {config : HttpHtmlReaderConfig}

def IsGlobal (network : Network) (address : String) : Prop :=
  ∃ resolved ∈ network.ipAddress address, resolved.isGlobal = true

/-- The round of a request has checked its URL, and the request has gone to what the host was
resolved to behind that. -/
def Request.Checked (network : Network) (request : Request) : Prop :=
  ∃ lookups after,
    validatePublicUrl network request.lookups request.head.url = .ok (request.validated, lookups) ∧
    connectAddresses network lookups request.head.url = .ok (request.addresses, after)

def Bounded (config : HttpHtmlReaderConfig) (chunks : List (List UInt8)) : Prop :=
  chunks.dropLast.flatten.length ≤ config.maximumBytes

/-- The reader has talked to public destinations only, not too often, and has kept one chunk beyond
the limit at most. -/
structure Safe (network : Network) (config : HttpHtmlReaderConfig) (fetched : Fetched) : Prop where
  checked : ∀ request ∈ fetched.requests, request.Checked network
  global : ∀ request ∈ fetched.requests, ∀ address ∈ request.addresses, IsGlobal network address
  count : fetched.requests.length ≤ config.maximumRedirects + 1
  bounded : Bounded config fetched.chunks

theorem validateAddress_eq_ok {address : String} {resolved : IpAddress}
    (h : validateAddress network address = .ok resolved) :
    network.ipAddress address = some resolved ∧ resolved.isGlobal = true := by
  unfold validateAddress at h
  split at h
  next => cases h
  next found hfound =>
    rw [raiseIf_bind_eq_ok, Bool.not_eq_false] at h
    obtain ⟨hglobal, h⟩ := h
    cases h
    exact ⟨hfound, hglobal⟩

theorem mapM_validateAddress {addresses : List String} {resolved : List IpAddress}
    (h : addresses.mapM (validateAddress network) = .ok resolved) :
    ∀ address ∈ resolved, address.isGlobal = true := by
  induction addresses generalizing resolved with
  | nil =>
    cases h
    exact fun _ hmem => absurd hmem List.not_mem_nil
  | cons address addresses ih =>
    rw [List.mapM_cons, bind_eq_ok] at h
    obtain ⟨first, hfirst, h⟩ := h
    rw [bind_eq_ok] at h
    obtain ⟨rest, hrest, h⟩ := h
    cases h
    intro other hother
    rcases List.mem_cons.mp hother with rfl | hother
    · exact (validateAddress_eq_ok hfirst).2
    · exact ih hrest other hother

theorem validatePublicUrl_global {lookups after : ℕ} {url : String} {validated : List IpAddress}
    (h : validatePublicUrl network lookups url = .ok (validated, after)) :
    ∀ address ∈ validated, address.isGlobal = true := by
  rw [validatePublicUrl, bind_eq_ok] at h
  obtain ⟨parsed, _, h⟩ := h
  rw [raiseIf_bind_eq_ok, raiseIf_bind_eq_ok, raiseIf_bind_eq_ok] at h
  obtain ⟨_, _, _, h⟩ := h
  dsimp only at h
  rw [raiseIf_bind_eq_ok] at h
  obtain ⟨_, h⟩ := h
  rw [bind_eq_ok] at h
  obtain ⟨⟨addresses, later⟩, _, h⟩ := h
  dsimp only at h
  rw [raiseIf_bind_eq_ok, bind_eq_ok] at h
  obtain ⟨_, resolved, hresolved, h⟩ := h
  cases h
  exact mapM_validateAddress hresolved

theorem readBody_bounded (failure : Option Raised) {body chunks : List (List UInt8)}
    (h : body.flatten.length ≤ config.maximumBytes) :
    Bounded config (readBody config failure body chunks).1 := by
  induction chunks generalizing body with
  | nil =>
    refine le_trans ?_ h
    simp only [readBody]
    exact (List.Sublist.flatten (List.dropLast_sublist body)).length_le
  | cons chunk chunks ih =>
    rw [readBody]
    split_ifs with hlimit
    · rw [Bounded, List.dropLast_concat]
      exact h
    · exact ih (not_lt.mp hlimit)

/-! ## Rounds -/

/-- What a round has done when the fetching ends with it. -/
structure Stopped (network : Network) (config : HttpHtmlReaderConfig) (requests : List Request)
    (chunks : List (List UInt8)) : Prop where
  checked : ∀ request ∈ requests, request.Checked network
  count : requests.length ≤ 1
  bounded : Bounded config chunks

theorem bounded_nil : Bounded config [] := Nat.zero_le _

variable {request : Request} {chunks : List (List UInt8)}

theorem Request.Checked.stopped (h : request.Checked network) (hbounded : Bounded config chunks) :
    Stopped network config [request] chunks :=
  ⟨fun _ hmem => List.mem_singleton.mp hmem ▸ h, Nat.le_refl 1, hbounded⟩

def Round.Sound (network : Network) (config : HttpHtmlReaderConfig) : Round → Prop
  | .stop requests chunks _ => Stopped network config requests chunks
  | .redirect request _ _ => request.Checked network

variable {redirects lookups : ℕ}

theorem receive_sound (response : Response) (h : request.Checked network) :
    (receive network config redirects lookups request response).Sound network config := by
  unfold receive
  split_ifs with hredirect hlimit hstatus
  · exact h.stopped bounded_nil
  · split
    next => exact h.stopped bounded_nil
    next =>
      split
      next => exact h.stopped bounded_nil
      next => exact h
  · split
    next => exact h.stopped bounded_nil
    next => exact h.stopped (readBody_bounded _ (Nat.zero_le _))
  · exact h.stopped bounded_nil

variable (network config) in
theorem fetchRound_sound (redirects lookups : ℕ) (url : String) :
    (fetchRound network config redirects lookups url).Sound network config := by
  have hnone : Stopped network config [] [] :=
    ⟨fun _ hmem => absurd hmem List.not_mem_nil, Nat.zero_le 1, bounded_nil⟩
  unfold fetchRound
  split
  next => exact hnone
  next hvalidated =>
    split
    next => exact hnone
    next hconnected =>
      have hchecked : Request.Checked network ⟨requestHead config url, lookups, _, _⟩ :=
        ⟨_, _, hvalidated, hconnected⟩
      dsimp only
      split
      next => exact hchecked.stopped bounded_nil
      next => exact receive_sound _ hchecked

theorem fetchFrom_of_stop {url : String} {requests : List Request}
    {result : Except Raised (ℕ × List UInt8)}
    (h : fetchRound network config redirects lookups url = .stop requests chunks result) :
    fetchFrom network config redirects lookups url = ⟨requests, chunks, result⟩ := by
  rw [fetchFrom]
  split
  next hround =>
    cases h.symm.trans hround
    rfl
  next hround => cases h.symm.trans hround

/-- A fetch from any round on: every request is checked, and the rounds that are left bound their
number. -/
theorem fetchFrom_sound (lookups : ℕ) (url : String) {redirects : ℕ}
    (h : redirects ≤ config.maximumRedirects) :
    (∀ request ∈ (fetchFrom network config redirects lookups url).requests,
      request.Checked network) ∧
    (fetchFrom network config redirects lookups url).requests.length + redirects ≤
      config.maximumRedirects + 1 ∧
    Bounded config (fetchFrom network config redirects lookups url).chunks := by
  fun_induction fetchFrom network config redirects lookups url with
  | case1 redirects lookups url requests chunks result hround =>
    have hsound := fetchRound_sound network config redirects lookups url
    rw [hround] at hsound
    have hcount := hsound.count
    exact ⟨hsound.checked, by dsimp only; omega, hsound.bounded⟩
  | case2 redirects lookups url request after next hround hmore rest ih =>
    have hsound := fetchRound_sound network config redirects lookups url
    rw [hround] at hsound
    obtain ⟨hchecked, hcount, hbounded⟩ := ih hmore
    refine ⟨fun other hother => ?_, ?_, hbounded⟩
    · rcases List.mem_cons.mp hother with rfl | hother
      · exact hsound
      · exact hchecked other hother
    · have hrest : rest.requests.length + (redirects + 1) ≤ config.maximumRedirects + 1 := hcount
      rw [List.length_cons]
      omega

/-- The host `a.example` is public the first time it is looked up, and the reader's own machine from
then on. -/
def sampleNetwork : Network where
  casefold := asciiCasefold
  urlsplit url :=
    if url = "http://a.example/" then .ok ⟨"http", some "a.example", none, none, .ok none⟩
    else .error ⟨.valueError, ""⟩
  urljoin _ location := .ok location
  ipAddress text :=
    if text = "93.184.216.34" then some ⟨"93.184.216.34", true⟩
    else if text = "127.0.0.1" then some ⟨"127.0.0.1", false⟩
    else none
  parseInt _ := none
  connectTarget _ := .ok ("a.example", some 80)
  resolver lookups _ _ :=
    if lookups = 0 then .ok ["93.184.216.34"] else .ok ["127.0.0.1"]
  respond _ _ := .ok ⟨200, none, none, [[104, 105]], none⟩

def sampleConfig : HttpHtmlReaderConfig := ⟨1000000, 3, "AIRA-ResearchReader/0.1"⟩

def sampleRequest (address : String) : Request :=
  ⟨requestHead sampleConfig "http://a.example/", 0, [⟨"93.184.216.34", true⟩], [address]⟩

theorem fetch_rebound : fetch sampleNetwork sampleConfig "http://a.example/" =
    ⟨[sampleRequest "127.0.0.1"], [[104, 105]], .ok (0, [104, 105])⟩ :=
  fetchFrom_of_stop rfl

end AgenticLab.HttpHtmlResearchSourceReader
