import AgenticLab.Model.Application.IdempotencyService
import AgenticLab.Verification.Application.JobRecord
import Mathlib.Data.List.Chain

/-! # Operations that execute once

Any number of clients whose calls interleave. The records stored under one identity form a
timeline in which an operation starts, fails and starts again, until it succeeds. -/

namespace AgenticLab

open ApplicationIdempotencyStatus
open IdempotencyOperation (handle)

variable {casefold : Casefold} {sha256 : Sha256}

namespace InMemoryApplicationIdempotencyRepository

variable {repository : InMemoryApplicationIdempotencyRepository casefold}
  {record stored : ApplicationIdempotencyRecord} {identity : IdempotencyIdentity}

theorem find_eq_some :
    repository.find identity = some record ↔
      record ∈ repository.records.records ∧ record.identity casefold = identity := by
  constructor
  · intro h
    obtain ⟨entry, hentry, hget⟩ := Option.bind_eq_some_iff.mp h
    obtain ⟨hmem, hidentity⟩ := KeyedStore.get_eq_some.mp hentry
    obtain ⟨other, hother, hidentities, hkeys⟩ := repository.recorded entry hmem
    have hsame := KeyedStore.get_of_mem hother
    rw [hkeys, hget] at hsame
    obtain rfl := Option.some.inj hsame
    exact ⟨hother, hidentities.trans hidentity⟩
  · rintro ⟨hmem, rfl⟩
    rw [find, repository.indexed record hmem]
    exact KeyedStore.get_of_mem hmem

theorem find_of_mem (h : record ∈ repository.records.records) :
    repository.find (record.identity casefold) = some record := find_eq_some.mpr ⟨h, rfl⟩

theorem find_add {hkey : repository.records.get (record.key casefold) = none}
    {hidentity : repository.identityIndex.get (record.identity casefold) = none} :
    (repository.add record hkey hidentity).find identity =
      if record.identity casefold = identity then some record else repository.find identity := by
  split_ifs with hsame
  · exact find_eq_some.mpr ⟨(KeyedStore.mem_insert (h := hkey)).mpr (.inr rfl), hsame⟩
  · apply Option.ext
    intro other
    rw [find_eq_some, find_eq_some]
    refine and_congr_left fun hother => ?_
    refine (KeyedStore.mem_insert (h := hkey)).trans (or_iff_left ?_)
    rintro rfl
    exact hsame hother

theorem find_put {hget : repository.records.get (record.key casefold) = some stored}
    {hidentity : record.identity casefold = stored.identity casefold} :
    (repository.put hget hidentity).find identity =
      if record.identity casefold = identity then some record else repository.find identity := by
  have hne : repository.records.get (record.key casefold) ≠ none := by
    rw [hget]
    exact Option.some_ne_none stored
  split_ifs with hsame
  · exact find_eq_some.mpr ⟨(KeyedStore.mem_replace_iff hne).mpr (.inl rfl), hsame⟩
  · apply Option.ext
    intro other
    rw [find_eq_some, find_eq_some]
    refine and_congr_left fun hother => ?_
    refine (KeyedStore.mem_replace_iff hne).trans ?_
    constructor
    · rintro (rfl | ⟨hmem, _⟩)
      · exact absurd hother hsame
      · exact hmem
    · intro hmem
      refine .inr ⟨hmem, fun hkey => hsame ?_⟩
      have hstored := KeyedStore.get_of_mem hmem
      rw [hkey, hget] at hstored
      rw [hidentity, Option.some.inj hstored, hother]

theorem create_cases (repository : InMemoryApplicationIdempotencyRepository casefold)
    (record : ApplicationIdempotencyRecord) :
    (∃ failure, repository.create record = (.error failure, repository)) ∨
      ∃ hkey hidentity, repository.create record = (.ok record, repository.add record hkey hidentity)
    := by
  unfold create
  split_ifs with hnew
  · exact .inr ⟨hnew.1, hnew.2, rfl⟩
  · exact .inl ⟨_, rfl⟩

theorem update_cases (repository : InMemoryApplicationIdempotencyRepository casefold)
    (record : ApplicationIdempotencyRecord) (expectedVersion : ℕ) :
    (∃ failure, repository.update record expectedVersion = (.error failure, repository)) ∨
      ∃ stored, ∃ hget : repository.records.get (record.key casefold) = some stored,
        ∃ hidentity, stored.val.recordVersion.val = expectedVersion ∧
          record.val.recordVersion.val = expectedVersion + 1 ∧
            repository.update record expectedVersion = (.ok record, repository.put hget hidentity)
    := by
  unfold update
  split
  · exact .inl ⟨_, rfl⟩
  · rename_i stored hget
    split_ifs with hversion hnext hidentity
    · exact .inl ⟨_, rfl⟩
    · exact .inl ⟨_, rfl⟩
    · exact .inr ⟨stored, hget, hidentity, not_not.mp hversion, not_not.mp hnext, rfl⟩
    · exact .inl ⟨_, rfl⟩

end InMemoryApplicationIdempotencyRepository

open InMemoryApplicationIdempotencyRepository

namespace ApplicationIdempotencyService

/-! ## Calls -/

inductive IdempotencyCall where
  | begin (request : ApplicationIdempotencyStartRequest) (allowRetryAfterFailure : Bool)
      (clock : Datetime) (recordId : String)
  | succeed (idempotencyRecordId : String) (result : Json.Value) (clock : Datetime)
  | fail (idempotencyRecordId code message : String) (retryable : Bool) (clock : Datetime)

namespace IdempotencyCall

variable (sha256) in
def program : IdempotencyCall → IdempotencyProgram Unit
  | begin request allowRetryAfterFailure clock recordId =>
    ApplicationIdempotencyService.begin sha256 request allowRetryAfterFailure clock recordId >>=
      fun _ => pure ()
  | succeed idempotencyRecordId result clock =>
    ApplicationIdempotencyService.succeed idempotencyRecordId result clock >>= fun _ => pure ()
  | fail idempotencyRecordId code message retryable clock =>
    ApplicationIdempotencyService.fail idempotencyRecordId code message retryable clock >>=
      fun _ => pure ()

variable (casefold sha256) in
def Creates (record : ApplicationIdempotencyRecord) : IdempotencyCall → Prop
  | begin request _ clock recordId => ∃ fingerprint,
      ApplicationIdempotencyService.fingerprint sha256 request.payload = .ok fingerprint ∧
        record.val = startedRecord request recordId fingerprint clock
  | _ => False

variable (casefold) in
def Updates (stored copy : ApplicationIdempotencyRecord) : IdempotencyCall → Prop
  | begin request _ clock _ => stored.identity casefold = request.identity casefold ∧
      stored.val.status = .failed ∧ copy.val = restartedRecord stored.val clock
  | succeed idempotencyRecordId result clock =>
    stored.key casefold = normalizeId casefold idempotencyRecordId ∧
      stored.val.status = .inProgress ∧ copy.val = succeededRecord stored.val result clock
  | fail idempotencyRecordId _ _ _ clock =>
    stored.key casefold = normalizeId casefold idempotencyRecordId ∧
      stored.val.status = .inProgress ∧ ∃ failure, copy.val = failedRecord stored.val failure clock

variable (sha256) in
def Finds (workspaceId operation idempotencyKey : String) : IdempotencyCall → Prop
  | begin request _ _ _ => workspaceId = request.workspaceId ∧ operation = request.operation ∧
      idempotencyKey = request.idempotencyKey ∧ ∃ fingerprint,
        ApplicationIdempotencyService.fingerprint sha256 request.payload = .ok fingerprint
  | _ => False

end IdempotencyCall

inductive Sighting where
  | read (record : ApplicationIdempotencyRecord)
  | wrote (record : ApplicationIdempotencyRecord)

def storedBy : (op : IdempotencyOperation) → op.Reply → Option ApplicationIdempotencyRecord
  | .create _, .ok record => some record
  | .update _ _, .ok record => some record
  | _, _ => none

def shownBy : (op : IdempotencyOperation) → op.Reply → List Sighting
  | .find _ _ _, reply => reply.toList.map .read
  | .get _, reply => reply.toList.map .read
  | .create record, reply => (storedBy (.create record) reply).toList.map .wrote
  | .update record version, reply => (storedBy (.update record version) reply).toList.map .wrote

variable (casefold) in
def IsReply : (op : IdempotencyOperation) → op.Reply → Prop
  | .find workspaceId operation idempotencyKey, reply => ∀ record ∈ reply,
      record.identity casefold = idempotencyIdentity casefold workspaceId operation idempotencyKey
  | .get idempotencyRecordId, reply => ∀ record ∈ reply,
      record.key casefold = normalizeId casefold idempotencyRecordId
  | .create record, reply => ∀ other, reply = .ok other → other = record
  | .update record _, reply => ∀ other, reply = .ok other → other = record

variable (casefold) in
def interface : Program.Interface IdempotencyOperation.Reply Sighting := ⟨shownBy, IsReply casefold⟩

variable (casefold sha256) in
def MayPerform (call : IdempotencyCall) (seen : List Sighting) : IdempotencyOperation → Prop
  | .find workspaceId operation idempotencyKey =>
    call.Finds sha256 workspaceId operation idempotencyKey
  | .get _ => True
  | .create record => call.Creates sha256 record
  | .update copy expectedVersion => ∃ stored, .read stored ∈ seen ∧
      expectedVersion = stored.val.recordVersion.val ∧ call.Updates casefold stored copy

variable (casefold sha256) in
abbrev Obeys {α : Type} (call : IdempotencyCall) (p : IdempotencyProgram α)
    (post : α → List Sighting → Prop) (seen : List Sighting) : Prop :=
  p.Respects (interface casefold) (MayPerform casefold sha256 call) post seen

section

variable {α β : Type} {call : IdempotencyCall} {seen : List Sighting}
  {post : α → List Sighting → Prop}

theorem lift_obeys {x : Except Raised β} {f : β → IdempotencyProgram α}
    (h : ∀ b, x = .ok b → Obeys casefold sha256 call (f b) post seen) :
    Obeys casefold sha256 call ((liftM x : IdempotencyProgram β) >>= f) post seen :=
  Program.Respects.bind (Program.Respects.lift h)

theorem find_obeys {workspaceId operation idempotencyKey : String}
    {f : Option ApplicationIdempotencyRecord → IdempotencyProgram α}
    (hfinds : call.Finds sha256 workspaceId operation idempotencyKey)
    (hnone : Obeys casefold sha256 call (f none) post seen)
    (hsome : ∀ existing : ApplicationIdempotencyRecord,
      existing.identity casefold =
          idempotencyIdentity casefold workspaceId operation idempotencyKey →
        Obeys casefold sha256 call (f (some existing)) post (seen ++ [.read existing])) :
    Obeys casefold sha256 call
      (ApplicationIdempotencyRepository.find workspaceId operation idempotencyKey >>= f) post
      seen := by
  refine .call hfinds fun reply hreply => ?_
  cases reply with
  | none =>
    change Program.Respects _ _ _ _ (seen ++ [])
    rwa [List.append_nil]
  | some existing => exact hsome existing (hreply existing rfl)

variable {f : ApplicationIdempotencyRecord → IdempotencyProgram α}

theorem require_obeys {idempotencyRecordId : String}
    (h : ∀ stored : ApplicationIdempotencyRecord,
      stored.key casefold = normalizeId casefold idempotencyRecordId →
        Obeys casefold sha256 call (f stored) post (seen ++ [.read stored])) :
    Obeys casefold sha256 call
      (ApplicationIdempotencyRepository.require idempotencyRecordId >>= f) post seen := by
  refine .call trivial fun reply hreply => ?_
  cases reply with
  | none => exact .error
  | some stored => exact h stored (hreply stored rfl)

theorem create_obeys {record : ApplicationIdempotencyRecord} (hcreates : call.Creates sha256 record)
    (h : Obeys casefold sha256 call (f record) post (seen ++ [.wrote record])) :
    Obeys casefold sha256 call (ApplicationIdempotencyRepository.create record >>= f) post
      seen := by
  refine .call hcreates fun reply hreply => ?_
  cases reply with
  | error failure => exact .error
  | ok created =>
    obtain rfl : created = record := hreply created rfl
    exact h

theorem update_obeys {stored copy : ApplicationIdempotencyRecord} (hread : .read stored ∈ seen)
    (hupdates : call.Updates casefold stored copy)
    (h : Obeys casefold sha256 call (f copy) post (seen ++ [.wrote copy])) :
    Obeys casefold sha256 call
      (ApplicationIdempotencyRepository.update copy stored.val.recordVersion.val >>= f) post
      seen := by
  refine .call ⟨stored, hread, rfl, hupdates⟩ fun reply hreply => ?_
  cases reply with
  | error failure => exact .error
  | ok updated =>
    obtain rfl : updated = copy := hreply updated rfl
    exact h

end

variable {record : ApplicationIdempotencyRecord}

theorem newIdempotencyRecord_eq_ok {content : IdempotencyContent}
    (h : newIdempotencyRecord content = .ok record) : record.val = content := by
  unfold newIdempotencyRecord at h
  split at h
  · exact (congrArg Subtype.val (Except.ok.inj h)).symm
  · cases h

theorem modelValidate_eq_ok {result other : ApplicationIdempotencyStartResult}
    (h : result.modelValidate = .ok other) : other = result := by
  obtain ⟨_, _, hresult⟩ := bind_eq_ok.mp h
  exact (Except.ok.inj hresult).symm

theorem now_eq_ok {value t : Datetime} (h : now value = .ok t) : t = value := by
  obtain ⟨_, ht⟩ := raiseIf_bind_eq_ok.mp h
  exact (Except.ok.inj ht).symm

theorem newRecordId_eq_ok {value id : String} (h : newRecordId value = .ok id) : id = value := by
  obtain ⟨_, hid⟩ := raiseIf_bind_eq_ok.mp h
  exact (Except.ok.inj hid).symm

variable (casefold) in
def Granted (request : ApplicationIdempotencyStartRequest)
    (result : ApplicationIdempotencyStartResult) (seen : List Sighting) : Prop :=
  result.executeOperation = true → .wrote result.record ∈ seen ∧
    result.record.identity casefold = request.identity casefold ∧
      result.record.val.status = .inProgress

variable {request : ApplicationIdempotencyStartRequest} {allowRetryAfterFailure : Bool}
  {clock : Datetime} {recordId idempotencyRecordId : String}

theorem begin_obeys :
    Obeys casefold sha256 (.begin request allowRetryAfterFailure clock recordId)
      (begin sha256 request allowRetryAfterFailure clock recordId) (Granted casefold request)
      [] := by
  apply lift_obeys
  intro fp hfp
  apply find_obeys
  · exact ⟨rfl, rfl, rfl, fp, hfp⟩
  · apply lift_obeys
    intro t ht
    apply lift_obeys
    intro id hid
    apply lift_obeys
    intro record hrecord
    have hval := newIdempotencyRecord_eq_ok hrecord
    rw [now_eq_ok ht, newRecordId_eq_ok hid] at hval
    apply create_obeys
    · exact ⟨fp, hfp, hval⟩
    refine Program.Respects.lift fun result hresult _ => ?_
    obtain rfl := modelValidate_eq_ok hresult
    refine ⟨List.mem_append_right _ List.mem_cons_self, ?_, ?_⟩
    · rw [ApplicationIdempotencyRecord.identity, hval]
      rfl
    · rw [hval]
      rfl
  · intro existing hidentity
    apply lift_obeys
    intro _ _
    cases hstatus : existing.val.status with
    | succeeded =>
      refine Program.Respects.lift fun result hresult hexecute => ?_
      obtain rfl := modelValidate_eq_ok hresult
      cases hexecute
    | inProgress => exact .error
    | failed =>
      apply lift_obeys
      intro _ _
      apply lift_obeys
      intro t ht
      apply lift_obeys
      intro record hrecord
      have hval := newIdempotencyRecord_eq_ok hrecord
      rw [now_eq_ok ht] at hval
      apply update_obeys List.mem_cons_self
      · exact ⟨hidentity, hstatus, hval⟩
      refine Program.Respects.lift fun result hresult _ => ?_
      obtain rfl := modelValidate_eq_ok hresult
      refine ⟨List.mem_append_right _ List.mem_cons_self, ?_, ?_⟩
      · refine Eq.trans ?_ hidentity
        rw [ApplicationIdempotencyRecord.identity, hval]
        rfl
      · rw [hval]
        rfl

theorem succeed_obeys {result : Json.Value} :
    Obeys casefold sha256 (.succeed idempotencyRecordId result clock)
      (succeed idempotencyRecordId result clock) (fun _ _ => True) [] := by
  apply require_obeys
  intro stored hkey
  apply lift_obeys
  intro _ hstatus
  apply lift_obeys
  intro t ht
  apply lift_obeys
  intro record hrecord
  have hval := newIdempotencyRecord_eq_ok hrecord
  rw [now_eq_ok ht] at hval
  rw [← Program.bind_pure (ApplicationIdempotencyRepository.update _ _)]
  apply update_obeys List.mem_cons_self
  · exact ⟨hkey, not_not.mp (raiseIf_eq_ok.mp hstatus), hval⟩
  exact .ok trivial

theorem fail_obeys {code message : String} {retryable : Bool} :
    Obeys casefold sha256 (.fail idempotencyRecordId code message retryable clock)
      (fail idempotencyRecordId code message retryable clock) (fun _ _ => True) [] := by
  apply require_obeys
  intro stored hkey
  apply lift_obeys
  intro _ hstatus
  apply lift_obeys
  intro t ht
  apply lift_obeys
  intro failure _
  apply lift_obeys
  intro record hrecord
  have hval := newIdempotencyRecord_eq_ok hrecord
  rw [now_eq_ok ht] at hval
  rw [← Program.bind_pure (ApplicationIdempotencyRepository.update _ _)]
  apply update_obeys List.mem_cons_self
  · exact ⟨hkey, not_not.mp (raiseIf_eq_ok.mp hstatus), failure, hval⟩
  exact .ok trivial

theorem program_obeys (call : IdempotencyCall) :
    Obeys casefold sha256 call (call.program sha256) (fun _ _ => True) [] := by
  cases call with
  | begin request allowRetryAfterFailure clock recordId =>
    exact Program.Respects.bind (begin_obeys.mono fun _ _ _ => .ok trivial)
  | succeed idempotencyRecordId result clock =>
    exact Program.Respects.bind (succeed_obeys.mono fun _ _ _ => .ok trivial)
  | fail idempotencyRecordId code message retryable clock =>
    exact Program.Respects.bind (fail_obeys.mono fun _ _ _ => .ok trivial)

def version (record : ApplicationIdempotencyRecord) : ℕ := record.val.recordVersion.val

def Holds (s : InMemoryApplicationIdempotencyRepository casefold) : Sighting → Prop
  | .read record => s.records.IsCopy version record
  | .wrote _ => True

theorem storedBy_cases (op : IdempotencyOperation)
    (s : InMemoryApplicationIdempotencyRepository casefold) :
    (storedBy op (handle op s).1 = none ∧ (handle op s).2 = s) ∨
      ∃ record, storedBy op (handle op s).1 = some record ∧
        ((∃ hkey hidentity, op = .create record ∧
            (handle op s).2 = s.add record hkey hidentity) ∨
          ∃ stored, ∃ hget : s.records.get (record.key casefold) = some stored, ∃ hidentity,
            op = .update record (version stored) ∧ version record = version stored + 1 ∧
              (handle op s).2 = s.put hget hidentity) := by
  cases op with
  | find workspaceId operation idempotencyKey => exact .inl ⟨rfl, rfl⟩
  | get idempotencyRecordId => exact .inl ⟨rfl, rfl⟩
  | create record =>
    rcases create_cases s record with ⟨failure, h⟩ | ⟨hkey, hidentity, h⟩
    · exact .inl ⟨by rw [handle, h]; rfl, congrArg Prod.snd h⟩
    · exact .inr ⟨record, by rw [handle, h]; rfl, .inl ⟨hkey, hidentity, rfl, congrArg Prod.snd h⟩⟩
  | update record expectedVersion =>
    rcases update_cases s record expectedVersion with
      ⟨failure, h⟩ | ⟨stored, hget, hidentity, rfl, hnext, h⟩
    · exact .inl ⟨by rw [handle, h]; rfl, congrArg Prod.snd h⟩
    · exact .inr ⟨record, by rw [handle, h]; rfl,
        .inr ⟨stored, hget, hidentity, rfl, hnext, congrArg Prod.snd h⟩⟩

variable {s : InMemoryApplicationIdempotencyRepository casefold}

theorem isCopy_handle (h : s.records.IsCopy version record) (op : IdempotencyOperation) :
    (handle op s).2.records.IsCopy version record := by
  rcases storedBy_cases op s with ⟨_, hsame⟩ | ⟨new, _, ⟨hkey, hidentity, _, hadd⟩ |
    ⟨stored, hget, hidentity, _, hnext, hput⟩⟩
  · rwa [hsame]
  · rw [hadd]
    exact h.insert hkey
  · rw [hput]
    exact h.replace hget (by omega)

theorem isReply_handle (op : IdempotencyOperation)
    (s : InMemoryApplicationIdempotencyRepository casefold) :
    IsReply casefold op (handle op s).1 := by
  cases op with
  | find workspaceId operation idempotencyKey =>
    exact fun record h => (find_eq_some.mp h).2
  | get idempotencyRecordId => exact fun record h => KeyedStore.key_of_get h
  | create record =>
    intro other h
    rcases create_cases s record with ⟨failure, hcreate⟩ | ⟨hkey, hidentity, hcreate⟩
    · exact nomatch (congrArg Prod.fst hcreate).symm.trans h
    · exact (Except.ok.inj ((congrArg Prod.fst hcreate).symm.trans h)).symm
  | update record expectedVersion =>
    intro other h
    rcases update_cases s record expectedVersion with
      ⟨failure, hupdate⟩ | ⟨stored, hget, hidentity, _, _, hupdate⟩
    · exact nomatch (congrArg Prod.fst hupdate).symm.trans h
    · exact (Except.ok.inj ((congrArg Prod.fst hupdate).symm.trans h)).symm

variable {op : IdempotencyOperation}

theorem read_of_shown
    (h : .read record ∈ shownBy op (handle op s).1) : record ∈ s.records.records := by
  cases op with
  | find workspaceId operation idempotencyKey =>
    obtain ⟨shown, hshown, hread⟩ := List.mem_map.mp h
    cases hread
    exact (find_eq_some.mp (Option.mem_toList.mp hshown)).1
  | get idempotencyRecordId =>
    obtain ⟨shown, hshown, hread⟩ := List.mem_map.mp h
    cases hread
    exact (KeyedStore.get_eq_some.mp (Option.mem_toList.mp hshown)).1
  | create created =>
    obtain ⟨_, _, hread⟩ := List.mem_map.mp h
    cases hread
  | update updated expectedVersion =>
    obtain ⟨_, _, hread⟩ := List.mem_map.mp h
    cases hread

theorem wrote_of_shown {reply : op.Reply} (h : .wrote record ∈ shownBy op reply) :
    storedBy op reply = some record := by
  cases op with
  | find workspaceId operation idempotencyKey =>
    obtain ⟨_, _, hwrote⟩ := List.mem_map.mp h
    cases hwrote
  | get idempotencyRecordId =>
    obtain ⟨_, _, hwrote⟩ := List.mem_map.mp h
    cases hwrote
  | create created =>
    obtain ⟨shown, hshown, hwrote⟩ := List.mem_map.mp h
    cases hwrote
    exact Option.mem_toList.mp hshown
  | update updated expectedVersion =>
    obtain ⟨shown, hshown, hwrote⟩ := List.mem_map.mp h
    cases hwrote
    exact Option.mem_toList.mp hshown

theorem sound : Interleaving.Sound (@handle casefold) (interface casefold)
    (IdempotencyCall.program sha256) (MayPerform casefold sha256) (fun _ _ => True) Holds where
  possible := isReply_handle
  program := program_obeys
  stable := by
    intro call seen op s _ _ sighting hsighting
    cases sighting with
    | read record => exact isCopy_handle hsighting op
    | wrote record => trivial
  fresh := by
    intro op s sighting hsighting
    cases sighting with
    | read record => exact isCopy_handle (KeyedStore.isCopy_of_mem (read_of_shown hsighting)) op
    | wrote record => trivial

abbrev IdempotencySystem (casefold : Casefold) (ι : Type) :=
  Interleaving.System IdempotencyOperation IdempotencyOperation.Reply IdempotencyCall Raised
    (InMemoryApplicationIdempotencyRepository casefold) Sighting ι

variable (sha256) in
def IdempotencySystem.step {ι : Type} [DecidableEq ι] (s : IdempotencySystem casefold ι)
    (action : Interleaving.Action ι IdempotencyCall) : IdempotencySystem casefold ι :=
  Interleaving.System.step handle (interface casefold) (IdempotencyCall.program sha256) s action

abbrev IdempotencyEvent (casefold : Casefold) :=
  Interleaving.Event IdempotencyOperation IdempotencyCall
    (InMemoryApplicationIdempotencyRepository casefold) Sighting

/-! ## The timeline of an identity -/

def storedUnder (identity : IdempotencyIdentity) (event : IdempotencyEvent casefold) :
    Option ApplicationIdempotencyRecord :=
  (storedBy event.op (handle event.op event.before).1).filter
    fun record => decide (record.identity casefold = identity)

def timeline (identity : IdempotencyIdentity) (history : List (IdempotencyEvent casefold)) :
    List ApplicationIdempotencyRecord := history.filterMap (storedUnder identity)

inductive NextStatus : ApplicationIdempotencyStatus → ApplicationIdempotencyStatus → Prop
  | restart : NextStatus failed inProgress
  | succeed : NextStatus inProgress succeeded
  | fail : NextStatus inProgress failed

/-- A record behind the one whose place it takes. -/
structure Follows (old new : ApplicationIdempotencyRecord) : Prop where
  status : NextStatus old.val.status new.val.status
  recordId : new.val.idempotencyRecordId = old.val.idempotencyRecordId
  fingerprint : new.val.requestFingerprint = old.val.requestFingerprint
  version : version new = version old + 1

theorem IdempotencyCall.Updates.follows {call : IdempotencyCall}
    {stored copy : ApplicationIdempotencyRecord} (h : call.Updates casefold stored copy) :
    Follows stored copy := by
  cases call with
  | begin request allowRetryAfterFailure clock recordId =>
    obtain ⟨_, hstatus, hcopy⟩ := h
    refine ⟨?_, by rw [hcopy]; rfl, by rw [hcopy]; rfl, by rw [version, hcopy]; rfl⟩
    rw [hstatus, hcopy]
    exact .restart
  | succeed idempotencyRecordId result clock =>
    obtain ⟨_, hstatus, hcopy⟩ := h
    refine ⟨?_, by rw [hcopy]; rfl, by rw [hcopy]; rfl, by rw [version, hcopy]; rfl⟩
    rw [hstatus, hcopy]
    exact .succeed
  | fail idempotencyRecordId code message retryable clock =>
    obtain ⟨_, hstatus, failure, hcopy⟩ := h
    refine ⟨?_, by rw [hcopy]; rfl, by rw [hcopy]; rfl, by rw [version, hcopy]; rfl⟩
    rw [hstatus, hcopy]
    exact .fail

def InOrder (s : InMemoryApplicationIdempotencyRepository casefold)
    (history : List (IdempotencyEvent casefold)) : Prop :=
  ∀ identity, (timeline identity history).IsChain Follows ∧
    ∀ record, (timeline identity history).getLast? = some record → s.find identity = some record

theorem follows_of_lawful {event : IdempotencyEvent casefold}
    (h : event.Lawful (MayPerform casefold sha256) Holds) :
    (storedBy event.op (handle event.op event.before).1 = none ∧
        event.after handle = event.before) ∨
      ∃ record, storedBy event.op (handle event.op event.before).1 = some record ∧
        (∀ identity, (event.after handle).find identity =
          if record.identity casefold = identity then some record
          else event.before.find identity) ∧
        ∀ stored, event.before.find (record.identity casefold) = some stored →
          Follows stored record := by
  rcases storedBy_cases event.op event.before with hnone |
    ⟨record, hstored, ⟨hkey, hidentity, _, hadd⟩ | ⟨stored, hget, hidentity, hop, hnext, hput⟩⟩
  · exact .inl hnone
  · refine .inr ⟨record, hstored, ?_, ?_⟩
    · intro identity
      rw [Interleaving.Event.after, hadd, find_add]
    · intro stored hfind
      rw [InMemoryApplicationIdempotencyRepository.find, hidentity] at hfind
      cases hfind
  · refine .inr ⟨record, hstored, ?_, ?_⟩
    · intro identity
      rw [Interleaving.Event.after, hput, find_put]
    · intro other hfind
      have hallowed := h.allowed
      rw [hop] at hallowed
      obtain ⟨copy, hcopy, hversion, hupdates⟩ := hallowed
      have hcopyKey : copy.key casefold = record.key casefold := by
        rw [ApplicationIdempotencyRecord.key, ApplicationIdempotencyRecord.key,
          hupdates.follows.recordId]
      -- the version check makes the copy that was read the record that is stored
      have hread : event.before.records.IsCopy version copy := h.seen _ hcopy
      obtain rfl : stored = copy := hread.eq (hcopyKey ▸ hget) hversion
      have hother := find_of_mem (KeyedStore.get_eq_some.mp hget).1
      rw [← hidentity, hfind] at hother
      obtain rfl := Option.some.inj hother
      exact hupdates.follows

theorem timeline_snoc (identity : IdempotencyIdentity)
    (history : List (IdempotencyEvent casefold)) (event : IdempotencyEvent casefold) :
    timeline identity (history ++ [event]) =
      timeline identity history ++ (storedUnder identity event).toList := by
  rw [timeline, List.filterMap_append]
  cases h : storedUnder identity event with
  | none => rw [List.filterMap_cons_none h]; rfl
  | some record => rw [List.filterMap_cons_some h]; rfl

theorem InOrder.event
    {history : List (IdempotencyEvent casefold)} {event : IdempotencyEvent casefold}
    (h : event.Lawful (MayPerform casefold sha256) Holds) (hbefore : event.before = s)
    (hinv : InOrder s history) : InOrder (event.after handle) (history ++ [event]) := by
  subst hbefore
  intro identity
  obtain ⟨hchain, hlast⟩ := hinv identity
  rw [timeline_snoc]
  rcases follows_of_lawful h with ⟨hnone, hsame⟩ | ⟨record, hstored, hfind, hfollows⟩
  · rw [storedUnder, hnone, hsame]
    simpa only [Option.filter_none, Option.toList_none, List.append_nil] using
      And.intro hchain hlast
  · by_cases hidentity : record.identity casefold = identity
    · have hunder : storedUnder identity event = some record := by
        simp [storedUnder, hstored, hidentity]
      rw [hunder, hfind, if_pos hidentity, Option.toList_some, List.getLast?_concat,
        List.isChain_append]
      refine ⟨⟨hchain, .singleton _, ?_⟩, fun _ h => h⟩
      intro old hold new hnew
      obtain rfl := Option.some.inj hnew
      exact hfollows old (hidentity ▸ hlast old hold)
    · have hunder : storedUnder identity event = none := by
        simp [storedUnder, hstored, hidentity]
      rw [hunder, hfind, if_neg hidentity, Option.toList_none, List.append_nil]
      exact ⟨hchain, hlast⟩

theorem InOrder.start (s : InMemoryApplicationIdempotencyRepository casefold) : InOrder s [] :=
  fun _ => ⟨.nil, fun _ h => nomatch h⟩

theorem exists_failed_between {first second : ApplicationIdempotencyRecord}
    {before between after : List ApplicationIdempotencyRecord}
    (h : (before ++ first :: (between ++ second :: after)).IsChain Follows)
    (hfirst : first.val.status = .inProgress) (hsecond : second.val.status = .inProgress) :
    ∃ record ∈ between, record.val.status = .failed := by
  rw [← List.cons_append, ← List.append_assoc, List.isChain_append] at h
  obtain ⟨_, _, hjoin⟩ := h
  rw [List.getLast?_append_cons] at hjoin
  have hlast := List.getLast?_eq_some_getLast (List.cons_ne_nil first between)
  have hfollows := hjoin _ hlast second rfl
  have hfailed : ((first :: between).getLast (List.cons_ne_nil first between)).val.status =
      .failed := by
    have hstatus := hfollows.status
    rw [hsecond] at hstatus
    cases hold : ((first :: between).getLast (List.cons_ne_nil first between)).val.status with
    | failed => rfl
    | inProgress => rw [hold] at hstatus; cases hstatus
    | succeeded => rw [hold] at hstatus; cases hstatus
  rcases List.mem_cons.mp (List.getLast_mem (List.cons_ne_nil first between)) with heq | hmem
  · rw [heq, hfirst] at hfailed
    cases hfailed
  · exact ⟨_, hmem, hfailed⟩

variable {before after : List ApplicationIdempotencyRecord}

theorem nil_of_succeeded (h : (before ++ record :: after).IsChain Follows)
    (hstatus : record.val.status = .succeeded) : after = [] := by
  cases after with
  | nil => rfl
  | cons next rest =>
    have hfollows : Follows record next := by
      have hchain := (List.isChain_append.mp h).2.1
      exact (List.isChain_cons_cons.mp hchain).1
    have hnext := hfollows.status
    rw [hstatus] at hnext
    cases hnext

theorem result_of_succeeded
    (h : record.val.status = .succeeded) : isNone record.val.result = false := by
  obtain ⟨_, _, hrecord⟩ := bind_eq_ok.mp record.property
  obtain ⟨_, hrecord⟩ := raiseIf_bind_eq_ok.mp hrecord
  obtain ⟨_, _, hrecord⟩ := bind_eq_ok.mp hrecord
  obtain ⟨_, hrecord⟩ := raiseIf_bind_eq_ok.mp hrecord
  obtain ⟨_, hrecord⟩ := raiseIf_bind_eq_ok.mp hrecord
  obtain ⟨_, hstatus, _⟩ := bind_eq_ok.mp hrecord
  obtain ⟨_, hstatus⟩ := raiseIf_bind_eq_ok.mp hstatus
  obtain ⟨hresult, _⟩ := raiseIf_bind_eq_ok.mp hstatus
  simpa [h] using hresult

def reusedResult (record : ApplicationIdempotencyRecord) (fingerprint : String) :
    Except Raised ApplicationIdempotencyStartResult :=
  if record.val.requestFingerprint = fingerprint then .ok ⟨record, false, record.val.result⟩
  else .error ⟨.applicationIdempotencyConflictError,
    "idempotency key was reused with a different request payload"⟩

theorem replay_begin_of_succeeded {fp : String}
    (hfp : fingerprint sha256 request.payload = .ok fp)
    (hfind : s.find (request.identity casefold) = some record)
    (hstatus : record.val.status = .succeeded) :
    (begin sha256 request allowRetryAfterFailure clock recordId).replay handle [s] =
      .done (reusedResult record fp) := by
  have hvalid : ApplicationIdempotencyStartResult.modelValidate
      ⟨record, false, record.val.result⟩ = .ok ⟨record, false, record.val.result⟩ := by
    simp [ApplicationIdempotencyStartResult.modelValidate,
      ApplicationIdempotencyStartResult.validateResult, hstatus, result_of_succeeded hstatus,
      raiseIf]
  have hreply : (handle (.find request.workspaceId request.operation request.idempotencyKey) s).1 =
      some record := hfind
  rw [begin, hfp]
  change Program.replay handle [s] (.call (.find request.workspaceId request.operation
    request.idempotencyKey) _) = _
  rw [Program.replay, hreply, Program.replay, reusedResult]
  by_cases hsame : record.val.requestFingerprint = fp
  · have hmatching : requireMatchingFingerprint record fp = .ok () :=
      raiseIf_eq_ok.mpr (not_not.mpr hsame)
    change (liftM (requireMatchingFingerprint record fp) >>= fun _ => _) = _
    rw [hmatching, if_pos hsame, hstatus, ← hvalid]
    rfl
  · have hmatching : requireMatchingFingerprint record fp = .error _ := if_pos hsame
    change (liftM (requireMatchingFingerprint record fp) >>= fun _ => _) = _
    rw [hmatching, if_neg hsame]
    rfl

/-! ## Every run -/

def IdempotencyCall.target : IdempotencyCall → ApplicationIdempotencyStatus
  | begin _ _ _ _ => .inProgress
  | succeed _ _ _ => .succeeded
  | fail _ _ _ _ _ => .failed

structure TakesEffect (status : ApplicationIdempotencyStatus) (identity : IdempotencyIdentity)
    (record : ApplicationIdempotencyRecord) (event : IdempotencyEvent casefold) : Prop where
  target : event.call.target = status
  stored : storedUnder identity event = some record

variable {identity : IdempotencyIdentity}

theorem storedUnder_eq_some {event : IdempotencyEvent casefold} :
    storedUnder identity event = some record ↔
      storedBy event.op (handle event.op event.before).1 = some record ∧
        record.identity casefold = identity := by
  rw [storedUnder, Option.filter_eq_some_iff, decide_eq_true_iff]

theorem status_of_lawful {event : IdempotencyEvent casefold}
    (h : event.Lawful (MayPerform casefold sha256) Holds)
    (hstored : storedBy event.op (handle event.op event.before).1 = some record) :
    record.val.status = event.call.target := by
  obtain ⟨call, op, seen, before⟩ := event
  have hallowed : MayPerform casefold sha256 call seen op := h.allowed
  rcases storedBy_cases op before with ⟨hnone, _⟩ | ⟨other, hother, hcases⟩
  · rw [hnone] at hstored
    cases hstored
  obtain rfl := Option.some.inj (hother.symm.trans hstored)
  rcases hcases with ⟨_, _, rfl, _⟩ | ⟨_, _, _, rfl, _, _⟩
  · cases call with
    | begin request allowRetryAfterFailure clock recordId =>
      obtain ⟨_, _, hrecord⟩ := hallowed
      exact congrArg IdempotencyContent.status hrecord
    | succeed idempotencyRecordId result clock => exact hallowed.elim
    | fail idempotencyRecordId code message retryable clock => exact hallowed.elim
  · obtain ⟨stored, _, _, hupdates⟩ := hallowed
    cases call with
    | begin request allowRetryAfterFailure clock recordId =>
      exact congrArg IdempotencyContent.status hupdates.2.2
    | succeed idempotencyRecordId result clock =>
      exact congrArg IdempotencyContent.status hupdates.2.2
    | fail idempotencyRecordId code message retryable clock =>
      obtain ⟨_, _, failure, hcopy⟩ := hupdates
      exact congrArg IdempotencyContent.status hcopy

variable {ι : Type}

variable (sha256) in
structure ExecutesOnce (s : IdempotencySystem casefold ι) : Prop where
  /-- A begin that returns with `execute_operation` has taken effect. -/
  granted : ∀ request allowRetryAfterFailure clock recordId events,
    (.begin request allowRetryAfterFailure clock recordId, events) ∈ s.returned →
      ∃ result, Interleaving.Event.Replay handle
          (begin sha256 request allowRetryAfterFailure clock recordId) events (.done (.ok result)) ∧
        (result.executeOperation = true → ∃ event ∈ events, event ∈ s.history ∧
          TakesEffect .inProgress (request.identity casefold) result.record event)
  /-- Between two of them that record has failed. -/
  exclusive : ∀ identity before first between second after a b,
    s.history = before ++ first :: (between ++ second :: after) →
      TakesEffect .inProgress identity a first → TakesEffect .inProgress identity b second →
        ∃ event ∈ between, ∃ record, TakesEffect .failed identity record event ∧
          record.val.idempotencyRecordId = a.val.idempotencyRecordId
  /-- There is none after a success. -/
  final : ∀ identity before success after record,
    s.history = before ++ success :: after → TakesEffect .succeeded identity record success →
      ∀ later ∈ after, ∀ other, ¬TakesEffect .inProgress identity other later
  /-- A begin that looks for the record after a success ends there. -/
  reused : ∀ identity before success after record,
    s.history = before ++ success :: after → TakesEffect .succeeded identity record success →
      ∀ later ∈ after, ∀ request allowRetryAfterFailure clock recordId,
        later.call = .begin request allowRetryAfterFailure clock recordId →
          request.identity casefold = identity →
            (∃ workspaceId operation idempotencyKey,
              later.op = .find workspaceId operation idempotencyKey) →
              ∃ fp, fingerprint sha256 request.payload = .ok fp ∧
                (begin sha256 request allowRetryAfterFailure clock recordId).replay handle
                  [later.before] = .done (reusedResult record fp)

theorem recordId_of_isChain {first record : ApplicationIdempotencyRecord}
    (h : (before ++ first :: after).IsChain Follows) (hrecord : record ∈ after) :
    record.val.idempotencyRecordId = first.val.idempotencyRecordId := by
  have hids : ((first :: after).map fun stored => stored.val.idempotencyRecordId).IsChain (· = ·) :=
    (List.isChain_map _).mpr ((List.isChain_append.mp h).2.1.imp
      fun _ _ hfollows => hfollows.recordId.symm)
  exact (hids.rel_cons (List.mem_map_of_mem hrecord)).symm

variable [DecidableEq ι]

theorem timeline_split {event : IdempotencyEvent casefold}
    (before after : List (IdempotencyEvent casefold))
    (h : storedUnder identity event = some record) :
    timeline identity (before ++ event :: after) =
      timeline identity before ++ record :: timeline identity after := by
  rw [timeline, List.filterMap_append, List.filterMap_cons_some h]
  rfl

/-- In every interleaving of calls an operation executes again only behind its failure, and never
behind its success. -/
theorem executes_once {store : InMemoryApplicationIdempotencyRepository casefold}
    {s : IdempotencySystem casefold ι}
    (h : Runs.Reachable (IdempotencySystem.step sha256) (fun _ _ => True) (.start store) s) :
    ExecutesOnce sha256 s := by
  have horder : InOrder s.store s.history :=
    Interleaving.history_invariant sound InOrder (.start store)
      (fun _ _ hlawful hinv => hinv.event hlawful rfl) h
  have hcoherent := Interleaving.Coherent.of_reachable sound h
  have hreplays : s.Replays handle (IdempotencyCall.program sha256) := .of_reachable h
  have status_of_taken : ∀ {event status identity record}, event ∈ s.history →
      TakesEffect status identity record event → record.val.status = status := by
    intro event status identity record hevent htaken
    rw [status_of_lawful (hcoherent.lawful event hevent)
      (storedUnder_eq_some.mp htaken.stored).1, htaken.target]
  constructor
  case granted =>
    intro request allowRetryAfterFailure clock recordId events hreturned
    obtain ⟨result, hresult⟩ := (hreplays.returned _ _ hreturned).result
    refine ⟨result, hresult, fun hexecute => ?_⟩
    have hgranted := hresult.ensures isReply_handle begin_obeys
    obtain ⟨hwrote, hidentity, hstatus⟩ := hgranted hexecute
    obtain ⟨event, hevent, hshown⟩ := Interleaving.mem_seen.mp hwrote
    have hbelong := (hcoherent.returned _ _ hreturned).2
    refine ⟨event, hevent, hbelong.performed event hevent, ?_, ?_⟩
    · rw [hbelong.call event hevent]
      rfl
    · exact storedUnder_eq_some.mpr ⟨wrote_of_shown hshown, hidentity⟩
  case exclusive =>
    intro identity before first between second after a b hsplit hfirst hsecond
    have hchain := (horder identity).1
    rw [hsplit, timeline_split _ _ hfirst.stored, timeline_split _ _ hsecond.stored] at hchain
    obtain ⟨record, hrecord, hfailed⟩ := exists_failed_between hchain
      (status_of_taken (hsplit ▸ by simp) hfirst) (status_of_taken (hsplit ▸ by simp) hsecond)
    obtain ⟨event, hevent, hstored⟩ := List.mem_filterMap.mp hrecord
    refine ⟨event, hevent, record, ⟨?_, hstored⟩,
      recordId_of_isChain hchain (List.mem_append_left _ hrecord)⟩
    rw [← hfailed, status_of_lawful (hcoherent.lawful event (hsplit ▸ by simp [hevent]))
      (storedUnder_eq_some.mp hstored).1]
  case final =>
    intro identity before success after record hsplit hsuccess later hlater other hother
    have hchain := (horder identity).1
    rw [hsplit, timeline_split _ _ hsuccess.stored] at hchain
    have hnil := nil_of_succeeded hchain (status_of_taken (hsplit ▸ by simp) hsuccess)
    have hmem := List.mem_filterMap.mpr ⟨later, hlater, hother.stored⟩
    exact absurd (hnil ▸ hmem : other ∈ []) List.not_mem_nil
  case reused =>
    intro identity before success after record hsplit hsuccess later hlater request
      allowRetryAfterFailure clock recordId hcall hidentity hop
    obtain ⟨middle, rest, rfl⟩ := List.append_of_mem hlater
    have hprefix : s.history = (before ++ success :: middle) ++ later :: rest := by
      rw [hsplit, List.append_assoc, List.cons_append]
    obtain ⟨hlawful, hbefore⟩ := Interleaving.prefix_invariant sound InOrder (.start store)
      (fun _ _ hlawful hinv => hinv.event hlawful rfl) h hprefix
    obtain ⟨hchain, hlast⟩ := hbefore identity
    rw [timeline_split _ _ hsuccess.stored] at hchain hlast
    have hstatus := status_of_taken (hsplit ▸ by simp) hsuccess
    rw [nil_of_succeeded hchain hstatus, List.getLast?_concat] at hlast
    obtain ⟨workspaceId, operation, idempotencyKey, hop⟩ := hop
    have hallowed := hlawful.allowed
    rw [hop, hcall] at hallowed
    obtain ⟨_, _, _, fp, hfp⟩ := hallowed
    exact ⟨fp, hfp, replay_begin_of_succeeded hfp (hidentity ▸ hlast record rfl) hstatus⟩

def sampleStartRequest : ApplicationIdempotencyStartRequest :=
  ⟨"workspace-001", "research.execute", "key-001", .obj [], [], by decide +kernel⟩

def sampleBegin : IdempotencyCall := .begin sampleStartRequest true sampleTime "record-001"

def sampleIdempotencyCalls : List (Interleaving.Action Bool IdempotencyCall) :=
  [.start false sampleBegin, .start true sampleBegin, .advance false, .advance true,
    .advance false, .advance true, .advance false, .advance true,
    .start false (.succeed "record-001" (.obj []) sampleTime), .advance false, .advance false,
    .advance false, .start true sampleBegin, .advance true, .advance true]

theorem executes_once_sample :
    ExecutesOnce hashlibSha256 (Runs.run (IdempotencySystem.step hashlibSha256)
      (.start (.empty : InMemoryApplicationIdempotencyRepository asciiCasefold))
      sampleIdempotencyCalls) :=
  executes_once (Runs.reachable_run sampleIdempotencyCalls)

end ApplicationIdempotencyService

end AgenticLab
