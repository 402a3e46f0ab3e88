import AgenticLab.Model.Application.ResearchFlow
import AgenticLab.Verification.Application.Idempotency
import AgenticLab.Verification.Application.Transactions
import Mathlib

/-! # Research that is done once

Calls of one key with equal requests, one after another: behind a call whose runner has returned
the runner is not invoked again, and every later call gets its result. -/

namespace AgenticLab

open ApplicationIdempotencyService
open InMemoryApplicationIdempotencyRepository (find_of_mem find_eq_some find_add find_put)
open IdempotencyOperation (handle)

variable {casefold : Casefold} {sha256 : Sha256}

/-! ## Valid idempotency records -/

namespace IdempotencyContent

structure Valid (record : IdempotencyContent) : Prop where
  texts : requireTexts [("idempotency_record_id", record.idempotencyRecordId),
    ("workspace_id", record.workspaceId), ("operation", record.operation),
    ("idempotency_key", record.idempotencyKey),
    ("request_fingerprint", record.requestFingerprint)] = .ok ()
  fingerprint : record.requestFingerprint.length = 64
  created : record.createdAt.isNaive = false
  updated : record.updatedAt.isNaive = false ∧ record.createdAt ≤ record.updatedAt
  completed : ∀ t ∈ record.completedAt, t.isNaive = false ∧ record.createdAt ≤ t
  status : record.validateStatus = .ok ()
  metadata : validateMetadata record.metadata = .ok ()

theorem validateRecord_eq_ok {record : IdempotencyContent} :
    record.validateRecord = .ok () ↔ record.Valid := by
  constructor
  · intro h
    obtain ⟨_, htexts, h⟩ := bind_eq_ok.mp h
    obtain ⟨hlength, h⟩ := raiseIf_bind_eq_ok.mp h
    obtain ⟨_, haware, h⟩ := bind_eq_ok.mp h
    obtain ⟨hupdated, h⟩ := raiseIf_bind_eq_ok.mp h
    obtain ⟨hcompleted, h⟩ := raiseIf_bind_eq_ok.mp h
    obtain ⟨_, hstatus, hmetadata⟩ := bind_eq_ok.mp h
    have hnaive := requireAware_eq_ok.mp haware
    refine ⟨htexts, not_not.mp hlength, hnaive ("created_at", some record.createdAt) (by simp) _ rfl,
      ⟨hnaive ("updated_at", some record.updatedAt) (by simp) _ rfl, Datetime.not_lt.mp hupdated⟩,
      ?_, hstatus, hmetadata⟩
    intro t ht
    refine ⟨hnaive ("completed_at", record.completedAt) (by simp) t ht, ?_⟩
    rw [Option.mem_def.mp ht] at hcompleted
    simpa using hcompleted
  · intro h
    refine bind_eq_ok.mpr ⟨(), h.texts, raiseIf_bind_eq_ok.mpr ⟨not_not.mpr h.fingerprint,
      bind_eq_ok.mpr ⟨(), requireAware_eq_ok.mpr ?_, raiseIf_bind_eq_ok.mpr
        ⟨Datetime.not_lt.mpr h.updated.2, raiseIf_bind_eq_ok.mpr ⟨?_, bind_eq_ok.mpr
          ⟨(), h.status, h.metadata⟩⟩⟩⟩⟩⟩
    · simp only [List.forall_mem_cons]
      refine ⟨?_, ?_, fun t ht => (h.completed t ht).1, fun _ hnil => absurd hnil List.not_mem_nil⟩
      · exact fun t ht => Option.some.inj ht ▸ h.created
      · exact fun t ht => Option.some.inj ht ▸ h.updated.1
    · cases hcompleted : record.completedAt with
      | none => simp
      | some t => simpa using (h.completed t hcompleted).2

end IdempotencyContent

theorem newIdempotencyRecord_of_valid {content : IdempotencyContent} (h : content.Valid) :
    ∃ record : ApplicationIdempotencyRecord,
      newIdempotencyRecord content = .ok record ∧ record.val = content := by
  have hvalid := IdempotencyContent.validateRecord_eq_ok.mpr h
  refine ⟨⟨content, hvalid⟩, ?_, rfl⟩
  unfold newIdempotencyRecord
  split
  · rfl
  · rename_i failure hfailure
    rw [hvalid] at hfailure
    cases hfailure

theorem isBlank_of_digest {digest : String} (h : isValidSha256Digest digest = true) :
    isBlank digest = false := by
  rw [isValidSha256Digest, Bool.and_eq_true, beq_iff_eq] at h
  rw [Bool.eq_false_iff]
  intro hblank
  have hspaces := isBlank_iff.mp hblank
  have hhex := List.all_eq_true.mp h.2
  cases hchars : digest.toList with
  | nil =>
    have hlength := h.1
    rw [← String.length_toList, hchars] at hlength
    cases hlength
  | cons first rest =>
    have hspace := hspaces first (by simp [hchars])
    have hdigit := hhex first (by simp [hchars])
    have hnone : hexAlphabet.all (fun character => !isSpace character) = true := by
      decide +kernel
    have hfirst := List.all_eq_true.mp hnone first (List.contains_iff_mem.mp hdigit)
    rw [hspace] at hfirst
    cases hfirst

section

variable {request : ApplicationIdempotencyStartRequest} {record : IdempotencyContent}
  {clock : Datetime}

theorem startedRecord_valid {recordId fp : String} (hrecordId : isBlank recordId = false)
    (hfp : fingerprint sha256 request.payload = .ok fp) (hclock : clock.isNaive = false)
    (hmetadata : validateMetadata request.metadata = .ok ()) :
    (startedRecord request recordId fp clock).Valid := by
  obtain ⟨text, _, hdigest⟩ := bind_eq_ok.mp hfp
  have hvalid := sha256.hexdigest_valid (TextFile.encode text)
  rw [Except.ok.inj hdigest] at hvalid
  have hlength : fp.length = 64 := by
    rw [isValidSha256Digest, Bool.and_eq_true, beq_iff_eq] at hvalid
    exact hvalid.1
  refine ⟨?_, hlength, hclock, ⟨hclock, le_refl _⟩, fun _ h => (Option.not_mem_none _ h).elim, rfl,
    hmetadata⟩
  have hrequest := request.valid
  simp only [requireTexts, raiseIf_bind_eq_ok, and_true] at hrequest ⊢
  simp only [startedRecord, hrecordId, isBlank_of_digest hvalid]
  simpa using hrequest

theorem restartedRecord_valid (h : record.Valid) (hresult : isNone record.result = true)
    (hclock : clock.isNaive = false) (hle : record.createdAt ≤ clock) :
    (restartedRecord record clock).Valid :=
  ⟨h.texts, h.fingerprint, h.created, ⟨hclock, hle⟩, fun _ h => (Option.not_mem_none _ h).elim,
    by simp [IdempotencyContent.validateStatus, restartedRecord, hresult, raiseIf], h.metadata⟩

theorem succeededRecord_valid {result : Json.Value} (h : record.Valid)
    (hfailure : record.failure = none) (hresult : isNone result = false)
    (hclock : clock.isNaive = false) (hle : record.createdAt ≤ clock) :
    (succeededRecord record result clock).Valid := by
  refine ⟨h.texts, h.fingerprint, h.created, ⟨hclock, hle⟩, ?_,
    by simp [IdempotencyContent.validateStatus, succeededRecord, hfailure, hresult, raiseIf],
    h.metadata⟩
  intro t ht
  obtain rfl := Option.some.inj ht
  exact ⟨hclock, hle⟩

theorem failedRecord_valid {failure : ApplicationIdempotencyFailure} (h : record.Valid)
    (hresult : isNone record.result = true) (hclock : clock.isNaive = false)
    (hle : record.createdAt ≤ clock) : (failedRecord record failure clock).Valid := by
  refine ⟨h.texts, h.fingerprint, h.created, ⟨hclock, hle⟩, ?_,
    by simp [IdempotencyContent.validateStatus, failedRecord, hresult, raiseIf], h.metadata⟩
  intro t ht
  obtain rfl := Option.some.inj ht
  exact ⟨hclock, hle⟩

end

/-! ## What the idempotency service does alone -/

section

variable {s : InMemoryApplicationIdempotencyRepository casefold}
  {record stored : ApplicationIdempotencyRecord} {clock : Datetime}

theorem now_of_aware (h : clock.isNaive = false) : ApplicationIdempotencyService.now clock = .ok clock :=
  raiseIf_bind_eq_ok.mpr ⟨by simp [h], rfl⟩

theorem run_create_of_new (hkey : s.records.get (record.key casefold) = none)
    (hidentity : s.find (record.identity casefold) = none) :
    ∃ t, (ApplicationIdempotencyRepository.create record).run handle s = (.ok record, t) ∧
      ∀ identity, t.find identity =
        if record.identity casefold = identity then some record else s.find identity := by
  have hindex : s.identityIndex.get (record.identity casefold) = none := by
    cases hentry : s.identityIndex.get (record.identity casefold) with
    | none => rfl
    | some entry =>
      obtain ⟨hmem, hentryKey⟩ := KeyedStore.get_eq_some.mp hentry
      obtain ⟨other, hother, hsame, _⟩ := s.recorded entry hmem
      have hfind := find_of_mem hother
      rw [hsame, hentryKey, hidentity] at hfind
      cases hfind
  have hcreate : s.create record = (.ok record, s.add record hkey hindex) := dif_pos ⟨hkey, hindex⟩
  refine ⟨s.add record hkey hindex, ?_, fun identity => find_add⟩
  change (Program.run handle (liftM (s.create record).1) (s.create record).2) = _
  rw [hcreate]
  rfl

theorem run_update_of_stored (hget : s.records.get (record.key casefold) = some stored)
    (hversion : record.val.recordVersion.val = stored.val.recordVersion.val + 1)
    (hidentity : record.identity casefold = stored.identity casefold) :
    ∃ t, (ApplicationIdempotencyRepository.update record stored.val.recordVersion.val).run handle
        s = (.ok record, t) ∧
      ∀ identity, t.find identity =
        if record.identity casefold = identity then some record else s.find identity := by
  have hupdate : s.update record stored.val.recordVersion.val =
      (.ok record, s.put hget hidentity) := by
    unfold InMemoryApplicationIdempotencyRepository.update
    split
    · rename_i hnone
      rw [hget] at hnone
      cases hnone
    · rename_i other hother
      obtain rfl := Option.some.inj (hget.symm.trans hother)
      rw [if_neg (not_not.mpr rfl), if_neg (not_not.mpr hversion), dif_pos hidentity]
  refine ⟨s.put hget hidentity, ?_, fun identity => find_put⟩
  change (Program.run handle (liftM (s.update record stored.val.recordVersion.val).1)
    (s.update record stored.val.recordVersion.val).2) = _
  rw [hupdate]
  rfl

structure Started (t : InMemoryApplicationIdempotencyRepository casefold)
    (identity : IdempotencyIdentity) (fp : String) (clock : Datetime)
    (record : ApplicationIdempotencyRecord) : Prop where
  find : t.find identity = some record
  status : record.val.status = .inProgress
  fingerprint : record.val.requestFingerprint = fp
  created : record.val.createdAt ≤ clock

theorem valid_of_record (record : ApplicationIdempotencyRecord) : record.val.Valid :=
  IdempotencyContent.validateRecord_eq_ok.mp record.property

variable {existing : ApplicationIdempotencyRecord}

theorem run_replace {content : IdempotencyContent}
    (hmem : existing ∈ s.records.records) (hvalid : content.Valid)
    (htexts : (content.idempotencyRecordId, content.workspaceId, content.operation,
      content.idempotencyKey) = (existing.val.idempotencyRecordId, existing.val.workspaceId,
        existing.val.operation, existing.val.idempotencyKey))
    (hversion : content.recordVersion = existing.val.nextVersion) :
    ∃ record t, newIdempotencyRecord content = .ok record ∧ record.val = content ∧
      (ApplicationIdempotencyRepository.update record existing.val.recordVersion.val).run handle
        s = (.ok record, t) ∧
      t.find (existing.identity casefold) = some record := by
  obtain ⟨record, hrecord, hval⟩ := newIdempotencyRecord_of_valid hvalid
  simp only [Prod.mk.injEq] at htexts
  obtain ⟨hid, hworkspace, hoperation, hkey⟩ := htexts
  have hidentity : record.identity casefold = existing.identity casefold := by
    rw [ApplicationIdempotencyRecord.identity, hval, hworkspace, hoperation, hkey]
    rfl
  have hsameKey : record.key casefold = existing.key casefold := by
    rw [ApplicationIdempotencyRecord.key, hval, hid]
    rfl
  obtain ⟨t, hupdate, hfind⟩ := run_update_of_stored (hsameKey ▸ KeyedStore.get_of_mem hmem)
    (by rw [hval, hversion]; rfl) hidentity
  exact ⟨record, t, hrecord, hval, hupdate, by rw [hfind, if_pos hidentity]⟩

theorem run_require (hmem : record ∈ s.records.records) :
    (ApplicationIdempotencyRepository.require record.val.idempotencyRecordId).run handle s =
      (.ok record, s) := by
  have hget : s.getById record.val.idempotencyRecordId = some record := KeyedStore.get_of_mem hmem
  rw [ApplicationIdempotencyRepository.require, Program.run_bind, Program.run_perform]
  simp only [handle, hget, Program.run_pure]

theorem isNone_result (h : record.val.status ≠ .succeeded) : isNone record.val.result = true := by
  have hstatus := (valid_of_record record).status
  simp only [IdempotencyContent.validateStatus, raiseIf_bind_eq_ok, raiseIf_eq_ok] at hstatus
  cases hcase : record.val.status <;> simp_all

theorem failure_of_inProgress (h : record.val.status = .inProgress) :
    record.val.failure = none := by
  have hstatus := (valid_of_record record).status
  simp only [IdempotencyContent.validateStatus, raiseIf_bind_eq_ok, raiseIf_eq_ok] at hstatus
  have hnothing := hstatus.1
  simp only [h, true_and, not_or] at hnothing
  simpa using hnothing.2.1

variable {request : ApplicationIdempotencyStartRequest} {fp recordId : String}

theorem run_begin_of_new (hfp : fingerprint sha256 request.payload = .ok fp)
    (hmetadata : validateMetadata request.metadata = .ok ()) (hclock : clock.isNaive = false)
    (hrecordId : isBlank recordId = false)
    (hfresh : s.records.get (normalizeId casefold recordId) = none)
    (hnone : s.find (request.identity casefold) = none) :
    ∃ record t, (begin sha256 request true clock recordId).run handle s =
        (.ok ⟨record, true, .atom .null⟩, t) ∧
      Started t (request.identity casefold) fp clock record := by
  obtain ⟨record, hrecord, hval⟩ :=
    newIdempotencyRecord_of_valid (startedRecord_valid hrecordId hfp hclock hmetadata)
  have hidentity : record.identity casefold = request.identity casefold := by
    rw [ApplicationIdempotencyRecord.identity, hval]
    rfl
  have hkey : s.records.get (record.key casefold) = none := by
    rw [ApplicationIdempotencyRecord.key, hval]
    exact hfresh
  have hstatus : record.val.status = .inProgress := congrArg IdempotencyContent.status hval
  obtain ⟨t, hcreate, hfind⟩ := run_create_of_new hkey (hidentity ▸ hnone)
  have hid : newRecordId recordId = .ok recordId := raiseIf_bind_eq_ok.mpr ⟨by simp [hrecordId], rfl⟩
  have hlook : (ApplicationIdempotencyRepository.find request.workspaceId request.operation
      request.idempotencyKey).run handle s = (.ok none, s) := by
    change (Except.ok (s.find (request.identity casefold)), s) = _
    rw [hnone]
  refine ⟨record, t, ?_, ?_, hstatus, congrArg IdempotencyContent.requestFingerprint hval, ?_⟩
  · rw [begin, Program.run_lift_bind_of_ok handle hfp, Program.run_bind_of_ok handle hlook]
    dsimp only
    rw [Program.run_lift_bind_of_ok handle (now_of_aware hclock),
      Program.run_lift_bind_of_ok handle hid, Program.run_lift_bind_of_ok handle hrecord,
      Program.run_bind_of_ok handle hcreate]
    simp [ApplicationIdempotencyStartResult.modelValidate,
      ApplicationIdempotencyStartResult.validateResult, hstatus, raiseIf, isNone]
  · rw [hfind, if_pos hidentity]
  · rw [hval]
    exact le_refl clock

theorem run_begin_of_failed (hfp : fingerprint sha256 request.payload = .ok fp)
    (hfind : s.find (request.identity casefold) = some existing)
    (hfailed : existing.val.status = .failed) (hsame : existing.val.requestFingerprint = fp)
    (hclock : clock.isNaive = false) (hle : existing.val.createdAt ≤ clock) :
    ∃ record t, (begin sha256 request true clock recordId).run handle s =
        (.ok ⟨record, true, .atom .null⟩, t) ∧
      Started t (request.identity casefold) fp clock record := by
  obtain ⟨hmem, hidentity⟩ := find_eq_some.mp hfind
  have hresult := isNone_result (hfailed.trans_ne (by decide))
  obtain ⟨record, t, hrecord, hval, hupdate, hfindAfter⟩ := run_replace hmem
    (restartedRecord_valid (valid_of_record existing) hresult hclock hle) rfl rfl
  have hstatus : record.val.status = .inProgress := congrArg IdempotencyContent.status hval
  have hlook : (ApplicationIdempotencyRepository.find request.workspaceId request.operation
      request.idempotencyKey).run handle s = (.ok (some existing), s) := by
    change (Except.ok (s.find (request.identity casefold)), s) = _
    rw [hfind]
  have hmatching : requireMatchingFingerprint existing fp = .ok () :=
    raiseIf_eq_ok.mpr (not_not.mpr hsame)
  have hallowed : raiseIf (true = false) ⟨.applicationIdempotencyRetryNotAllowedError,
      "failed idempotent operation cannot be retried"⟩ = .ok () :=
    raiseIf_eq_ok.mpr (by decide)
  refine ⟨record, t, ?_, ?_, hstatus, ?_, ?_⟩
  · rw [begin, Program.run_lift_bind_of_ok handle hfp, Program.run_bind_of_ok handle hlook]
    dsimp only
    rw [Program.run_lift_bind_of_ok handle hmatching, hfailed]
    dsimp only
    rw [Program.run_lift_bind_of_ok handle hallowed,
      Program.run_lift_bind_of_ok handle (now_of_aware hclock),
      Program.run_lift_bind_of_ok handle hrecord, Program.run_bind_of_ok handle hupdate]
    simp [ApplicationIdempotencyStartResult.modelValidate,
      ApplicationIdempotencyStartResult.validateResult, hstatus, raiseIf, isNone]
  · rw [← hidentity, hfindAfter]
  · rw [hval]
    exact hsame
  · rw [hval]
    exact hle

theorem run_begin_of_succeeded (hfp : fingerprint sha256 request.payload = .ok fp)
    (hfind : s.find (request.identity casefold) = some existing)
    (hsucceeded : existing.val.status = .succeeded) (hsame : existing.val.requestFingerprint = fp) :
    (begin sha256 request true clock recordId).run handle s =
      (.ok ⟨existing, false, existing.val.result⟩, s) := by
  have hlook : (ApplicationIdempotencyRepository.find request.workspaceId request.operation
      request.idempotencyKey).run handle s = (.ok (some existing), s) := by
    change (Except.ok (s.find (request.identity casefold)), s) = _
    rw [hfind]
  have hmatching : requireMatchingFingerprint existing fp = .ok () :=
    raiseIf_eq_ok.mpr (not_not.mpr hsame)
  rw [begin, Program.run_lift_bind_of_ok handle hfp, Program.run_bind_of_ok handle hlook]
  dsimp only
  rw [Program.run_lift_bind_of_ok handle hmatching, hsucceeded]
  simp [ApplicationIdempotencyStartResult.modelValidate,
    ApplicationIdempotencyStartResult.validateResult, hsucceeded,
    result_of_succeeded hsucceeded, raiseIf]

variable {identity : IdempotencyIdentity} {begun : Datetime}

theorem run_succeed (result : Json.Value)
    (h : Started s identity fp begun record) (hresult : isNone result = false)
    (hclock : clock.isNaive = false) (hle : begun ≤ clock) :
    ∃ succeeded t, (succeed record.val.idempotencyRecordId result clock).run handle s =
        (.ok succeeded, t) ∧ t.find identity = some succeeded ∧
      succeeded.val = succeededRecord record.val result clock := by
  obtain ⟨hmem, rfl⟩ := find_eq_some.mp h.find
  obtain ⟨succeeded, t, hsucceeded, hval, hupdate, hfind⟩ := run_replace hmem
    (succeededRecord_valid (valid_of_record record) (failure_of_inProgress h.status) hresult hclock
      (h.created.trans hle)) rfl rfl
  have hstatus : raiseIf (record.val.status ≠ .inProgress) ⟨.applicationIdempotencyServiceError,
      "only in-progress operation may succeed"⟩ = .ok () :=
    raiseIf_eq_ok.mpr (not_not.mpr h.status)
  refine ⟨succeeded, t, ?_, hfind, hval⟩
  rw [succeed, Program.run_bind_of_ok handle (run_require hmem),
    Program.run_lift_bind_of_ok handle hstatus,
    Program.run_lift_bind_of_ok handle (now_of_aware hclock),
    Program.run_lift_bind_of_ok handle hsucceeded, hupdate]

theorem run_fail {message : String}
    (code : String) (retryable : Bool) (h : Started s identity fp begun record) (hcode : isBlank code = false)
    (hmessage : isBlank message = false) (hclock : clock.isNaive = false) (hle : begun ≤ clock) :
    ∃ failure failed t, (fail record.val.idempotencyRecordId code message retryable clock).run
        handle s = (.ok failed, t) ∧ t.find identity = some failed ∧
      failed.val = failedRecord record.val failure clock := by
  obtain ⟨hmem, rfl⟩ := find_eq_some.mp h.find
  obtain ⟨failure, hfailure⟩ : ∃ failure,
      newIdempotencyFailure code message retryable = .ok failure := by
    have hvalid : validateIdempotencyFailure code message = .ok () := by
      simp [validateIdempotencyFailure, raiseIf, hcode, hmessage]
    refine ⟨⟨code, message, retryable, hvalid⟩, ?_⟩
    unfold newIdempotencyFailure
    split
    · rfl
    · rename_i other hother
      rw [hvalid] at hother
      cases hother
  obtain ⟨failed, t, hfailed, hval, hupdate, hfind⟩ := run_replace hmem
    (failedRecord_valid (valid_of_record record)
      (isNone_result (by rw [h.status]; decide)) hclock (h.created.trans hle)) rfl rfl
  have hstatus : raiseIf (record.val.status ≠ .inProgress) ⟨.applicationIdempotencyServiceError,
      "only in-progress operation may fail"⟩ = .ok () :=
    raiseIf_eq_ok.mpr (not_not.mpr h.status)
  refine ⟨failure, failed, t, ?_, hfind, hval⟩
  rw [ApplicationIdempotencyService.fail, Program.run_bind_of_ok handle (run_require hmem),
    Program.run_lift_bind_of_ok handle hstatus,
    Program.run_lift_bind_of_ok handle (now_of_aware hclock),
    Program.run_lift_bind_of_ok handle hfailure, Program.run_lift_bind_of_ok handle hfailed,
    hupdate]

end

/-! ## One execution -/

namespace ApplicationResearchExecutionService

open ApplicationExecutionTransitionPolicy

variable {states after : FlowStates casefold} {stored record : ApplicationExecutionRecord}
  {clock : Datetime}

section

variable {repository : InMemoryApplicationExecutionRepository casefold}

theorem create_of_fresh (hfresh : repository.get (record.key casefold) = none) :
    ∃ t, InMemoryApplicationExecutionRepository.create repository record = (.ok record, t) ∧
      t.get (record.key casefold) = some record := by
  refine ⟨repository.insert record hfresh, ?_, by rw [KeyedStore.get_insert, if_pos rfl]⟩
  unfold InMemoryApplicationExecutionRepository.create
  split
  · rename_i other hother
    rw [hfresh] at hother
    cases hother
  · rfl

theorem update_of_stored (hstored : repository.get (stored.key casefold) = some stored)
    (hid : record.executionId = stored.executionId)
    (hversion : record.recordVersion = stored.nextVersion) :
    ∃ t, InMemoryApplicationExecutionRepository.update repository record
        stored.recordVersion.val = (.ok record, t) ∧
      t.get (record.key casefold) = some record := by
  have hkey : record.key casefold = stored.key casefold := congrArg (normalizeId casefold) hid
  have hget : repository.get (record.key casefold) = some stored := hkey ▸ hstored
  have hne : repository.get (record.key casefold) ≠ none := by
    rw [hget]
    exact Option.some_ne_none stored
  refine ⟨repository.replace record, ?_, by rw [KeyedStore.get_replace hne, if_pos rfl]⟩
  rw [InMemoryApplicationExecutionRepository.update,
    if_neg (Nat.not_lt.mpr stored.recordVersion.property)]
  split
  · rename_i hnone
    exact absurd hnone hne
  · rename_i other hother
    obtain rfl := Option.some.inj (hget.symm.trans hother)
    have hnext : record.recordVersion.val = stored.recordVersion.val + 1 :=
      congrArg Subtype.val hversion
    rw [if_neg (not_not.mpr rfl), if_neg (not_not.mpr hnext)]

end

structure Stores (states after : FlowStates casefold) (record : ApplicationExecutionRecord) :
    Prop where
  idempotency : FlowStates.idempotency after = FlowStates.idempotency states
  invocations : FlowStates.invocations after = FlowStates.invocations states
  stored : (FlowStates.executions after).get (record.key casefold) = some record

theorem run_onExecutions {f : InMemoryApplicationExecutionRepository casefold →
      Except Raised ApplicationExecutionRecord × InMemoryApplicationExecutionRepository casefold}
    {t : InMemoryApplicationExecutionRepository casefold}
    (h : f (FlowStates.executions states) = (.ok record, t))
    (hget : t.get (record.key casefold) = some record) :
    ∃ after, FlowProgram.onExecutions f states = (.ok record, after) ∧
      Stores states after record := by
  refine ⟨Function.update states .executions t, ?_, rfl, rfl, hget⟩
  rw [FlowProgram.onExecutions, h]

theorem run_create (record : ApplicationExecutionRecord)
    (hfresh : (FlowStates.executions states).get (record.key casefold) = none) :
    ∃ after, create record states = (.ok record, after) ∧ Stores states after record := by
  obtain ⟨t, hcreate, hget⟩ := create_of_fresh hfresh
  exact run_onExecutions hcreate hget

theorem run_update (record : ApplicationExecutionRecord)
    (hstored : (FlowStates.executions states).get (stored.key casefold) = some stored)
    (hid : record.executionId = stored.executionId)
    (hversion : record.recordVersion = stored.nextVersion) :
    ∃ after, update record stored.recordVersion.val states = (.ok record, after) ∧
      Stores states after record := by
  obtain ⟨t, hupdate, hget⟩ := update_of_stored hstored hid hversion
  exact run_onExecutions hupdate hget

theorem now_of_aware (h : clock.isNaive = false) : now clock = .ok clock :=
  raiseIf_bind_eq_ok.mpr ⟨by simp [h], rfl⟩

theorem requireTransition_of_allowed {current target : ApplicationExecutionStatus}
    (h : canTransition current target = true) : requireTransition current target = .ok () :=
  raiseIf_eq_ok.mpr (by simp [h])

theorem run_markRunning
    (hstored : (FlowStates.executions states).get (stored.key casefold) = some stored)
    (hstatus : stored.status = .pending) (hclock : clock.isNaive = false) :
    ∃ after, markRunning stored clock states = (.ok (runningExecution stored clock), after) ∧
      Stores states after (runningExecution stored clock) := by
  obtain ⟨after, hupdate, hafter⟩ :=
    run_update (runningExecution stored clock) hstored rfl rfl
  refine ⟨after, ?_, hafter⟩
  rw [markRunning, Stateful.run_lift_bind_of_ok (requireTransition_of_allowed (by
    rw [hstatus]; decide)), Stateful.run_lift_bind_of_ok (now_of_aware hclock), hupdate]

theorem run_markSucceeded
    (hstored : (FlowStates.executions states).get (stored.key casefold) = some stored)
    (hstatus : stored.status = .running) (hclock : clock.isNaive = false) :
    ∃ after, markSucceeded stored clock states = (.ok (succeededExecution stored clock), after) ∧
      Stores states after (succeededExecution stored clock) := by
  obtain ⟨after, hupdate, hafter⟩ :=
    run_update (succeededExecution stored clock) hstored rfl rfl
  refine ⟨after, ?_, hafter⟩
  rw [markSucceeded, Stateful.run_lift_bind_of_ok (requireTransition_of_allowed (by
    rw [hstatus]; decide)), Stateful.run_lift_bind_of_ok (now_of_aware hclock), hupdate]

variable {error : RunnerError}

theorem run_markFailed
    (hstored : (FlowStates.executions states).get (stored.key casefold) = some stored)
    (hstatus : stored.status = .running) (hmessage : isBlank error.message = false)
    (hclock : clock.isNaive = false) :
    ∃ failure after,
      markFailed stored error clock states = (.ok (failedExecution stored clock failure), after) ∧
        Stores states after (failedExecution stored clock failure) := by
  have hvalid : validateExecutionFailure error.name (failureMessage error.message) false none =
      .ok () := by
    have hsame : failureMessage error.message = error.message := by
      refine if_neg ?_
      rintro hempty
      rw [hempty] at hmessage
      exact absurd hmessage (by decide)
    simp [validateExecutionFailure, raiseIf, error.named, hsame, hmessage]
  obtain ⟨failure, hfailure⟩ : ∃ failure, newExecutionFailure .internal error.name
      (failureMessage error.message) false = .ok failure := by
    refine ⟨⟨.internal, error.name, failureMessage error.message, false, none, [], hvalid⟩, ?_⟩
    unfold newExecutionFailure
    split
    · rfl
    · rename_i other hother
      rw [hvalid] at hother
      cases hother
  obtain ⟨after, hupdate, hafter⟩ :=
    run_update (failedExecution stored clock failure) hstored rfl rfl
  refine ⟨failure, after, ?_, hafter⟩
  rw [markFailed, Stateful.run_lift_bind_of_ok (requireTransition_of_allowed (by
    rw [hstatus]; decide)), Stateful.run_lift_bind_of_ok hfailure,
    Stateful.run_lift_bind_of_ok (now_of_aware hclock), hupdate]

theorem pendingExecution_valid {request : ApplicationResearchExecutionRequest}
    {executionId : String} {createdAt : Datetime} (hid : isBlank executionId = false)
    (hcreated : createdAt.isNaive = false) :
    (pendingExecution request.val executionId createdAt).modelValidate casefold =
      .ok (pendingExecution request.val executionId createdAt) := by
  obtain ⟨_, htexts, h⟩ := bind_eq_ok.mp request.property
  obtain ⟨_, hoptional, h⟩ := bind_eq_ok.mp h
  obtain ⟨hattempts, h⟩ := raiseIf_bind_eq_ok.mp h
  obtain ⟨hfirst, h⟩ := raiseIf_bind_eq_ok.mp h
  obtain ⟨hretry, _⟩ := raiseIf_bind_eq_ok.mp h
  simp only [requireTexts, requireOptionalTexts, raiseIf_bind_eq_ok, and_true] at htexts hoptional
  have hroot : isBlank (request.val.rootExecutionId.getD executionId) = false := by
    cases hroot : request.val.rootExecutionId with
    | none => simpa using hid
    | some root => simpa [hroot] using hoptional.1
  have hprevious : ¬(1 < request.val.attemptNumber.val ∧
      request.val.previousAttemptExecutionId.all isBlank = true) := by
    cases hprevious : request.val.previousAttemptExecutionId with
    | none => simpa [hprevious] using hretry
    | some previous => simpa [hprevious] using fun _ => by simpa [hprevious] using hoptional.2.2
  have hcontent : (pendingExecution request.val executionId createdAt).validateContent casefold =
      .ok () := by
    simp [ApplicationExecutionRecord.validateContent, pendingExecution, requireTexts,
      requireOptionalTexts, validateReferenceUniqueness, validateUniqueText, raiseIf, hid, hroot,
      htexts, hoptional, hattempts, hfirst, hprevious]
  have htimestamps : (pendingExecution request.val executionId createdAt).validateTimestamps =
      .ok () := by
    simp [ApplicationExecutionRecord.validateTimestamps, pendingExecution, Datetime.requireAware,
      ApplicationExecutionRecord.requireOrdered, raiseIf, hcreated]
  have hcontract : (pendingExecution request.val executionId createdAt).validateStatusContract =
      .ok () := rfl
  exact bind_eq_ok.mpr ⟨(), bind_eq_ok.mpr ⟨(), hcontent, bind_eq_ok.mpr
    ⟨(), htimestamps, bind_eq_ok.mpr ⟨(), hcontract, rfl⟩⟩⟩, rfl⟩

structure Supplied (call : FlowCall casefold) (states : FlowStates casefold) : Prop where
  executionId : isBlank call.executionId = false
  fresh : (FlowStates.executions states).get (normalizeId casefold call.executionId) = none
  created : call.created.isNaive = false
  started : call.started.isNaive = false
  finished : call.finished.isNaive = false

def settle (call : FlowCall casefold) (running : ApplicationExecutionRecord) :
    RunnerOutcome casefold →
      FlowProgram casefold (Except ExecutionFailed (ApplicationResearchExecutionResult casefold))
  | .raises error =>
    if error.kind = .runtimeOrValueError then do
      let failed ← markFailed running error call.finished
      return .error ⟨failed.executionId, error.message⟩
    else Stateful.raise ⟨.external error.name error.kind, error.message⟩
  | .returns output => do
      let succeeded ← markSucceeded running call.finished
      let result ← newResearchResult succeeded output
      return .ok result

variable {call : FlowCall casefold}

theorem execute_eq_settle
    (request : ApplicationResearchExecutionRequest) (h : Supplied call states) :
    ∃ running after, execute request call states = settle call running call.outcome after ∧
      running.status = .running ∧ running.executionId = call.executionId ∧
      FlowStates.idempotency after = FlowStates.idempotency states ∧
      FlowStates.invocations after = FlowStates.invocations states ++ [call.outcome] ∧
      (FlowStates.executions after).get (running.key casefold) = some running := by
  have hid : newExecutionId call.executionId = .ok call.executionId :=
    raiseIf_bind_eq_ok.mpr ⟨by simp [h.executionId], rfl⟩
  obtain ⟨first, hcreate, hfirst⟩ :=
    run_create (pendingExecution request.val call.executionId call.created) h.fresh
  obtain ⟨second, hrunning, hsecond⟩ := run_markRunning hfirst.stored rfl h.started
  refine ⟨_, Function.update second .runner (FlowStates.invocations second ++ [call.outcome]), ?_,
    rfl, rfl, hsecond.idempotency.trans hfirst.idempotency, ?_, hsecond.stored⟩
  · rw [execute, Stateful.run_lift_bind_of_ok hid,
      Stateful.run_lift_bind_of_ok (now_of_aware h.created),
      Stateful.run_lift_bind_of_ok (pendingExecution_valid h.executionId h.created),
      Stateful.run_bind_of_ok hcreate, Stateful.run_bind_of_ok hrunning]
    rfl
  · change FlowStates.invocations second ++ [call.outcome] = _
    rw [hsecond.invocations, hfirst.invocations]

structure Settled (call : FlowCall casefold) (states after : FlowStates casefold)
    (record : ApplicationExecutionRecord) : Prop where
  executionId : record.executionId = call.executionId
  idempotency : FlowStates.idempotency after = FlowStates.idempotency states
  invocations : FlowStates.invocations after = FlowStates.invocations states ++ [call.outcome]
  stored : (FlowStates.executions after).getById call.executionId = some record

theorem execute_of_returns
    (request : ApplicationResearchExecutionRequest) (h : Supplied call states)
    {output : ApplicationResearchExecutionOutput casefold} (houtcome : call.outcome = .returns output) :
    ∃ execution after, execute request call states = (.ok (.ok ⟨execution, output⟩), after) ∧
      execution.status = .succeeded ∧ Settled call states after execution := by
  obtain ⟨running, middle, hrun, hstatus, hid, hidempotency, hinvocations, hstored⟩ :=
    execute_eq_settle request h
  obtain ⟨after, hsucceeded, hafter⟩ := run_markSucceeded hstored hstatus h.finished
  refine ⟨succeededExecution running call.finished, after, ?_, rfl, hid,
    hafter.idempotency.trans hidempotency, hafter.invocations.trans hinvocations, ?_⟩
  · rw [hrun, houtcome, settle, Stateful.run_bind_of_ok hsucceeded]
    rfl
  · exact (congrArg (fun id => (FlowStates.executions after).getById id) hid.symm).trans
      hafter.stored

theorem execute_of_raises (request : ApplicationResearchExecutionRequest) (h : Supplied call states)
    (houtcome : call.outcome = .raises error) (hkind : error.kind = .runtimeOrValueError)
    (hmessage : isBlank error.message = false) :
    ∃ execution after, execute request call states =
        (.ok (.error ⟨call.executionId, error.message⟩), after) ∧
      execution.status = .failed ∧ Settled call states after execution := by
  obtain ⟨running, middle, hrun, hstatus, hid, hidempotency, hinvocations, hstored⟩ :=
    execute_eq_settle request h
  obtain ⟨failure, after, hfailed, hafter⟩ := run_markFailed hstored hstatus hmessage h.finished
  refine ⟨failedExecution running call.finished failure, after, ?_, rfl, hid,
    hafter.idempotency.trans hidempotency, hafter.invocations.trans hinvocations, ?_⟩
  · rw [hrun, houtcome, settle, if_pos hkind, Stateful.run_bind_of_ok hfailed, ← hid]
    rfl
  · exact (congrArg (fun id => (FlowStates.executions after).getById id) hid.symm).trans
      hafter.stored

theorem execute_of_other (request : ApplicationResearchExecutionRequest) (h : Supplied call states)
    (houtcome : call.outcome = .raises error) (hkind : error.kind ≠ .runtimeOrValueError) :
    ∃ after, execute request call states =
        (.error ⟨.external error.name error.kind, error.message⟩, after) ∧
      FlowStates.invocations after = FlowStates.invocations states ++ [call.outcome] := by
  obtain ⟨running, middle, hrun, _, _, _, hinvocations, _⟩ :=
    execute_eq_settle request h
  refine ⟨middle, ?_, hinvocations⟩
  rw [hrun, houtcome, settle, if_neg hkind]
  rfl

end ApplicationResearchExecutionService

theorem mapM_jsonStr (values : List String) :
    values.mapM (jsonStr? ∘ fun value => Json.Value.atom (.str value)) = some values := by
  induction values with
  | nil => rfl
  | cons value rest ih => rw [List.mapM_cons, ih]; rfl

theorem researchOutputFromJson_toJson (output : ApplicationResearchExecutionOutput casefold) :
    researchOutputFromJson? casefold output.toJson = some output := by
  have hvalid := output.valid
  simp [researchOutputFromJson?, ApplicationResearchExecutionOutput.toJson, fieldsWithin?,
    Fields.str?, jsonStr?, fieldsOrEmpty?, textsOrEmpty?, textList, List.lookup, mapM_jsonStr,
    hvalid]

theorem storedResultFromJson_toJson (stored : ApplicationResearchFlowStoredResult casefold) :
    storedResultFromJson? casefold stored.toJson = some stored := by
  have hvalid := stored.valid
  simp [storedResultFromJson?, ApplicationResearchFlowStoredResult.toJson, fieldsWithin?,
    Fields.str?, jsonStr?, List.lookup, researchOutputFromJson_toJson, hvalid]

/-! ## One call of the flow -/

namespace ApplicationResearchFlowService

open ApplicationResearchExecutionService (Supplied ExecutionFailed execute_of_returns
  execute_of_raises execute_of_other)

variable {states : FlowStates casefold} {call : FlowCall casefold}

variable (casefold) in
def flowIdentity (request : ApplicationResearchFlowRequest) : IdempotencyIdentity :=
  idempotencyIdentity casefold request.research.val.workspaceId operation request.idempotencyKey

variable (casefold) in
theorem newStartRequest_of_request (request : ApplicationResearchFlowRequest) :
    ∃ start, newStartRequest request = .ok start ∧
      start.identity casefold = flowIdentity casefold request ∧
      start.payload = request.research.val.toJson ∧
      validateMetadata start.metadata = .ok () := by
  obtain ⟨_, htexts, _⟩ := bind_eq_ok.mp request.research.property
  obtain ⟨hkey, hmetadata⟩ := raiseIf_bind_eq_ok.mp request.valid
  have hvalid : requireTexts [("workspace_id", request.research.val.workspaceId),
      ("operation", operation), ("idempotency_key", request.idempotencyKey)] = .ok () := by
    simp only [requireTexts, raiseIf_bind_eq_ok, and_true] at htexts ⊢
    exact ⟨htexts.2.1, by decide, hkey⟩
  refine ⟨⟨request.research.val.workspaceId, operation, request.idempotencyKey,
    request.research.val.toJson, request.metadata, hvalid⟩, ?_, rfl, rfl, hmetadata⟩
  unfold newStartRequest
  split
  · rfl
  · rename_i failure hfailure
    rw [hvalid] at hfailure
    cases hfailure

theorem run_onIdempotency {α : Type} {program : IdempotencyProgram α}
    {result : Except Raised α} {t : InMemoryApplicationIdempotencyRepository casefold}
    (h : program.run handle (FlowStates.idempotency states) = (result, t)) :
    FlowProgram.onIdempotency program states =
      (result, Function.update states .idempotency t) := by
  rw [FlowProgram.onIdempotency, h]

/-- The record of an operation that may execute: there is none, or it has failed. -/
def Open (fp : String) (identity : IdempotencyIdentity) (states : FlowStates casefold) : Prop :=
  ∀ existing, (FlowStates.idempotency states).find identity = some existing →
    existing.val.status = .failed ∧ existing.val.requestFingerprint = fp

structure Closed (fp : String) (identity : IdempotencyIdentity)
    (result : ApplicationResearchFlowResult casefold) (states : FlowStates casefold) : Prop where
  record : ∃ record, (FlowStates.idempotency states).find identity = some record ∧
    record.val.status = .succeeded ∧ record.val.requestFingerprint = fp ∧
    record.val.idempotencyRecordId = result.idempotencyRecordId ∧
    ∃ valid, record.val.result = ApplicationResearchFlowStoredResult.toJson
      ⟨result.researchResult.execution.executionId, result.researchResult.output, valid⟩
  execution : (FlowStates.executions states).getById
    result.researchResult.execution.executionId = some result.researchResult.execution
  succeeded : result.researchResult.execution.status = .succeeded

variable (casefold) in
structure Provided (call : FlowCall casefold) (states : FlowStates casefold) : Prop where
  supplied : Supplied call states
  recordId : isBlank call.recordId = false
  fresh : (FlowStates.idempotency states).find (flowIdentity casefold call.request) = none →
    (FlowStates.idempotency states).records.get (normalizeId casefold call.recordId) = none
  begun : call.begun.isNaive = false
  completed : call.completed.isNaive = false
  le : call.begun ≤ call.completed
  later : ∀ existing, (FlowStates.idempotency states).find (flowIdentity casefold call.request) =
    some existing → existing.val.createdAt ≤ call.begun

variable (casefold) in
/-- The failures of the runner have messages. -/
structure Proper (call : FlowCall casefold) (states : FlowStates casefold) : Prop
    extends Provided casefold call states where
  message : ∀ error, call.outcome = .raises error → error.kind = .runtimeOrValueError →
    isBlank error.message = false

structure Begun (call : FlowCall casefold) (fp : String) (states after : FlowStates casefold)
    (record : ApplicationIdempotencyRecord) : Prop where
  started : Started (FlowStates.idempotency after) (flowIdentity casefold call.request) fp call.begun
    record
  executions : FlowStates.executions after = FlowStates.executions states
  invocations : FlowStates.invocations after = FlowStates.invocations states

theorem begin_of_open {fp : String} {start : ApplicationIdempotencyStartRequest}
    (hidentity : start.identity casefold = flowIdentity casefold call.request)
    (hmetadata : validateMetadata start.metadata = .ok ())
    (hfp : fingerprint sha256 start.payload = .ok fp) (h : Proper casefold call states)
    (hopen : Open fp (flowIdentity casefold call.request) states) :
    ∃ record after, FlowProgram.onIdempotency (begin sha256 start true call.begun call.recordId)
        states = (.ok ⟨record, true, .atom .null⟩, after) ∧ Begun call fp states after record := by
  have hbegin : ∃ record t, (begin sha256 start true call.begun call.recordId).run handle
      (FlowStates.idempotency states) = (.ok ⟨record, true, .atom .null⟩, t) ∧
        Started t (start.identity casefold) fp call.begun record := by
    cases hfind : (FlowStates.idempotency states).find (flowIdentity casefold call.request) with
    | none =>
      exact run_begin_of_new hfp hmetadata h.begun h.recordId (h.fresh hfind) (hidentity ▸ hfind)
    | some existing =>
      obtain ⟨hfailed, hsame⟩ := hopen existing hfind
      exact run_begin_of_failed hfp (hidentity ▸ hfind) hfailed hsame h.begun
        (h.later existing hfind)
  obtain ⟨record, t, hrun, hstarted⟩ := hbegin
  exact ⟨record, _, run_onIdempotency hrun, hidentity ▸ hstarted, rfl, rfl⟩

abbrev FingerprintOf (sha256 : Sha256) (call : FlowCall casefold) (fp : String) : Prop :=
  fingerprint sha256 call.request.research.val.toJson = .ok fp

theorem isBlank_recordId (record : ApplicationIdempotencyRecord) :
    isBlank record.val.idempotencyRecordId = false := by
  have htexts := (valid_of_record record).texts
  rw [requireTexts, raiseIf_bind_eq_ok] at htexts
  simpa using htexts.1

section

variable {fp : String}

def finish (call : FlowCall casefold) (record : ApplicationIdempotencyRecord) :
    FlowProgram casefold (Except ExecutionFailed (ApplicationResearchFlowResult casefold)) := do
  match ← ApplicationResearchExecutionService.execute call.request.research call with
  | .error error => do
      let _ ← FlowProgram.onIdempotency (ApplicationIdempotencyService.fail
        record.val.idempotencyRecordId "ApplicationResearchExecutionFailedError"
        error.failureMessage false call.completed)
      return .error error
  | .ok researchResult => do
      let stored ← newStoredResult researchResult.execution.executionId researchResult.output
      let _ ← FlowProgram.onIdempotency (ApplicationIdempotencyService.succeed
        record.val.idempotencyRecordId stored.toJson call.completed)
      let result ← newFlowResult record.val.idempotencyRecordId false researchResult
      return .ok result

theorem body_eq_of_open (hfp : FingerprintOf sha256 call fp) (h : Proper casefold call states)
    (hopen : Open fp (flowIdentity casefold call.request) states) :
    ∃ record middle, body sha256 call states = finish call record middle ∧
      Begun call fp states middle record ∧ Supplied call middle := by
  obtain ⟨start, hstart, hidentity, hpayload, hmetadata⟩ := newStartRequest_of_request casefold call.request
  have hfp' : fingerprint sha256 start.payload = .ok fp := by
    rw [hpayload]
    exact hfp
  obtain ⟨record, middle, hbegin, hbegun⟩ := begin_of_open hidentity hmetadata hfp' h hopen
  refine ⟨record, middle, ?_, hbegun, ?_⟩
  · rw [body, Stateful.run_lift_bind_of_ok hstart, Stateful.run_bind_of_ok hbegin]
    dsimp only
    rw [if_neg (by decide)]
    rfl
  · refine ⟨h.supplied.executionId, ?_, h.supplied.created, h.supplied.started, h.supplied.finished⟩
    rw [hbegun.executions]
    exact h.supplied.fresh

theorem body_of_returns {output : ApplicationResearchExecutionOutput casefold}
    (hfp : FingerprintOf sha256 call fp) (h : Proper casefold call states)
    (hopen : Open fp (flowIdentity casefold call.request) states)
    (houtcome : call.outcome = .returns output) :
    ∃ result after, body sha256 call states = (.ok (.ok result), after) ∧
      result.reused = false ∧ result.researchResult.output = output ∧
      Closed fp (flowIdentity casefold call.request) result after ∧
      FlowStates.invocations after = FlowStates.invocations states ++ [call.outcome] := by
  obtain ⟨record, first, hbody, hbegun, hsupplied⟩ := body_eq_of_open hfp h hopen
  obtain ⟨execution, second, hexecute, hstatus, hsettled⟩ :=
    execute_of_returns call.request.research hsupplied houtcome
  have hvalid : isBlank execution.executionId = false :=
    hsettled.executionId ▸ h.supplied.executionId
  have hstored : newStoredResult execution.executionId output =
      .ok ⟨execution.executionId, output, hvalid⟩ := dif_pos hvalid
  have hstarted : Started (FlowStates.idempotency second) (flowIdentity casefold call.request) fp
      call.begun record := hsettled.idempotency ▸ hbegun.started
  obtain ⟨succeeded, t, hsucceed, hfind, hval⟩ := run_succeed
    (ApplicationResearchFlowStoredResult.toJson ⟨execution.executionId, output, hvalid⟩)
    hstarted rfl h.completed h.le
  have hresult : newFlowResult record.val.idempotencyRecordId false ⟨execution, output⟩ =
      .ok ⟨record.val.idempotencyRecordId, false, ⟨execution, output⟩⟩ :=
    raiseIf_bind_eq_ok.mpr ⟨by simp [isBlank_recordId record], rfl⟩
  refine ⟨⟨record.val.idempotencyRecordId, false, ⟨execution, output⟩⟩,
    Function.update second .idempotency t, ?_, rfl, rfl, ⟨⟨succeeded, hfind, ?_, ?_, ?_, hvalid, ?_⟩,
      ?_, hstatus⟩, ?_⟩
  · rw [hbody, finish, Stateful.run_bind_of_ok hexecute]
    dsimp only
    rw [Stateful.run_lift_bind_of_ok hstored,
      Stateful.run_bind_of_ok (run_onIdempotency hsucceed), Stateful.run_lift_bind_of_ok hresult]
    rfl
  · rw [hval]
    rfl
  · rw [hval]
    exact hstarted.fingerprint
  · rw [hval]
    rfl
  · rw [hval]
    rfl
  · exact (congrArg (fun id => (FlowStates.executions second).getById id)
      hsettled.executionId).trans hsettled.stored
  · exact hsettled.invocations.trans (by rw [hbegun.invocations])

structure FailureStored (identity : IdempotencyIdentity) (executionId : String)
    (states : FlowStates casefold) : Prop where
  execution : ∃ execution, (FlowStates.executions states).getById executionId = some execution ∧
    execution.status = .failed
  record : ∃ record, (FlowStates.idempotency states).find identity = some record ∧
    record.val.status = .failed

variable {error : RunnerError}

theorem body_of_raises (hfp : FingerprintOf sha256 call fp) (h : Proper casefold call states)
    (hopen : Open fp (flowIdentity casefold call.request) states)
    (houtcome : call.outcome = .raises error) (hkind : error.kind = .runtimeOrValueError) :
    ∃ after, body sha256 call states =
        (.ok (.error ⟨call.executionId, error.message⟩), after) ∧
      FailureStored (flowIdentity casefold call.request) call.executionId after ∧
      Open fp (flowIdentity casefold call.request) after := by
  obtain ⟨record, first, hbody, hbegun, hsupplied⟩ := body_eq_of_open hfp h hopen
  have hmessage := h.message error houtcome hkind
  obtain ⟨execution, second, hexecute, hstatus, hsettled⟩ :=
    execute_of_raises call.request.research hsupplied houtcome hkind hmessage
  have hstarted : Started (FlowStates.idempotency second) (flowIdentity casefold call.request) fp
      call.begun record := hsettled.idempotency ▸ hbegun.started
  obtain ⟨failure, failed, t, hfail, hfind, hval⟩ := run_fail
    "ApplicationResearchExecutionFailedError" false hstarted (by decide +kernel) hmessage
    h.completed h.le
  have hfailed : failed.val.status = .failed := by
    rw [hval]
    rfl
  refine ⟨Function.update second .idempotency t, ?_,
    ⟨⟨execution, hsettled.stored, hstatus⟩, failed, hfind, hfailed⟩, ?_⟩
  · rw [hbody, finish, Stateful.run_bind_of_ok hexecute]
    dsimp only
    rw [Stateful.run_bind_of_ok (run_onIdempotency hfail)]
    rfl
  · intro existing hexisting
    obtain rfl : failed = existing := Option.some.inj (hfind.symm.trans hexisting)
    refine ⟨hfailed, ?_⟩
    rw [hval]
    exact hstarted.fingerprint

theorem body_of_other (hfp : FingerprintOf sha256 call fp) (h : Proper casefold call states)
    (hopen : Open fp (flowIdentity casefold call.request) states)
    (houtcome : call.outcome = .raises error) (hkind : error.kind ≠ .runtimeOrValueError) :
    ∃ after, body sha256 call states =
      (.error ⟨.external error.name error.kind, error.message⟩, after) := by
  obtain ⟨record, first, hbody, hbegun, hsupplied⟩ := body_eq_of_open hfp h hopen
  obtain ⟨second, hexecute, _⟩ :=
    execute_of_other call.request.research hsupplied houtcome hkind
  refine ⟨second, ?_⟩
  rw [hbody, finish, Stateful.run_bind_of_error hexecute]

variable {result : ApplicationResearchFlowResult casefold}

theorem run_restoreReusedResult
    {record : ApplicationIdempotencyRecord} {identity : IdempotencyIdentity}
    {hvalid : isBlank result.researchResult.execution.executionId = false}
    (hresult : record.val.result = ApplicationResearchFlowStoredResult.toJson
      ⟨result.researchResult.execution.executionId, result.researchResult.output, hvalid⟩)
    (hclosed : Closed fp identity result states)
    (hid : record.val.idempotencyRecordId = result.idempotencyRecordId) :
    restoreReusedResult record.val.idempotencyRecordId record.val.result states =
      (.ok { result with reused := true }, states) := by
  have hget : FlowProgram.onExecutions (fun repository =>
      (Except.ok (InMemoryApplicationExecutionRepository.getById repository
        result.researchResult.execution.executionId), repository)) states =
      (.ok (some result.researchResult.execution), states) := by
    rw [FlowProgram.onExecutions, hclosed.execution]
    exact congrArg _ (Function.update_eq_self _ _)
  have hterminal : newResearchResult result.researchResult.execution
      result.researchResult.output = .ok result.researchResult := by
    refine raiseIf_bind_eq_ok.mpr ⟨?_, rfl⟩
    rw [ApplicationExecutionRecord.terminal, hclosed.succeeded]
    decide
  have hflow : newFlowResult record.val.idempotencyRecordId true result.researchResult =
      .ok { result with reused := true } :=
    raiseIf_bind_eq_ok.mpr ⟨by simp [isBlank_recordId record], by rw [hid]; rfl⟩
  rw [restoreReusedResult, hresult, storedResultFromJson_toJson]
  dsimp only
  rw [Stateful.run_bind_of_ok hget]
  dsimp only
  rw [Stateful.run_lift_bind_of_ok hterminal, hflow]
  rfl

theorem body_of_closed (hfp : FingerprintOf sha256 call fp)
    (hclosed : Closed fp (flowIdentity casefold call.request) result states) :
    body sha256 call states = (.ok (.ok { result with reused := true }), states) := by
  obtain ⟨start, hstart, hidentity, hpayload, hmetadata⟩ := newStartRequest_of_request casefold call.request
  obtain ⟨record, hfind, hstatus, hsame, hid, hvalid, hresult⟩ := hclosed.record
  have hfp' : fingerprint sha256 start.payload = .ok fp := by
    rw [hpayload]
    exact hfp
  have hbegin : FlowProgram.onIdempotency (begin sha256 start true call.begun call.recordId)
      states = (.ok ⟨record, false, record.val.result⟩, states) := by
    rw [run_onIdempotency (run_begin_of_succeeded hfp' (hidentity ▸ hfind) hstatus hsame)]
    exact congrArg _ (Function.update_eq_self _ _)
  rw [body, Stateful.run_lift_bind_of_ok hstart, Stateful.run_bind_of_ok hbegin]
  dsimp only
  rw [if_pos rfl, Stateful.run_bind_of_ok (run_restoreReusedResult hresult hclosed hid)]
  rfl

theorem body_of_fingerprint_error {failure : Raised}
    (hfp : fingerprint sha256 call.request.research.val.toJson = .error failure) :
    body sha256 call states = (.error failure, states) := by
  obtain ⟨start, hstart, _, hpayload, _⟩ :=
    newStartRequest_of_request casefold call.request
  have hfp' : fingerprint sha256 start.payload = .error failure := by
    rw [hpayload]
    exact hfp
  have hbegin : FlowProgram.onIdempotency (begin sha256 start true call.begun call.recordId)
      states = (.error failure, states) := by
    have hrun : (begin sha256 start true call.begun call.recordId).run handle
        (FlowStates.idempotency states) = (.error failure, FlowStates.idempotency states) := by
      rw [begin, hfp']
      rfl
    rw [run_onIdempotency hrun]
    exact congrArg _ (Function.update_eq_self _ _)
  rw [body, Stateful.run_lift_bind_of_ok hstart, Stateful.run_bind_of_error hbegin]

end

section

variable {s : TransactionState (FlowState casefold)}

/-- The repositories are as they were. -/
structure Kept (states after : FlowStates casefold) : Prop where
  executions : FlowStates.executions after = FlowStates.executions states
  idempotency : FlowStates.idempotency after = FlowStates.idempotency states

variable {α : Type} {failure : Raised}

theorem transaction_of_error {program : FlowProgram casefold α}
    {after : FlowStates casefold}
    (hactive : s.active = false) (h : program s.states = (.error failure, after)) :
    ∃ restored, (transactionManager casefold).transaction program s =
        (.error failure, ⟨false, restored⟩) ∧ Kept s.states restored ∧
      FlowStates.invocations restored = FlowStates.invocations after := by
  have hsnapshots : (transactionManager casefold).snapshots s.states
      (transactionManager casefold).resources = .ok [⟨.executions, s.states .executions⟩,
        ⟨.idempotency, s.states .idempotency⟩] := rfl
  refine ⟨Function.update (Function.update after .idempotency (s.states .idempotency)) .executions
    (s.states .executions), ?_, ⟨rfl, rfl⟩, rfl⟩
  simp only [InMemoryApplicationTransactionManager.transaction, hactive, hsnapshots, h,
    Bool.false_eq_true, if_false]
  rfl

theorem transaction_of_ok {program : FlowProgram casefold α} {a : α}
    {after : FlowStates casefold}
    (hactive : s.active = false) (h : program s.states = (.ok a, after)) :
    (transactionManager casefold).transaction program s = (.ok a, ⟨false, after⟩) :=
  (InMemoryApplicationTransactionManager.transactional_of_repositories hactive).committed a after h

structure OpenAnswer (sha256 : Sha256) (fp : String) (call : FlowCall casefold)
    (s : TransactionState (FlowState casefold)) : Prop where
  inactive : (execute sha256 call s).2.active = false
  returns : ∀ output, call.outcome = .returns output → ∃ result,
    (execute sha256 call s).1 = .ok result ∧ result.researchResult.output = output ∧
      Closed fp (flowIdentity casefold call.request) result (execute sha256 call s).2.states
  fails : ∀ error, call.outcome = .raises error → error.kind = .runtimeOrValueError →
    (execute sha256 call s).1 =
        .error (ExecutionFailed.raised ⟨call.executionId, error.message⟩) ∧
      FailureStored (flowIdentity casefold call.request) call.executionId
        (execute sha256 call s).2.states ∧
      Open fp (flowIdentity casefold call.request) (execute sha256 call s).2.states
  passes : ∀ error, call.outcome = .raises error → error.kind ≠ .runtimeOrValueError →
    (execute sha256 call s).1 = .error ⟨.external error.name error.kind, error.message⟩ ∧
      Kept s.states (execute sha256 call s).2.states

variable {fp : String}

theorem execute_of_open (hfp : FingerprintOf sha256 call fp)
    (hactive : s.active = false) (h : Proper casefold call s.states)
    (hopen : Open fp (flowIdentity casefold call.request) s.states) :
    OpenAnswer sha256 fp call s := by
  cases houtcome : call.outcome with
  | returns output =>
    obtain ⟨result, after, hbody, _, houtput, hclosed, _⟩ :=
      body_of_returns hfp h hopen houtcome
    have hexecute : execute sha256 call s = (.ok result, ⟨false, after⟩) := by
      rw [execute, transaction_of_ok hactive hbody]
    refine ⟨by rw [hexecute], fun other hother => ?_, fun error herror => ?_,
      fun error herror => ?_⟩
    · cases houtcome.symm.trans hother
      rw [hexecute]
      exact ⟨result, rfl, houtput, hclosed⟩
    · cases houtcome.symm.trans herror
    · cases houtcome.symm.trans herror
  | raises error =>
    by_cases hkind : error.kind = .runtimeOrValueError
    · obtain ⟨after, hbody, hstored, hafter⟩ := body_of_raises hfp h hopen houtcome hkind
      have hexecute : execute sha256 call s =
          (.error (ExecutionFailed.raised ⟨call.executionId, error.message⟩),
            ⟨false, after⟩) := by
        rw [execute, transaction_of_ok hactive hbody]
      refine ⟨by rw [hexecute], fun output houtput => ?_, fun other hother _ => ?_,
        fun other hother hother' => ?_⟩
      · cases houtcome.symm.trans houtput
      · cases houtcome.symm.trans hother
        rw [hexecute]
        exact ⟨rfl, hstored, hafter⟩
      · cases houtcome.symm.trans hother
        exact absurd hkind hother'
    · obtain ⟨after, hbody⟩ := body_of_other hfp h hopen houtcome hkind
      obtain ⟨restored, htransaction, hkept, _⟩ := transaction_of_error hactive hbody
      have hexecute : execute sha256 call s =
          (.error ⟨.external error.name error.kind, error.message⟩, ⟨false, restored⟩) := by
        rw [execute, htransaction]
      refine ⟨by rw [hexecute], fun output houtput => ?_, fun other hother hother' => ?_,
        fun other hother _ => ?_⟩
      · cases houtcome.symm.trans houtput
      · cases houtcome.symm.trans hother
        exact absurd hother' hkind
      · cases houtcome.symm.trans hother
        rw [hexecute]
        exact ⟨rfl, hkept⟩

variable {result : ApplicationResearchFlowResult casefold}

theorem execute_of_closed (hfp : FingerprintOf sha256 call fp) (hactive : s.active = false)
    (hclosed : Closed fp (flowIdentity casefold call.request) result s.states) :
    execute sha256 call s = (.ok { result with reused := true }, ⟨false, s.states⟩) := by
  rw [execute, transaction_of_ok hactive (body_of_closed hfp hclosed)]

/-! ### A run -/

variable (casefold) in
/-- A call of a run, with the states it has found. -/
structure FlowEntry where
  call : FlowCall casefold
  before : TransactionState (FlowState casefold)

namespace FlowEntry

def answer (sha256 : Sha256) (entry : FlowEntry casefold) :
    Except Raised (ApplicationResearchFlowResult casefold) :=
  (execute sha256 entry.call entry.before).1

def after (sha256 : Sha256) (entry : FlowEntry casefold) : FlowStates casefold :=
  (execute sha256 entry.call entry.before).2.states

def Invoked (sha256 : Sha256) (entry : FlowEntry casefold) : Prop :=
  FlowStates.invocations (entry.after sha256) ≠ FlowStates.invocations entry.before.states

def Returned (sha256 : Sha256) (entry : FlowEntry casefold)
    (output : ApplicationResearchExecutionOutput casefold) : Prop :=
  entry.Invoked sha256 ∧ entry.call.outcome = .returns output

def Raises (sha256 : Sha256) (entry : FlowEntry casefold) (error : RunnerError) : Prop :=
  entry.Invoked sha256 ∧ entry.call.outcome = .raises error

end FlowEntry

def entries (sha256 : Sha256) :
    List (FlowCall casefold) → TransactionState (FlowState casefold) → List (FlowEntry casefold)
  | [], _ => []
  | call :: calls, s => ⟨call, s⟩ :: entries sha256 calls (execute sha256 call s).2

structure Repeats (identity : IdempotencyIdentity) (payload : Json.Value)
    (call : FlowCall casefold) : Prop where
  identity : flowIdentity casefold call.request = identity
  payload : call.request.research.val.toJson.sortKeys = payload

/-- What the later call `later` does behind `first`, whose runner has returned `output`. -/
structure Reuses (sha256 : Sha256) (output : ApplicationResearchExecutionOutput casefold)
    (first later : FlowEntry casefold) : Prop where
  notInvoked : ¬later.Invoked sha256
  answer : ∃ result, first.answer sha256 = .ok result ∧ result.researchResult.output = output ∧
    result.researchResult.execution.status = .succeeded ∧
    later.answer sha256 = .ok { result with reused := true } ∧
    (FlowStates.executions (later.after sha256)).getById
      result.researchResult.execution.executionId = some result.researchResult.execution

structure ExactlyOnce (sha256 : Sha256) (identity : IdempotencyIdentity)
    (run : List (FlowEntry casefold)) : Prop where
  reused : run.Pairwise fun first later => ∀ output, first.Returned sha256 output →
    Reuses sha256 output first later
  failed : ∀ entry ∈ run, ∀ error, entry.Raises sha256 error →
    error.kind = .runtimeOrValueError →
      FailureStored identity entry.call.executionId (entry.after sha256)
  passedOn : ∀ entry ∈ run, ∀ error, entry.Raises sha256 error →
    error.kind ≠ .runtimeOrValueError →
      entry.answer sha256 = .error ⟨.external error.name error.kind, error.message⟩
  unchanged : ∀ entry ∈ run, ∀ failure, entry.answer sha256 = .error failure →
    failure.cls ≠ .applicationResearchExecutionFailedError →
      Kept entry.before.states (entry.after sha256)

variable {identity : IdempotencyIdentity} {calls : List (FlowCall casefold)}

theorem entries_of_closed
    (hcalls : ∀ call ∈ calls, flowIdentity casefold call.request = identity ∧
      FingerprintOf sha256 call fp)
    (hactive : s.active = false) (hclosed : Closed fp identity result s.states) :
    ∀ entry ∈ entries sha256 calls s, entry.answer sha256 = .ok { result with reused := true } ∧
      entry.after sha256 = s.states ∧ entry.before.states = s.states := by
  induction calls generalizing s with
  | nil => exact fun _ hentry => absurd hentry List.not_mem_nil
  | cons call calls ih =>
    obtain ⟨rfl, hfp⟩ := hcalls call List.mem_cons_self
    have hexecute := execute_of_closed hfp hactive hclosed
    intro entry hentry
    rcases List.mem_cons.mp hentry with rfl | hlater
    · exact ⟨congrArg Prod.fst hexecute, congrArg (fun out => out.2.states) hexecute, rfl⟩
    · rw [hexecute] at hlater
      exact ih (s := ⟨false, s.states⟩)
        (fun other hother => hcalls other (List.mem_cons_of_mem call hother)) rfl hclosed
        entry hlater

theorem ExactlyOnce.cons {entry : FlowEntry casefold}
    {run : List (FlowEntry casefold)} (h : ExactlyOnce sha256 identity run)
    (hreused : ∀ later ∈ run, ∀ output, entry.Returned sha256 output →
      Reuses sha256 output entry later)
    (hfailed : ∀ error, entry.Raises sha256 error → error.kind = .runtimeOrValueError →
      FailureStored identity entry.call.executionId (entry.after sha256))
    (hpassedOn : ∀ error, entry.Raises sha256 error → error.kind ≠ .runtimeOrValueError →
      entry.answer sha256 = .error ⟨.external error.name error.kind, error.message⟩)
    (hunchanged : ∀ failure, entry.answer sha256 = .error failure →
      failure.cls ≠ .applicationResearchExecutionFailedError →
        Kept entry.before.states (entry.after sha256)) :
    ExactlyOnce sha256 identity (entry :: run) where
  reused := .cons hreused h.reused
  failed := List.forall_mem_cons.mpr ⟨hfailed, h.failed⟩
  passedOn := List.forall_mem_cons.mpr ⟨hpassedOn, h.passedOn⟩
  unchanged := List.forall_mem_cons.mpr ⟨hunchanged, h.unchanged⟩

theorem exactlyOnce_of_closed
    (hcalls : ∀ call ∈ calls, flowIdentity casefold call.request = identity ∧
      FingerprintOf sha256 call fp)
    (hactive : s.active = false) (hclosed : Closed fp identity result s.states) :
    ExactlyOnce sha256 identity (entries sha256 calls s) := by
  have hentries := entries_of_closed hcalls hactive hclosed
  have hidle : ∀ entry ∈ entries sha256 calls s, ¬entry.Invoked sha256 := by
    intro entry hentry hinvoked
    obtain ⟨_, hafter, hbefore⟩ := hentries entry hentry
    exact hinvoked (by rw [hafter, hbefore])
  refine ⟨List.pairwise_of_forall_mem_list fun first hfirst _ _ output hreturned => ?_,
    fun entry hentry error hraises => ?_, fun entry hentry error hraises => ?_,
    fun entry hentry failure hfailure => ?_⟩
  · exact absurd hreturned.1 (hidle first hfirst)
  · exact absurd hraises.1 (hidle entry hentry)
  · exact absurd hraises.1 (hidle entry hentry)
  · rw [(hentries entry hentry).1] at hfailure
    cases hfailure

theorem exactlyOnce_of_fingerprint_error
    (hcalls : ∀ call ∈ calls, fingerprint sha256 call.request.research.val.toJson = .error failure)
    (hactive : s.active = false) : ExactlyOnce sha256 identity (entries sha256 calls s) := by
  induction calls generalizing s with
  | nil => exact ⟨.nil, by simp [entries], by simp [entries], by simp [entries]⟩
  | cons call calls ih =>
    obtain ⟨restored, htransaction, hkept, hinvocations⟩ := transaction_of_error hactive
      (body_of_fingerprint_error (hcalls call List.mem_cons_self))
    have hexecute : execute sha256 call s = (.error failure, ⟨false, restored⟩) := by
      rw [execute, htransaction]
    have hidle : ¬(FlowEntry.mk call s).Invoked sha256 := by
      intro hinvoked
      exact hinvoked (by rw [FlowEntry.after, hexecute]; exact hinvocations)
    have hrest := ih (s := (execute sha256 call s).2)
      (fun other hother => hcalls other (List.mem_cons_of_mem call hother)) (by rw [hexecute])
    refine hrest.cons (fun _ _ _ hreturned => absurd hreturned.1 hidle)
      (fun _ hraises => absurd hraises.1 hidle) (fun _ hraises => absurd hraises.1 hidle)
      fun _ _ _ => ?_
    rw [FlowEntry.after, hexecute]
    exact hkept

theorem exactlyOnce_of_open
    (hcalls : ∀ call ∈ calls, flowIdentity casefold call.request = identity ∧
      FingerprintOf sha256 call fp)
    (hactive : s.active = false) (hopen : Open fp identity s.states)
    (hproper : ∀ entry ∈ entries sha256 calls s, Proper casefold entry.call entry.before.states) :
    ExactlyOnce sha256 identity (entries sha256 calls s) := by
  induction calls generalizing s with
  | nil => exact ⟨.nil, by simp [entries], by simp [entries], by simp [entries]⟩
  | cons call calls ih =>
    obtain ⟨rfl, hfp⟩ := hcalls call List.mem_cons_self
    have hrest : ∀ other ∈ calls, flowIdentity casefold other.request =
        flowIdentity casefold call.request ∧ FingerprintOf sha256 other fp :=
      fun other hother => hcalls other (List.mem_cons_of_mem call hother)
    have hlater : ∀ entry ∈ entries sha256 calls (execute sha256 call s).2,
        Proper casefold entry.call entry.before.states :=
      fun entry hentry => hproper entry (List.mem_cons_of_mem _ hentry)
    have hanswer := execute_of_open hfp hactive (hproper _ List.mem_cons_self) hopen
    cases houtcome : call.outcome with
    | returns output =>
      obtain ⟨result, hresult, houtput, hclosed⟩ := hanswer.returns output houtcome
      refine (exactlyOnce_of_closed hrest hanswer.inactive hclosed).cons ?_ ?_ ?_ ?_
      · intro later hmem other hreturned
        cases houtcome.symm.trans hreturned.2
        obtain ⟨hanswered, hafter, hbefore⟩ :=
          entries_of_closed hrest hanswer.inactive hclosed later hmem
        refine ⟨fun hinvoked => hinvoked (by rw [hafter, hbefore]), result, hresult, houtput,
          hclosed.succeeded, hanswered, ?_⟩
        rw [hafter]
        exact hclosed.execution
      · intro error hraises
        cases houtcome.symm.trans hraises.2
      · intro error hraises
        cases houtcome.symm.trans hraises.2
      · intro failure hfailure
        cases hresult.symm.trans hfailure
    | raises error =>
      by_cases hkind : error.kind = .runtimeOrValueError
      · obtain ⟨hfailed, hstored, hafter⟩ := hanswer.fails error houtcome hkind
        refine (ih hrest hanswer.inactive hafter hlater).cons ?_ ?_ ?_ ?_
        · intro later _ output hreturned
          cases houtcome.symm.trans hreturned.2
        · intro _ _ _
          exact hstored
        · intro other hraises hother
          cases houtcome.symm.trans hraises.2
          exact absurd hkind hother
        · intro failure hfailure hclass
          cases hfailed.symm.trans hfailure
          exact absurd rfl hclass
      · obtain ⟨hpassed, hkept⟩ := hanswer.passes error houtcome hkind
        have hafter : Open fp (flowIdentity casefold call.request)
            (execute sha256 call s).2.states := by
          intro existing hexisting
          rw [hkept.idempotency] at hexisting
          exact hopen existing hexisting
        refine (ih hrest hanswer.inactive hafter hlater).cons ?_ ?_ ?_ ?_
        · intro later _ output hreturned
          cases houtcome.symm.trans hreturned.2
        · intro other hraises hother
          cases houtcome.symm.trans hraises.2
          exact absurd hother hkind
        · intro other hraises _
          cases houtcome.symm.trans hraises.2
          exact hpassed
        · intro _ _ _
          exact hkept

theorem fingerprint_eq_of_sortKeys {payload other : Json.Value}
    (h : payload.sortKeys = other.sortKeys) :
    fingerprint sha256 payload = fingerprint sha256 other := by
  rw [fingerprint, fingerprint, h]

/-- Calls of an unused key with equal requests execute it once, when every failure of the runner
has a message. -/
theorem exactly_once {identity : IdempotencyIdentity} {payload : Json.Value}
    {calls : List (FlowCall casefold)} (hcalls : ∀ call ∈ calls, Repeats identity payload call)
    (hactive : s.active = false) (hunused : (FlowStates.idempotency s.states).find identity = none)
    (hproper : ∀ entry ∈ entries sha256 calls s, Proper casefold entry.call entry.before.states) :
    ExactlyOnce sha256 identity (entries sha256 calls s) := by
  cases calls with
  | nil => exact ⟨.nil, by simp [entries], by simp [entries], by simp [entries]⟩
  | cons call rest =>
    have hsame : ∀ answer, fingerprint sha256 call.request.research.val.toJson = answer →
        ∀ other ∈ call :: rest,
          fingerprint sha256 other.request.research.val.toJson = answer := by
      intro answer hanswer other hother
      rw [← hanswer]
      exact fingerprint_eq_of_sortKeys ((hcalls other hother).payload.trans
        (hcalls call List.mem_cons_self).payload.symm)
    cases hfp : fingerprint sha256 call.request.research.val.toJson with
    | error failure => exact exactlyOnce_of_fingerprint_error (hsame _ hfp) hactive
    | ok fp =>
      refine exactlyOnce_of_open (fun other hother => ⟨(hcalls other hother).identity,
        hsame _ hfp other hother⟩) hactive (fun existing hexisting => ?_) hproper
      rw [hunused] at hexisting
      cases hexisting

end

def sampleResearch : ApplicationResearchExecutionRequest :=
  ⟨{ requestId := "request-001", workspaceId := "workspace-001", agentId := "agent-001",
     query := "query", rootExecutionId := none, parentExecutionId := none,
     previousAttemptExecutionId := none, attemptNumber := ⟨1, Nat.one_pos⟩,
     maximumAttempts := ⟨1, Nat.one_pos⟩, context := [], metadata := [] }, by decide +kernel⟩

def sampleFlowRequest : ApplicationResearchFlowRequest :=
  ⟨"key-001", sampleResearch, [], by decide +kernel⟩

def sampleOutput : ApplicationResearchExecutionOutput asciiCasefold :=
  ⟨"summary", [], [], [], by decide +kernel⟩

def sampleFlowCall (executionId : String) (outcome : RunnerOutcome asciiCasefold) :
    FlowCall asciiCasefold :=
  ⟨sampleFlowRequest, "record-001", executionId, sampleTime, sampleTime, sampleTime, sampleTime,
    sampleTime, outcome⟩

def sampleRuntimeError (message : String) : RunnerOutcome asciiCasefold :=
  .raises ⟨"RuntimeError", message, .runtimeOrValueError, by decide +kernel⟩

def sampleFlowStart : TransactionState (FlowState asciiCasefold) where
  active := false
  states
    | .executions => (.empty : InMemoryApplicationExecutionRepository asciiCasefold)
    | .idempotency => (.empty : InMemoryApplicationIdempotencyRepository asciiCasefold)
    | .runner => ([] : List (RunnerOutcome asciiCasefold))

def sampleFlowCalls : List (FlowCall asciiCasefold) :=
  [sampleFlowCall "execution-001" (sampleRuntimeError "unavailable"),
    sampleFlowCall "execution-002" (.returns sampleOutput)]

instance {call : FlowCall casefold} {states : FlowStates casefold} :
    Decidable (Provided casefold call states) :=
  decidable_of_iff ((isBlank call.executionId = false ∧
      (FlowStates.executions states).get (normalizeId casefold call.executionId) = none ∧
      call.created.isNaive = false ∧ call.started.isNaive = false ∧
      call.finished.isNaive = false) ∧
    isBlank call.recordId = false ∧
    ((FlowStates.idempotency states).find (flowIdentity casefold call.request) = none →
      (FlowStates.idempotency states).records.get (normalizeId casefold call.recordId) = none) ∧
    call.begun.isNaive = false ∧ call.completed.isNaive = false ∧ call.begun ≤ call.completed ∧
    ∀ existing ∈ (FlowStates.idempotency states).find (flowIdentity casefold call.request),
      existing.val.createdAt ≤ call.begun)
    ⟨fun ⟨⟨h₁, h₂, h₃, h₄, h₅⟩, h₆, h₇, h₈, h₉, h₁₀, h₁₁⟩ =>
      ⟨⟨h₁, h₂, h₃, h₄, h₅⟩, h₆, h₇, h₈, h₉, h₁₀, h₁₁⟩,
    fun h => ⟨⟨h.supplied.executionId, h.supplied.fresh, h.supplied.created, h.supplied.started,
      h.supplied.finished⟩, h.recordId, h.fresh, h.begun, h.completed, h.le, h.later⟩⟩

theorem provided_sample : ∀ entry ∈ entries hashlibSha256 sampleFlowCalls sampleFlowStart,
    Provided asciiCasefold entry.call entry.before.states := by
  decide +kernel

theorem exactly_once_sample :
    ExactlyOnce hashlibSha256 (flowIdentity asciiCasefold sampleFlowRequest)
      (entries hashlibSha256 sampleFlowCalls sampleFlowStart) := by
  have hrepeats : ∀ call ∈ sampleFlowCalls, Repeats (flowIdentity asciiCasefold sampleFlowRequest)
      sampleResearch.val.toJson.sortKeys call := by
    intro call hcall
    simp only [sampleFlowCalls, List.mem_cons, List.not_mem_nil, or_false] at hcall
    rcases hcall with rfl | rfl <;> exact ⟨rfl, rfl⟩
  refine exactly_once hrepeats rfl rfl fun entry hentry => ⟨provided_sample entry hentry, ?_⟩
  intro error herror _
  simp only [sampleFlowCalls, entries, List.mem_cons, List.not_mem_nil, or_false] at hentry
  rcases hentry with rfl | rfl
  · cases herror
    decide +kernel
  · cases herror

def silentFailure : FlowCall asciiCasefold :=
  sampleFlowCall "execution-001" (sampleRuntimeError "")

example : (FlowStates.invocations
    ((FlowEntry.mk silentFailure sampleFlowStart).after hashlibSha256)).length = 1 := by
  decide +kernel

/-- A failure without a message is rolled back: its records are not stored. -/
theorem silent_failure_rolled_back :
    ¬(∀ (calls : List (FlowCall asciiCasefold)) (s : TransactionState (FlowState asciiCasefold))
      (identity : IdempotencyIdentity) (payload : Json.Value),
      (∀ call ∈ calls, Repeats identity payload call) → s.active = false →
      (FlowStates.idempotency s.states).find identity = none →
      (∀ entry ∈ entries hashlibSha256 calls s,
        Provided asciiCasefold entry.call entry.before.states) →
      ExactlyOnce hashlibSha256 identity (entries hashlibSha256 calls s)) := by
  intro h
  have honce := h [silentFailure] sampleFlowStart (flowIdentity asciiCasefold sampleFlowRequest)
    sampleResearch.val.toJson.sortKeys (List.forall_mem_singleton.mpr ⟨rfl, rfl⟩) rfl rfl
    (by decide +kernel)
  obtain ⟨hlength, hnone⟩ :
      (FlowStates.invocations ((FlowEntry.mk silentFailure sampleFlowStart).after
        hashlibSha256)).length ≠ (FlowStates.invocations sampleFlowStart.states).length ∧
      ((FlowStates.idempotency ((FlowEntry.mk silentFailure sampleFlowStart).after
        hashlibSha256)).find (flowIdentity asciiCasefold sampleFlowRequest)).isNone = true := by
    decide +kernel
  obtain ⟨record, hrecord, _⟩ := (honce.failed _ List.mem_cons_self _
    ⟨fun hsame => hlength (congrArg List.length hsame), rfl⟩ rfl).record
  rw [hrecord] at hnone
  cases hnone

end ApplicationResearchFlowService

end AgenticLab
