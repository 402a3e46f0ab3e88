import AgenticLab.Verification.Application.Methods

/-! # Service calls that interleave

What a call may store, given the jobs it has read. Calls interleave at the granularity of single
repository operations, and a job that was read is still stored in that version or in a later one. -/

namespace AgenticLab

open ApplicationJobQueueService ApplicationCancellationService ApplicationJobStatus
open RepositoryOperation (handle)

variable {casefold : Casefold}

/-- What a reply shows of the stored jobs. -/
inductive Sighting where
  | read (record : ApplicationJobRecord)
  | wrote (record : ApplicationJobRecord)

namespace Sighting

def record : Sighting → ApplicationJobRecord
  | read record => record
  | wrote record => record

def shownBy : (op : RepositoryOperation) → op.Reply → List Sighting
  | .getJob _, reply => reply.toList.map read
  | .listJobs _, page => page.items.map read
  | .findAvailable _ _ _, .ok records => records.map read
  | .updateJob _ _, .ok record => [wrote record]
  | _, _ => []

end Sighting

open Sighting

variable (casefold) in
def IsReply : (op : RepositoryOperation) → op.Reply → Prop
  | .getJob jobId, reply =>
    ∀ record ∈ reply, ApplicationJobRecord.key casefold record = normalizeId casefold jobId
  | .listJobs query, page => ∀ record ∈ page.items, query.keeps casefold record = true
  | .updateJob copy _, reply => ∀ record, reply = .ok record → record = copy
  | _, _ => True

variable (casefold) in
def jobInterface : Program.Interface RepositoryOperation.Reply Sighting :=
  ⟨shownBy, IsReply casefold⟩

namespace ServiceCall

variable (casefold) in
def Updates (stored copy : ApplicationJobRecord) : ServiceCall → Prop
  | enqueue _ now => stored.availableForQueueAt now = true ∧ copy = enqueuedJob stored now
  | enqueueDueJobs now _ _ => stored.availableForQueueAt now = true ∧ copy = enqueuedJob stored now
  | acquire _ workerId now _ leaseId => stored.status = .queued ∧
      ∃ lease : ApplicationJobLease, lease.leaseId = leaseId ∧ lease.workerId = workerId ∧
        lease.acquiredAt = now ∧ copy = leasedJob stored lease
  | start jobId workerId now => stored.key casefold = normalizeId casefold jobId ∧
      stored.status = .leased ∧ (∃ lease, HoldsLease casefold stored workerId now lease) ∧
        copy = startedJob stored now
  | release jobId workerId now => stored.key casefold = normalizeId casefold jobId ∧
      stored.status = .leased ∧ (∃ lease, HoldsLease casefold stored workerId now lease) ∧
        copy = requeuedJob stored
  | renewLease jobId workerId now _ => stored.key casefold = normalizeId casefold jobId ∧
      ∃ lease renewed, HoldsLease casefold stored workerId now lease ∧
        renewed.leaseId = lease.leaseId ∧ renewed.workerId = lease.workerId ∧
          renewed.acquiredAt = lease.acquiredAt ∧ copy = renewedJob stored renewed
  | recoverExpiredLeases now _ _ => stored.status = .leased ∧
      (∃ lease, stored.lease = some lease ∧ lease.activeAt now = false) ∧ copy = requeuedJob stored
  | schedule _ _ _ _ _ _ => False
  | request _ _ _ _ _ _ => ∃ cancellation, copy = cancellationRequestedJob stored cancellation
  | acknowledge _ _ _ => False
  | complete _ _ now => stored.status = .cancellationRequested ∧ copy = cancelledJob stored now

theorem Updates.key {call : ServiceCall} {stored copy : ApplicationJobRecord}
    (h : call.Updates casefold stored copy) : copy.key casefold = stored.key casefold := by
  cases call with
  | enqueue jobId now => rw [h.2]; rfl
  | enqueueDueJobs now queueName limit => rw [h.2]; rfl
  | acquire queueName workerId now leaseDurationSeconds leaseId =>
    obtain ⟨_, lease, _, _, _, rfl⟩ := h
    rfl
  | start jobId workerId now => rw [h.2.2.2]; rfl
  | release jobId workerId now => rw [h.2.2.2]; rfl
  | renewLease jobId workerId now leaseDurationSeconds =>
    obtain ⟨_, lease, renewed, _, _, _, _, rfl⟩ := h
    rfl
  | recoverExpiredLeases now queueName limit => rw [h.2.2]; rfl
  | schedule sourceJobId attemptNumber now evaluated jobId schedulingId => exact h.elim
  | request jobId requestedBy reason now force cancellationId =>
    obtain ⟨cancellation, rfl⟩ := h
    rfl
  | acknowledge cancellationRequestId acknowledgedBy now => exact h.elim
  | complete cancellationRequestId completedBy now => rw [h.2]; rfl

variable (casefold) in
def MayPerform (call : ServiceCall) (seen : List Sighting) : RepositoryOperation → Prop
  | .updateJob copy expectedVersion => ∃ stored, read stored ∈ seen ∧
      expectedVersion = stored.recordVersion.val ∧ call.Updates casefold stored copy
  | _ => True

/-- What a call has done when it returns: those that need a lease have updated its job. -/
def Done (seen : List Sighting) : ServiceCall → Prop
  | start _ _ _ => ∃ copy, wrote copy ∈ seen
  | release _ _ _ => ∃ copy, wrote copy ∈ seen
  | renewLease _ _ _ _ => ∃ copy, wrote copy ∈ seen
  | _ => True

/-! ## Rules for the operations -/

variable (casefold) in
abbrev Obeys {α : Type} (call : ServiceCall) (p : ServiceProgram α)
    (post : α → List Sighting → Prop) (seen : List Sighting) : Prop :=
  p.Respects (jobInterface casefold) (call.MayPerform casefold) post seen

namespace Obeys

variable {α β : Type} {call : ServiceCall} {seen : List Sighting} {post : α → List Sighting → Prop}

theorem lift {x : Except Raised β} {f : β → ServiceProgram α}
    (h : ∀ b, x = .ok b → call.Obeys casefold (f b) post seen) :
    call.Obeys casefold ((liftM x : ServiceProgram β) >>= f) post seen :=
  Program.Respects.bind (Program.Respects.lift h)

theorem check {condition : Prop} [Decidable condition] {failure : Raised}
    {f : Unit → ServiceProgram α} (h : ¬condition → call.Obeys casefold (f ()) post seen) :
    call.Obeys casefold ((liftM (raiseIf condition failure) : ServiceProgram Unit) >>= f) post
      seen :=
  lift fun _ hcheck => h (raiseIf_eq_ok.mp hcheck)

variable {f : ApplicationJobRecord → ServiceProgram α}

theorem require {jobId : String}
    (h : ∀ stored, stored.key casefold = normalizeId casefold jobId →
      call.Obeys casefold (f stored) post (seen ++ [read stored])) :
    call.Obeys casefold (ApplicationJobRepository.require jobId >>= f) post seen := by
  refine .call trivial ?_
  intro reply hreply
  cases reply with
  | none => exact .error
  | some stored => exact h stored (hreply stored rfl)

theorem list {query : ApplicationJobQuery} {f : ApplicationJobPage → ServiceProgram α}
    (h : ∀ page, (∀ record ∈ page.items, query.keeps casefold record = true) →
      call.Obeys casefold (f page) post (seen ++ page.items.map read)) :
    call.Obeys casefold (ApplicationJobRepository.list casefold query >>= f) post seen := by
  refine Program.Respects.bind (Program.Respects.bind (Program.Respects.lift ?_))
  intro _ _
  exact .call trivial fun page hpage => .ok (h page hpage)

theorem findAvailable {queueName : String} {now : Datetime} {limit : ℕ}
    {f : List ApplicationJobRecord → ServiceProgram α}
    (h : ∀ records, call.Obeys casefold (f records) post (seen ++ records.map read)) :
    call.Obeys casefold (ApplicationJobRepository.findAvailable queueName now limit >>= f) post
      seen := by
  refine .call trivial ?_
  intro reply _
  cases reply with
  | error failure => exact .error
  | ok records => exact h records

theorem update {stored copy : ApplicationJobRecord}
    {post : ApplicationJobRecord → List Sighting → Prop} (hread : read stored ∈ seen)
    (hupdates : call.Updates casefold stored copy) (h : post copy (seen ++ [wrote copy])) :
    call.Obeys casefold (ApplicationJobRepository.update copy stored.recordVersion.val) post
      seen := by
  refine .call ⟨stored, hread, rfl, hupdates⟩ ?_
  intro reply hreply
  cases reply with
  | error failure => exact .error
  | ok record =>
    obtain rfl : record = copy := hreply record rfl
    exact .ok h

theorem unseen {op : RepositoryOperation} {next : op.Reply → ServiceProgram α}
    (hallowed : call.MayPerform casefold seen op) (hshown : ∀ reply, shownBy op reply = [])
    (h : ∀ reply, call.Obeys casefold (next reply) post seen) :
    call.Obeys casefold (.call op next) post seen := by
  refine .call hallowed ?_
  intro reply _
  change Program.Respects _ _ _ _ (seen ++ shownBy op reply)
  rw [hshown, List.append_nil]
  exact h reply

theorem create {record : ApplicationJobRecord}
    (h : ∀ created, call.Obeys casefold (f created) post seen) :
    call.Obeys casefold (ApplicationJobRepository.create record >>= f) post seen := by
  refine unseen ?_ (fun _ => rfl) ?_
  · trivial
  intro reply
  cases reply with
  | error failure => exact .error
  | ok created => exact h created

variable {f : ApplicationJobCancellationRequestRecord → ServiceProgram α}

theorem requireCancellation {cancellationRequestId : String}
    (h : ∀ stored, call.Obeys casefold (f stored) post seen) :
    call.Obeys casefold (ApplicationCancellationRepository.require cancellationRequestId >>= f)
      post seen := by
  refine unseen ?_ (fun _ => rfl) ?_
  · trivial
  intro reply
  cases reply with
  | none => exact .error
  | some stored => exact h stored

variable {record : ApplicationJobCancellationRequestRecord}

theorem createCancellation (h : ∀ created, call.Obeys casefold (f created) post seen) :
    call.Obeys casefold (ApplicationCancellationRepository.create record >>= f) post seen := by
  refine unseen ?_ (fun _ => rfl) ?_
  · trivial
  intro reply
  cases reply with
  | error failure => exact .error
  | ok created => exact h created

theorem updateCancellation {version : ℕ}
    (h : ∀ updated, call.Obeys casefold (f updated) post seen) :
    call.Obeys casefold (ApplicationCancellationRepository.update record version >>= f) post
      seen := by
  refine unseen ?_ (fun _ => rfl) ?_
  · trivial
  intro reply
  cases reply with
  | error failure => exact .error
  | ok updated => exact h updated

theorem findActive {jobId : String}
    {f : Option ApplicationJobCancellationRequestRecord → ServiceProgram α}
    (h : ∀ active, call.Obeys casefold (f active) post seen) :
    call.Obeys casefold (ApplicationCancellationRepository.findActiveByJobId jobId >>= f) post
      seen := by
  refine unseen ?_ (fun _ => rfl) ?_
  · trivial
  intro reply
  exact h _

end Obeys

/-! ## Every method -/

variable {call : ServiceCall} {seen : List Sighting} {now : Datetime}

theorem enqueue_obeys {jobId : String}
    {post : ApplicationJobRecord → List Sighting → Prop}
    (hupdates : ∀ stored : ApplicationJobRecord, stored.availableForQueueAt now = true →
      call.Updates casefold stored (enqueuedJob stored now))
    (h : ∀ copy later, post copy later) :
    call.Obeys casefold (ApplicationJobQueueService.enqueue jobId now) post seen := by
  apply Obeys.check
  intro _
  apply Obeys.require
  intro stored _
  apply Obeys.check
  intro havailable
  apply Obeys.check
  intro _
  apply Obeys.update (List.mem_append_right _ (List.mem_singleton.mpr rfl)) ?_ ?_
  · exact hupdates stored (by simpa using havailable)
  · exact h _ _

variable {records : List ApplicationJobRecord}

theorem enqueueAll_obeys
    (hupdates : ∀ stored : ApplicationJobRecord, stored.availableForQueueAt now = true →
      call.Updates casefold stored (enqueuedJob stored now)) :
    call.Obeys casefold (enqueueAll now records) (fun _ _ => True) seen := by
  induction records generalizing seen with
  | nil => exact .ok trivial
  | cons record rest ih =>
    refine Program.Respects.bind (enqueue_obeys hupdates ?_)
    intro _ later
    exact Program.Respects.bind (ih.mono fun _ _ _ => .ok trivial)

variable {queueName : Option String} {limit : ℕ}

theorem enqueueDueJobs_obeys :
    (enqueueDueJobs now queueName limit).Obeys casefold
      (ApplicationJobQueueService.enqueueDueJobs casefold now queueName limit)
      (fun _ _ => True) seen := by
  apply Obeys.check
  intro _
  apply Obeys.check
  intro _
  apply Obeys.check
  intro _
  apply Obeys.list
  intro page _
  exact enqueueAll_obeys fun _ havailable => ⟨havailable, rfl⟩

variable {leaseDurationSeconds : ℚ}

theorem acquire_obeys {queueName workerId : String} {leaseId : String} :
    (acquire queueName workerId now leaseDurationSeconds leaseId).Obeys casefold
      (ApplicationJobQueueService.acquire queueName workerId now leaseDurationSeconds leaseId)
      (fun _ _ => True) seen := by
  apply Obeys.check
  intro _
  apply Obeys.check
  intro _
  apply Obeys.check
  intro _
  apply Obeys.findAvailable
  intro records
  cases hqueued : records.filter fun record => record.status == .queued with
  | nil => exact .ok trivial
  | cons stored rest =>
    obtain ⟨hmem, hstatus⟩ := List.mem_filter.mp (hqueued ▸ List.mem_cons_self (a := stored))
    apply Obeys.check
    intro _
    apply Obeys.lift
    intro id hid
    apply Obeys.lift
    intro expiresAt _
    apply Obeys.lift
    intro lease hlease
    obtain ⟨_, hid⟩ := raiseIf_bind_eq_ok.mp hid
    obtain rfl := Except.ok.inj hid
    obtain ⟨hleaseId, hworker, hacquired, _⟩ := newLease_fields hlease
    refine Program.Respects.bind (Obeys.update
      (List.mem_append_right _ (List.mem_map_of_mem hmem)) ?_ ?_)
    · exact ⟨by simpa using hstatus, lease, hleaseId, hworker, hacquired, rfl⟩
    · exact .ok trivial

variable {jobId workerId : String}

theorem start_obeys :
    (start jobId workerId now).Obeys casefold
      (ApplicationJobQueueService.start casefold jobId workerId now)
      (fun _ later => (start jobId workerId now).Done later) seen := by
  apply Obeys.check
  intro _
  apply Obeys.require
  intro stored hkey
  apply Obeys.lift
  intro lease hlease
  apply Obeys.check
  intro htransition
  have hstatus : stored.status = .leased := by
    revert htransition
    cases stored.status <;> decide
  apply Obeys.update (List.mem_append_right _ (List.mem_singleton.mpr rfl)) ?_ ?_
  · exact ⟨hkey, hstatus, ⟨lease, requireActiveLease_eq_ok.mp hlease⟩, rfl⟩
  · exact ⟨_, List.mem_append_right _ (List.mem_singleton.mpr rfl)⟩

theorem release_obeys :
    (release jobId workerId now).Obeys casefold
      (ApplicationJobQueueService.release casefold jobId workerId now)
      (fun _ later => (release jobId workerId now).Done later) seen := by
  apply Obeys.check
  intro _
  apply Obeys.require
  intro stored hkey
  apply Obeys.lift
  intro lease hlease
  apply Obeys.check
  intro hstatus
  apply Obeys.check
  intro _
  apply Obeys.update (List.mem_append_right _ (List.mem_singleton.mpr rfl)) ?_ ?_
  · exact ⟨hkey, not_not.mp hstatus, ⟨lease, requireActiveLease_eq_ok.mp hlease⟩, rfl⟩
  · exact ⟨_, List.mem_append_right _ (List.mem_singleton.mpr rfl)⟩

theorem renewLease_obeys :
    (renewLease jobId workerId now leaseDurationSeconds).Obeys casefold
      (ApplicationJobQueueService.renewLease casefold jobId workerId now leaseDurationSeconds)
      (fun _ later => (renewLease jobId workerId now leaseDurationSeconds).Done later) seen := by
  apply Obeys.check
  intro _
  apply Obeys.check
  intro _
  apply Obeys.require
  intro stored hkey
  apply Obeys.lift
  intro lease hlease
  apply Obeys.lift
  intro expiresAt _
  apply Obeys.lift
  intro renewed hrenewed
  obtain ⟨hleaseId, hworker, hacquired, _⟩ := newLease_fields hrenewed
  apply Obeys.update (List.mem_append_right _ (List.mem_singleton.mpr rfl)) ?_ ?_
  · exact ⟨hkey, lease, renewed, requireActiveLease_eq_ok.mp hlease, hleaseId, hworker, hacquired,
      rfl⟩
  · exact ⟨_, List.mem_append_right _ (List.mem_singleton.mpr rfl)⟩

theorem recoverAll_obeys
    (hread : ∀ record ∈ records, read record ∈ seen ∧ record.status = .leased) :
    (recoverExpiredLeases now queueName limit).Obeys casefold (recoverAll now records)
      (fun _ _ => True) seen := by
  induction records generalizing seen with
  | nil => exact .ok trivial
  | cons stored rest ih =>
    obtain ⟨hstored, hstatus⟩ := hread stored List.mem_cons_self
    have hrest : ∀ record ∈ rest, read record ∈ seen ∧ record.status = .leased :=
      fun record hrecord => hread record (List.mem_cons_of_mem _ hrecord)
    rw [recoverAll]
    split_ifs with hactive
    · exact ih hrest
    have hexpired : ∃ lease, stored.lease = some lease ∧ lease.activeAt now = false := by
      cases hlease : stored.lease with
      | none => exact absurd (by rw [hlease]; rfl) hactive
      | some lease =>
        rw [hlease] at hactive
        exact ⟨lease, rfl, by simpa using hactive⟩
    apply Obeys.check
    intro _
    refine Program.Respects.bind (Obeys.update hstored ⟨hstatus, hexpired, rfl⟩ ?_)
    refine Program.Respects.bind (Program.Respects.mono (ih ?_) ?_)
    rotate_left
    · exact fun _ _ _ => .ok trivial
    · intro record hrecord
      exact ⟨List.mem_append_left _ (hrest record hrecord).1, (hrest record hrecord).2⟩

theorem recoverExpiredLeases_obeys :
    (recoverExpiredLeases now queueName limit).Obeys casefold
      (ApplicationJobQueueService.recoverExpiredLeases casefold now queueName limit)
      (fun _ _ => True) seen := by
  apply Obeys.check
  intro _
  apply Obeys.check
  intro _
  apply Obeys.list
  intro page hpage
  apply recoverAll_obeys
  intro record hrecord
  have hitem := List.mem_of_mem_take hrecord
  exact ⟨List.mem_append_right _ (List.mem_map_of_mem hitem),
    status_of_leasedJobsQuery (hpage record hitem)⟩

theorem schedule_obeys {sourceJobId : String} {attemptNumber : PositiveInt}
    {evaluated : Except Raised RetryDecision} {jobId schedulingId : String} :
    call.Obeys casefold
      (ApplicationRetrySchedulingService.schedule casefold sourceJobId attemptNumber now evaluated
        jobId schedulingId) (fun _ _ => True) seen := by
  apply Obeys.check
  intro _
  apply Obeys.require
  intro source _
  apply Obeys.lift
  intro _ _
  refine Program.Respects.bind (Obeys.list ?_)
  intro page _
  refine Program.Respects.lift ?_
  intro _ _
  apply Obeys.lift
  intro decision _
  split_ifs
  · apply Obeys.lift
    intro id _
    exact Program.Respects.lift fun _ _ => trivial
  split
  · apply Obeys.check
    intro _
    apply Obeys.lift
    intro newJobId _
    apply Obeys.lift
    intro availableAt _
    apply Obeys.lift
    intro scheduled _
    apply Obeys.create
    intro persisted
    apply Obeys.lift
    intro id _
    exact Program.Respects.lift fun _ _ => trivial
  · exact .error

theorem request_obeys {jobId requestedBy reason : String} {force : Bool} {cancellationId : String} :
    (request jobId requestedBy reason now force cancellationId).Obeys casefold
      (ApplicationCancellationService.request jobId requestedBy reason now force cancellationId)
      (fun _ _ => True) seen := by
  apply Obeys.check
  intro _
  apply Obeys.check
  intro _
  apply Obeys.check
  intro _
  apply Obeys.require
  intro job _
  apply Obeys.check
  intro _
  apply Obeys.findActive
  intro active
  apply Obeys.check
  intro _
  apply Obeys.check
  intro _
  apply Obeys.lift
  intro id _
  apply Obeys.lift
  intro record _
  apply Obeys.createCancellation
  intro persisted
  apply Obeys.lift
  intro cancellation _
  apply Obeys.lift
  intro updatedJob hupdated
  obtain ⟨_, rfl⟩ := modelValidate_eq_ok.mp hupdated
  refine Program.Respects.bind (Obeys.update
    (List.mem_append_right _ (List.mem_singleton.mpr rfl)) ?_ ?_)
  · exact ⟨cancellation, rfl⟩
  · exact .ok trivial

theorem acknowledge_obeys {cancellationRequestId acknowledgedBy : String} :
    call.Obeys casefold
      (ApplicationCancellationService.acknowledge cancellationRequestId acknowledgedBy now)
      (fun _ _ => True) seen := by
  apply Obeys.check
  intro _
  apply Obeys.check
  intro _
  apply Obeys.requireCancellation
  intro stored
  apply Obeys.check
  intro _
  apply Obeys.lift
  intro updated _
  rw [← Program.bind_pure (ApplicationCancellationRepository.update _ _)]
  apply Obeys.updateCancellation
  exact fun _ => .ok trivial

theorem complete_obeys {cancellationRequestId completedBy : String} :
    (complete cancellationRequestId completedBy now).Obeys casefold
      (ApplicationCancellationService.complete cancellationRequestId completedBy now)
      (fun _ _ => True) seen := by
  apply Obeys.check
  intro _
  apply Obeys.check
  intro _
  apply Obeys.requireCancellation
  intro stored
  apply Obeys.check
  intro _
  apply Obeys.require
  intro job _
  apply Obeys.check
  intro hstatus
  apply Obeys.check
  intro _
  apply Obeys.lift
  intro updatedRequest _
  apply Obeys.updateCancellation
  intro persisted
  apply Obeys.lift
  intro updatedJob hupdated
  obtain ⟨_, rfl⟩ := modelValidate_eq_ok.mp hupdated
  refine Program.Respects.bind (Obeys.update
    (List.mem_append_right _ (List.mem_singleton.mpr rfl)) ?_ ?_)
  · exact ⟨not_not.mp hstatus, rfl⟩
  · exact .ok trivial

theorem Obeys.drop {α : Type} {p : ServiceProgram α}
    (h : call.Obeys casefold p (fun _ later => call.Done later) seen) :
    call.Obeys casefold (p >>= fun _ => pure () : ServiceProgram Unit)
      (fun _ later => call.Done later) seen :=
  Program.Respects.bind (h.mono fun _ _ hdone => .ok hdone)

theorem program_obeys (call : ServiceCall) :
    call.Obeys casefold (call.program casefold) (fun _ later => call.Done later) [] := by
  cases call with
  | enqueue jobId now =>
    exact Obeys.drop (enqueue_obeys (fun _ havailable => ⟨havailable, rfl⟩) fun _ _ => trivial)
  | enqueueDueJobs now queueName limit => exact Obeys.drop enqueueDueJobs_obeys
  | acquire queueName workerId now leaseDurationSeconds leaseId =>
    exact Obeys.drop acquire_obeys
  | start jobId workerId now => exact Obeys.drop start_obeys
  | release jobId workerId now => exact Obeys.drop release_obeys
  | renewLease jobId workerId now leaseDurationSeconds =>
    exact Obeys.drop renewLease_obeys
  | recoverExpiredLeases now queueName limit =>
    exact Obeys.drop recoverExpiredLeases_obeys
  | schedule sourceJobId attemptNumber now evaluated jobId schedulingId =>
    exact Obeys.drop schedule_obeys
  | request jobId requestedBy reason now force cancellationId =>
    exact Obeys.drop request_obeys
  | acknowledge cancellationRequestId acknowledgedBy now =>
    exact Obeys.drop acknowledge_obeys
  | complete cancellationRequestId completedBy now => exact Obeys.drop complete_obeys

end ServiceCall

/-- The version that `update` checks. -/
def jobVersion (job : ApplicationJobRecord) : ℕ := job.recordVersion.val

def StillStored (s : ApplicationRepositories casefold) (sighting : Sighting) : Prop :=
  s.jobs.IsCopy jobVersion sighting.record

theorem isReply_handle (op : RepositoryOperation) (s : ApplicationRepositories casefold) :
    IsReply casefold op (handle op s).1 := by
  cases op with
  | getJob jobId =>
    intro record hrecord
    exact KeyedStore.key_of_get (Option.mem_def.mp hrecord)
  | listJobs query =>
    exact fun record hrecord => (InMemoryApplicationJobRepository.mem_list hrecord).2
  | updateJob copy expectedVersion =>
    intro record hrecord
    rcases InMemoryApplicationJobRepository.update_cases s.jobs copy expectedVersion with
      ⟨_, _, _, _, hupdate⟩ | ⟨failure, hupdate⟩
    · rw [show (handle (.updateJob copy expectedVersion) s).1 = .ok copy from
        congrArg Prod.fst hupdate] at hrecord
      exact (Except.ok.inj hrecord).symm
    · rw [show (handle (.updateJob copy expectedVersion) s).1 = .error failure from
        congrArg Prod.fst hupdate] at hrecord
      cases hrecord
  | createJob record => trivial
  | findAvailable queueName now limit => trivial
  | getCancellation cancellationRequestId => trivial
  | createCancellation record => trivial
  | updateCancellation record expectedVersion => trivial
  | findByJobId jobId => trivial

theorem stillStored_handle (op : RepositoryOperation) {s : ApplicationRepositories casefold}
    {sighting : Sighting} (h : StillStored s sighting) : StillStored (handle op s).2 sighting := by
  cases op with
  | createJob record =>
    rcases Option.eq_none_or_eq_some (s.jobs.get (record.key casefold)) with
      hnone | ⟨stored, hget⟩
    · have hcreate := InMemoryApplicationJobRepository.create_of_none hnone
      unfold StillStored
      rw [show (handle (.createJob record) s).2.jobs = s.jobs.insert record hnone from
        congrArg Prod.snd hcreate]
      exact h.insert hnone
    · have hcreate := InMemoryApplicationJobRepository.create_of_some hget
      unfold StillStored
      rw [show (handle (.createJob record) s).2.jobs = s.jobs from congrArg Prod.snd hcreate]
      exact h
  | updateJob copy expectedVersion =>
    unfold StillStored
    rcases InMemoryApplicationJobRepository.update_cases s.jobs copy expectedVersion with
      ⟨stored, hget, hstored, hnext, hupdate⟩ | ⟨failure, hupdate⟩
    · rw [show (handle (.updateJob copy expectedVersion) s).2.jobs = s.jobs.replace copy from
        congrArg Prod.snd hupdate]
      apply h.replace hget
      unfold jobVersion
      omega
    · rw [show (handle (.updateJob copy expectedVersion) s).2.jobs = s.jobs from
        congrArg Prod.snd hupdate]
      exact h
  | getJob jobId => exact h
  | listJobs query => exact h
  | findAvailable queueName now limit => exact h
  | getCancellation cancellationRequestId => exact h
  | createCancellation record => exact h
  | updateCancellation record expectedVersion => exact h
  | findByJobId jobId => exact h

theorem stillStored_of_shown (op : RepositoryOperation) (s : ApplicationRepositories casefold) :
    ∀ sighting ∈ shownBy op (handle op s).1, StillStored (handle op s).2 sighting := by
  intro sighting hsighting
  cases op with
  | getJob jobId =>
    obtain ⟨record, hrecord, rfl⟩ := List.mem_map.mp hsighting
    have hget : s.jobs.getById jobId = some record := Option.mem_toList.mp hrecord
    exact KeyedStore.isCopy_of_mem (KeyedStore.get_eq_some.mp hget).1
  | listJobs query =>
    obtain ⟨record, hrecord, rfl⟩ := List.mem_map.mp hsighting
    exact KeyedStore.isCopy_of_mem (InMemoryApplicationJobRepository.mem_list hrecord).1
  | findAvailable queueName now limit =>
    cases hfind : InMemoryApplicationJobRepository.findAvailable s.jobs queueName now limit with
    | error failure =>
      rw [show (handle (.findAvailable queueName now limit) s).1 = .error failure from
        hfind] at hsighting
      cases hsighting
    | ok records =>
      rw [show (handle (.findAvailable queueName now limit) s).1 = .ok records from
        hfind] at hsighting
      obtain ⟨record, hrecord, rfl⟩ := List.mem_map.mp hsighting
      exact KeyedStore.isCopy_of_mem
        (InMemoryApplicationJobRepository.mem_findAvailable hfind hrecord)
  | updateJob copy expectedVersion =>
    rcases InMemoryApplicationJobRepository.update_cases s.jobs copy expectedVersion with
      ⟨stored, hget, _, _, hupdate⟩ | ⟨failure, hupdate⟩
    · rw [show (handle (.updateJob copy expectedVersion) s).1 = .ok copy from
        congrArg Prod.fst hupdate] at hsighting
      obtain rfl := List.mem_singleton.mp hsighting
      unfold StillStored
      rw [show (handle (.updateJob copy expectedVersion) s).2.jobs = s.jobs.replace copy from
        congrArg Prod.snd hupdate]
      apply KeyedStore.isCopy_of_mem
      exact (KeyedStore.mem_replace_iff (hget ▸ Option.some_ne_none stored)).mpr (.inl rfl)
    · rw [show (handle (.updateJob copy expectedVersion) s).1 = .error failure from
        congrArg Prod.fst hupdate] at hsighting
      cases hsighting
  | createJob record => cases hsighting
  | getCancellation cancellationRequestId => cases hsighting
  | createCancellation record => cases hsighting
  | updateCancellation record expectedVersion => cases hsighting
  | findByJobId jobId => cases hsighting

variable (casefold) in
theorem services_sound :
    Interleaving.Sound (@handle casefold) (jobInterface casefold)
      (ServiceCall.program casefold) (ServiceCall.MayPerform casefold)
      (fun call seen => call.Done seen) StillStored where
  possible := isReply_handle
  program := ServiceCall.program_obeys
  stable _ _ op _ _ _ _ h := stillStored_handle op h
  fresh := stillStored_of_shown

end AgenticLab
