import AgenticLab.Verification.Application.Interleavings
import AgenticLab.Verification.Application.JobRecord

/-! # Exclusive leases

Any number of callers whose calls interleave: an update overwrites the version its call has read,
and a job that was acquired is not acquired again before its lease was released or recovered. -/

namespace AgenticLab

open ApplicationJobQueueService ApplicationCancellationService ApplicationJobStatus
open RepositoryOperation (handle)
open Sighting

variable {casefold : Casefold}

abbrev ServiceEvent (casefold : Casefold) :=
  Interleaving.Event RepositoryOperation ServiceCall (ApplicationRepositories casefold) Sighting

abbrev ServiceSystem (casefold : Casefold) (ι : Type) :=
  Interleaving.System RepositoryOperation RepositoryOperation.Reply ServiceCall Raised
    (ApplicationRepositories casefold) Sighting ι

def ServiceSystem.step {ι : Type} [DecidableEq ι] (s : ServiceSystem casefold ι)
    (action : Interleaving.Action ι ServiceCall) : ServiceSystem casefold ι :=
  Interleaving.System.step handle (jobInterface casefold) (ServiceCall.program casefold) s action

namespace ServiceEvent

def Writes (event : ServiceEvent casefold) (copy : ApplicationJobRecord) : Prop :=
  wrote copy ∈ Interleaving.Event.shown handle (jobInterface casefold) event

abbrev after (event : ServiceEvent casefold) : ApplicationRepositories casefold :=
  Interleaving.Event.after handle event

abbrev Lawful (event : ServiceEvent casefold) : Prop :=
  Interleaving.Event.Lawful (ServiceCall.MayPerform casefold) StillStored event

structure Overwrites (event : ServiceEvent casefold) (stored copy : ApplicationJobRecord) :
    Prop where
  seen : read stored ∈ event.seen
  get_before : event.before.jobs.get (copy.key casefold) = some stored
  version : copy.recordVersion.val = stored.recordVersion.val + 1
  jobs_after : event.after.jobs = event.before.jobs.replace copy
  updates : event.call.Updates casefold stored copy

variable {event : ServiceEvent casefold} {copy : ApplicationJobRecord}

theorem Writes.cases (h : event.Writes copy) :
    ∃ stored, event.op = .updateJob copy stored.recordVersion.val ∧
      event.before.jobs.get (copy.key casefold) = some stored ∧
        copy.recordVersion.val = stored.recordVersion.val + 1 ∧
          event.after.jobs = event.before.jobs.replace copy := by
  obtain ⟨call, op, seen, before⟩ := event
  cases op with
  | updateJob record expectedVersion =>
    change wrote copy ∈ shownBy (.updateJob record expectedVersion)
      (handle (.updateJob record expectedVersion) before).1 at h
    rcases InMemoryApplicationJobRepository.update_cases before.jobs record expectedVersion with
      ⟨stored, hget, rfl, hnext, hupdate⟩ | ⟨failure, hupdate⟩
    · rw [show (handle (.updateJob record stored.recordVersion.val) before).1 = .ok record from
        congrArg Prod.fst hupdate] at h
      obtain rfl : copy = record := wrote.inj (List.mem_singleton.mp h)
      exact ⟨stored, rfl, hget, hnext, congrArg Prod.snd hupdate⟩
    · rw [show (handle (.updateJob record expectedVersion) before).1 = .error failure from
        congrArg Prod.fst hupdate] at h
      cases h
  | getJob jobId =>
    obtain ⟨record, _, hrecord⟩ := List.mem_map.mp h
    cases hrecord
  | listJobs query =>
    obtain ⟨record, _, hrecord⟩ := List.mem_map.mp h
    cases hrecord
  | findAvailable queueName now limit =>
    have hread : ∀ reply, wrote copy ∉ shownBy (.findAvailable queueName now limit) reply := by
      intro reply hreply
      cases reply with
      | error failure => cases hreply
      | ok records =>
        obtain ⟨record, _, hrecord⟩ := List.mem_map.mp hreply
        cases hrecord
    exact absurd h (hread _)
  | createJob record => cases h
  | getCancellation cancellationRequestId => cases h
  | createCancellation record => cases h
  | updateCancellation record expectedVersion => cases h
  | findByJobId jobId => cases h

theorem Lawful.overwrites (h : event.Lawful) (hwrites : event.Writes copy) :
    ∃ stored, event.Overwrites stored copy := by
  obtain ⟨stored, hop, hget, hversion, hafter⟩ := hwrites.cases
  have hallowed := h.allowed
  rw [hop] at hallowed
  obtain ⟨seen, hseen, hexpected, hupdates⟩ := hallowed
  have hcopy : event.before.jobs.IsCopy jobVersion seen := h.seen (read seen) hseen
  have hget' := hget
  rw [hupdates.key] at hget'
  obtain rfl : stored = seen := hcopy.eq hget' hexpected
  exact ⟨stored, hseen, hget, hversion, hafter, hupdates⟩

theorem get_after_of_get {key : String} {job : ApplicationJobRecord}
    (hget : event.before.jobs.get key = some job) :
    event.after.jobs.get key = some job ∨
      ∃ copy, event.Writes copy ∧ copy.key casefold = key := by
  by_cases hwrites : ∃ copy, event.Writes copy ∧ copy.key casefold = key
  · exact .inr hwrites
  refine .inl ?_
  obtain ⟨call, op, seen, before⟩ := event
  cases op with
  | createJob record =>
    rcases Option.eq_none_or_eq_some (before.jobs.get (record.key casefold)) with
      hnone | ⟨stored, hstored⟩
    · have hcreate := InMemoryApplicationJobRepository.create_of_none hnone
      change (InMemoryApplicationJobRepository.create before.jobs record).2.get key = some job
      have hne : key ≠ record.key casefold := by
        rintro rfl
        cases hnone.symm.trans hget
      rw [hcreate, KeyedStore.get_insert hnone, if_neg hne]
      exact hget
    · have hcreate := InMemoryApplicationJobRepository.create_of_some hstored
      change (InMemoryApplicationJobRepository.create before.jobs record).2.get key = some job
      rw [hcreate]
      exact hget
  | updateJob record expectedVersion =>
    change (InMemoryApplicationJobRepository.update before.jobs record expectedVersion).2.get key =
      some job
    rcases InMemoryApplicationJobRepository.update_cases before.jobs record expectedVersion with
      ⟨stored, hstored, _, _, hupdate⟩ | ⟨failure, hupdate⟩
    · have hne : key ≠ record.key casefold := by
        rintro rfl
        refine hwrites ⟨record, ?_, rfl⟩
        change wrote record ∈ shownBy (.updateJob record expectedVersion)
          (InMemoryApplicationJobRepository.update before.jobs record expectedVersion).1
        rw [hupdate]
        exact List.mem_singleton.mpr rfl
      rw [hupdate, KeyedStore.get_replace (hstored ▸ Option.some_ne_none stored), if_neg hne]
      exact hget
    · rw [hupdate]
      exact hget
  | getJob jobId => exact hget
  | listJobs query => exact hget
  | findAvailable queueName now limit => exact hget
  | getCancellation cancellationRequestId => exact hget
  | createCancellation record => exact hget
  | updateCancellation record expectedVersion => exact hget
  | findByJobId jobId => exact hget

/-! ## Acquired jobs -/

def Acquires (event : ServiceEvent casefold) (copy : ApplicationJobRecord) : Prop :=
  event.Writes copy ∧ ∃ queueName workerId now leaseDurationSeconds leaseId,
    event.call = .acquire queueName workerId now leaseDurationSeconds leaseId

/-- The job goes back into its queue: its lease is released, or recovered behind its end. -/
def Frees (event : ServiceEvent casefold) (key : String) : Prop :=
  ∃ copy, event.Writes copy ∧ copy.key casefold = key ∧
    ((∃ jobId workerId now, event.call = .release jobId workerId now) ∨
      ∃ now queueName limit, event.call = .recoverExpiredLeases now queueName limit)

def takenStatuses : List ApplicationJobStatus := [leased, running, cancellationRequested, cancelled]

theorem not_queueable_of_taken {status : ApplicationJobStatus} (h : status ∈ takenStatuses) :
    status ∉ queueableStatuses := by
  revert h
  cases status <;> decide

def Taken (s : ApplicationRepositories casefold) (key : String) : Prop :=
  ∃ job, s.jobs.get key = some job ∧ job.status ∈ takenStatuses

theorem Lawful.status_of_acquires (h : event.Lawful) (hacquires : event.Acquires copy) :
    ¬Taken event.before (copy.key casefold) ∧ Taken event.after (copy.key casefold) := by
  obtain ⟨hwrites, queueName, workerId, now, leaseDurationSeconds, leaseId, hcall⟩ := hacquires
  obtain ⟨stored, hover⟩ := h.overwrites hwrites
  have hupdates := hover.updates
  rw [hcall] at hupdates
  obtain ⟨hstatus, lease, _, _, _, hcopy⟩ := hupdates
  constructor
  · rintro ⟨job, hget, htaken⟩
    obtain rfl := Option.some.inj (hover.get_before.symm.trans hget)
    rw [hstatus] at htaken
    exact absurd htaken (by decide)
  · refine ⟨copy, ?_, ?_⟩
    · rw [hover.jobs_after, KeyedStore.get_replace (hover.get_before ▸ Option.some_ne_none stored),
        if_pos rfl]
    · rw [hcopy]
      exact (by decide : leased ∈ takenStatuses)

theorem Lawful.taken_after (h : event.Lawful) {key : String} (htaken : Taken event.before key)
    (hfrees : ¬event.Frees key) : Taken event.after key := by
  obtain ⟨job, hget, hstatus⟩ := htaken
  rcases get_after_of_get hget with hsame | ⟨copy, hwrites, rfl⟩
  · exact ⟨job, hsame, hstatus⟩
  obtain ⟨stored, hover⟩ := h.overwrites hwrites
  obtain rfl := Option.some.inj (hover.get_before.symm.trans hget)
  refine ⟨copy, ?_, ?_⟩
  · rw [hover.jobs_after, KeyedStore.get_replace (hget ▸ Option.some_ne_none stored), if_pos rfl]
  have hupdates := hover.updates
  cases hcall : event.call with
  | enqueue jobId now =>
    rw [hcall] at hupdates
    exact absurd (mem_queueableStatuses hupdates.1).1 (not_queueable_of_taken hstatus)
  | enqueueDueJobs now queueName limit =>
    rw [hcall] at hupdates
    exact absurd (mem_queueableStatuses hupdates.1).1 (not_queueable_of_taken hstatus)
  | acquire queueName workerId now leaseDurationSeconds leaseId =>
    rw [hcall] at hupdates
    rw [hupdates.1] at hstatus
    exact absurd hstatus (by decide)
  | start jobId workerId now =>
    rw [hcall] at hupdates
    rw [hupdates.2.2.2]
    exact (by decide : running ∈ takenStatuses)
  | release jobId workerId now => exact absurd ⟨copy, hwrites, rfl, .inl ⟨_, _, _, hcall⟩⟩ hfrees
  | renewLease jobId workerId now leaseDurationSeconds =>
    rw [hcall] at hupdates
    obtain ⟨_, lease, renewed, _, _, _, _, rfl⟩ := hupdates
    exact hstatus
  | recoverExpiredLeases now queueName limit =>
    exact absurd ⟨copy, hwrites, rfl, .inr ⟨_, _, _, hcall⟩⟩ hfrees
  | schedule sourceJobId attemptNumber now evaluated jobId schedulingId =>
    rw [hcall] at hupdates
    exact hupdates.elim
  | request jobId requestedBy reason now force cancellationId =>
    rw [hcall] at hupdates
    obtain ⟨cancellation, rfl⟩ := hupdates
    exact (by decide : cancellationRequested ∈ takenStatuses)
  | acknowledge cancellationRequestId acknowledgedBy now =>
    rw [hcall] at hupdates
    exact hupdates.elim
  | complete cancellationRequestId completedBy now =>
    rw [hcall] at hupdates
    rw [hupdates.2]
    exact (by decide : cancelled ∈ takenStatuses)

structure Settled (s : ApplicationRepositories casefold) (history : List (ServiceEvent casefold)) :
    Prop where
  taken : ∀ before event after copy, history = before ++ event :: after → Acquires event copy →
    (∀ later ∈ after, ¬Frees later (copy.key casefold)) → Taken s (copy.key casefold)
  freed : ∀ before first between second after copy copy',
    history = before ++ first :: between ++ second :: after → Acquires first copy →
      Acquires second copy' → copy.key casefold = copy'.key casefold →
        ∃ freeing ∈ between, Frees freeing (copy.key casefold)

theorem Settled.append {history : List (ServiceEvent casefold)} (hlawful : event.Lawful)
    (h : Settled event.before history) : Settled event.after (history ++ [event]) := by
  constructor
  · intro before first after copy hhistory hacquires hafter
    rcases List.eq_nil_or_concat after with rfl | ⟨rest, last, rfl⟩
    · obtain ⟨_, hlast⟩ := List.append_inj' hhistory rfl
      obtain rfl := (List.cons.inj hlast).1
      exact (hlawful.status_of_acquires hacquires).2
    · rw [List.concat_eq_append, ← List.cons_append, ← List.append_assoc] at hhistory
      obtain ⟨hbefore, hlast⟩ := List.append_inj' hhistory rfl
      obtain rfl := (List.cons.inj hlast).1
      apply hlawful.taken_after
      · exact h.taken before first rest copy hbefore hacquires fun later hlater =>
          hafter later (by simp [hlater])
      · exact hafter event (by simp)
  · intro before first between second after copy copy' hhistory hfirst hsecond hkey
    rcases List.eq_nil_or_concat after with rfl | ⟨rest, last, rfl⟩
    · obtain ⟨hbefore, hlast⟩ := List.append_inj' hhistory rfl
      obtain rfl := (List.cons.inj hlast).1
      by_contra hnone
      apply (hlawful.status_of_acquires hsecond).1
      rw [← hkey]
      apply h.taken before first between copy hbefore hfirst
      intro later hlater hfrees
      exact hnone ⟨later, hlater, hfrees⟩
    · rw [List.concat_eq_append, ← List.cons_append, ← List.append_assoc] at hhistory
      obtain ⟨hhistory, _⟩ := List.append_inj' hhistory rfl
      exact h.freed before first between second rest copy copy' hhistory hfirst hsecond hkey

end ServiceEvent

open ServiceEvent

def ServiceCall.leaseNeeded : ServiceCall → Option (String × String × Datetime)
  | start jobId workerId now => some (jobId, workerId, now)
  | release jobId workerId now => some (jobId, workerId, now)
  | renewLease jobId workerId now _ => some (jobId, workerId, now)
  | _ => none

theorem ServiceEvent.Overwrites.holdsLease {event : ServiceEvent casefold}
    {stored copy : ApplicationJobRecord} (h : event.Overwrites stored copy)
    {jobId workerId : String} {now : Datetime}
    (hneeded : event.call.leaseNeeded = some (jobId, workerId, now)) :
    event.before.jobs.getById jobId = some stored ∧
      ∃ lease, HoldsLease casefold stored workerId now lease := by
  have hget : ∀ id, stored.key casefold = normalizeId casefold id →
      event.before.jobs.getById id = some stored := by
    intro id hid
    rw [InMemoryApplicationJobRepository.getById, ← hid, KeyedStore.key_of_get h.get_before]
    exact h.get_before
  have hupdates := h.updates
  cases hcall : event.call <;> rw [hcall] at hneeded hupdates <;> cases hneeded
  · obtain ⟨hkey, _, hlease, _⟩ := hupdates
    exact ⟨hget _ hkey, hlease⟩
  · obtain ⟨hkey, _, hlease, _⟩ := hupdates
    exact ⟨hget _ hkey, hlease⟩
  · obtain ⟨hkey, lease, _, hlease, _⟩ := hupdates
    exact ⟨hget _ hkey, lease, hlease⟩

variable {ι : Type} [DecidableEq ι]

/-- In every interleaving of service calls: a successful update overwrites the version its call has
read, and stores the next one; a version of a job is overwritten once; between two acquisitions of
a job it was freed; and a call that needs a lease returns only if it has updated its job under a
stored lease of its worker that had not expired. -/
theorem leases_exclusive (store : ApplicationRepositories casefold) {s : ServiceSystem casefold ι}
    (h : Runs.Reachable ServiceSystem.step (fun _ _ => True) (.start store) s) :
    (∀ event ∈ s.history, ∀ copy, Writes event copy → ∃ stored, Overwrites event stored copy) ∧
    (s.history.Pairwise fun earlier later => ∀ first second, Writes earlier first →
      Writes later second → first.key casefold = second.key casefold →
        first.recordVersion.val < second.recordVersion.val) ∧
    (∀ before first between second after copy copy',
      s.history = before ++ first :: between ++ second :: after → Acquires first copy →
        Acquires second copy' → copy.key casefold = copy'.key casefold →
          ∃ freeing ∈ between, Frees freeing (copy.key casefold)) ∧
    ∀ call events jobId workerId now, (call, events) ∈ s.returned →
      call.leaseNeeded = some (jobId, workerId, now) →
        ∃ event ∈ events, event ∈ s.history ∧ ∃ stored copy lease, Overwrites event stored copy ∧
          event.before.jobs.getById jobId = some stored ∧
            HoldsLease casefold stored workerId now lease := by
  have hcoherent := Interleaving.Coherent.of_reachable (services_sound casefold) h
  have hover : ∀ event ∈ s.history, ∀ copy, Writes event copy →
      ∃ stored, Overwrites event stored copy :=
    fun event hevent copy hwrites => Lawful.overwrites (hcoherent.lawful event hevent) hwrites
  have hsettled : Settled s.store s.history := by
    apply Interleaving.history_invariant (services_sound casefold) Settled _ _ h
    · constructor
      · intro before event after copy hhistory
        simp at hhistory
      · intro before first between second after copy copy' hhistory
        simp at hhistory
    · exact fun history event hlawful hinv => hinv.append hlawful
  refine ⟨hover, ?_, hsettled.freed, ?_⟩
  · apply List.Pairwise.imp_of_mem _ hcoherent.ordered
    intro earlier later _ hlater hkept first second hfirst hsecond hkey
    have hstored := stillStored_of_shown earlier.op earlier.before (wrote first) hfirst
    obtain ⟨current, hget, hcurrent⟩ := hkept (wrote first) hstored
    obtain ⟨stored, hsecond⟩ := hover later hlater second hsecond
    have hget' := hsecond.get_before
    rw [← hkey] at hget'
    obtain rfl := Option.some.inj (hget.symm.trans hget')
    have hversion := hsecond.version
    rcases hcurrent with hlt | rfl
    · have hlt' : first.recordVersion.val < current.recordVersion.val := hlt
      omega
    · exact hversion ▸ Nat.lt_succ_self _
  · intro call events jobId workerId now hreturned hneeded
    obtain ⟨hdone, hbelong⟩ := hcoherent.returned call events hreturned
    have hwrote : ∃ copy, wrote copy ∈
        Interleaving.seen handle (jobInterface casefold) events := by
      cases call <;> cases hneeded <;> exact hdone
    obtain ⟨copy, hcopy⟩ := hwrote
    obtain ⟨event, hevent, hshown⟩ := Interleaving.mem_seen.mp hcopy
    have hhistory := hbelong.performed event hevent
    obtain ⟨stored, hstored⟩ := hover event hhistory copy hshown
    obtain ⟨hget, lease, hlease⟩ := hstored.holdsLease ((hbelong.call event hevent) ▸ hneeded)
    exact ⟨event, hevent, hhistory, stored, copy, lease, hstored, hget, hlease⟩

def raceForSampleJob : List (Interleaving.Action Bool ServiceCall) :=
  [.start false (.acquire "research" "worker-a" sampleTime 60 "lease-a"),
    .start true (.acquire "research" "worker-b" sampleTime 60 "lease-b"),
    .advance false, .advance true, .advance false, .advance true, .advance false, .advance true]

theorem leases_exclusive_race :
    (Runs.run ServiceSystem.step
        (.start (storesOf [enqueuedJob sampleJob sampleTime] (List.nodup_singleton _)))
        raceForSampleJob).history.Pairwise fun earlier later => ∀ first second,
      Writes earlier first → Writes later second →
        first.key asciiCasefold = second.key asciiCasefold →
          first.recordVersion.val < second.recordVersion.val :=
  (leases_exclusive _ (Runs.reachable_run raceForSampleJob)).2.1

/-- The updates of one job in a history, each of the copy that the one before it has stored. -/
inductive ServiceEvent.Trail (job : ApplicationJobRecord) :
    List (ServiceEvent casefold) → ApplicationJobRecord → ℕ → Prop where
  | start : Trail job [] job 0
  | overwritten {history event stored copy n} (h : Trail job history stored n)
      (hover : Overwrites event stored copy) : Trail job (history ++ [event]) copy (n + 1)
  | kept {history event stored n} (h : Trail job history stored n)
      (hkept : ∀ copy, Writes event copy → copy.key casefold ≠ job.key casefold) :
      Trail job (history ++ [event]) stored n

theorem ServiceEvent.Trail.version {job stored : ApplicationJobRecord} {n : ℕ}
    {history : List (ServiceEvent casefold)} (h : Trail job history stored n) :
    stored.recordVersion.val = job.recordVersion.val + n := by
  induction h with
  | start => rfl
  | overwritten _ hover ih =>
    have := hover.version
    omega
  | kept _ _ ih => exact ih

/-- In every interleaving a stored job is the end of a chain of updates that leaves none out: each
one has overwritten what the one before it had stored, and the version counts them. -/
theorem updates_chained (store : ApplicationRepositories casefold) {s : ServiceSystem casefold ι}
    (h : Runs.Reachable ServiceSystem.step (fun _ _ => True) (.start store) s)
    {key : String} {job : ApplicationJobRecord} (hjob : store.jobs.get key = some job) :
    ∃ stored n, s.store.jobs.get key = some stored ∧ Trail job s.history stored n ∧
      stored.recordVersion.val = job.recordVersion.val + n := by
  suffices htrail : ∃ stored n, s.store.jobs.get key = some stored ∧
      Trail job s.history stored n by
    obtain ⟨stored, n, hget, htrail⟩ := htrail
    exact ⟨stored, n, hget, htrail, htrail.version⟩
  apply Interleaving.history_invariant (services_sound casefold) (fun s history =>
    ∃ stored n, s.jobs.get key = some stored ∧ Trail job history stored n) _ _ h
  · exact ⟨job, 0, hjob, .start⟩
  · rintro history event hlawful ⟨stored, n, hget, htrail⟩
    by_cases hwrites : ∃ copy, Writes event copy ∧ copy.key casefold = key
    · obtain ⟨copy, hcopy, rfl⟩ := hwrites
      obtain ⟨seen, hover⟩ := Lawful.overwrites hlawful hcopy
      obtain rfl := Option.some.inj (hover.get_before.symm.trans hget)
      refine ⟨copy, n + 1, ?_, htrail.overwritten hover⟩
      change (ServiceEvent.after event).jobs.get _ = _
      rw [hover.jobs_after, KeyedStore.get_replace (hget ▸ Option.some_ne_none seen), if_pos rfl]
    · refine ⟨stored, n, (get_after_of_get hget).resolve_right hwrites, htrail.kept ?_⟩
      intro copy hcopy hkey
      exact hwrites ⟨copy, hcopy, hkey.trans (KeyedStore.key_of_get hjob)⟩

def raceStart : ApplicationRepositories asciiCasefold :=
  storesOf [enqueuedJob sampleJob sampleTime] (List.nodup_singleton _)

theorem updates_chained_race : ∃ stored n, Trail (enqueuedJob sampleJob sampleTime)
    (Runs.run ServiceSystem.step (.start raceStart) raceForSampleJob).history stored n := by
  obtain ⟨stored, n, _, htrail, _⟩ := updates_chained raceStart (Runs.reachable_run raceForSampleJob)
    (KeyedStore.get_of_mem (List.mem_singleton_self _))
  exact ⟨stored, n, htrail⟩

end AgenticLab
