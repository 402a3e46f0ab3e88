import AgenticLab.Verification.Application.JobRecord
import AgenticLab.Verification.Application.Methods

/-! # Retries of failed attempts

Any number of schedulers whose calls interleave: a retry follows the attempt its call has read,
and a job has one retry at most as long as no other retry comes between the duplicate check of a
call and its `create`. -/

namespace AgenticLab.ApplicationRetrySchedulingService

open RepositoryOperation (handle)

variable {casefold : Casefold}

structure ScheduleCall where
  sourceJobId : String
  attemptNumber : PositiveInt
  now : Datetime
  evaluated : Except Raised RetryDecision
  jobId : String
  schedulingId : String

variable (casefold) in
def ScheduleCall.program (call : ScheduleCall) : ServiceProgram Unit := do
  let _ ← schedule casefold call.sourceJobId call.attemptNumber call.now call.evaluated call.jobId
    call.schedulingId

variable (casefold) in
def IsRetryOf (job : ApplicationJobRecord) (sourceJobId : String) : Prop :=
  ∃ previous ∈ job.previousAttemptJobId, normalizeId casefold previous =
    normalizeId casefold sourceJobId

def HasRetry (jobs : InMemoryApplicationJobRepository casefold) (sourceJobId : String) : Prop :=
  ∃ job ∈ jobs.records, IsRetryOf casefold job sourceJobId

def RetriedOnce (jobs : InMemoryApplicationJobRepository casefold) : Prop :=
  ∀ sourceJobId, ∀ a ∈ jobs.records, ∀ b ∈ jobs.records, IsRetryOf casefold a sourceJobId →
    IsRetryOf casefold b sourceJobId → a = b

structure Continues (source job : ApplicationJobRecord) : Prop where
  attempt : job.attemptNumber.val = source.attemptNumber.val + 1
  root : job.rootJobId = source.rootJobId
  maximum : job.maximumAttempts = source.maximumAttempts

structure Chained (jobs : InMemoryApplicationJobRepository casefold) : Prop where
  continues : ∀ job ∈ jobs.records, ∀ previous ∈ job.previousAttemptJobId,
    ∃ source, jobs.getById previous = some source ∧ Continues source job
  bounded : ∀ job ∈ jobs.records, job.attemptNumber ≤ job.maximumAttempts

inductive Sighting where
  | read (record : ApplicationJobRecord)
  /-- No stored job matched the query. -/
  | missing (query : ApplicationJobQuery)

open Sighting

def shownBy : (op : RepositoryOperation) → op.Reply → List Sighting
  | .getJob _, reply => reply.toList.map read
  | .listJobs query, page => if page.totalItems = 0 then [missing query] else []
  | _, _ => []

def interface : Program.Interface RepositoryOperation.Reply Sighting := ⟨shownBy, fun _ _ => True⟩

/-- A call creates a retry of a job that it has read, behind its duplicate check. -/
def MayPerform (seen : List Sighting) : RepositoryOperation → Prop
  | .createJob record => record.attemptNumber ≤ record.maximumAttempts ∧
      ∃ source, read source ∈ seen ∧ missing (retriesQuery source) ∈ seen ∧
        record.previousAttemptJobId = some source.jobId ∧ Continues source record
  | .updateJob _ _ => False
  | _ => True

variable {record : ApplicationJobRecord}

theorem attemptNumber_le_of_valid
    (h : record.validateRecord = .ok ()) : record.attemptNumber ≤ record.maximumAttempts := by
  obtain ⟨_, hidentity, _⟩ := bind_eq_ok.mp h
  obtain ⟨_, _, hidentity⟩ := bind_eq_ok.mp hidentity
  obtain ⟨_, _, hidentity⟩ := bind_eq_ok.mp hidentity
  exact not_lt.mp (raiseIf_bind_eq_ok.mp hidentity).1

variable {source : ApplicationJobRecord}

theorem retryJob_continues {jobId retryDecisionId : String}
    {nextAttempt : PositiveInt} {delaySeconds : ℚ} {now availableAt : Datetime}
    (h : nextAttempt.val = source.attemptNumber.val + 1) :
    Continues source
      (retryJob source jobId nextAttempt delaySeconds retryDecisionId now availableAt) :=
  ⟨h, rfl, rfl⟩

section

variable {α β : Type} {seen : List Sighting} {post : α → List Sighting → Prop}

theorem lift_respects {x : Except Raised β} {f : β → ServiceProgram α}
    (h : ∀ b, x = .ok b → (f b).Respects interface MayPerform post seen) :
    ((liftM x : ServiceProgram β) >>= f).Respects interface MayPerform post seen :=
  Program.Respects.bind (Program.Respects.lift h)

variable {f : ApplicationJobRecord → ServiceProgram α}

theorem require_respects {jobId : String}
    (h : ∀ source, (f source).Respects interface MayPerform post (seen ++ [read source])) :
    (ApplicationJobRepository.require jobId >>= f).Respects interface MayPerform post seen := by
  refine .call trivial fun reply _ => ?_
  cases reply with
  | none => exact .error
  | some source => exact h source

theorem create_respects {record : ApplicationJobRecord}
    (hallowed : MayPerform seen (.createJob record))
    (h : ∀ created, (f created).Respects interface MayPerform post seen) :
    (ApplicationJobRepository.create record >>= f).Respects interface MayPerform post seen := by
  refine .call hallowed fun reply _ => ?_
  change Program.Respects _ _ _ _ (seen ++ [])
  rw [List.append_nil]
  cases reply with
  | error failure => exact .error
  | ok created => exact h created

theorem ensureRetryNotAlreadyScheduled_respects {source : ApplicationJobRecord}
    {f : Unit → ServiceProgram α}
    (h : (f ()).Respects interface MayPerform post (seen ++ [missing (retriesQuery source)])) :
    (ensureRetryNotAlreadyScheduled casefold source >>= f).Respects interface MayPerform post
      seen := by
  refine Program.Respects.bind (Program.Respects.bind (Program.Respects.bind
    (Program.Respects.lift fun _ _ => ?_)))
  refine .call trivial fun page _ => .ok (Program.Respects.lift fun _ hcheck => ?_)
  have hnone : page.totalItems = 0 := Nat.eq_zero_of_not_pos (raiseIf_eq_ok.mp hcheck)
  have hshown : interface.observe (.listJobs (retriesQuery source)) page =
      [missing (retriesQuery source)] := if_pos hnone
  rw [hshown]
  exact h

end

theorem schedule_respects {sourceJobId : String} {attemptNumber : PositiveInt} {now : Datetime}
    {evaluated : Except Raised RetryDecision} {jobId schedulingId : String} :
    (schedule casefold sourceJobId attemptNumber now evaluated jobId schedulingId).Respects
      interface MayPerform (fun _ _ => True) [] := by
  apply lift_respects
  intro _ _
  apply require_respects
  intro source
  apply lift_respects
  intro _ _
  apply ensureRetryNotAlreadyScheduled_respects
  apply lift_respects
  intro decision _
  split_ifs
  · apply lift_respects
    intro id _
    exact Program.Respects.lift fun _ _ => trivial
  split
  · apply lift_respects
    intro _ hnext
    apply lift_respects
    intro newJobId _
    apply lift_respects
    intro availableAt _
    apply lift_respects
    intro scheduled hscheduled
    obtain ⟨hvalid, rfl⟩ := modelValidate_eq_ok.mp hscheduled
    apply create_respects
    · exact ⟨attemptNumber_le_of_valid hvalid, source, by simp, by simp, rfl,
        retryJob_continues (not_not.mp (raiseIf_eq_ok.mp hnext))⟩
    intro persisted
    apply lift_respects
    intro id _
    exact Program.Respects.lift fun _ _ => trivial
  · exact .error

theorem program_respects (call : ScheduleCall) :
    (call.program casefold).Respects interface MayPerform (fun _ _ => True) [] :=
  Program.Respects.bind (schedule_respects.mono fun _ _ _ => .ok trivial)

/-! ## Interleaved calls -/

def Holds (s : ApplicationRepositories casefold) : Sighting → Prop
  | .read record => record ∈ s.jobs.records
  | .missing _ => True

variable {op : RepositoryOperation} {seen : List Sighting}

theorem jobs_handle (h : MayPerform seen op) (s : ApplicationRepositories casefold) :
    (handle op s).2.jobs = s.jobs ∨ ∃ record hnone, op = .createJob record ∧
      (handle op s).2.jobs = s.jobs.insert record hnone := by
  cases op with
  | createJob record =>
    rcases Option.eq_none_or_eq_some (s.jobs.get (record.key casefold)) with
      hnone | ⟨stored, hget⟩
    · exact .inr ⟨record, hnone, rfl,
        congrArg Prod.snd (InMemoryApplicationJobRepository.create_of_none hnone)⟩
    · exact .inl (congrArg Prod.snd (InMemoryApplicationJobRepository.create_of_some hget))
  | updateJob copy expectedVersion => exact h.elim
  | getJob jobId => exact .inl rfl
  | listJobs query => exact .inl rfl
  | findAvailable queueName now limit => exact .inl rfl
  | getCancellation cancellationRequestId => exact .inl rfl
  | createCancellation record => exact .inl rfl
  | updateCancellation record expectedVersion => exact .inl rfl
  | findByJobId jobId => exact .inl rfl

variable {s : ApplicationRepositories casefold}

theorem mem_handle (h : MayPerform seen op)
    (hrecord : record ∈ s.jobs.records) : record ∈ (handle op s).2.jobs.records := by
  rcases jobs_handle h s with hsame | ⟨created, hnone, _, hinsert⟩
  · rwa [hsame]
  · rw [hinsert]
    exact KeyedStore.mem_insert.mpr (.inl hrecord)

theorem read_of_shown (h : read record ∈ shownBy op (handle op s).1) :
    ∃ jobId, op = .getJob jobId ∧ s.jobs.getById jobId = some record := by
  cases op with
  | getJob jobId =>
    obtain ⟨shown, hshown, hread⟩ := List.mem_map.mp h
    cases hread
    exact ⟨jobId, rfl, Option.mem_toList.mp hshown⟩
  | listJobs query =>
    change _ ∈ ite ((s.jobs.list query).totalItems = 0) [missing query] [] at h
    split_ifs at h <;> simp at h
  | _ => cases h

theorem keeps_retriesQuery (source job : ApplicationJobRecord) :
    (retriesQuery source).keeps casefold job = true ↔ IsRetryOf casefold job source.jobId := by
  cases hprevious : job.previousAttemptJobId with
  | none => simp [ApplicationJobQuery.keeps, ApplicationJobQuery.matchesOptionalId, retriesQuery,
      IsRetryOf, hprevious]
  | some previous => simp [ApplicationJobQuery.keeps, ApplicationJobQuery.matchesOptionalId,
      retriesQuery, IsRetryOf, hprevious]

theorem missing_of_shown (h : missing (retriesQuery source) ∈ shownBy op (handle op s).1) :
    op = .listJobs (retriesQuery source) ∧ ¬HasRetry s.jobs source.jobId := by
  cases op with
  | getJob jobId =>
    obtain ⟨shown, hshown, hmissing⟩ := List.mem_map.mp h
    cases hmissing
  | listJobs query =>
    change _ ∈ ite ((s.jobs.list query).totalItems = 0) [missing query] [] at h
    split_ifs at h with hnone
    · obtain rfl : retriesQuery source = query := by simpa using h
      refine ⟨rfl, ?_⟩
      rintro ⟨job, hjob, hretry⟩
      rw [InMemoryApplicationJobRepository.totalItems_list, List.length_eq_zero_iff,
        List.filter_eq_nil_iff] at hnone
      exact hnone job hjob ((keeps_retriesQuery source job).mpr hretry)
    · simp at h
  | _ => cases h

theorem sound : Interleaving.Sound (@handle casefold) interface (ScheduleCall.program casefold)
    (fun _ => MayPerform) (fun _ _ => True) Holds where
  possible := fun _ _ => trivial
  program := program_respects
  stable := by
    intro call seen op s hallowed _ sighting hsighting
    cases sighting with
    | read record =>
      have hrecord : record ∈ s.jobs.records := hsighting
      exact mem_handle hallowed hrecord
    | missing query => trivial
  fresh := by
    intro op s sighting hsighting
    cases sighting with
    | read record =>
      obtain ⟨jobId, rfl, hget⟩ := read_of_shown hsighting
      exact (KeyedStore.get_eq_some.mp hget).1
    | missing query => trivial

abbrev RetrySystem (casefold : Casefold) (ι : Type) :=
  Interleaving.System RepositoryOperation RepositoryOperation.Reply ScheduleCall Raised
    (ApplicationRepositories casefold) Sighting ι

def RetrySystem.step {ι : Type} [DecidableEq ι] (s : RetrySystem casefold ι)
    (action : Interleaving.Action ι ScheduleCall) : RetrySystem casefold ι :=
  Interleaving.System.step handle interface (ScheduleCall.program casefold) s action

/-- Where a call creates a retry, none has come since its duplicate check. -/
def Undisturbed {ι : Type} (s : RetrySystem casefold ι) :
    Interleaving.Action ι ScheduleCall → Prop
  | .start _ _ => True
  | .advance caller => ∀ call record next events,
      s.pending caller = some ⟨call, .call (.createJob record) next, events⟩ →
        ∀ check ∈ events, ∀ source, check.op = .listJobs (retriesQuery source) →
          HasRetry s.store.jobs source.jobId → HasRetry check.before.jobs source.jobId

section

variable {jobs : InMemoryApplicationJobRepository casefold} {source record : ApplicationJobRecord}
  {hnone : jobs.get (record.key casefold) = none}

theorem Chained.insert (h : Chained jobs) (hsource : source ∈ jobs.records)
    (hprevious : record.previousAttemptJobId = some source.jobId)
    (hcontinues : Continues source record)
    (hbounded : record.attemptNumber ≤ record.maximumAttempts) :
    Chained (jobs.insert record hnone) where
  continues := by
    intro job hjob previous hmem
    have hkept : ∀ stored, jobs.getById previous = some stored →
        (jobs.insert record hnone).get (normalizeId casefold previous) = some stored := by
      intro stored hget
      rw [KeyedStore.get_insert hnone, if_neg]
      · exact hget
      · intro hkey
        have hstored : jobs.get (record.key casefold) = some stored := hkey ▸ hget
        exact nomatch hnone.symm.trans hstored
    rcases KeyedStore.mem_insert.mp hjob with hold | rfl
    · obtain ⟨stored, hget, hstored⟩ := h.continues job hold previous hmem
      exact ⟨stored, hkept stored hget, hstored⟩
    · rw [hprevious] at hmem
      obtain rfl := Option.some.inj hmem
      exact ⟨source, hkept source (KeyedStore.get_of_mem hsource), hcontinues⟩
  bounded := by
    intro job hjob
    rcases KeyedStore.mem_insert.mp hjob with hold | rfl
    · exact h.bounded job hold
    · exact hbounded

theorem RetriedOnce.insert (h : RetriedOnce jobs)
    (hprevious : record.previousAttemptJobId = some source.jobId)
    (hfirst : ¬HasRetry jobs source.jobId) : RetriedOnce (jobs.insert record hnone) := by
  have hother : ∀ job ∈ jobs.records, ∀ id, IsRetryOf casefold job id →
      ¬IsRetryOf casefold record id := by
    rintro job hjob id ⟨previous, hmem, hjobId⟩ ⟨previous', hmem', hrecordId⟩
    rw [hprevious] at hmem'
    obtain rfl := Option.some.inj hmem'
    exact hfirst ⟨job, hjob, previous, hmem, hjobId.trans hrecordId.symm⟩
  intro id a ha b hb hretryA hretryB
  rcases KeyedStore.mem_insert.mp ha with hOld | rfl
  · rcases KeyedStore.mem_insert.mp hb with hOld' | rfl
    · exact h id a hOld b hOld' hretryA hretryB
    · exact absurd hretryB (hother a hOld id hretryA)
  · rcases KeyedStore.mem_insert.mp hb with hOld | rfl
    · exact absurd hretryA (hother b hOld id hretryB)
    · rfl

end

variable {ι : Type} [DecidableEq ι]

theorem chained_of_reachable {store : ApplicationRepositories casefold}
    {condition : RetrySystem casefold ι → Interleaving.Action ι ScheduleCall → Prop}
    (hstart : Chained store.jobs) {s : RetrySystem casefold ι}
    (h : Runs.Reachable RetrySystem.step condition (.start store) s) : Chained s.store.jobs := by
  apply Interleaving.store_invariant sound (fun s => Chained s.jobs) hstart _ h
  intro s caller call op next events hcoherent hpending _ hchained
  obtain ⟨hrespects, hseen, _⟩ := hcoherent.pending caller _ hpending
  obtain _ | _ | ⟨hallowed, _⟩ := hrespects
  rcases jobs_handle hallowed s.store with hsame | ⟨record, hnone, rfl, hinsert⟩
  · rwa [hsame]
  · obtain ⟨hbounded, source, hread, _, hprevious, hcontinues⟩ := hallowed
    rw [hinsert]
    exact hchained.insert (hseen _ hread) hprevious hcontinues hbounded

/-- In every interleaving of `schedule` calls every chain of attempts is counted up to its maximum
and keeps its root; and no job has two retries, as long as no retry of a job is stored between
the duplicate check of a call and its `create`. -/
theorem retries_once {store : ApplicationRepositories casefold} (hchained : Chained store.jobs)
    (honce : RetriedOnce store.jobs) {s : RetrySystem casefold ι}
    (h : Runs.Reachable RetrySystem.step Undisturbed (.start store) s) :
    Chained s.store.jobs ∧ RetriedOnce s.store.jobs := by
  refine ⟨chained_of_reachable hchained h, ?_⟩
  apply Interleaving.store_invariant sound (fun s => RetriedOnce s.jobs) honce _ h
  intro s caller call op next events hcoherent hpending hundisturbed honce
  obtain ⟨hrespects, _, _⟩ := hcoherent.pending caller _ hpending
  obtain _ | _ | ⟨hallowed, _⟩ := hrespects
  rcases jobs_handle hallowed s.store with hsame | ⟨record, hnone, rfl, hinsert⟩
  · rwa [hsame]
  · obtain ⟨_, source, _, hmissing, hprevious, _⟩ := hallowed
    obtain ⟨check, hcheck, hshown⟩ := Interleaving.mem_seen.mp hmissing
    obtain ⟨hop, hfirst⟩ := missing_of_shown hshown
    rw [hinsert]
    apply honce.insert hprevious
    exact fun hretry => hfirst
      (hundisturbed call record next events hpending check hcheck source hop hretry)

def sampleFailedJob : ApplicationJobRecord :=
  { sampleJob with
    status := .failed
    finishedAt := some sampleTime
    failure := some sampleFailure }

def sampleDecision : RetryDecision := ⟨"decision-001", .retry, some ⟨2, Nat.two_pos⟩, some 30⟩

def sampleCall (jobId : String) : ScheduleCall :=
  ⟨"job-001", ⟨1, Nat.one_pos⟩, sampleTime, .ok sampleDecision, jobId, "scheduling-001"⟩

def raceForRetry : List (Interleaving.Action Bool ScheduleCall) :=
  [.start false (sampleCall "job-002"), .start true (sampleCall "job-003"),
    .advance false, .advance true, .advance false, .advance true, .advance false, .advance true]

def sampleStore : ApplicationRepositories asciiCasefold :=
  storesOf [sampleFailedJob] (List.nodup_singleton _)

theorem sampleStore_chained : Chained sampleStore.jobs where
  continues := by
    intro job hjob previous hmem
    rw [List.mem_singleton.mp hjob] at hmem
    cases hmem
  bounded := by
    intro job hjob
    rw [List.mem_singleton.mp hjob]
    exact (by decide : (1 : ℕ) ≤ 3)

theorem sampleStore_retriedOnce : RetriedOnce sampleStore.jobs := by
  intro id a ha b hb _ _
  exact (List.mem_singleton.mp ha).trans (List.mem_singleton.mp hb).symm

theorem raceForRetry_records :
    ((Runs.run RetrySystem.step (.start sampleStore) raceForRetry).store.jobs.records.map
      fun job => (job.jobId, job.previousAttemptJobId)) =
    [("job-001", none), ("job-002", some "job-001"), ("job-003", some "job-001")] := by
  decide +kernel

theorem undisturbed_of_first {ι : Type} {s : RetrySystem casefold ι}
    (h : s.store.jobs.records.map (·.previousAttemptJobId) = [none])
    (action : Interleaving.Action ι ScheduleCall) : Undisturbed s action := by
  cases action with
  | start caller call => trivial
  | advance caller =>
    intro call record next events _ check _ source _ hretry
    obtain ⟨job, hjob, previous, hmem, _⟩ := hretry
    have hnone : job.previousAttemptJobId ∈
        s.store.jobs.records.map (·.previousAttemptJobId) := List.mem_map_of_mem hjob
    rw [h, List.mem_singleton] at hnone
    rw [hnone] at hmem
    cases hmem

def soloRetry : ℕ → RetrySystem asciiCasefold Bool
  | 0 => RetrySystem.step (.start sampleStore) (.start false (sampleCall "job-002"))
  | advances + 1 => (soloRetry advances).step (.advance false)

theorem reachable_soloRetry (advances : ℕ)
    (h : ∀ n < advances, (soloRetry n).store.jobs.records.map (·.previousAttemptJobId) = [none]) :
    Runs.Reachable RetrySystem.step Undisturbed (.start sampleStore) (soloRetry advances) := by
  induction advances with
  | zero =>
    have hstart : Undisturbed (Interleaving.System.start sampleStore)
        (.start false (sampleCall "job-002")) := trivial
    exact Runs.Reachable.start.step hstart
  | succ advances ih =>
    apply Runs.Reachable.step (ih fun n hn => h n (Nat.lt_succ_of_lt hn))
    exact undisturbed_of_first (h advances (Nat.lt_succ_self advances)) _

theorem retries_once_sample : RetriedOnce (soloRetry 3).store.jobs :=
  (retries_once sampleStore_chained sampleStore_retriedOnce
    (reachable_soloRetry 3 (by decide +kernel))).2

/-- Two schedulers that both find no retry both create one. -/
theorem race_retries_twice :
    ¬∀ (store : ApplicationRepositories asciiCasefold) (s : RetrySystem asciiCasefold Bool),
      Chained store.jobs → RetriedOnce store.jobs →
        Runs.Reachable RetrySystem.step (fun _ _ => True) (.start store) s →
          RetriedOnce s.store.jobs := by
  intro h
  have honce := h sampleStore _ sampleStore_chained sampleStore_retriedOnce
    (Runs.reachable_run raceForRetry)
  have hstored : ∀ jobId ∈ ["job-002", "job-003"], ∃ job ∈
      (Runs.run RetrySystem.step (.start sampleStore) raceForRetry).store.jobs.records,
        (job.jobId, job.previousAttemptJobId) = (jobId, some "job-001") := by
    intro jobId hjobId
    apply List.mem_map.mp
    rw [raceForRetry_records]
    revert jobId
    decide
  obtain ⟨a, ha, hfirst⟩ := hstored "job-002" (by decide)
  obtain ⟨b, hb, hsecond⟩ := hstored "job-003" (by decide)
  have hretry : ∀ job : ApplicationJobRecord, job.previousAttemptJobId = some "job-001" →
      IsRetryOf asciiCasefold job "job-001" := fun job hjob => ⟨"job-001", hjob, rfl⟩
  have heq := honce "job-001" a ha b hb (hretry a (congrArg Prod.snd hfirst))
    (hretry b (congrArg Prod.snd hsecond))
  have hids : "job-002" = "job-003" :=
    (congrArg Prod.fst hfirst).symm.trans (heq ▸ congrArg Prod.fst hsecond)
  exact absurd hids (by decide)

end AgenticLab.ApplicationRetrySchedulingService
