import AgenticLab.Verification.Application.JobRecord
import AgenticLab.Verification.Application.Methods

/-! # Which expired leases are recovered

`recover_expired_leases` looks for expired leases in one page of leased jobs, which is cut before
they are told from the others. -/

namespace AgenticLab

open RepositoryOperation

variable {casefold : Casefold} {s : ApplicationRepositories casefold}

namespace ApplicationJobQueueService

def Expired (now : Datetime) (job : ApplicationJobRecord) : Prop :=
  ∃ lease ∈ job.lease, lease.expiresAt ≤ now

def Unexpired (now : Datetime) (job : ApplicationJobRecord) : Prop :=
  ∃ lease ∈ job.lease, now < lease.expiresAt

/-- The lease is taken from a time that is still to come. -/
def Early (now : Datetime) (job : ApplicationJobRecord) : Prop :=
  ∃ lease ∈ job.lease, now < lease.acquiredAt

def inactive (now : Datetime) (job : ApplicationJobRecord) : Bool :=
  !(job.lease.all fun lease => lease.activeAt now)

instance (now : Datetime) (job : ApplicationJobRecord) : Decidable (Expired now job) :=
  inferInstanceAs (Decidable (∃ lease ∈ job.lease, lease.expiresAt ≤ now))

instance (now : Datetime) (job : ApplicationJobRecord) : Decidable (Early now job) :=
  inferInstanceAs (Decidable (∃ lease ∈ job.lease, now < lease.acquiredAt))

theorem lease_acquired_lt (lease : ApplicationJobLease) : lease.acquiredAt < lease.expiresAt := by
  obtain ⟨_, _, h⟩ := bind_eq_ok.mp lease.valid
  obtain ⟨_, _, h⟩ := bind_eq_ok.mp h
  rw [raiseIf_eq_ok] at h
  exact Datetime.not_le.mp h

variable {now : Datetime} {job : ApplicationJobRecord}

theorem inactive_iff : inactive now job = true ↔ Expired now job ∨ Early now job := by
  cases hlease : job.lease with
  | none => simp [inactive, Expired, Early, hlease]
  | some lease =>
    have hlt := lease_acquired_lt lease
    simp only [inactive, Expired, Early, hlease, Option.all_some, Option.mem_def,
      Option.some.injEq, exists_eq_left', ApplicationJobLease.activeAt, Bool.not_eq_true',
      decide_eq_false_iff_not, not_and_or, Datetime.not_le, Datetime.not_lt]
    exact or_comm

theorem not_expired_of_unexpired (h : Unexpired now job) : ¬Expired now job := by
  rintro ⟨lease, hlease, hle⟩
  obtain ⟨other, hother, hlt⟩ := h
  obtain rfl : lease = other := Option.some.inj (hlease.symm.trans hother)
  exact Datetime.not_le.mpr hlt hle

theorem unexpired_of_early (h : Early now job) : Unexpired now job := by
  obtain ⟨lease, hlease, hlt⟩ := h
  exact ⟨lease, hlease, hlt.trans (lease_acquired_lt lease)⟩

/-- The leased jobs of the queue, as `list` orders them. -/
def leasedJobs (jobs : InMemoryApplicationJobRepository casefold) (queueName : Option String)
    (limit : ℕ) : List ApplicationJobRecord :=
  (leasedJobsQuery queueName limit).sortRecords casefold
    (jobs.records.filter ((leasedJobsQuery queueName limit).keeps casefold))

/-- The jobs among which `recover_expired_leases` looks. -/
def Selected (casefold : Casefold) (queueName : Option String) (job : ApplicationJobRecord) :
    Prop :=
  job.status = .leased ∧ ∀ name ∈ queueName, normalizeId casefold job.queueName =
    normalizeId casefold name

section

variable {jobs : InMemoryApplicationJobRepository casefold} {queueName : Option String}
  {limit : ℕ} {job : ApplicationJobRecord}

theorem keeps_leasedJobsQuery :
    (leasedJobsQuery queueName limit).keeps casefold job = true ↔
      Selected casefold queueName job ∧ job.lease.isSome = true := by
  cases queueName with
  | none => simp [ApplicationJobQuery.keeps, ApplicationJobQuery.matchesOptionalId, leasedJobsQuery,
      queueNames, Selected]
  | some name =>
    simp [ApplicationJobQuery.keeps, ApplicationJobQuery.matchesOptionalId, leasedJobsQuery,
      queueNames, Selected]
    tauto

theorem leasedJobs_perm : (leasedJobs jobs queueName limit).Perm
    (jobs.records.filter ((leasedJobsQuery queueName limit).keeps casefold)) :=
  List.mergeSort_perm _ _

theorem mem_leasedJobs : job ∈ leasedJobs jobs queueName limit ↔
    job ∈ jobs.records ∧ Selected casefold queueName job ∧ job.lease.isSome = true := by
  rw [leasedJobs_perm.mem_iff, List.mem_filter, keeps_leasedJobsQuery]

theorem nodup_leasedJobs : ((leasedJobs jobs queueName limit).map
    (ApplicationJobRecord.key casefold)).Nodup := by
  rw [(leasedJobs_perm.map _).nodup_iff]
  exact jobs.nodup.sublist (List.filter_sublist.map _)

theorem take_items : (InMemoryApplicationJobRepository.list jobs
    (leasedJobsQuery queueName limit)).items.take limit =
      (leasedJobs jobs queueName limit).take (min limit 200) := by
  simp only [InMemoryApplicationJobRepository.list, ApplicationJobQuery.offset, leasedJobsQuery,
    Nat.sub_self, Nat.zero_mul, List.drop_zero, List.take_take]
  rw [← Nat.min_assoc, Nat.min_self]
  rfl

end

structure Requeues (now : Datetime) (records : List ApplicationJobRecord)
    (before after : InMemoryApplicationJobRepository casefold) : Prop where
  requeued : ∀ job ∈ records, inactive now job = true →
    after.get (job.key casefold) = some (requeuedJob job)
  others : ∀ k, (∀ job ∈ records, inactive now job = true → job.key casefold ≠ k) →
    after.get k = before.get k

theorem recoverAll_run {records : List ApplicationJobRecord}
    (hnodup : (records.map (ApplicationJobRecord.key casefold)).Nodup)
    (hstored : ∀ job ∈ records, s.jobs.get (job.key casefold) = some job)
    (hstatus : ∀ job ∈ records, job.status = .leased) :
    ∃ t, (recoverAll now records).run handle s =
        (.ok ((records.filter (inactive now)).map requeuedJob), t) ∧
      Requeues now records s.jobs t.jobs := by
  induction records generalizing s with
  | nil => exact ⟨s, rfl, by simp, fun _ _ => rfl⟩
  | cons stored rest ih =>
    obtain ⟨hfirst, hrest⟩ := List.nodup_cons.mp hnodup
    obtain ⟨hget, hlater⟩ := List.forall_mem_cons.mp hstored
    obtain ⟨hleased, hleased'⟩ := List.forall_mem_cons.mp hstatus
    have hne : ∀ job ∈ rest, job.key casefold ≠ stored.key casefold := by
      intro job hjob heq
      exact hfirst (heq ▸ List.mem_map_of_mem hjob)
    by_cases hactive : (stored.lease.all fun lease => lease.activeAt now) = true
    · obtain ⟨t, hrun, hrequeues⟩ := ih hrest hlater hleased'
      have hkept : inactive now stored = false := by simp [inactive, hactive]
      refine ⟨t, ?_, ?_, ?_⟩
      · rw [recoverAll, if_pos hactive, hrun, List.filter_cons_of_neg (by simp [hkept])]
      · simpa [hkept] using hrequeues.requeued
      · intro k hk
        exact hrequeues.others k fun job hjob => hk job (List.mem_cons_of_mem _ hjob)
    · have hinactive : inactive now stored = true := by simpa [inactive] using hactive
      have hreplaced : s.jobs.get ((requeuedJob stored).key casefold) ≠ none := by
        change s.jobs.get (stored.key casefold) ≠ none
        simp [hget]
      have hlater' : ∀ job ∈ rest,
          (s.jobs.replace (requeuedJob stored)).get (job.key casefold) = some job := by
        intro job hjob
        rw [KeyedStore.get_replace hreplaced]
        exact (if_neg (hne job hjob)).trans (hlater job hjob)
      have htransition : ApplicationJobTransitionPolicy.requireTransition stored.status .queued =
          .ok () := by
        rw [hleased]
        decide
      obtain ⟨t, hrun, hrequeues⟩ :=
        ih (s := { s with jobs := s.jobs.replace (requeuedJob stored) }) hrest hlater' hleased'
      refine ⟨t, ?_, ?_, ?_⟩
      · rw [recoverAll, if_neg hactive, Program.run_lift_bind_of_ok handle htransition,
          Program.run_bind_of_ok handle (run_updateJob (requeuedJob stored) hget rfl rfl),
          Program.run_bind_of_ok handle hrun, List.filter_cons_of_pos hinactive]
        rfl
      · refine List.forall_mem_cons.mpr ⟨fun _ => ?_, hrequeues.requeued⟩
        have hkeep := hrequeues.others (stored.key casefold) fun job hjob _ => hne job hjob
        rw [hkeep, KeyedStore.get_replace hreplaced]
        exact if_pos rfl
      · intro k hk
        obtain ⟨hk, hk'⟩ := List.forall_mem_cons.mp hk
        rw [hrequeues.others k hk', KeyedStore.get_replace hreplaced, if_neg]
        exact fun heq => hk hinactive heq.symm

/-! ## The call -/

variable {queueName : Option String} {limit : ℕ}

theorem validateQuery_leasedJobs (hlimit : 1 ≤ limit)
    (hname : ∀ name ∈ queueName, isBlank name = false) :
    (leasedJobsQuery queueName limit).validateQuery casefold = .ok () := by
  have hnames : ApplicationJobQuery.validateUniqueText casefold (queueNames queueName)
      "queue_names" = .ok () := by
    cases queueName with
    | none => rfl
    | some name =>
      have hblank := hname name rfl
      simp [ApplicationJobQuery.validateUniqueText, raiseIf, queueNames, hblank]
  rw [ApplicationJobQuery.validateQuery, raiseIf_bind_eq_ok, raiseIf_bind_eq_ok, raiseIf_bind_eq_ok]
  refine ⟨Nat.lt_irrefl 1, ?_, ?_, bind_eq_ok.mpr ⟨(), rfl, bind_eq_ok.mpr ⟨(), hnames, rfl⟩⟩⟩
  · exact not_lt.mpr (le_min hlimit (by decide))
  · exact not_lt.mpr (min_le_right limit 200)

theorem recoverExpiredLeases_run (haware : now.isNaive = false) (hlimit : 1 ≤ limit)
    (hname : ∀ name ∈ queueName, isBlank name = false) :
    ∃ t, (recoverExpiredLeases casefold now queueName limit).run handle s =
        (.ok ((((leasedJobs s.jobs queueName limit).take (min limit 200)).filter
          (inactive now)).map requeuedJob), t) ∧
      Requeues now ((leasedJobs s.jobs queueName limit).take (min limit 200)) s.jobs t.jobs := by
  have hmem : ∀ job ∈ (leasedJobs s.jobs queueName limit).take (min limit 200),
      job ∈ s.jobs.records ∧ Selected casefold queueName job ∧ job.lease.isSome = true :=
    fun job hjob => mem_leasedJobs.mp (List.mem_of_mem_take hjob)
  obtain ⟨t, hrun, hrequeues⟩ := @recoverAll_run casefold s now _
    (nodup_leasedJobs.sublist ((List.take_sublist (min limit 200)
      (leasedJobs s.jobs queueName limit)).map _))
    (fun job hjob => KeyedStore.get_of_mem (hmem job hjob).1) fun job hjob => (hmem job hjob).2.1.1
  refine ⟨t, ?_, hrequeues⟩
  have hvalid : (leasedJobsQuery queueName limit).validateQuery casefold = .ok () :=
    validateQuery_leasedJobs hlimit hname
  have hlist : (ApplicationJobRepository.list casefold (leasedJobsQuery queueName limit)).run
      handle s = (.ok (InMemoryApplicationJobRepository.list s.jobs
        (leasedJobsQuery queueName limit)), s) := by
    rw [ApplicationJobRepository.run_list, hvalid]
    rfl
  have haware' : requireAware now = .ok () := raiseIf_eq_ok.mpr (by simp [haware])
  have hlimit' : raiseIf (limit < 1)
      ⟨.applicationJobQueueServiceError, "limit must be at least 1"⟩ = .ok () :=
    raiseIf_eq_ok.mpr (by omega)
  rw [recoverExpiredLeases, Program.run_lift_bind_of_ok handle haware',
    Program.run_lift_bind_of_ok handle hlimit',
    Program.run_bind_of_ok handle hlist, take_items, hrun]

/-- What the call is for. -/
structure Recovers (now : Datetime) (queueName : Option String) (limit : ℕ)
    (before : ApplicationRepositories casefold)
    (outcome : Except Raised (List ApplicationJobRecord) × ApplicationRepositories casefold) :
    Prop where
  drained : ∃ recovered, outcome.1 = .ok recovered ∧ (recovered.length = limit ∨
    ∀ job ∈ outcome.2.jobs.records, Selected casefold queueName job → ¬Expired now job)
  untouched : ∀ job ∈ before.jobs.records, Unexpired now job →
    outcome.2.jobs.get (job.key casefold) = some job

/-- When it does so. The jobs are taken in the order of `list`, the latest first. -/
structure Reaches (now : Datetime) (queueName : Option String) (limit : ℕ)
    (jobs : InMemoryApplicationJobRepository casefold) : Prop where
  begun : ∀ job ∈ (leasedJobs jobs queueName limit).take (min limit 200), ¬Early now job
  drained : (limit ≤ 200 ∧ limit ≤ (leasedJobs jobs queueName limit).length ∧
      ∀ job ∈ (leasedJobs jobs queueName limit).take limit, Expired now job) ∨
    ∀ job ∈ (leasedJobs jobs queueName limit).drop (min limit 200), ¬Expired now job

theorem length_filter_take_eq {jobs : List ApplicationJobRecord} {p : ApplicationJobRecord → Bool} :
    ((jobs.take (min limit 200)).filter p).length = limit ↔
      limit ≤ 200 ∧ limit ≤ jobs.length ∧ ∀ job ∈ jobs.take limit, p job = true := by
  constructor
  · intro hlength
    have hle := List.length_filter_le p (jobs.take (min limit 200))
    rw [hlength, List.length_take] at hle
    have hmin : min limit 200 = limit := by omega
    refine ⟨by omega, by omega, ?_⟩
    rw [hmin] at hlength
    refine List.length_filter_eq_length_iff.mp (hlength.trans ?_)
    rw [List.length_take]
    omega
  · rintro ⟨hsmall, hlength, hall⟩
    rw [Nat.min_eq_left hsmall, List.filter_eq_self.mpr hall, List.length_take]
    omega

section

variable {now : Datetime} {queueName : Option String} {limit : ℕ}
  {jobs after : InMemoryApplicationJobRepository casefold}

theorem Requeues.get_cases
    (h : Requeues now ((leasedJobs jobs queueName limit).take (min limit 200)) jobs after)
    (k : String) :
    (∃ job ∈ (leasedJobs jobs queueName limit).take (min limit 200), inactive now job = true ∧
      job.key casefold = k ∧ after.get k = some (requeuedJob job)) ∨
    ((∀ job ∈ (leasedJobs jobs queueName limit).take (min limit 200), inactive now job = true →
      job.key casefold ≠ k) ∧ after.get k = jobs.get k) := by
  by_cases hpage : ∃ job ∈ (leasedJobs jobs queueName limit).take (min limit 200),
      inactive now job = true ∧ job.key casefold = k
  · obtain ⟨job, hjob, hinactive, rfl⟩ := hpage
    exact .inl ⟨job, hjob, hinactive, rfl, h.requeued job hjob hinactive⟩
  · have hothers : ∀ job ∈ (leasedJobs jobs queueName limit).take (min limit 200),
        inactive now job = true → job.key casefold ≠ k :=
      fun job hjob hinactive hkey => hpage ⟨job, hjob, hinactive, hkey⟩
    exact .inr ⟨hothers, h.others k hothers⟩

theorem Requeues.untouched_iff
    (h : Requeues now ((leasedJobs jobs queueName limit).take (min limit 200)) jobs after) :
    (∀ job ∈ jobs.records, Unexpired now job → after.get (job.key casefold) = some job) ↔
      ∀ job ∈ (leasedJobs jobs queueName limit).take (min limit 200), ¬Early now job := by
  constructor
  · intro huntouched job hjob hearly
    obtain ⟨hmem, hselected, _⟩ := mem_leasedJobs.mp (List.mem_of_mem_take hjob)
    have hkept := huntouched job hmem (unexpired_of_early hearly)
    rw [h.requeued job hjob (inactive_iff.mpr (.inr hearly)), Option.some.injEq] at hkept
    have hstatus : (requeuedJob job).status = job.status := congrArg _ hkept
    rw [hselected.1] at hstatus
    cases hstatus
  · intro hbegun job hmem hunexpired
    rcases h.get_cases (job.key casefold) with ⟨other, hother, hinactive, hkey, _⟩ | ⟨_, hget⟩
    · have hstored := KeyedStore.get_of_mem (mem_leasedJobs.mp (List.mem_of_mem_take hother)).1
      rw [hkey, KeyedStore.get_of_mem hmem, Option.some.injEq] at hstored
      subst hstored
      rcases inactive_iff.mp hinactive with hexpired | hearly
      · exact absurd hexpired (not_expired_of_unexpired hunexpired)
      · exact absurd hearly (hbegun job hother)
    · rw [hget, KeyedStore.get_of_mem hmem]

theorem Requeues.drained_iff
    (h : Requeues now ((leasedJobs jobs queueName limit).take (min limit 200)) jobs after) :
    (∀ job ∈ after.records, Selected casefold queueName job → ¬Expired now job) ↔
      ∀ job ∈ (leasedJobs jobs queueName limit).drop (min limit 200), ¬Expired now job := by
  constructor
  · intro hdrained job hjob
    obtain ⟨hmem, hselected, _⟩ := mem_leasedJobs.mp (List.mem_of_mem_drop hjob)
    refine hdrained job ?_ hselected
    rcases h.get_cases (job.key casefold) with ⟨other, hother, _, hkey, _⟩ | ⟨_, hget⟩
    · have hnodup := @nodup_leasedJobs casefold jobs queueName limit
      rw [← List.take_append_drop (min limit 200) (leasedJobs jobs queueName limit),
        List.map_append] at hnodup
      have hdisjoint := List.disjoint_of_nodup_append hnodup
      exact absurd (hkey ▸ List.mem_map_of_mem hother)
        fun hleft => hdisjoint hleft (List.mem_map_of_mem hjob)
    · rw [KeyedStore.get_of_mem hmem] at hget
      exact (KeyedStore.get_eq_some.mp hget).1
  · intro hbehind job hmem hselected hexpired
    have hafter := KeyedStore.get_of_mem hmem
    rcases h.get_cases (job.key casefold) with ⟨other, _, _, _, hget⟩ | ⟨hothers, hget⟩
    · rw [hget, Option.some.injEq] at hafter
      have hstatus := hselected.1
      rw [← hafter] at hstatus
      cases hstatus
    · rw [hget] at hafter
      have ⟨lease, hlease, _⟩ := hexpired
      have hjob : job ∈ leasedJobs jobs queueName limit := mem_leasedJobs.mpr
        ⟨(KeyedStore.get_eq_some.mp hafter).1, hselected, by rw [hlease]; rfl⟩
      rw [← List.take_append_drop (min limit 200) (leasedJobs jobs queueName limit),
        List.mem_append] at hjob
      rcases hjob with hjob | hjob
      · exact hothers job hjob (inactive_iff.mpr (.inl hexpired)) rfl
      · exact hbehind job hjob hexpired

theorem length_recovered_iff
    (hbegun : ∀ job ∈ (leasedJobs jobs queueName limit).take (min limit 200), ¬Early now job) :
    ((((leasedJobs jobs queueName limit).take (min limit 200)).filter
      (inactive now)).map requeuedJob).length = limit ↔
      limit ≤ 200 ∧ limit ≤ (leasedJobs jobs queueName limit).length ∧
        ∀ job ∈ (leasedJobs jobs queueName limit).take limit, Expired now job := by
  rw [List.length_map, length_filter_take_eq]
  refine and_congr_right fun hsmall => and_congr_right fun _ => forall₂_congr fun job hjob => ?_
  rw [inactive_iff]
  rw [Nat.min_eq_left hsmall] at hbegun
  exact or_iff_left (hbegun job hjob)

end

theorem staleWall_lt : 63921499230000000 < maxWall := by decide

theorem staleLease_valid : validateLease "lease-001" "worker-001" sampleTime
    ⟨63921499230000000, some 0, staleWall_lt⟩ = .ok () := by
  decide +kernel

/-- A job whose lease ran out half a minute behind `sampleTime`. -/
def sampleStaleJob : ApplicationJobRecord :=
  { sampleJob with
    status := .leased
    queuedAt := some sampleTime
    lease := some ⟨"lease-001", "worker-001", sampleTime, ⟨63921499230000000, some 0, staleWall_lt⟩,
      staleLease_valid⟩ }

/-- A job of a later time, whose lease still runs a minute behind `sampleTime`. -/
def sampleLiveJob : ApplicationJobRecord :=
  { sampleJob with
    jobId := "job-002"
    rootJobId := "job-002"
    createdAt := ⟨63921499200000001, some 0, by decide⟩
    availableAt := ⟨63921499200000001, some 0, by decide⟩
    status := .leased
    queuedAt := some ⟨63921499200000001, some 0, by decide⟩
    lease := some ⟨"lease-002", "worker-002", ⟨63921499200000001, some 0, by decide⟩,
      ⟨63921499320000000, some 0, by decide⟩, by decide +kernel⟩ }

def sampleLeases : ApplicationRepositories asciiCasefold :=
  storesOf [sampleLiveJob, sampleStaleJob] (by decide +kernel)

/-- A minute behind `sampleTime` -/
def sampleNow : Datetime := ⟨63921499260000000, some 0, by decide⟩

theorem leasedJobs_sampleLeases :
    leasedJobs sampleLeases.jobs none 1 = [sampleLiveJob, sampleStaleJob] := by
  apply List.mergeSort_of_pairwise
  have hkept : sampleLeases.jobs.records.filter
      ((leasedJobsQuery none 1).keeps asciiCasefold) = [sampleLiveJob, sampleStaleJob] := rfl
  rw [hkept, List.pairwise_pair]
  decide +kernel

end ApplicationJobQueueService

end AgenticLab
