import AgenticLab.Verification.Application.JobRecord
import AgenticLab.Verification.Application.Repositories

/-! # Which job `acquire` leases -/

namespace AgenticLab

open InMemoryApplicationJobRepository
open RepositoryOperation (handle)

variable {casefold : Casefold}

namespace InMemoryApplicationJobRepository

/-! ## The order of pickup -/

theorem picksBefore_trans (a b c : ApplicationJobRecord) (hab : picksBefore casefold a b = true)
    (hbc : picksBefore casefold b c = true) : picksBefore casefold a c = true :=
  decide_eq_true (le_trans (of_decide_eq_true hab) (of_decide_eq_true hbc))

theorem picksBefore_total (a b : ApplicationJobRecord) :
    (picksBefore casefold a b || picksBefore casefold b a) = true := by
  simp only [picksBefore, Bool.or_eq_true, decide_eq_true_eq]
  exact le_total _ _

theorem picksBefore_antisymm {repository : InMemoryApplicationJobRepository casefold}
    {a b : ApplicationJobRecord} (ha : a ∈ repository.records) (hb : b ∈ repository.records)
    (hab : picksBefore casefold a b = true) (hba : picksBefore casefold b a = true) : a = b := by
  have hkeys : pickupKey casefold a = pickupKey casefold b :=
    le_antisymm (of_decide_eq_true hab) (of_decide_eq_true hba)
  have hids : a.key casefold = b.key casefold := by
    have hrest := congrArg (fun key => (ofLex key).2) hkeys
    have hlast := congrArg (fun key => (ofLex (ofLex key).2).2) hrest
    exact hlast
  exact List.inj_on_of_nodup_map repository.nodup ha hb hids

theorem picksBefore_of_mergeSort {records rest : List ApplicationJobRecord}
    {first : ApplicationJobRecord} (h : records.mergeSort (picksBefore casefold) = first :: rest) :
    first ∈ records ∧ ∀ other ∈ records, picksBefore casefold first other = true := by
  have hperm := List.mergeSort_perm records (picksBefore casefold)
  have hsorted : (records.mergeSort (picksBefore casefold)).Pairwise
      (fun a b => picksBefore casefold a b = true) :=
    List.pairwise_mergeSort picksBefore_trans picksBefore_total records
  rw [h] at hperm hsorted
  refine ⟨hperm.mem_iff.mp List.mem_cons_self, ?_⟩
  intro other hother
  rcases List.mem_cons.mp (hperm.mem_iff.mpr hother) with rfl | hrest
  · exact decide_eq_true le_rfl
  · exact List.rel_of_pairwise_cons hsorted hrest

end InMemoryApplicationJobRepository

namespace ApplicationJobQueueService

def leaseOf (queueName workerId : String) (now : Datetime) (leaseDurationSeconds : ℚ)
    (leaseId : String) : Except Raised ApplicationJobLease := do
  requireAware now
  raiseIf (isBlank workerId) ⟨.applicationJobQueueServiceError, "worker_id must not be blank"⟩
  raiseIf (leaseDurationSeconds ≤ 0)
    ⟨.applicationJobQueueServiceError, "lease_duration_seconds must be greater than 0"⟩
  raiseIf (isBlank queueName) ⟨.valueError, "queue_name must not be blank"⟩
  newLease (← newLeaseId leaseId) workerId now (← now.addSeconds leaseDurationSeconds)

def IsQueuedAndDue (s : ApplicationRepositories casefold) (queueName : String) (now : Datetime)
    (job : ApplicationJobRecord) : Prop :=
  job ∈ s.jobs.candidates queueName now ∧ job.status = .queued

def IsFirst (s : ApplicationRepositories casefold) (queueName : String) (now : Datetime)
    (job : ApplicationJobRecord) : Prop :=
  IsQueuedAndDue s queueName now job ∧
    ∀ other, IsQueuedAndDue s queueName now other → picksBefore casefold job other = true

structure WorkConserving (s : ApplicationRepositories casefold) (queueName workerId : String)
    (now : Datetime) (leaseDurationSeconds : ℚ) (leaseId : String)
    (lease : ApplicationJobLease) : Prop where
  none_iff : ((acquire queueName workerId now leaseDurationSeconds leaseId).run handle s).1 =
      .ok none ↔ ∀ job, ¬IsQueuedAndDue s queueName now job
  leases_first : ∀ job, IsFirst s queueName now job →
    (acquire queueName workerId now leaseDurationSeconds leaseId).run handle s =
      (.ok (some (leasedJob job lease)), { s with jobs := s.jobs.replace (leasedJob job lease) })

section

variable {s : ApplicationRepositories casefold} {queueName workerId leaseId : String}
  {now : Datetime} {leaseDurationSeconds : ℚ} {lease : ApplicationJobLease}

theorem run_acquire
    (hlease : leaseOf queueName workerId now leaseDurationSeconds leaseId = .ok lease) :
    (acquire queueName workerId now leaseDurationSeconds leaseId).run handle s =
      match (s.jobs.candidates queueName now).mergeSort (picksBefore casefold) with
      | [] => (.ok none, s)
      | first :: _ =>
        if first.status = .queued then
          (.ok (some (leasedJob first lease)),
            { s with jobs := s.jobs.replace (leasedJob first lease) })
        else (.ok none, s) := by
  unfold leaseOf requireAware at hlease
  obtain ⟨haware, hlease⟩ := raiseIf_bind_eq_ok.mp hlease
  obtain ⟨hworker, hlease⟩ := raiseIf_bind_eq_ok.mp hlease
  obtain ⟨hseconds, hlease⟩ := raiseIf_bind_eq_ok.mp hlease
  obtain ⟨hqueue, hlease⟩ := raiseIf_bind_eq_ok.mp hlease
  obtain ⟨id, hid, hlease⟩ := bind_eq_ok.mp hlease
  obtain ⟨expiresAt, hexpires, hlease⟩ := bind_eq_ok.mp hlease
  have hfind : findAvailable s.jobs queueName now 1 =
      .ok (((s.jobs.candidates queueName now).mergeSort (picksBefore casefold)).take 1) := by
    simp [findAvailable, raiseIf, hqueue, haware]
  simp only [acquire, requireAware, Program.run_bind, Program.run_lift, raiseIf, if_neg haware,
    if_neg hworker, if_neg hseconds, ApplicationJobRepository.run_findAvailable, hfind]
  cases hsorted : (s.jobs.candidates queueName now).mergeSort (picksBefore casefold) with
  | nil => rfl
  | cons first rest =>
    by_cases hstatus : first.status = .queued
    · have hmem := (mem_candidates.mp (picksBefore_of_mergeSort hsorted).1).1
      have hget : s.jobs.get ((leasedJob first lease).key casefold) = some first :=
        KeyedStore.get_of_mem hmem
      have hupdate := update_of_get hget rfl
      have htransition : ApplicationJobTransitionPolicy.requireTransition .queued .leased =
          .ok () := rfl
      simp [hstatus, htransition, hid, hexpires, hlease, Program.run_bind,
        ApplicationJobRepository.run_update, hupdate]
    · simp [hstatus]

/-- A call is work-conserving exactly when no due job that is not queued yet stands ahead of all
the queued ones. -/
theorem acquire_workConserving_iff
    (hlease : leaseOf queueName workerId now leaseDurationSeconds leaseId = .ok lease) :
    WorkConserving s queueName workerId now leaseDurationSeconds leaseId lease ↔
      ((∃ job, IsQueuedAndDue s queueName now job) →
        ∀ other ∈ s.jobs.candidates queueName now, other.status ≠ .queued →
          ∃ job, IsQueuedAndDue s queueName now job ∧ picksBefore casefold job other = true) := by
  have hrun := run_acquire (s := s) hlease
  cases hsorted : (s.jobs.candidates queueName now).mergeSort (picksBefore casefold) with
  | nil =>
    rw [hsorted] at hrun
    have hempty : s.jobs.candidates queueName now = [] :=
      List.Perm.eq_nil (hsorted ▸ (List.mergeSort_perm _ _).symm)
    have hnone : ∀ job, ¬IsQueuedAndDue s queueName now job := by
      rintro job ⟨hjob, _⟩
      rw [hempty] at hjob
      cases hjob
    refine iff_of_true ⟨?_, ?_⟩ ?_
    · rw [hrun]
      exact iff_of_true rfl hnone
    · intro job hjob
      exact absurd hjob.1 (hnone job)
    · rintro ⟨job, hjob⟩
      exact absurd hjob (hnone job)
  | cons first rest =>
    rw [hsorted] at hrun
    obtain ⟨hfirst, hahead⟩ := picksBefore_of_mergeSort hsorted
    have hstored : ∀ {job}, job ∈ s.jobs.candidates queueName now → job ∈ s.jobs.records :=
      fun hjob => (mem_candidates.mp hjob).1
    by_cases hstatus : first.status = .queued
    · have hqueued : IsQueuedAndDue s queueName now first := ⟨hfirst, hstatus⟩
      simp only [if_pos hstatus] at hrun
      refine iff_of_true ⟨?_, ?_⟩ ?_
      · rw [hrun]
        exact iff_of_false nofun fun hnone => hnone first hqueued
      · intro job hjob
        have heq : job = first := picksBefore_antisymm (hstored hjob.1.1) (hstored hfirst)
          (hjob.2 first hqueued) (hahead job hjob.1.1)
        rw [heq]
        exact hrun
      · intro _ other hother _
        exact ⟨first, hqueued, hahead other hother⟩
    · simp only [if_neg hstatus] at hrun
      constructor
      · intro hconserving hexists
        have hnone := hconserving.none_iff.mp (congrArg Prod.fst hrun)
        obtain ⟨job, hjob⟩ := hexists
        exact absurd hjob (hnone job)
      · intro hcondition
        have hnone : ∀ job, ¬IsQueuedAndDue s queueName now job := by
          intro job hjob
          obtain ⟨other, hother, hbefore⟩ := hcondition ⟨job, hjob⟩ first hfirst hstatus
          have heq : other = first := picksBefore_antisymm (hstored hother.1) (hstored hfirst)
            hbefore (hahead other hother.1)
          exact hstatus (heq ▸ hother.2)
        refine ⟨?_, ?_⟩
        · rw [hrun]
          exact iff_of_true rfl hnone
        · intro job hjob
          exact absurd hjob.1 (hnone job)

end

def sampleQueuedJob : ApplicationJobRecord :=
  { sampleJob with
    jobId := "job-002"
    rootJobId := "job-002"
    status := .queued
    queuedAt := some sampleTime }

def sampleUrgentJob : ApplicationJobRecord := { sampleJob with priority := .high }

def sampleLease : ApplicationJobLease where
  leaseId := "lease-001"
  workerId := "worker-001"
  acquiredAt := sampleTime
  expiresAt := ⟨63921499230000000, some 0, by decide⟩
  valid := by decide +kernel

example : sampleTime.addSeconds 30 = .ok sampleLease.expiresAt := by decide +kernel

theorem leaseOf_sample :
    leaseOf "research" "worker-001" sampleTime 30 "lease-001" = .ok sampleLease := by
  have hseconds : ¬(30 : ℚ) ≤ 0 := by decide
  have hexpires : sampleTime.addSeconds 30 = .ok sampleLease.expiresAt := by decide +kernel
  refine raiseIf_bind_eq_ok.mpr ⟨by decide, raiseIf_bind_eq_ok.mpr ⟨by decide, ?_⟩⟩
  refine raiseIf_bind_eq_ok.mpr ⟨hseconds, raiseIf_bind_eq_ok.mpr ⟨by decide, ?_⟩⟩
  exact bind_eq_ok.mpr ⟨"lease-001", rfl, bind_eq_ok.mpr ⟨_, hexpires, rfl⟩⟩

theorem acquire_workConserving_iff_sample :
    WorkConserving (storesOf [sampleQueuedJob] (List.nodup_singleton _)) "research" "worker-001"
      sampleTime 30 "lease-001" sampleLease := by
  apply (acquire_workConserving_iff leaseOf_sample).mpr
  intro _ other hother hstatus
  rw [List.mem_singleton.mp (mem_candidates.mp hother).1] at hstatus
  exact absurd rfl hstatus

theorem acquire_overlooks_queued_job :
    ¬WorkConserving (storesOf [sampleUrgentJob, sampleQueuedJob] (by decide +kernel)) "research"
      "worker-001" sampleTime 30 "lease-001" sampleLease := by
  intro h
  have hcandidates : (storesOf [sampleUrgentJob, sampleQueuedJob]
      (by decide +kernel)).jobs.candidates "research" sampleTime =
        [sampleUrgentJob, sampleQueuedJob] := rfl
  have hsorted : [sampleUrgentJob, sampleQueuedJob].mergeSort (picksBefore asciiCasefold) =
      [sampleUrgentJob, sampleQueuedJob] := by
    apply List.mergeSort_of_pairwise
    rw [List.pairwise_pair]
    decide +kernel
  have hrun := run_acquire (s := storesOf [sampleUrgentJob, sampleQueuedJob] (by decide +kernel))
    leaseOf_sample
  rw [hcandidates, hsorted] at hrun
  have hnone := h.none_iff.mp (congrArg Prod.fst hrun) sampleQueuedJob
  apply hnone
  rw [IsQueuedAndDue, hcandidates]
  exact ⟨List.mem_cons_of_mem _ List.mem_cons_self, rfl⟩

end ApplicationJobQueueService

end AgenticLab
