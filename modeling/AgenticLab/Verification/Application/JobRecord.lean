import AgenticLab.Model.Application.Services
import Mathlib.Data.List.ReduceOption

/-! # Valid job records

What `validate_record` accepts, and which of the copies that the services store it would accept. -/

namespace AgenticLab

theorem requireAware_eq_ok {times : List (String × Option Datetime)} :
    Datetime.requireAware times = .ok () ↔
      ∀ entry ∈ times, ∀ t ∈ entry.2, t.isNaive = false := by
  induction times with
  | nil => simp [Datetime.requireAware]
  | cons entry times ih =>
    obtain ⟨fieldName, value⟩ := entry
    rw [Datetime.requireAware, raiseIf_bind_eq_ok, ih]
    cases value <;> simp

namespace ApplicationJobRecord

open ApplicationJobStatus

theorem requireOrdered_eq_ok {previous : Datetime} {times : List (Option Datetime)} :
    requireOrdered previous times = .ok () ↔
      (previous :: times.reduceOption).IsChain (· ≤ ·) := by
  induction times generalizing previous with
  | nil => simp [requireOrdered]
  | cons time times ih =>
    cases time with
    | none => rw [requireOrdered, ih, List.reduceOption_cons_of_none]
    | some value =>
      rw [requireOrdered, raiseIf_bind_eq_ok, ih, List.reduceOption_cons_of_some,
        List.isChain_cons_cons, Datetime.not_lt]

/-- Which fields go with which status. -/
structure StatusContract (record : ApplicationJobRecord) : Prop where
  finished : record.finishedAt.isSome ↔ record.status ∈ terminalStatuses
  started : record.status = .running → record.startedAt.isSome
  lease : record.lease.isSome ↔ record.status ∈ leasedStatuses
  failure : record.failure.isSome ↔ record.status ∈ failureStatuses
  cancellation : record.cancellation.isSome ↔ record.status ∈ cancellationStatuses
  retry : record.status = .retryScheduled → record.attemptNumber < record.maximumAttempts

theorem isSome_iff_of_checks {α : Type} {field : Option α} {condition : Prop} :
    (¬(condition ∧ field.isNone = true) ∧ ¬(¬condition ∧ field.isSome = true)) ↔
      (field.isSome ↔ condition) := by
  cases field <;> simp

variable {record : ApplicationJobRecord}

theorem validateStatusContract_eq_ok :
    record.validateStatusContract = .ok () ↔ StatusContract record := by
  simp only [validateStatusContract, raiseIf_bind_eq_ok, raiseIf_eq_ok]
  constructor
  · rintro ⟨hfin, hunfinished, hstarted, hlease, hunleased, hfailure, hunfailed, hcancel,
      huncancelled, hretry⟩
    refine ⟨isSome_iff_of_checks.mp ⟨hfin, hunfinished⟩, ?_,
      isSome_iff_of_checks.mp ⟨hlease, hunleased⟩, isSome_iff_of_checks.mp ⟨hfailure, hunfailed⟩,
      isSome_iff_of_checks.mp ⟨hcancel, huncancelled⟩, ?_⟩
    · intro hstatus
      rw [Option.isSome_iff_ne_none]
      rintro hnone
      exact hstarted ⟨hstatus, by rw [hnone]; rfl⟩
    · intro hstatus
      exact not_le.mp fun hle => hretry ⟨hstatus, hle⟩
  · intro h
    obtain ⟨hfin, hunfinished⟩ := isSome_iff_of_checks.mpr h.finished
    obtain ⟨hlease, hunleased⟩ := isSome_iff_of_checks.mpr h.lease
    obtain ⟨hfailure, hunfailed⟩ := isSome_iff_of_checks.mpr h.failure
    obtain ⟨hcancel, huncancelled⟩ := isSome_iff_of_checks.mpr h.cancellation
    refine ⟨hfin, hunfinished, ?_, hlease, hunleased, hfailure, hunfailed, hcancel, huncancelled,
      ?_⟩
    · rintro ⟨hstatus, hnone⟩
      have hsome := h.started hstatus
      rw [Option.isNone_iff_eq_none.mp hnone] at hsome
      cases hsome
    · rintro ⟨hstatus, hle⟩
      exact absurd (h.retry hstatus) (not_lt.mpr hle)

def times (record : ApplicationJobRecord) : List Datetime :=
  [record.queuedAt, record.startedAt, record.finishedAt].reduceOption

structure Valid (record : ApplicationJobRecord) : Prop where
  identity : record.validateIdentity = .ok ()
  aware : ∀ t ∈ record.availableAt :: record.createdAt :: record.times, t.isNaive = false
  available : record.createdAt ≤ record.availableAt
  ordered : (record.createdAt :: record.times).IsChain (· ≤ ·)
  contract : StatusContract record
  metadata : validateMetadata record.metadata = .ok ()

theorem validateRecord_eq_ok : record.validateRecord = .ok () ↔ Valid record := by
  have haware : (∀ t ∈ record.availableAt :: record.createdAt :: record.times,
      t.isNaive = false) ↔ ∀ entry ∈ [("available_at", some record.availableAt),
        ("created_at", some record.createdAt), ("queued_at", record.queuedAt),
        ("started_at", record.startedAt), ("finished_at", record.finishedAt)],
        ∀ t ∈ entry.2, t.isNaive = false := by
    have hsymm : ∀ field : Option Datetime, (∀ t, some t = field → t.isNaive = false) ↔
        ∀ t, field = some t → t.isNaive = false :=
      fun field => forall_congr' fun t => by rw [eq_comm]
    simp [times, List.reduceOption_mem_iff, or_imp, forall_and, hsymm]
  constructor
  · intro h
    obtain ⟨_, hidentity, h⟩ := bind_eq_ok.mp h
    obtain ⟨_, htimestamps, h⟩ := bind_eq_ok.mp h
    obtain ⟨_, hcontract, hmetadata⟩ := bind_eq_ok.mp h
    obtain ⟨_, hnaive, htimestamps⟩ := bind_eq_ok.mp htimestamps
    obtain ⟨havailable, hordered⟩ := raiseIf_bind_eq_ok.mp htimestamps
    exact ⟨hidentity, haware.mpr (requireAware_eq_ok.mp hnaive), Datetime.not_lt.mp havailable,
      requireOrdered_eq_ok.mp hordered, validateStatusContract_eq_ok.mp hcontract, hmetadata⟩
  · intro h
    have htimestamps : record.validateTimestamps = .ok () :=
      bind_eq_ok.mpr ⟨(), requireAware_eq_ok.mpr (haware.mp h.aware),
        raiseIf_bind_eq_ok.mpr ⟨Datetime.not_lt.mpr h.available,
          requireOrdered_eq_ok.mpr h.ordered⟩⟩
    exact bind_eq_ok.mpr ⟨(), h.identity, bind_eq_ok.mpr ⟨(), htimestamps,
      bind_eq_ok.mpr ⟨(), validateStatusContract_eq_ok.mpr h.contract, h.metadata⟩⟩⟩

/-! ## Copies of a valid record -/

variable {stored : ApplicationJobRecord} {now : Datetime}

theorem Valid.finishedAt_eq_none (h : stored.Valid) (hstatus : stored.status ∉ terminalStatuses) :
    stored.finishedAt = none := by
  rw [← Option.not_isSome_iff_eq_none, h.contract.finished]
  exact hstatus

theorem Valid.failure_eq_none_iff (h : stored.Valid) :
    stored.failure = none ↔ stored.status ∉ failureStatuses := by
  rw [← Option.not_isSome_iff_eq_none, h.contract.failure]

theorem Valid.cancellation_eq_none (h : stored.Valid)
    (hstatus : stored.status ∉ cancellationStatuses) : stored.cancellation = none := by
  rw [← Option.not_isSome_iff_eq_none, h.contract.cancellation]
  exact hstatus

theorem Valid.lease_eq_none (h : stored.Valid) (hstatus : stored.status ∉ leasedStatuses) :
    stored.lease = none := by
  rw [← Option.not_isSome_iff_eq_none, h.contract.lease]
  exact hstatus

theorem times_of_unfinished (h : stored.finishedAt = none) :
    stored.times = stored.queuedAt.toList ++ stored.startedAt.toList := by
  unfold times
  rw [h]
  cases stored.queuedAt <;> cases stored.startedAt <;> rfl

theorem Valid.naive_of_times {copy : ApplicationJobRecord} (h : stored.Valid)
    (havailable : copy.availableAt = stored.availableAt)
    (hcreated : copy.createdAt = stored.createdAt)
    (htimes : ∀ t ∈ copy.times, t ∈ stored.times ∨ t.isNaive = false) :
    ∀ t ∈ copy.availableAt :: copy.createdAt :: copy.times, t.isNaive = false := by
  rw [havailable, hcreated]
  intro t ht
  rcases List.mem_cons.mp ht with rfl | ht
  · exact h.aware _ List.mem_cons_self
  rcases List.mem_cons.mp ht with rfl | ht
  · exact h.aware _ (List.mem_cons_of_mem _ List.mem_cons_self)
  · rcases htimes t ht with hold | hnew
    · exact h.aware t (List.mem_cons_of_mem _ (List.mem_cons_of_mem _ hold))
    · exact hnew

end ApplicationJobRecord

namespace ApplicationJobQueueService

open ApplicationJobStatus ApplicationJobRecord

variable {stored : ApplicationJobRecord} {now : Datetime}

theorem mem_queueableStatuses {stored : ApplicationJobRecord}
    (h : stored.availableForQueueAt now = true) :
    stored.status ∈ queueableStatuses ∧ stored.availableAt ≤ now := by
  simpa [availableForQueueAt] using h

theorem enqueuedJob_valid_iff (h : stored.Valid) (haware : now.isNaive = false)
    (havailable : stored.availableForQueueAt now = true) :
    (enqueuedJob stored now).Valid ↔
      stored.status ≠ .retryScheduled ∧ ∀ t ∈ stored.startedAt, now ≤ t := by
  obtain ⟨hstatus, hdue⟩ := mem_queueableStatuses havailable
  have hunfinished : stored.finishedAt = none := h.finishedAt_eq_none (by
    revert hstatus
    cases stored.status <;> decide)
  have hlease : stored.lease = none := h.lease_eq_none (by
    revert hstatus
    cases stored.status <;> decide)
  have hcancellation : stored.cancellation = none := h.cancellation_eq_none (by
    revert hstatus
    cases stored.status <;> decide)
  have hfailure : stored.failure = none ↔ stored.status ≠ .retryScheduled := by
    rw [h.failure_eq_none_iff]
    revert hstatus
    cases stored.status <;> decide
  have htimes : (enqueuedJob stored now).times = now :: stored.startedAt.toList :=
    times_of_unfinished hunfinished
  have hcreated : stored.createdAt ≤ now := h.available.trans hdue
  have hordered : ((enqueuedJob stored now).createdAt ::
      (enqueuedJob stored now).times).IsChain (· ≤ ·) ↔ ∀ t ∈ stored.startedAt, now ≤ t := by
    rw [htimes, List.isChain_cons_cons]
    change stored.createdAt ≤ now ∧ _ ↔ _
    rw [and_iff_right hcreated]
    cases stored.startedAt <;> simp
  constructor
  · intro hvalid
    refine ⟨hfailure.mp ?_, hordered.mp hvalid.ordered⟩
    exact hvalid.failure_eq_none_iff.mpr (by decide : ApplicationJobStatus.queued ∉ failureStatuses)
  · rintro ⟨hretry, hstarted⟩
    refine ⟨h.identity, h.naive_of_times rfl rfl ?_, h.available, hordered.mpr hstarted, ?_,
      h.metadata⟩
    · intro t ht
      rw [htimes] at ht
      rcases List.mem_cons.mp ht with rfl | ht
      · exact .inr haware
      · rw [times_of_unfinished hunfinished]
        exact .inl (List.mem_append_right _ ht)
    · have hnone := hfailure.mpr hretry
      constructor <;>
        simp [enqueuedJob, hunfinished, hlease, hcancellation, hnone, terminalStatuses,
          leasedStatuses, failureStatuses, cancellationStatuses]

theorem leasedJob_valid (h : stored.Valid) (hstatus : stored.status = .queued)
    (lease : ApplicationJobLease) : (leasedJob stored lease).Valid := by
  refine ⟨h.identity, h.aware, h.available, h.ordered, ?_, h.metadata⟩
  have hfinished := h.contract.finished
  have hfailure := h.contract.failure
  have hcancellation := h.contract.cancellation
  rw [hstatus] at hfinished hfailure hcancellation
  refine ⟨hfinished.trans ?_, nofun, ?_, hfailure.trans ?_, hcancellation.trans ?_, nofun⟩ <;>
    simp [leasedJob, terminalStatuses, leasedStatuses, failureStatuses, cancellationStatuses]

theorem requeuedJob_valid (h : stored.Valid) (hstatus : stored.status = .leased) :
    (requeuedJob stored).Valid := by
  refine ⟨h.identity, h.aware, h.available, h.ordered, ?_, h.metadata⟩
  have hfinished := h.contract.finished
  have hfailure := h.contract.failure
  have hcancellation := h.contract.cancellation
  rw [hstatus] at hfinished hfailure hcancellation
  refine ⟨hfinished.trans ?_, nofun, ?_, hfailure.trans ?_, hcancellation.trans ?_, nofun⟩ <;>
    simp [requeuedJob, terminalStatuses, leasedStatuses, failureStatuses, cancellationStatuses]

theorem renewedJob_valid (h : stored.Valid) (hlease : stored.lease.isSome)
    (lease : ApplicationJobLease) : (renewedJob stored lease).Valid := by
  refine ⟨h.identity, h.aware, h.available, h.ordered, ?_, h.metadata⟩
  have hstatus := h.contract.lease.mp hlease
  exact ⟨h.contract.finished, h.contract.started, iff_of_true rfl hstatus, h.contract.failure,
    h.contract.cancellation, h.contract.retry⟩

theorem startedJob_valid_iff (h : stored.Valid) (haware : now.isNaive = false)
    (hstatus : stored.status = .leased) :
    (startedJob stored now).Valid ↔ stored.queuedAt.getD stored.createdAt ≤ now := by
  have hunfinished : stored.finishedAt = none :=
    h.finishedAt_eq_none (by rw [hstatus]; decide)
  have htimes : (startedJob stored now).times = stored.queuedAt.toList ++ [now] :=
    times_of_unfinished hunfinished
  have hqueued : ∀ t ∈ stored.queuedAt, stored.createdAt ≤ t := by
    intro t ht
    have hordered := h.ordered
    rw [times_of_unfinished hunfinished, Option.mem_def.mp ht] at hordered
    exact (List.isChain_cons_cons.mp hordered).1
  have hordered : ((startedJob stored now).createdAt ::
      (startedJob stored now).times).IsChain (· ≤ ·) ↔
        stored.queuedAt.getD stored.createdAt ≤ now := by
    rw [htimes]
    change (stored.createdAt :: _).IsChain _ ↔ _
    cases hfield : stored.queuedAt with
    | none => simp
    | some t => simp [hqueued t hfield]
  constructor
  · exact fun hvalid => hordered.mp hvalid.ordered
  · intro hlast
    refine ⟨h.identity, h.naive_of_times rfl rfl ?_, h.available, hordered.mpr hlast, ?_,
      h.metadata⟩
    · intro t ht
      rw [htimes] at ht
      rcases List.mem_append.mp ht with hold | hnew
      · rw [times_of_unfinished hunfinished]
        exact .inl (List.mem_append_left _ hold)
      · rw [List.mem_singleton.mp hnew]
        exact .inr haware
    · have hlease := h.contract.lease
      have hfailure := h.contract.failure
      have hcancellation := h.contract.cancellation
      rw [hstatus] at hlease hfailure hcancellation
      refine ⟨?_, fun _ => rfl, hlease.trans ?_, hfailure.trans ?_, hcancellation.trans ?_,
        nofun⟩ <;>
        simp [startedJob, hunfinished, terminalStatuses, leasedStatuses, failureStatuses,
          cancellationStatuses]

end ApplicationJobQueueService

def sampleTime : Datetime := ⟨63921499200000000, some 0, by decide⟩

def sampleJob : ApplicationJobRecord where
  jobId := "job-001"
  rootJobId := "job-001"
  parentJobId := none
  previousAttemptJobId := none
  requestId := "research-001"
  workspaceId := "workspace-001"
  executionId := some "execution-001"
  jobType := .agentExecution
  queueName := "research"
  priority := .normal
  status := .pending
  payload := [("assignment_id", .atom (.str "assignment-001"))]
  attemptNumber := ⟨1, Nat.one_pos⟩
  maximumAttempts := ⟨3, by decide⟩
  availableAt := sampleTime
  createdAt := sampleTime
  queuedAt := none
  startedAt := none
  finishedAt := none
  lease := none
  failure := none
  cancellation := none
  recordVersion := ⟨1, Nat.one_pos⟩
  metadata := []

def sampleFailure : ApplicationJobFailure where
  category := .timeout
  code := "JOB_TIMEOUT"
  message := "The job timed out."
  retryable := true
  retryReason := some "The timeout may be temporary."
  details := []
  valid := by decide +kernel

def sampleRetryJob : ApplicationJobRecord :=
  { sampleJob with
    status := .retryScheduled
    failure := some sampleFailure }

theorem sampleJob_valid : sampleJob.validateRecord = .ok () := by decide +kernel

theorem sampleRetryJob_valid : sampleRetryJob.validateRecord = .ok () := by decide +kernel

end AgenticLab
