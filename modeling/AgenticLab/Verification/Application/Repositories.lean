import AgenticLab.Model.Application.Repositories

/-! # What the repository operations do -/

namespace AgenticLab

open RepositoryOperation

variable {casefold : Casefold}

namespace InMemoryApplicationJobRepository

variable {repository : InMemoryApplicationJobRepository casefold}

/-- An update puts the next version of the stored record into its place, or it raises and changes
nothing. -/
theorem update_cases (repository : InMemoryApplicationJobRepository casefold)
    (record : ApplicationJobRecord) (expectedVersion : ℕ) :
    (∃ stored, repository.get (record.key casefold) = some stored ∧
        stored.recordVersion.val = expectedVersion ∧
        record.recordVersion.val = expectedVersion + 1 ∧
        update repository record expectedVersion = (.ok record, repository.replace record)) ∨
      ∃ failure, update repository record expectedVersion = (.error failure, repository) := by
  unfold update
  split
  · exact .inr ⟨_, rfl⟩
  split
  · exact .inr ⟨_, rfl⟩
  rename_i stored hget
  split
  · exact .inr ⟨_, rfl⟩
  rename_i hversion
  split
  · exact .inr ⟨_, rfl⟩
  rename_i hnext
  exact .inl ⟨stored, hget, not_not.mp hversion, not_not.mp hnext, rfl⟩

variable {stored record : ApplicationJobRecord}

theorem update_of_get
    (hget : repository.get (record.key casefold) = some stored)
    (hversion : record.recordVersion.val = stored.recordVersion.val + 1) :
    update repository record stored.recordVersion.val =
      (.ok record, repository.replace record) := by
  have hpositive : ¬stored.recordVersion.val < 1 := by
    have := stored.recordVersion.property
    omega
  simp [update, hpositive, hget, hversion]

variable {record : ApplicationJobRecord}

theorem create_of_none (h : repository.get (record.key casefold) = none) :
    create repository record = (.ok record, repository.insert record h) := by
  unfold create
  split
  · rename_i stored hstored
    rw [h] at hstored
    cases hstored
  · rfl

theorem create_of_some
    (h : repository.get (record.key casefold) = some stored) :
    create repository record = (.error ⟨.applicationJobAlreadyExistsError,
      "application job already exists: " ++ record.jobId⟩, repository) := by
  unfold create
  split
  · rfl
  · rename_i hnone
    rw [h] at hnone
    cases hnone

variable {queueName : String} {now : Datetime}

theorem mem_candidates {repository : InMemoryApplicationJobRepository casefold} :
    record ∈ repository.candidates queueName now ↔
      record ∈ repository.records ∧
        normalizeId casefold record.queueName = normalizeId casefold queueName ∧
        record.status ∈ executableStatuses ∧ record.availableAt ≤ now := by
  simp [candidates, and_assoc]

theorem mem_findAvailable {limit : ℕ} {records : List ApplicationJobRecord}
    (h : findAvailable repository queueName now limit = .ok records) (hmem : record ∈ records) :
    record ∈ repository.records := by
  obtain ⟨_, h⟩ := raiseIf_bind_eq_ok.mp h
  obtain ⟨_, h⟩ := raiseIf_bind_eq_ok.mp h
  obtain ⟨_, h⟩ := raiseIf_bind_eq_ok.mp h
  rw [← Except.ok.inj h] at hmem
  exact (mem_candidates.mp (List.mem_mergeSort.mp (List.mem_of_mem_take hmem))).1

theorem totalItems_list (repository : InMemoryApplicationJobRepository casefold)
    (query : ApplicationJobQuery) :
    (repository.list query).totalItems =
      (repository.records.filter (query.keeps casefold)).length := by
  unfold list ApplicationJobQuery.sortRecords
  dsimp only
  split <;> exact List.length_mergeSort _

theorem mem_list {query : ApplicationJobQuery} (h : record ∈ (list repository query).items) :
    record ∈ repository.records ∧ query.keeps casefold record = true := by
  have hordered : record ∈ query.sortRecords casefold
      (repository.records.filter (query.keeps casefold)) :=
    List.mem_of_mem_drop (List.mem_of_mem_take h)
  unfold ApplicationJobQuery.sortRecords at hordered
  cases hdirection : query.sortDirection <;> rw [hdirection] at hordered <;>
    exact List.mem_filter.mp (List.mem_mergeSort.mp hordered)

end InMemoryApplicationJobRepository

namespace InMemoryApplicationCancellationRepository

variable {repository : InMemoryApplicationCancellationRepository casefold}

theorem update_cases (repository : InMemoryApplicationCancellationRepository casefold)
    (record : ApplicationJobCancellationRequestRecord) (expectedVersion : ℕ) :
    (∃ stored, repository.get (record.key casefold) = some stored ∧
        stored.recordVersion.val = expectedVersion ∧
        record.recordVersion.val = expectedVersion + 1 ∧
        update repository record expectedVersion = (.ok record, repository.replace record)) ∨
      ∃ failure, update repository record expectedVersion = (.error failure, repository) := by
  unfold update
  split
  · exact .inr ⟨_, rfl⟩
  split
  · exact .inr ⟨_, rfl⟩
  rename_i stored hget
  split
  · exact .inr ⟨_, rfl⟩
  rename_i hversion
  split
  · exact .inr ⟨_, rfl⟩
  rename_i hnext
  exact .inl ⟨stored, hget, not_not.mp hversion, not_not.mp hnext, rfl⟩

variable {stored record : ApplicationJobCancellationRequestRecord}

theorem update_of_get
    (hget : repository.get (record.key casefold) = some stored)
    (hversion : record.recordVersion.val = stored.recordVersion.val + 1) :
    update repository record stored.recordVersion.val =
      (.ok record, repository.replace record) := by
  have hpositive : ¬stored.recordVersion.val < 1 := by
    have := stored.recordVersion.property
    omega
  simp [update, hpositive, hget, hversion]

theorem create_of_none
    (h : repository.get (record.key casefold) = none) :
    create repository record = (.ok record, repository.insert record h) := by
  unfold create
  split
  · rename_i stored hstored
    rw [h] at hstored
    cases hstored
  · rfl

theorem create_of_some
    (h : repository.get (record.key casefold) = some stored) :
    create repository record = (.error ⟨.applicationCancellationAlreadyExistsError,
      "application cancellation request already exists: " ++ record.cancellationRequestId⟩,
      repository) := by
  unfold create
  split
  · rfl
  · rename_i hnone
    rw [h] at hnone
    cases hnone

end InMemoryApplicationCancellationRepository

variable {s : ApplicationRepositories casefold}

namespace ApplicationJobRepository

theorem run_require (jobId : String) :
    (require jobId).run handle s =
      (match s.jobs.getById jobId with
        | some record => .ok record
        | none => .error ⟨.applicationJobNotFoundError,
            "application job was not found: " ++ jobId⟩, s) := by
  simp only [require, Program.run_bind, Program.run_perform, handle]
  cases s.jobs.getById jobId <;> rfl

theorem run_update (record : ApplicationJobRecord) (expectedVersion : ℕ) :
    (update record expectedVersion).run handle s =
      ((InMemoryApplicationJobRepository.update s.jobs record expectedVersion).1,
        { s with
          jobs := (InMemoryApplicationJobRepository.update s.jobs record expectedVersion).2 }) := by
  simp only [update, Program.run_bind, Program.run_perform, handle, Program.run_lift]

theorem run_create (record : ApplicationJobRecord) :
    (create record).run handle s =
      ((InMemoryApplicationJobRepository.create s.jobs record).1,
        { s with jobs := (InMemoryApplicationJobRepository.create s.jobs record).2 }) := by
  simp only [create, Program.run_bind, Program.run_perform, handle, Program.run_lift]

theorem run_findAvailable (queueName : String) (now : Datetime) (limit : ℕ) :
    (findAvailable queueName now limit).run handle s =
      (InMemoryApplicationJobRepository.findAvailable s.jobs queueName now limit, s) := by
  simp only [findAvailable, Program.run_bind, Program.run_perform, handle, Program.run_lift]

theorem run_list (query : ApplicationJobQuery) :
    (list casefold query).run handle s =
      (do
        query.validateQuery casefold
        return InMemoryApplicationJobRepository.list s.jobs query, s) := by
  simp only [list, Program.run_bind, Program.run_lift, Program.run_perform, handle]
  cases query.validateQuery casefold <;> rfl

end ApplicationJobRepository

namespace ApplicationCancellationRepository

theorem run_require (cancellationRequestId : String) :
    (require cancellationRequestId).run handle s =
      (match s.cancellations.getById cancellationRequestId with
        | some record => .ok record
        | none => .error ⟨.applicationCancellationNotFoundError,
            "application cancellation request was not found: " ++ cancellationRequestId⟩, s) := by
  simp only [require, Program.run_bind, Program.run_perform, handle]
  cases s.cancellations.getById cancellationRequestId <;> rfl

theorem run_update (record : ApplicationJobCancellationRequestRecord) (expectedVersion : ℕ) :
    (update record expectedVersion).run handle s =
      ((InMemoryApplicationCancellationRepository.update s.cancellations record
          expectedVersion).1,
        { s with
          cancellations := (InMemoryApplicationCancellationRepository.update s.cancellations record
            expectedVersion).2 }) := by
  simp only [update, Program.run_bind, Program.run_perform, handle, Program.run_lift]

theorem run_create (record : ApplicationJobCancellationRequestRecord) :
    (create record).run handle s =
      ((InMemoryApplicationCancellationRepository.create s.cancellations record).1,
        { s with
          cancellations :=
            (InMemoryApplicationCancellationRepository.create s.cancellations record).2 }) := by
  simp only [create, Program.run_bind, Program.run_perform, handle, Program.run_lift]

theorem run_findActiveByJobId (jobId : String) :
    (findActiveByJobId jobId).run handle s =
      (.ok ((InMemoryApplicationCancellationRepository.findByJobId s.cancellations jobId).find?
        fun record => !record.terminal), s) := by
  simp only [findActiveByJobId, Program.run_bind, Program.run_perform, handle, Program.run_pure]

end ApplicationCancellationRepository

def storesOf (jobs : List ApplicationJobRecord)
    (h : (jobs.map (ApplicationJobRecord.key asciiCasefold)).Nodup) :
    ApplicationRepositories asciiCasefold := ⟨⟨jobs, h⟩, .empty⟩

end AgenticLab
