import AgenticLab.Model.Application.Transaction
import AgenticLab.Verification.Application.JobRecord

/-! # Transactions that end and that others write into

A transaction restores its resources and can be followed by another one, unless a snapshot raises.
What another client writes in the meantime goes with a rollback. -/

namespace AgenticLab

namespace InMemoryApplicationTransactionManager

variable {ι α : Type} {State : ι → Type} {manager : InMemoryApplicationTransactionManager ι State}
  {states : ∀ i, State i} {resources : List ι}

theorem snapshots_eq_ok {snapshots : List ((i : ι) × (manager.resource i).Snapshot)}
    (h : manager.snapshots states resources = .ok snapshots) :
    snapshots.map Sigma.fst = resources ∧
      ∀ taken ∈ snapshots,
        (manager.resource taken.1).snapshotState (states taken.1) = .ok taken.2 := by
  induction resources generalizing snapshots with
  | nil =>
    obtain rfl := Except.ok.inj h
    exact ⟨rfl, fun _ h => absurd h List.not_mem_nil⟩
  | cons i rest ih =>
    obtain ⟨snapshot, hsnapshot, h⟩ := bind_eq_ok.mp h
    obtain ⟨others, hothers, h⟩ := bind_eq_ok.mp h
    obtain rfl := Except.ok.inj h
    obtain ⟨hids, htaken⟩ := ih hothers
    exact ⟨congrArg (i :: ·) hids, List.forall_mem_cons.mpr ⟨hsnapshot, htaken⟩⟩

theorem exists_snapshots_iff :
    (∃ snapshots, manager.snapshots states resources = .ok snapshots) ↔
      ∀ i ∈ resources, ∃ snapshot,
        (manager.resource i).snapshotState (states i) = .ok snapshot := by
  induction resources with
  | nil => simp [InMemoryApplicationTransactionManager.snapshots]
  | cons i rest ih =>
    rw [List.forall_mem_cons, ← ih]
    constructor
    · rintro ⟨_, h⟩
      obtain ⟨snapshot, hsnapshot, h⟩ := bind_eq_ok.mp h
      obtain ⟨others, hothers, _⟩ := bind_eq_ok.mp h
      exact ⟨⟨snapshot, hsnapshot⟩, others, hothers⟩
    · rintro ⟨⟨snapshot, hsnapshot⟩, others, hothers⟩
      exact ⟨⟨i, snapshot⟩ :: others, bind_eq_ok.mpr ⟨snapshot, hsnapshot,
        bind_eq_ok.mpr ⟨others, hothers, rfl⟩⟩⟩

variable [DecidableEq ι] {taken : List ((i : ι) × (manager.resource i).Snapshot)}

theorem rollback_of_ok (states : ∀ i, State i) (hunique : (taken.map Sigma.fst).Nodup)
    (h : ∀ one ∈ taken, ((manager.resource one.1).restoreState one.2 (states one.1)).1 = .ok ()) :
    ∃ restored, manager.rollback taken states = (.ok [], restored) ∧
      (∀ one ∈ taken, restored one.1 =
        ((manager.resource one.1).restoreState one.2 (states one.1)).2) ∧
      ∀ i ∉ taken.map Sigma.fst, restored i = states i := by
  induction taken generalizing states with
  | nil => exact ⟨states, rfl, fun _ h => absurd h List.not_mem_nil, fun _ _ => rfl⟩
  | cons one rest ih =>
    obtain ⟨i, snapshot⟩ := one
    obtain ⟨hnew, hrest⟩ := List.nodup_cons.mp hunique
    obtain ⟨hfirst, hothers⟩ := List.forall_mem_cons.mp h
    have hkeep : ∀ other ∈ rest, Function.update states i
        ((manager.resource i).restoreState snapshot (states i)).2 other.1 = states other.1 := by
      intro other hother
      apply Function.update_of_ne
      intro heq
      have hmem : other.1 ∈ rest.map Sigma.fst := List.mem_map_of_mem hother
      rw [heq] at hmem
      exact hnew hmem
    obtain ⟨restored, hrun, hrestored, hkept⟩ := ih (Function.update states i
      ((manager.resource i).restoreState snapshot (states i)).2) hrest (by
        intro other hother
        rw [hkeep other hother]
        exact hothers other hother)
    refine ⟨restored, ?_, ?_, ?_⟩
    · rw [rollback]
      simp only [hfirst]
      exact hrun
    · rw [List.forall_mem_cons]
      refine ⟨?_, ?_⟩
      · rw [hkept i hnew, Function.update_self]
      · intro other hother
        rw [hrestored other hother, hkeep other hother]
    · intro j hj
      obtain ⟨hne, hj⟩ := not_or.mp (fun h => hj (List.mem_cons.mpr h))
      rw [hkept j hj, Function.update_of_ne hne]

/-- What a transaction promises of its end. -/
structure Transactional (manager : InMemoryApplicationTransactionManager ι State)
    (body : (∀ i, State i) → Except Raised α × (∀ i, State i)) (s : TransactionState State)
    (outcome : Except Raised α × TransactionState State) : Prop where
  /-- Another one can begin. -/
  inactive : outcome.2.active = false
  /-- When the body has raised and every restoration succeeds. -/
  rolledBack : ∀ original states, body s.states = (.error original, states) →
    (∀ i ∈ manager.resources, ∀ snapshot,
      (manager.resource i).snapshotState (s.states i) = .ok snapshot →
        ((manager.resource i).restoreState snapshot (states i)).1 = .ok ()) →
      outcome.1 = .error original ∧ ∀ i ∈ manager.resources, outcome.2.states i = s.states i
  committed : ∀ a states, body s.states = (.ok a, states) → outcome = (.ok a, ⟨false, states⟩)

variable {body : (∀ i, State i) → Except Raised α × (∀ i, State i)} {s : TransactionState State}

theorem transaction_of_active (h : s.active = true) :
    manager.transaction body s = (.error ⟨.applicationNestedTransactionError,
      "nested application transaction is not supported"⟩, s) := if_pos h

theorem transaction_of_snapshots (hactive : s.active = false)
    (htaken : manager.snapshots s.states manager.resources = .ok taken) :
    Transactional manager body s (manager.transaction body s) := by
  have hids := (snapshots_eq_ok htaken).1
  have hsnapshots := (snapshots_eq_ok htaken).2
  cases hbody : body s.states with
  | mk result states =>
    cases result with
    | ok a =>
      have hrun : manager.transaction body s = (.ok a, ⟨false, states⟩) := by
        simp only [transaction, hactive, htaken, hbody, Bool.false_eq_true, if_false]
      rw [hrun]
      refine ⟨rfl, ?_, ?_⟩
      · intro original others hraised
        rw [hbody] at hraised
        cases hraised
      · intro other others hreturned
        rw [hbody] at hreturned
        cases hreturned
        rfl
    | error original =>
      have hend : (manager.transaction body s).2.active = false := by
        simp only [transaction, hactive, htaken, hbody, Bool.false_eq_true, if_false]
        split <;> rfl
      refine ⟨hend, ?_, ?_⟩
      · intro original' states' hraised hrestores
        rw [hbody] at hraised
        cases hraised
        have hunique : (taken.reverse.map Sigma.fst).Nodup := by
          rw [List.map_reverse, List.nodup_reverse, hids]
          exact manager.unique
        obtain ⟨restored, hrollback, hrestored, _⟩ := rollback_of_ok states hunique
          (fun one hone => hrestores one.1
            (hids ▸ List.mem_map_of_mem (List.mem_reverse.mp hone)) one.2
              (hsnapshots one (List.mem_reverse.mp hone)))
        have hrun : manager.transaction body s = (.error original, ⟨false, restored⟩) := by
          simp only [transaction, hactive, htaken, hbody, hrollback, Bool.false_eq_true, if_false]
        rw [hrun]
        refine ⟨rfl, fun i hi => ?_⟩
        obtain ⟨one, hone, rfl⟩ := List.mem_map.mp (hids.symm ▸ hi)
        refine (hrestored one (List.mem_reverse.mpr hone)).trans ?_
        exact (manager.resource one.1).restore_snapshot _ _ _ (hsnapshots one hone)
          (hrestores one.1 hi one.2 (hsnapshots one hone))
      · intro a others hreturned
        rw [hbody] at hreturned
        cases hreturned

/-- A transaction keeps its promises exactly when none is under way and no snapshot raises. -/
theorem transactional_iff :
    Transactional manager body s (manager.transaction body s) ↔
      s.active = false ∧ ∀ i ∈ manager.resources, ∃ snapshot,
        (manager.resource i).snapshotState (s.states i) = .ok snapshot := by
  rw [← exists_snapshots_iff]
  constructor
  · intro h
    have hinactive := h.inactive
    by_cases hactive : s.active = true
    · rw [transaction_of_active hactive] at hinactive
      exact nomatch hactive.symm.trans hinactive
    · refine ⟨by simpa using hactive, ?_⟩
      cases htaken : manager.snapshots s.states manager.resources with
      | ok taken => exact ⟨taken, rfl⟩
      | error failure =>
        have hrun : manager.transaction body s = (.error failure, ⟨true, s.states⟩) := by
          simp only [transaction, hactive, htaken, Bool.false_eq_true, if_false]
        rw [hrun] at hinactive
        cases hinactive
  · rintro ⟨hactive, taken, htaken⟩
    exact transaction_of_snapshots hactive htaken

theorem transactional_of_repositories {hnonempty : resources ≠ []}
    {hunique : resources.Nodup} (hactive : s.active = false) :
    Transactional ⟨fun i => repositoryResource (State i), resources, hnonempty, hunique⟩ body s
      (transaction ⟨fun i => repositoryResource (State i), resources, hnonempty, hunique⟩ body s) := by
  exact transaction_of_snapshots hactive
    (exists_snapshots_iff.mpr fun i _ => ⟨s.states i, rfl⟩).choose_spec

def unavailableResource : ApplicationTransactionalResource Unit where
  Snapshot := Unit
  snapshotState _ := .error ⟨.external "OSError" .exception, "unavailable"⟩
  restoreState _ _ := (.ok (), ())
  restore_snapshot _ _ _ _ _ := rfl

def unavailableManager : InMemoryApplicationTransactionManager Unit fun _ => Unit where
  resource _ := unavailableResource
  resources := [()]
  nonempty := List.cons_ne_nil () []
  unique := List.nodup_singleton ()

/-- The manager stays active behind a snapshot that raises, and refuses every later transaction. -/
theorem failed_snapshot_blocks :
    ¬(∀ s : TransactionState fun _ : Unit => Unit, s.active = false →
      Transactional unavailableManager (fun states => (.ok (), states)) s
        (unavailableManager.transaction (fun states => (.ok (), states)) s)) := by
  intro h
  have hinactive := (h ⟨false, fun _ => ()⟩ rfl).inactive
  cases hinactive

end InMemoryApplicationTransactionManager

/-! ## Writes of another client -/

variable {casefold : Casefold}

namespace ExecutionWrite

def version (record : ApplicationExecutionRecord) : ℕ := record.recordVersion.val

theorem apply_cases (write : ExecutionWrite)
    (repository : InMemoryApplicationExecutionRepository casefold) :
    (∃ failure, write.apply repository = (.error failure, repository)) ∨
      (∃ record hnone, write.apply repository = (.ok record, repository.insert record hnone)) ∨
      ∃ record stored, repository.get (record.key casefold) = some stored ∧
        version stored < version record ∧
          write.apply repository = (.ok record, repository.replace record) := by
  cases write with
  | create record =>
    rw [apply, InMemoryApplicationExecutionRepository.create]
    split
    · exact .inl ⟨_, rfl⟩
    · rename_i hnone
      exact .inr (.inl ⟨record, hnone, rfl⟩)
  | update record expectedVersion =>
    rw [apply, InMemoryApplicationExecutionRepository.update]
    split
    · exact .inl ⟨_, rfl⟩
    split
    · exact .inl ⟨_, rfl⟩
    rename_i stored hget
    split_ifs with hversion hnext
    · exact .inl ⟨_, rfl⟩
    · exact .inl ⟨_, rfl⟩
    · refine .inr (.inr ⟨record, stored, hget, ?_, rfl⟩)
      rw [version, version]
      omega

variable {repository : InMemoryApplicationExecutionRepository casefold}
  {record : ApplicationExecutionRecord}

theorem isCopy_apply {write : ExecutionWrite} (h : (write.apply repository).1 = .ok record) :
    (write.apply repository).2.IsCopy version record := by
  rcases write.apply_cases repository with ⟨failure, happly⟩ | ⟨created, hnone, happly⟩ |
    ⟨updated, stored, hget, _, happly⟩
  · rw [happly] at h
    cases h
  · rw [happly] at h ⊢
    cases h
    exact KeyedStore.isCopy_of_mem ((KeyedStore.mem_insert (h := hnone)).mpr (.inr rfl))
  · rw [happly] at h ⊢
    cases h
    refine ⟨record, ?_, .inr rfl⟩
    rw [KeyedStore.get_replace (by rw [hget]; exact Option.some_ne_none stored), if_pos rfl]

theorem isCopy_of_isCopy (h : repository.IsCopy version record) (write : ExecutionWrite) :
    (write.apply repository).2.IsCopy version record := by
  rcases write.apply_cases repository with ⟨failure, happly⟩ | ⟨created, hnone, happly⟩ |
    ⟨updated, stored, hget, hversion, happly⟩
  · rwa [happly]
  · rw [happly]
    exact h.insert hnone
  · rw [happly]
    exact h.replace hget hversion

end ExecutionWrite

namespace SharedRepository

open ExecutionWrite (version)

def endsRaised : List SharedAction → Bool
  | [] => false
  | .leave raised :: _ => raised
  | _ :: rest => endsRaised rest

structure Keeps (s : SharedRepository casefold) (record : ApplicationExecutionRecord) : Prop where
  store : s.store.IsCopy version record
  snapshot : ∀ snapshot ∈ s.snapshot, snapshot.IsCopy version record

variable {s : SharedRepository casefold} {record : ApplicationExecutionRecord}

theorem Keeps.step (h : s.Keeps record) (action : SharedAction) : (s.step action).Keeps record := by
  cases action with
  | foreign write => exact ⟨ExecutionWrite.isCopy_of_isCopy h.store write, h.snapshot⟩
  | enter =>
    rw [SharedRepository.step]
    split_ifs
    · exact h
    · refine ⟨h.store, fun snapshot hsnapshot => ?_⟩
      obtain rfl := Option.some.inj hsnapshot
      exact h.store
  | body write =>
    rw [SharedRepository.step]
    split_ifs
    · exact ⟨ExecutionWrite.isCopy_of_isCopy h.store write, h.snapshot⟩
    · exact h
  | leave raised =>
    refine ⟨?_, fun _ hsnapshot => nomatch hsnapshot⟩
    rw [SharedRepository.step]
    cases hsnapshot : s.snapshot with
    | none => simpa using h.store
    | some snapshot =>
      cases raised with
      | false => exact h.store
      | true => exact h.snapshot snapshot hsnapshot

theorem Keeps.run (h : s.Keeps record) (actions : List SharedAction) :
    (Runs.run SharedRepository.step s actions).Keeps record := by
  induction actions generalizing s with
  | nil => exact h
  | cons action rest ih => exact ih (h.step action)

theorem isCopy_run (h : s.store.IsCopy version record) {actions : List SharedAction}
    (hends : endsRaised actions = false) :
    (Runs.run SharedRepository.step s actions).store.IsCopy version record := by
  induction actions generalizing s with
  | nil => exact h
  | cons action rest ih =>
    cases action with
    | foreign write => exact ih (ExecutionWrite.isCopy_of_isCopy h write) hends
    | enter =>
      refine ih ?_ hends
      rw [SharedRepository.step]
      split_ifs <;> exact h
    | body write =>
      refine ih ?_ hends
      rw [SharedRepository.step]
      split_ifs
      · exact ExecutionWrite.isCopy_of_isCopy h write
      · exact h
    | leave raised =>
      obtain rfl : raised = false := hends
      have hleft : (s.step (.leave false)).Keeps record :=
        ⟨h, fun _ hsnapshot => nomatch hsnapshot⟩
      exact (hleft.run rest).store

/-- A write that another client has made outside of a transaction, or during one that does not
raise, stays in the repository, in that version or a later one. -/
theorem foreign_write_kept {s : SharedRepository casefold} {write : ExecutionWrite}
    {record : ApplicationExecutionRecord} {after : List SharedAction}
    (hreturned : (write.apply s.store).1 = .ok record)
    (houtside : s.snapshot = none ∨ endsRaised after = false) :
    (Runs.run SharedRepository.step s (.foreign write :: after)).store.IsCopy version record := by
  have hwritten : (s.step (.foreign write)).store.IsCopy version record :=
    ExecutionWrite.isCopy_apply hreturned
  rcases houtside with hnone | hends
  · have hkeeps : (s.step (.foreign write)).Keeps record := by
      refine ⟨hwritten, fun snapshot hsnapshot => ?_⟩
      have hsame : s.snapshot = some snapshot := hsnapshot
      rw [hnone] at hsame
      cases hsame
    exact (hkeeps.run after).store
  · exact isCopy_run hwritten hends

def writeAll (writes : List ExecutionWrite)
    (repository : InMemoryApplicationExecutionRepository casefold) :
    InMemoryApplicationExecutionRepository casefold :=
  writes.foldl (fun repository write => (write.apply repository).2) repository

variable (casefold) in
def soleManager :
    InMemoryApplicationTransactionManager Unit
      fun _ => InMemoryApplicationExecutionRepository casefold where
  resource _ := repositoryResource _
  resources := [()]
  nonempty := List.cons_ne_nil () []
  unique := List.nodup_singleton ()

theorem run_body (writes : List ExecutionWrite) (h : s.snapshot.isSome) :
    Runs.run SharedRepository.step s (writes.map .body) =
      { s with store := writeAll writes s.store } := by
  induction writes generalizing s with
  | nil => rfl
  | cons write rest ih =>
    have hstep : s.step (.body write) = { s with store := (write.apply s.store).2 } := if_pos h
    change Runs.run SharedRepository.step (s.step (.body write)) (rest.map .body) = _
    rw [hstep]
    exact ih h

theorem transaction_eq_run (writes : List ExecutionWrite) (result : Except Raised Unit)
    (repository : InMemoryApplicationExecutionRepository casefold) :
    ((soleManager casefold).transaction
        (fun states => (result, fun _ => writeAll writes (states ())))
        ⟨false, fun _ => repository⟩).2.states () =
      (Runs.run SharedRepository.step ⟨repository, none⟩
        (.enter :: (writes.map .body ++ [.leave !result.toBool]))).store := by
  have hrun : Runs.run SharedRepository.step ⟨repository, none⟩
      (.enter :: (writes.map .body ++ [.leave !result.toBool])) =
        (Runs.run SharedRepository.step ⟨repository, some repository⟩ (writes.map .body)).step
          (.leave !result.toBool) := by
    change List.foldl _ _ _ = _
    rw [List.foldl_cons, List.foldl_append]
    rfl
  rw [hrun, run_body writes rfl]
  cases result with
  | ok _ => rfl
  | error failure => rfl

def sampleExecution (executionId : String) : ApplicationExecutionRecord where
  executionId := executionId
  rootExecutionId := executionId
  parentExecutionId := none
  requestId := "research-001"
  workspaceId := "workspace-001"
  subjectType := .agent
  subjectId := "agent-001"
  status := .pending
  attemptNumber := ⟨1, Nat.one_pos⟩
  maximumAttempts := ⟨1, Nat.one_pos⟩
  previousAttemptExecutionId := none
  inputs := []
  outputs := []
  guardrailEvaluationIds := []
  retryDecisionIds := []
  recoveryDecisionId := none
  failure := none
  cancellation := none
  createdAt := sampleTime
  queuedAt := none
  startedAt := none
  finishedAt := none
  deadlineAt := none
  recordVersion := ⟨1, Nat.one_pos⟩
  metadata := []

def sampleWrite : ExecutionWrite := .create (sampleExecution "execution-001")

theorem foreign_write_kept_sample :
    (Runs.run SharedRepository.step (⟨.empty, none⟩ : SharedRepository asciiCasefold)
      [.foreign sampleWrite, .enter, .leave true]).store.IsCopy version
        (sampleExecution "execution-001") :=
  foreign_write_kept rfl (.inl rfl)

/-- Another client creates a record during a transaction that raises. -/
theorem rollback_loses_write :
    ¬∀ (before after : List SharedAction) (write : ExecutionWrite)
      (record : ApplicationExecutionRecord),
        (write.apply (Runs.run SharedRepository.step
          (⟨.empty, none⟩ : SharedRepository asciiCasefold) before).store).1 = .ok record →
          (Runs.run SharedRepository.step (⟨.empty, none⟩ : SharedRepository asciiCasefold)
            (before ++ .foreign write :: after)).store.IsCopy version record := by
  intro h
  obtain ⟨stored, hstored, _⟩ :=
    h [.enter] [.leave true] sampleWrite (sampleExecution "execution-001") rfl
  cases hstored

end SharedRepository

end AgenticLab
