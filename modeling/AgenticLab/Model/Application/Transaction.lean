import AgenticLab.Library.Runs
import AgenticLab.Model.Application.ExecutionRepository

/-! # The in-memory transaction manager

`app/application/transaction.py` and `app/application/in_memory_transaction_manager.py`. The
resources of a manager have states of their own types. -/

namespace AgenticLab

/-- What is restored from a snapshot is what it was taken of. -/
structure ApplicationTransactionalResource (state : Type) where
  Snapshot : Type
  snapshotState : state → Except Raised Snapshot
  restoreState : Snapshot → state → Except Raised Unit × state
  restore_snapshot : ∀ s t snapshot, snapshotState s = .ok snapshot →
    (restoreState snapshot t).1 = .ok () → (restoreState snapshot t).2 = s

/-- `snapshot_state` and `restore_state` of the in-memory repositories, which copy. -/
def repositoryResource (state : Type) : ApplicationTransactionalResource state where
  Snapshot := state
  snapshotState := .ok
  restoreState snapshot _ := (.ok (), snapshot)
  restore_snapshot _ _ _ h _ := (Except.ok.inj h).symm

structure InMemoryApplicationTransactionManager (ι : Type) (State : ι → Type) where
  resource : ∀ i, ApplicationTransactionalResource (State i)
  resources : List ι
  nonempty : resources ≠ []
  unique : resources.Nodup

/-- `_active`, with the states of the resources. -/
structure TransactionState {ι : Type} (State : ι → Type) where
  active : Bool
  states : ∀ i, State i

namespace InMemoryApplicationTransactionManager

variable {ι α : Type} {State : ι → Type} (manager : InMemoryApplicationTransactionManager ι State)

def snapshots (states : ∀ i, State i) :
    List ι → Except Raised (List ((i : ι) × (manager.resource i).Snapshot))
  | [] => .ok []
  | i :: rest => do
      let snapshot ← (manager.resource i).snapshotState (states i)
      let others ← snapshots states rest
      return ⟨i, snapshot⟩ :: others

variable [DecidableEq ι]

/-- The loop over the snapshots, with the exceptions it has collected or the one that ends it. -/
def rollback : List ((i : ι) × (manager.resource i).Snapshot) → (∀ i, State i) →
    Except Raised (List Raised) × (∀ i, State i)
  | [], states => (.ok [], states)
  | ⟨i, snapshot⟩ :: rest, states =>
    let restored := (manager.resource i).restoreState snapshot (states i)
    let states := Function.update states i restored.2
    match restored.1 with
    | .ok () => rollback rest states
    | .error failure =>
      if failure.cls.isException then
        let others := rollback rest states
        (others.1.map (failure :: ·), others.2)
      else (.error failure, states)

def transaction (body : (∀ i, State i) → Except Raised α × (∀ i, State i))
    (s : TransactionState State) : Except Raised α × TransactionState State :=
  if s.active then
    (.error ⟨.applicationNestedTransactionError,
      "nested application transaction is not supported"⟩, s)
  else
    match manager.snapshots s.states manager.resources with
    -- the snapshots are taken ahead of the `try` whose `finally` clears `_active`
    | .error failure => (.error failure, ⟨true, s.states⟩)
    | .ok snapshots =>
      match body s.states with
      | (.ok a, states) => (.ok a, ⟨false, states⟩)
      | (.error original, states) =>
        match manager.rollback snapshots.reverse states with
        | (.error failure, states) => (.error failure, ⟨false, states⟩)
        | (.ok [], states) => (.error original, ⟨false, states⟩)
        | (.ok (_ :: _), states) => (.error ⟨.applicationTransactionRollbackError,
            "application transaction rollback failed"⟩, ⟨false, states⟩)

end InMemoryApplicationTransactionManager

inductive ExecutionWrite where
  | create (record : ApplicationExecutionRecord)
  | update (record : ApplicationExecutionRecord) (expectedVersion : ℕ)

def ExecutionWrite.apply {casefold : Casefold} :
    ExecutionWrite → InMemoryApplicationExecutionRepository casefold →
      Except Raised ApplicationExecutionRecord × InMemoryApplicationExecutionRepository casefold
  | create record, repository => InMemoryApplicationExecutionRepository.create repository record
  | update record expectedVersion, repository =>
    InMemoryApplicationExecutionRepository.update repository record expectedVersion

structure SharedRepository (casefold : Casefold) where
  store : InMemoryApplicationExecutionRepository casefold
  snapshot : Option (InMemoryApplicationExecutionRepository casefold)

inductive SharedAction where
  /-- A write of another client, outside of any transaction. -/
  | foreign (write : ExecutionWrite)
  /-- A transaction takes its snapshot. -/
  | enter
  /-- A write of the transaction. -/
  | body (write : ExecutionWrite)
  /-- The transaction ends, with the restoration of its snapshot when its body has raised. -/
  | leave (raised : Bool)

/-- Each action holds the lock of the repository; the manager has one transaction at a time. -/
def SharedRepository.step {casefold : Casefold} (s : SharedRepository casefold) :
    SharedAction → SharedRepository casefold
  | .foreign write => { s with store := (write.apply s.store).2 }
  | .enter => if s.snapshot.isSome then s else { s with snapshot := some s.store }
  | .body write => if s.snapshot.isSome then { s with store := (write.apply s.store).2 } else s
  | .leave raised =>
    { store := if raised then s.snapshot.getD s.store else s.store, snapshot := none }

end AgenticLab
