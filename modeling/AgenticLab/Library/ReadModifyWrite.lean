import AgenticLab.Library.Runs
import Mathlib.Data.List.Perm.Basic

/-! # Calls that read a store, respond, and then write it

A call reads the whole store in one step and writes it in a later one. Other calls may come
between the two. -/

namespace ReadModifyWrite

/-- What a call does about the store that it has read. -/
inductive Decision (σ ε β : Type*) where
  | raises (failure : ε)
  | keeps (result : β)
  | writes (result : β) (next : σ)

variable {σ κ ε β ι : Type*} (respond : κ → σ → Decision σ ε β)

def perform (call : κ) (store : σ) : Except ε β × σ :=
  match respond call store with
  | .raises failure => (.error failure, store)
  | .keeps result => (.ok result, store)
  | .writes result next => (.ok result, next)

def performAll : List κ → σ → List (Except ε β) × σ
  | [], store => ([], store)
  | call :: calls, store =>
    ((perform respond call store).1 :: (performAll calls (perform respond call store).2).1,
      (performAll calls (perform respond call store).2).2)

theorem performAll_concat (calls : List κ) (call : κ) (store : σ) :
    performAll respond (calls ++ [call]) store =
      ((performAll respond calls store).1 ++
        [(perform respond call (performAll respond calls store).2).1],
      (perform respond call (performAll respond calls store).2).2) := by
  induction calls generalizing store with
  | nil => rfl
  | cons first calls ih =>
    rw [List.cons_append, performAll, ih]
    rfl

/-! ## Calls among others -/

structure Pending (σ κ β : Type*) where
  call : κ
  read : σ
  result : β
  next : σ

structure Ended (σ κ ε β : Type*) where
  call : κ
  outcome : Except ε β
  written : Option σ

structure System (σ κ ε β ι : Type*) where
  store : σ
  pending : ι → Option (Pending σ κ β)
  ended : List (Ended σ κ ε β)

inductive Action (ι κ : Type*) where
  /-- A client that has no call under way begins one, and reads. -/
  | read (client : ι) (call : κ)
  | write (client : ι)

def System.start (store : σ) : System σ κ ε β ι := ⟨store, fun _ => none, []⟩

def System.step [DecidableEq ι] (s : System σ κ ε β ι) : Action ι κ → System σ κ ε β ι
  | .read client call =>
    match s.pending client with
    | some _ => s
    | none =>
      match respond call s.store with
      | .raises failure => { s with ended := s.ended ++ [⟨call, .error failure, none⟩] }
      | .keeps result => { s with ended := s.ended ++ [⟨call, .ok result, none⟩] }
      | .writes result next =>
        { s with
          pending := Function.update s.pending client (some ⟨call, s.store, result, next⟩) }
  | .write client =>
    match s.pending client with
    | none => s
    | some p =>
      { store := p.next
        pending := Function.update s.pending client none
        ended := s.ended ++ [⟨p.call, .ok p.result, some p.next⟩] }

/-- A call writes what it has decided about the store that is still there. -/
def Undisturbed (s : System σ κ ε β ι) : Action ι κ → Prop
  | .read _ _ => True
  | .write client => ∀ p ∈ s.pending client, p.read = s.store

def System.calls (s : System σ κ ε β ι) : List κ := s.ended.map (·.call)

def System.outcomes (s : System σ κ ε β ι) : List (Except ε β) := s.ended.map (·.outcome)

/-- The ended calls have run one after another, and the pending ones decided as they read. -/
structure Serial (start : σ) (s : System σ κ ε β ι) : Prop where
  ended : performAll respond s.calls start = (s.outcomes, s.store)
  pending : ∀ client, ∀ p ∈ s.pending client, respond p.call p.read = .writes p.result p.next

variable {respond} {start : σ} {s : System σ κ ε β ι}

theorem Serial.of_start (store : σ) :
    Serial respond store (System.start store : System σ κ ε β ι) :=
  ⟨rfl, fun _ p hp => absurd hp (Option.not_mem_none p)⟩

theorem performAll_ended (h : performAll respond s.calls start = (s.outcomes, s.store))
    {last : Ended σ κ ε β} {store : σ}
    (hcall : perform respond last.call s.store = (last.outcome, store)) :
    performAll respond ((s.ended ++ [last]).map Ended.call) start =
      ((s.ended ++ [last]).map Ended.outcome, store) := by
  rw [System.calls] at h
  rw [List.map_append, List.map_append, List.map_singleton, performAll_concat, h, hcall]
  rfl

theorem Serial.step [DecidableEq ι] (h : Serial respond start s) {action : Action ι κ}
    (hallowed : Undisturbed s action) : Serial respond start (s.step respond action) := by
  cases action with
  | read client call =>
    cases hpending : s.pending client with
    | some p =>
      simp only [System.step, hpending]
      exact h
    | none =>
      cases hrespond : respond call s.store with
      | raises failure =>
        simp only [System.step, hpending, hrespond]
        have hcall : perform respond call s.store = (.error failure, s.store) := by
          rw [perform, hrespond]
        exact ⟨performAll_ended h.ended hcall, h.pending⟩
      | keeps result =>
        simp only [System.step, hpending, hrespond]
        have hcall : perform respond call s.store = (.ok result, s.store) := by
          rw [perform, hrespond]
        exact ⟨performAll_ended h.ended hcall, h.pending⟩
      | writes result next =>
        simp only [System.step, hpending, hrespond]
        refine ⟨h.ended, fun other p hp => ?_⟩
        by_cases heq : other = client
        · subst heq
          simp only [Function.update_self, Option.mem_some_iff] at hp
          subst hp
          exact hrespond
        · simp only [Function.update_of_ne heq] at hp
          exact h.pending other p hp
  | write client =>
    cases hpending : s.pending client with
    | none =>
      simp only [System.step, hpending]
      exact h
    | some p =>
      simp only [System.step, hpending]
      have hread : p.read = s.store := hallowed p hpending
      have hrespond := h.pending client p hpending
      rw [hread] at hrespond
      have hcall : perform respond p.call s.store = (.ok p.result, p.next) := by
        rw [perform, hrespond]
      refine ⟨performAll_ended h.ended hcall, fun other q hq => ?_⟩
      by_cases heq : other = client
      · subst heq
        simp only [Function.update_self] at hq
        exact absurd hq (Option.not_mem_none q)
      · simp only [Function.update_of_ne heq] at hq
        exact h.pending other q hq

theorem Undisturbed.write_of_read [DecidableEq ι] {client : ι} {call : κ}
    (h : s.pending client = none) :
    Undisturbed (s.step respond (.read client call)) (.write client) := by
  intro p hp
  cases hrespond : respond call s.store with
  | raises failure =>
    simp only [System.step, h, hrespond] at hp
    exact absurd hp (Option.not_mem_none p)
  | keeps result =>
    simp only [System.step, h, hrespond] at hp
    exact absurd hp (Option.not_mem_none p)
  | writes result next =>
    simp only [System.step, h, hrespond, Function.update_self, Option.mem_some_iff] at hp ⊢
    subst hp
    rfl

def Ended.succeeded (ended : Ended σ κ ε β) : Bool := ended.outcome.isOk

theorem perform_eq_error {call : κ} {store next : σ} {failure : ε}
    (h : perform respond call store = (.error failure, next)) : next = store := by
  unfold perform at h
  split at h
  · cases h
    rfl
  · cases h
  · cases h

theorem performAll_succeeded {ended : List (Ended σ κ ε β)} {store : σ}
    (h : performAll respond (ended.map (·.call)) start = (ended.map (·.outcome), store)) :
    performAll respond ((ended.filter Ended.succeeded).map (·.call)) start =
      ((ended.filter Ended.succeeded).map (·.outcome), store) := by
  induction ended generalizing start with
  | nil => exact h
  | cons first rest ih =>
    obtain ⟨houtcomes, hstore⟩ := Prod.mk.inj h
    obtain ⟨hfirst, hrest⟩ := List.cons.inj houtcomes
    have hlater := ih (Prod.ext hrest hstore)
    cases houtcome : first.outcome with
    | error failure =>
      have hsame : (perform respond first.call start).2 = start :=
        perform_eq_error (Prod.ext (hfirst.trans houtcome) rfl)
      rw [hsame] at hlater
      have hfails : first.succeeded = false := by rw [Ended.succeeded, houtcome]; rfl
      rw [List.filter_cons_of_neg (by simp [hfails])]
      exact hlater
    | ok result =>
      have hsucceeds : first.succeeded = true := by rw [Ended.succeeded, houtcome]; rfl
      rw [List.filter_cons_of_pos hsucceeds, List.map_cons, performAll, hlater]
      exact Prod.ext (congrArg (· :: _) hfirst) rfl

end ReadModifyWrite
