import AgenticLab.Library.Runs

/-! # Programs over a shared store

A program calls one operation of a store after another, each answered by a reply, and returns or
raises in the end. It may run alone, among others that change the store between its operations,
or interleaved with other calls. -/

inductive Program (Op : Type) (Reply : Op → Type) (ε α : Type) where
  | done (result : Except ε α)
  | call (op : Op) (next : Reply op → Program Op Reply ε α)

namespace Program

variable {Op : Type} {Reply : Op → Type} {ε α β σ : Type}

protected def bind : Program Op Reply ε α → (α → Program Op Reply ε β) → Program Op Reply ε β
  | done (.ok a), f => f a
  | done (.error e), _ => done (.error e)
  | call op next, f => call op fun reply => (next reply).bind f

instance : Monad (Program Op Reply ε) where
  pure a := done (.ok a)
  bind := Program.bind

instance : MonadLift (Except ε) (Program Op Reply ε) := ⟨done⟩

def raise (e : ε) : Program Op Reply ε α := done (.error e)

/-- One operation. -/
def perform (op : Op) : Program Op Reply ε (Reply op) := call op fun reply => done (.ok reply)

variable (handle : (op : Op) → σ → Reply op × σ)

/-- What a program has done to the store when it ends. -/
structure Outcome (σ ε α : Type) where
  result : Except ε α
  store : σ
  /-- The store before and after each of its own operations. -/
  effects : List (σ × σ)

/-- Before each operation others may change the store, each time in their own way. -/
def runAmong : List (σ → σ) → Program Op Reply ε α → σ → Outcome σ ε α
  | _, done result, s => ⟨result, s, []⟩
  | [], call op next, s =>
    let answer := handle op s
    let rest := (next answer.1).runAmong [] answer.2
    ⟨rest.result, rest.store, (s, answer.2) :: rest.effects⟩
  | other :: others, call op next, s =>
    let answer := handle op (other s)
    let rest := (next answer.1).runAmong others answer.2
    ⟨rest.result, rest.store, (other s, answer.2) :: rest.effects⟩

/-! ## A program alone -/

def run : Program Op Reply ε α → σ → Except ε α × σ
  | done result, s => (result, s)
  | call op next, s => (next (handle op s).1).run (handle op s).2

@[simp] theorem run_done (result : Except ε α) (s : σ) :
    (done result : Program Op Reply ε α).run handle s = (result, s) := rfl

@[simp] theorem run_pure (a : α) (s : σ) :
    (pure a : Program Op Reply ε α).run handle s = (.ok a, s) := rfl

@[simp] theorem run_raise (e : ε) (s : σ) :
    (raise e : Program Op Reply ε α).run handle s = (.error e, s) := rfl

@[simp] theorem run_lift (x : Except ε α) (s : σ) :
    (liftM x : Program Op Reply ε α).run handle s = (x, s) := rfl

@[simp] theorem run_call (op : Op) (next : Reply op → Program Op Reply ε α) (s : σ) :
    (call op next).run handle s = (next (handle op s).1).run handle (handle op s).2 := rfl

@[simp] theorem run_perform (op : Op) (s : σ) :
    (perform op : Program Op Reply ε _).run handle s = (.ok (handle op s).1, (handle op s).2) :=
  rfl

theorem run_bind (x : Program Op Reply ε α) (f : α → Program Op Reply ε β) (s : σ) :
    (x >>= f).run handle s =
      match x.run handle s with
      | (.ok a, t) => (f a).run handle t
      | (.error e, t) => (.error e, t) := by
  induction x generalizing s with
  | done result =>
    cases result with
    | error e => rfl
    | ok a => rfl
  | call op next ih => exact ih (handle op s).1 (handle op s).2

theorem bind_assoc {γ : Type} (x : Program Op Reply ε α) (f : α → Program Op Reply ε β)
    (g : β → Program Op Reply ε γ) : x >>= f >>= g = x >>= fun a => f a >>= g := by
  induction x with
  | done result =>
    cases result with
    | error e => rfl
    | ok a => rfl
  | call op next ih => exact congrArg (call op) (funext ih)

theorem bind_pure (x : Program Op Reply ε α) : x >>= pure = x := by
  induction x with
  | done result =>
    cases result with
    | error e => rfl
    | ok a => rfl
  | call op next ih => exact congrArg (call op) (funext ih)

variable {x : Program Op Reply ε α} {f : α → Program Op Reply ε β} {s t : σ} {a : α}

theorem run_bind_of_ok
    (h : x.run handle s = (.ok a, t)) : (x >>= f).run handle s = (f a).run handle t := by
  rw [run_bind, h]

theorem run_bind_of_error
    {e : ε} (h : x.run handle s = (.error e, t)) : (x >>= f).run handle s = (.error e, t) := by
  rw [run_bind, h]

theorem run_bind_keeps {inv : σ → Prop} (hx : inv (x.run handle s).2)
    (hf : ∀ a t, x.run handle s = (.ok a, t) → inv ((f a).run handle t).2) :
    inv ((x >>= f).run handle s).2 := by
  cases hrun : x.run handle s with
  | mk result t =>
    cases result with
    | error e =>
      rw [run_bind_of_error handle hrun]
      rwa [hrun] at hx
    | ok a =>
      rw [run_bind_of_ok handle hrun]
      exact hf a t hrun

theorem run_lift_bind_of_ok {x : Except ε α} (h : x = .ok a) :
    ((liftM x : Program Op Reply ε α) >>= f).run handle s = (f a).run handle s := by
  rw [run_bind, run_lift, h]

theorem run_lift_bind_of_error {x : Except ε α} {e : ε} (h : x = .error e) :
    ((liftM x : Program Op Reply ε α) >>= f).run handle s = (.error e, s) := by
  rw [run_bind, run_lift, h]

/-! ## A program whose operations found given stores -/

/-- What is left of a program after its first operations. -/
def replay : List σ → Program Op Reply ε α → Program Op Reply ε α
  | [], p => p
  | _ :: _, done result => done result
  | s :: rest, call op next => replay rest (next (handle op s).1)

theorem replay_done (result : Except ε α) (stores : List σ) :
    (done result : Program Op Reply ε α).replay handle stores = done result := by
  cases stores with
  | nil => rfl
  | cons s rest => rfl

theorem replay_append (p : Program Op Reply ε α) (first second : List σ) :
    p.replay handle (first ++ second) = (p.replay handle first).replay handle second := by
  induction first generalizing p with
  | nil => rfl
  | cons s rest ih =>
    cases p with
    | done result => rw [replay_done, replay_done, replay_done]
    | call op next => exact ih (next (handle op s).1)

/-- The operations that a program performs on the given stores. -/
def trace : List σ → Program Op Reply ε α → List (Op × σ)
  | [], _ => []
  | _ :: _, done _ => []
  | s :: rest, call op next => (op, s) :: trace rest (next (handle op s).1)

theorem trace_done (result : Except ε α) (stores : List σ) :
    (done result : Program Op Reply ε α).trace handle stores = [] := by
  cases stores with
  | nil => rfl
  | cons s rest => rfl

theorem trace_append (p : Program Op Reply ε α) (first second : List σ) :
    p.trace handle (first ++ second) =
      p.trace handle first ++ (p.replay handle first).trace handle second := by
  induction first generalizing p with
  | nil => rfl
  | cons s rest ih =>
    cases p with
    | done result => rw [trace_done, trace_done, replay_done, trace_done, List.append_nil]
    | call op next => exact congrArg ((op, s) :: ·) (ih (next (handle op s).1))

theorem replay_bind_pure (x : Program Op Reply ε α) (b : β) (stores : List σ) :
    (x >>= fun _ => pure b).replay handle stores = x.replay handle stores >>= fun _ => pure b := by
  induction stores generalizing x with
  | nil => rfl
  | cons s rest ih =>
    cases x with
    | done result =>
      cases result with
      | error e => rfl
      | ok a => rfl
    | call op next => exact ih (next (handle op s).1)

theorem trace_bind_pure (x : Program Op Reply ε α) (b : β) (stores : List σ) :
    (x >>= fun _ => pure b).trace handle stores = x.trace handle stores := by
  induction stores generalizing x with
  | nil => rfl
  | cons s rest ih =>
    cases x with
    | done result =>
      cases result with
      | error e => rfl
      | ok a => rfl
    | call op next => exact congrArg ((op, s) :: ·) (ih (next (handle op s).1))

theorem eq_ok_of_bind_pure {b : β}
    (h : (x >>= fun _ => pure b) = done (.ok b)) : ∃ a, x = done (.ok a) := by
  cases x with
  | done result =>
    cases result with
    | error e => cases h
    | ok a => exact ⟨a, rfl⟩
  | call op next => cases h

/-- Which records a reply shows, and which replies a store can give. -/
structure Interface (Reply : Op → Type) (ρ : Type) where
  observe : (op : Op) → Reply op → List ρ
  possible : (op : Op) → Reply op → Prop

variable {ρ : Type}

/-- Each operation is allowed by the records seen before it, and what holds when the program
returns. -/
inductive Respects (interface : Interface Reply ρ) (allowed : List ρ → Op → Prop)
    (post : α → List ρ → Prop) : Program Op Reply ε α → List ρ → Prop
  | ok {a : α} {seen : List ρ} : post a seen → Respects interface allowed post (done (.ok a)) seen
  | error {e : ε} {seen : List ρ} : Respects interface allowed post (done (.error e)) seen
  | call {op : Op} {next : Reply op → Program Op Reply ε α} {seen : List ρ} : allowed seen op →
      (∀ reply, interface.possible op reply →
        Respects interface allowed post (next reply) (seen ++ interface.observe op reply)) →
      Respects interface allowed post (call op next) seen

variable {interface : Interface Reply ρ} {allowed : List ρ → Op → Prop} {seen : List ρ}

theorem Respects.bind
    {post : β → List ρ → Prop}
    (h : x.Respects interface allowed
      (fun a later => (f a).Respects interface allowed post later) seen) :
    (x >>= f).Respects interface allowed post seen := by
  induction h with
  | ok hpost => exact hpost
  | error => exact .error
  | call hallowed _ ih => exact .call hallowed ih

theorem Respects.mono {post weaker : α → List ρ → Prop}
    (h : x.Respects interface allowed post seen) (hpost : ∀ a later, post a later → weaker a later) :
    x.Respects interface allowed weaker seen := by
  induction h with
  | ok h => exact .ok (hpost _ _ h)
  | error => exact .error
  | call hallowed _ ih => exact .call hallowed ih

variable {post : α → List ρ → Prop}

theorem Respects.lift {x : Except ε α} (h : ∀ a, x = .ok a → post a seen) :
    (liftM x : Program Op Reply ε α).Respects interface allowed post seen := by
  cases x with
  | error e => exact .error
  | ok a => exact .ok (h a rfl)

theorem Respects.replay {handle : (op : Op) → σ → Reply op × σ}
    (hpossible : ∀ op s, interface.possible op (handle op s).1)
    (h : x.Respects interface allowed post seen)
    {stores : List σ} (hreplay : x.replay handle stores = done (.ok a)) :
    post a (seen ++ (x.trace handle stores).flatMap fun performed =>
      interface.observe performed.1 (handle performed.1 performed.2).1) := by
  induction stores generalizing x seen with
  | nil =>
    obtain rfl : x = done (.ok a) := hreplay
    cases h with
    | ok hpost => simpa [trace] using hpost
  | cons s rest ih =>
    cases h with
    | ok hpost =>
      cases hreplay
      simpa [trace] using hpost
    | error => cases hreplay
    | @call op next _ _ hnext =>
      have hrest := ih (hnext _ (hpossible op s)) hreplay
      rwa [List.append_assoc] at hrest

end Program

/-! # Interleaved calls -/

namespace Interleaving

variable {Op : Type} {Reply : Op → Type} {ε σ ρ ι κ : Type}

/-- An operation as it was performed: the call it belongs to, and what that call had seen. -/
structure Event (Op κ σ ρ : Type) where
  call : κ
  op : Op
  seen : List ρ
  before : σ

/-- A call under way with the operations it has performed. -/
structure Pending (Op : Type) (Reply : Op → Type) (κ ε σ ρ : Type) where
  call : κ
  program : Program Op Reply ε Unit
  events : List (Event Op κ σ ρ)

structure System (Op : Type) (Reply : Op → Type) (κ ε σ ρ ι : Type) where
  store : σ
  pending : ι → Option (Pending Op Reply κ ε σ ρ)
  history : List (Event Op κ σ ρ)
  /-- The calls that have not raised, with their operations. -/
  returned : List (κ × List (Event Op κ σ ρ))

inductive Action (ι κ : Type) where
  /-- A new call by someone who has none under way. -/
  | start (caller : ι) (call : κ)
  /-- The next operation of a call, or its end. -/
  | advance (caller : ι)

variable (handle : (op : Op) → σ → Reply op × σ) (interface : Program.Interface Reply ρ)
  (program : κ → Program Op Reply ε Unit)

namespace Event

def after (event : Event Op κ σ ρ) : σ := (handle event.op event.before).2

def shown (event : Event Op κ σ ρ) : List ρ :=
  interface.observe event.op (handle event.op event.before).1

end Event

/-- What a call has seen in its operations. -/
def seen (events : List (Event Op κ σ ρ)) : List ρ := events.flatMap (Event.shown handle interface)

def System.start (store : σ) : System Op Reply κ ε σ ρ ι := ⟨store, fun _ => none, [], []⟩

def System.step [DecidableEq ι] (s : System Op Reply κ ε σ ρ ι) :
    Action ι κ → System Op Reply κ ε σ ρ ι
  | .start caller call =>
    match s.pending caller with
    | some _ => s
    | none => { s with pending := Function.update s.pending caller (some ⟨call, program call, []⟩) }
  | .advance caller =>
    match s.pending caller with
    | none => s
    | some ⟨_, .done (.error _), _⟩ =>
      { s with pending := Function.update s.pending caller none }
    | some ⟨call, .done (.ok _), events⟩ =>
      { s with
        pending := Function.update s.pending caller none
        returned := s.returned ++ [(call, events)] }
    | some ⟨call, .call op next, events⟩ =>
      let answer := handle op s.store
      let event := ⟨call, op, seen handle interface events, s.store⟩
      { s with
        store := answer.2
        pending := Function.update s.pending caller (some ⟨call, next answer.1, events ++ [event]⟩)
        history := s.history ++ [event] }

/-! ## Optimistic concurrency

What a call has seen may be outdated, but something about it still holds of the store: `Holds`
says what, and no allowed operation takes it away. -/

variable (allowed : κ → List ρ → Op → Prop) (post : κ → List ρ → Prop) (Holds : σ → ρ → Prop)

structure Sound : Prop where
  possible : ∀ op s, interface.possible op (handle op s).1
  program : ∀ call, (program call).Respects interface (allowed call) (fun _ => post call) []
  stable : ∀ call seen op s, allowed call seen op → (∀ r ∈ seen, Holds s r) →
    ∀ r, Holds s r → Holds (handle op s).2 r
  fresh : ∀ op s, ∀ r ∈ interface.observe op (handle op s).1, Holds (handle op s).2 r

/-- A call under way, or one that has returned: its operations are its own and were performed. -/
structure Event.BelongTo (history : List (Event Op κ σ ρ)) (call : κ)
    (events : List (Event Op κ σ ρ)) : Prop where
  call : ∀ event ∈ events, event.call = call
  performed : ∀ event ∈ events, event ∈ history

structure Event.Lawful (event : Event Op κ σ ρ) : Prop where
  allowed : allowed event.call event.seen event.op
  seen : ∀ r ∈ event.seen, Holds event.before r

structure Coherent (s : System Op Reply κ ε σ ρ ι) : Prop where
  pending : ∀ caller pending, s.pending caller = some pending →
    pending.program.Respects interface (allowed pending.call) (fun _ => post pending.call)
        (seen handle interface pending.events) ∧
      (∀ r ∈ seen handle interface pending.events, Holds s.store r) ∧
      Event.BelongTo s.history pending.call pending.events
  lawful : ∀ event ∈ s.history, event.Lawful allowed Holds
  kept : ∀ event ∈ s.history, ∀ r, Holds (event.after handle) r → Holds s.store r
  ordered : s.history.Pairwise fun earlier later =>
    ∀ r, Holds (earlier.after handle) r → Holds later.before r
  returned : ∀ call events, (call, events) ∈ s.returned →
    post call (seen handle interface events) ∧ Event.BelongTo s.history call events

variable {handle interface program allowed post Holds} {events : List (Event Op κ σ ρ)}

theorem mem_seen {r : ρ} :
    r ∈ seen handle interface events ↔
      ∃ event ∈ events, r ∈ event.shown handle interface := List.mem_flatMap

variable {history events : List (Event Op κ σ ρ)} {call : κ}

theorem Event.BelongTo.append (h : Event.BelongTo history call events)
    (event : Event Op κ σ ρ) : Event.BelongTo (history ++ [event]) call events :=
  ⟨h.call, fun other hother => List.mem_append_left _ (h.performed other hother)⟩

variable {event : Event Op κ σ ρ}

theorem Event.BelongTo.snoc (h : Event.BelongTo history event.call events) :
    Event.BelongTo (history ++ [event]) event.call (events ++ [event]) := by
  constructor
  · intro other hother
    rcases List.mem_append.mp hother with hother | hother
    · exact h.call other hother
    · rw [List.mem_singleton.mp hother]
  · intro other hother
    rcases List.mem_append.mp hother with hother | hother
    · exact List.mem_append_left _ (h.performed other hother)
    · exact List.mem_append_right _ hother

theorem Coherent.of_start (store : σ) :
    Coherent handle interface allowed post Holds
      (System.start store : System Op Reply κ ε σ ρ ι) where
  pending := nofun
  lawful := nofun
  kept := nofun
  ordered := List.Pairwise.nil
  returned := nofun

variable {s : System Op Reply κ ε σ ρ ι}

theorem Coherent.setReturned (h : Coherent handle interface allowed post Holds s)
    (hpost : post call (seen handle interface events))
    (hbelong : Event.BelongTo s.history call events) :
    Coherent handle interface allowed post Holds
      { s with returned := s.returned ++ [(call, events)] } where
  pending := h.pending
  lawful := h.lawful
  kept := h.kept
  ordered := h.ordered
  returned := by
    intro other others hreturned
    rcases List.mem_append.mp hreturned with hold | hnew
    · exact h.returned other others hold
    · obtain ⟨rfl, rfl⟩ := Prod.mk.inj (List.mem_singleton.mp hnew)
      exact ⟨hpost, hbelong⟩

theorem Coherent.perform (hsound : Sound handle interface program allowed post Holds)
    (h : Coherent handle interface allowed post Holds s) (event : Event Op κ σ ρ)
    (hbefore : event.before = s.store) (hlawful : event.Lawful allowed Holds) :
    Coherent handle interface allowed post Holds
      { s with store := event.after handle, history := s.history ++ [event] } := by
  have hstable : ∀ r, Holds s.store r → Holds (event.after handle) r := by
    rw [← hbefore]
    exact hsound.stable event.call event.seen event.op event.before hlawful.allowed hlawful.seen
  constructor
  · intro caller pending hpending
    obtain ⟨hrespects, hheld, hbelong⟩ := h.pending caller pending hpending
    exact ⟨hrespects, fun r hr => hstable r (hheld r hr), hbelong.append event⟩
  · intro other hother
    rcases List.mem_append.mp hother with hother | hother
    · exact h.lawful other hother
    · rwa [List.mem_singleton.mp hother]
  · intro other hother r hr
    rcases List.mem_append.mp hother with hother | hother
    · exact hstable r (h.kept other hother r hr)
    · rwa [List.mem_singleton.mp hother] at hr
  · rw [List.pairwise_append]
    refine ⟨h.ordered, List.pairwise_singleton _ _, ?_⟩
    intro earlier hearlier later hlater r hr
    rw [List.mem_singleton.mp hlater, hbefore]
    exact h.kept earlier hearlier r hr
  · intro call events hreturned
    obtain ⟨hpost, hbelong⟩ := h.returned call events hreturned
    exact ⟨hpost, hbelong.append event⟩

variable [DecidableEq ι] {new : Option (Pending Op Reply κ ε σ ρ)} {caller : ι}

theorem Coherent.setPending
    (h : Coherent handle interface allowed post Holds s)
    (hnew : ∀ pending, new = some pending →
      pending.program.Respects interface (allowed pending.call) (fun _ => post pending.call)
          (seen handle interface pending.events) ∧
        (∀ r ∈ seen handle interface pending.events, Holds s.store r) ∧
        Event.BelongTo s.history pending.call pending.events) :
    Coherent handle interface allowed post Holds
      { s with pending := Function.update s.pending caller new } where
  pending := by
    intro other pending hpending
    by_cases hother : other = caller
    · subst hother
      exact hnew pending (by simpa using hpending)
    · exact h.pending other pending (by simpa [hother] using hpending)
  lawful := h.lawful
  kept := h.kept
  ordered := h.ordered
  returned := h.returned

theorem Coherent.step (hsound : Sound handle interface program allowed post Holds)
    (h : Coherent handle interface allowed post Holds s) (action : Action ι κ) :
    Coherent handle interface allowed post Holds (s.step handle interface program action) := by
  cases action with
  | start caller call =>
    unfold System.step
    dsimp only
    split
    · exact h
    · apply h.setPending
      intro pending hpending
      obtain rfl := Option.some.inj hpending
      exact ⟨hsound.program call, nofun, nofun, nofun⟩
  | advance caller =>
    unfold System.step
    dsimp only
    split
    · exact h
    · exact h.setPending nofun
    · rename_i call _ events hpending
      obtain ⟨hrespects, _, hbelong⟩ := h.pending caller _ hpending
      cases hrespects with
      | ok hpost => exact (h.setReturned hpost hbelong).setPending nofun
    · rename_i call op next events hpending
      obtain ⟨hrespects, hseen, hbelong⟩ := h.pending caller _ hpending
      obtain _ | _ | ⟨hallowed, hnext⟩ := hrespects
      let event : Event Op κ σ ρ := ⟨call, op, seen handle interface events, s.store⟩
      have hperform := h.perform hsound event rfl ⟨hallowed, hseen⟩
      apply hperform.setPending
      intro pending hpending'
      obtain rfl := Option.some.inj hpending'
      have hshown : seen handle interface (events ++ [event]) =
          seen handle interface events ++ event.shown handle interface := by
        rw [seen, List.flatMap_append, List.flatMap_singleton, ← seen]
      refine ⟨?_, ?_, hbelong.snoc⟩
      · rw [hshown]
        exact hnext _ (hsound.possible op s.store)
      · intro r hr
        rw [hshown] at hr
        rcases List.mem_append.mp hr with hr | hr
        · exact hsound.stable call _ op s.store hallowed hseen r (hseen r hr)
        · exact hsound.fresh op s.store r hr

variable {store : σ}

theorem Coherent.of_reachable (hsound : Sound handle interface program allowed post Holds)
    (h : Runs.Reachable (System.step handle interface program) (fun _ _ => True)
      (System.start store) s) : Coherent handle interface allowed post Holds s :=
  h.invariant (Coherent handle interface allowed post Holds) (.of_start store)
    fun _ action hcoherent _ => hcoherent.step hsound action

theorem System.step_store (s : System Op Reply κ ε σ ρ ι) (action : Action ι κ) :
    (s.step handle interface program action).store = s.store ∨
      ∃ caller call op next events, action = .advance caller ∧
        s.pending caller = some ⟨call, .call op next, events⟩ ∧
        (s.step handle interface program action).store = (handle op s.store).2 := by
  cases action with
  | start caller call =>
    refine .inl ?_
    unfold System.step
    dsimp only
    split <;> rfl
  | advance caller =>
    unfold System.step
    dsimp only
    split
    · exact .inl rfl
    · exact .inl rfl
    · exact .inl rfl
    · rename_i call op next events hpending
      exact .inr ⟨caller, call, op, next, events, rfl, hpending, rfl⟩

variable {condition : System Op Reply κ ε σ ρ ι → Action ι κ → Prop}

/-- What the operations of a run keep about the store holds in every system reached. -/
theorem store_invariant (hsound : Sound handle interface program allowed post Holds)
    (inv : σ → Prop) (hstart : inv store)
    (hop : ∀ (s : System Op Reply κ ε σ ρ ι) caller call op next events,
      Coherent handle interface allowed post Holds s →
        s.pending caller = some ⟨call, .call op next, events⟩ → condition s (.advance caller) →
          inv s.store → inv (handle op s.store).2)
    (h : Runs.Reachable (System.step handle interface program) condition (System.start store) s) :
    inv s.store := by
  have hboth : Coherent handle interface allowed post Holds s ∧ inv s.store := by
    apply h.invariant fun s => Coherent handle interface allowed post Holds s ∧ inv s.store
    · exact ⟨.of_start store, hstart⟩
    · intro s action hinv hcondition
      refine ⟨hinv.1.step hsound action, ?_⟩
      rcases s.step_store action with hstore |
        ⟨caller, call, op, next, events, rfl, hpending, hstore⟩
      · rw [hstore]
        exact hinv.2
      · rw [hstore]
        exact hop s caller call op next events hinv.1 hpending hcondition hinv.2
  exact hboth.2

/-- What lawful events keep about the store and the history holds in every system reached. -/
theorem history_invariant (hsound : Sound handle interface program allowed post Holds)
    (inv : σ → List (Event Op κ σ ρ) → Prop)
    (hstart : inv store [])
    (hevent : ∀ history event, event.Lawful allowed Holds → inv event.before history →
      inv (event.after handle) (history ++ [event]))
    (h : Runs.Reachable (System.step handle interface program) (fun _ _ => True)
      (System.start store) s) : inv s.store s.history := by
  have hboth : Coherent handle interface allowed post Holds s ∧ inv s.store s.history := by
    apply h.invariant fun s => Coherent handle interface allowed post Holds s ∧
      inv s.store s.history
    · exact ⟨.of_start store, hstart⟩
    · rintro s action ⟨hcoherent, hinv⟩ _
      refine ⟨hcoherent.step hsound action, ?_⟩
      cases action with
      | start caller call =>
        unfold System.step
        dsimp only
        split <;> exact hinv
      | advance caller =>
        unfold System.step
        dsimp only
        split
        · exact hinv
        · exact hinv
        · exact hinv
        · rename_i call op next events hpending
          obtain ⟨hrespects, hseen, _⟩ := hcoherent.pending caller _ hpending
          obtain _ | _ | ⟨hallowed, _⟩ := hrespects
          exact hevent s.history ⟨call, op, seen handle interface events, s.store⟩
            ⟨hallowed, hseen⟩ hinv
  exact hboth.2

theorem prefix_invariant (hsound : Sound handle interface program allowed post Holds)
    (inv : σ → List (Event Op κ σ ρ) → Prop)
    (hstart : inv store [])
    (hevent : ∀ history event, event.Lawful allowed Holds → inv event.before history →
      inv (event.after handle) (history ++ [event]))
    (h : Runs.Reachable (System.step handle interface program) (fun _ _ => True)
      (System.start store) s) {before after : List (Event Op κ σ ρ)}
    (hsplit : s.history = before ++ event :: after) :
    event.Lawful allowed Holds ∧ inv event.before before := by
  have hboth := history_invariant hsound (fun store history => inv store history ∧
    ∀ before event after, history = before ++ event :: after →
      event.Lawful allowed Holds ∧ inv event.before before) ?_ ?_ h
  · exact hboth.2 before event after hsplit
  · refine ⟨hstart, ?_⟩
    intro before event after hnil
    simp at hnil
  · rintro history last hlawful ⟨hinv, hprefix⟩
    refine ⟨hevent history last hlawful hinv, ?_⟩
    intro before event after hsplit
    rcases List.eq_nil_or_concat' after with rfl | ⟨after, other, rfl⟩
    · obtain ⟨rfl, hlast⟩ := List.append_inj' hsplit rfl
      obtain rfl := (List.cons.inj hlast).1
      exact ⟨hlawful, hinv⟩
    · rw [← List.cons_append, ← List.append_assoc] at hsplit
      exact hprefix before event after (List.append_inj' hsplit rfl).1

variable (handle) in
structure Event.Replay {α : Type} (p : Program Op Reply ε α) (events : List (Event Op κ σ ρ))
    (rest : Program Op Reply ε α) : Prop where
  replay : p.replay handle (events.map Event.before) = rest
  trace : p.trace handle (events.map Event.before) =
    events.map fun event => (event.op, event.before)

theorem Event.Replay.perform {p : Program Op Reply ε Unit}
    {next : Reply event.op → Program Op Reply ε Unit}
    (h : Event.Replay handle p events (.call event.op next)) :
    Event.Replay handle p (events ++ [event]) (next (handle event.op event.before).1) := by
  constructor
  · rw [List.map_append, Program.replay_append, h.replay]
    rfl
  · rw [List.map_append, Program.trace_append, h.replay, h.trace, List.map_append]
    rfl

variable {α : Type}

theorem Event.Replay.result {x : Program Op Reply ε α}
    (h : Event.Replay handle (x >>= fun _ => pure ()) events (.done (.ok ()))) :
    ∃ a, Event.Replay handle x events (.done (.ok a)) := by
  have hreplay := h.replay
  rw [Program.replay_bind_pure] at hreplay
  obtain ⟨a, ha⟩ := Program.eq_ok_of_bind_pure hreplay
  exact ⟨a, ha, (Program.trace_bind_pure handle x () _).symm.trans h.trace⟩

theorem Event.Replay.ensures {x : Program Op Reply ε α}
    {a : α} (h : Event.Replay handle x events (.done (.ok a)))
    (hpossible : ∀ op s, interface.possible op (handle op s).1)
    {allowed : List ρ → Op → Prop} {post : α → List ρ → Prop}
    (hx : x.Respects interface allowed post []) : post a (Interleaving.seen handle interface events) := by
  have hpost := hx.replay hpossible h.replay
  rwa [h.trace, List.nil_append, List.flatMap_map] at hpost

variable (handle program) in
/-- What a call is doing follows from the stores that its operations found. -/
structure System.Replays (s : System Op Reply κ ε σ ρ ι) : Prop where
  pending : ∀ caller pending, s.pending caller = some pending →
    Event.Replay handle (program pending.call) pending.events pending.program
  returned : ∀ call events, (call, events) ∈ s.returned →
    Event.Replay handle (program call) events (.done (.ok ()))

theorem System.Replays.setPending
    (h : s.Replays handle program)
    (hnew : ∀ pending, new = some pending →
      Event.Replay handle (program pending.call) pending.events pending.program) :
    System.Replays handle program
      { s with pending := Function.update s.pending caller new } where
  pending := by
    intro other pending hpending
    by_cases hother : other = caller
    · subst hother
      exact hnew pending (by simpa using hpending)
    · exact h.pending other pending (by simpa [hother] using hpending)
  returned := h.returned

theorem System.Replays.step (h : s.Replays handle program) (action : Action ι κ) :
    (s.step handle interface program action).Replays handle program := by
  cases action with
  | start caller call =>
    unfold System.step
    dsimp only
    split
    · exact h
    · apply h.setPending
      intro pending hpending
      obtain rfl := Option.some.inj hpending
      exact ⟨rfl, rfl⟩
  | advance caller =>
    unfold System.step
    dsimp only
    split
    · exact h
    · exact h.setPending nofun
    · rename_i call _ events hpending
      have hcall := h.pending caller _ hpending
      refine System.Replays.setPending (s := { s with
        returned := s.returned ++ [(call, events)] }) ⟨h.pending, ?_⟩ nofun
      intro other others hreturned
      rcases List.mem_append.mp hreturned with hold | hnew
      · exact h.returned other others hold
      · obtain ⟨rfl, rfl⟩ := Prod.mk.inj (List.mem_singleton.mp hnew)
        exact hcall
    · rename_i call op next events hpending
      have hcall := h.pending caller _ hpending
      refine System.Replays.setPending (s := { s with
        store := (handle op s.store).2
        history := s.history ++ [⟨call, op, seen handle interface events, s.store⟩] })
        ⟨h.pending, h.returned⟩ ?_
      intro pending hpending'
      obtain rfl := Option.some.inj hpending'
      exact hcall.perform

theorem System.Replays.of_reachable
    (h : Runs.Reachable (System.step handle interface program) condition (System.start store) s) :
    s.Replays handle program :=
  h.invariant (System.Replays handle program) ⟨nofun, fun _ _ h => absurd h List.not_mem_nil⟩
    fun _ action hreplays _ => hreplays.step action

end Interleaving
