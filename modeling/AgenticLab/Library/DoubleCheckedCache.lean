import AgenticLab.Library.Runs
import Mathlib.Data.Option.Basic

/-! # Lookups that are checked again under an exclusive lock

Workers share cells, one for each key. A worker looks its request up under a shared lock and, when
it finds nothing, once more under the exclusive lock, before it computes a value and puts it into
the cell. -/

namespace DoubleCheckedCache

inductive Put (γ ε : Type*) where
  | stored (cell : γ)
  /-- The cell is written, and then the put fails. -/
  | storedAndFailed (cell : γ) (failure : ε)
  | tooLarge
  | failed (failure : ε)

def Put.written? {γ ε : Type*} : Put γ ε → Option γ
  | stored cell => some cell
  | storedAndFailed cell _ => some cell
  | _ => none

structure Interface (κ ρ γ α φ ε : Type*) where
  key : ρ → κ
  lookup : ρ → γ → Except ε (Option α)
  /-- Checks a value that was computed. -/
  check : ρ → α → Except ε Unit
  put : ρ → α → φ → γ → Put γ ε

inductive Answer (α ε : Type*) where
  | cached (value : α)
  | computed (value : α)
  | uncached (value : α)
  | raised (failure : ε)

def Answer.value? {α ε : Type*} : Answer α ε → Option α
  | cached value => some value
  | computed value => some value
  | uncached value => some value
  | raised _ => none

/-- Where a worker is. It holds the shared lock while it looks and the exclusive one from `locked`
on. -/
inductive Phase (ρ α ε : Type*) where
  | idle
  | looking (request : ρ)
  | looked (request : ρ) (result : Except ε (Option α))
  | missed (request : ρ)
  | locked (request : ρ)
  | computing (request : ρ)
  | putting (request : ρ) (value : α)
  | finishing (request : ρ) (answer : Answer α ε)

inductive Event (ω ρ α ε : Type*) where
  | invoked (worker : ω) (request : ρ)
  | stored (request : ρ) (value : α)
  | returned (worker : ω) (request : ρ) (answer : Answer α ε)

/-- One step of one worker, with the failure it meets or with what the computation yields. -/
inductive Action (ρ α φ ε : Type*) where
  | call (request : ρ) (failure : Option ε)
  | read (failure : Option ε)
  | unlockShared
  | acquire (failure : Option ε)
  | recheck (failure : Option ε)
  | compute (outcome : Except ε α)
  | put (fault : φ)
  | release

structure State (ω κ ρ γ α ε : Type*) where
  cells : κ → γ
  phases : ω → Phase ρ α ε
  /-- The latest event first. -/
  history : List (Event ω ρ α ε)

structure Effect (ω κ ρ γ α ε : Type*) where
  phase : Phase ρ α ε
  written : Option (κ × γ) := none
  event : Option (Event ω ρ α ε) := none

namespace Phase

variable {ρ α ε : Type*}

def request? : Phase ρ α ε → Option ρ
  | idle => none
  | looking request => some request
  | looked request _ => some request
  | missed request => some request
  | locked request => some request
  | computing request => some request
  | putting request _ => some request
  | finishing request _ => some request

def isShared : Phase ρ α ε → Bool
  | looking _ => true
  | looked _ _ => true
  | _ => false

def isExclusive : Phase ρ α ε → Bool
  | locked _ => true
  | computing _ => true
  | putting _ _ => true
  | finishing _ _ => true
  | _ => false

/-- Between the miss under the exclusive lock and the put. -/
def isComputing : Phase ρ α ε → Bool
  | computing _ => true
  | putting _ _ => true
  | _ => false

def hit? : Phase ρ α ε → Option α
  | looked _ (.ok found) => found
  | finishing _ (.cached value) => some value
  | _ => none

/-- The value that a worker has at hand. -/
def value? : Phase ρ α ε → Option α
  | looked _ (.ok found) => found
  | putting _ value => some value
  | finishing _ answer => answer.value?
  | _ => none

end Phase

variable {ω κ ρ γ α φ ε : Type*}

section

variable (I : Interface κ ρ γ α φ ε)

def Interface.read (cells : κ → γ) (request : ρ) : Option ε → Except ε (Option α)
  | some failure => .error failure
  | none => I.lookup request (cells (I.key request))

def effect (worker : ω) (cells : κ → γ) :
    Phase ρ α ε → Action ρ α φ ε → Option (Effect ω κ ρ γ α ε)
  | .idle, .call request none => some { phase := .looking request }
  | .idle, .call request (some failure) => some {
      phase := .idle
      event := some (.returned worker request (.raised failure)) }
  | .looking request, .read failure =>
    some { phase := .looked request (I.read cells request failure) }
  | .looked request (.ok (some value)), .unlockShared => some {
      phase := .idle
      event := some (.returned worker request (.cached value)) }
  | .looked request (.ok none), .unlockShared => some { phase := .missed request }
  | .looked request (.error failure), .unlockShared => some {
      phase := .idle
      event := some (.returned worker request (.raised failure)) }
  | .missed request, .acquire none => some { phase := .locked request }
  | .missed request, .acquire (some failure) => some {
      phase := .idle
      event := some (.returned worker request (.raised failure)) }
  | .locked request, .recheck failure =>
    match I.read cells request failure with
    | .ok (some value) => some { phase := .finishing request (.cached value) }
    | .ok none => some {
        phase := .computing request
        event := some (.invoked worker request) }
    | .error failure => some { phase := .finishing request (.raised failure) }
  | .computing request, .compute (.ok value) =>
    match I.check request value with
    | .ok () => some { phase := .putting request value }
    | .error failure => some { phase := .finishing request (.raised failure) }
  | .computing request, .compute (.error failure) =>
    some { phase := .finishing request (.raised failure) }
  | .putting request value, .put fault =>
    match I.put request value fault (cells (I.key request)) with
    | .stored cell => some {
        phase := .finishing request (.computed value)
        written := some (I.key request, cell)
        event := some (.stored request value) }
    | .storedAndFailed cell failure => some {
        phase := .finishing request (.raised failure)
        written := some (I.key request, cell)
        event := some (.stored request value) }
    | .tooLarge => some { phase := .finishing request (.uncached value) }
    | .failed failure => some { phase := .finishing request (.raised failure) }
  | .finishing request answer, .release => some {
      phase := .idle
      event := some (.returned worker request answer) }
  | _, _ => none

def State.apply [DecidableEq ω] [DecidableEq κ] (s : State ω κ ρ γ α ε) (worker : ω)
    (e : Effect ω κ ρ γ α ε) : State ω κ ρ γ α ε where
  cells := match e.written with
    | none => s.cells
    | some (key, cell) => Function.update s.cells key cell
  phases := Function.update s.phases worker e.phase
  history := e.event.toList ++ s.history

def step [DecidableEq ω] [DecidableEq κ] (s : State ω κ ρ γ α ε) (action : ω × Action ρ α φ ε) :
    State ω κ ρ γ α ε :=
  match effect I action.1 s.cells (s.phases action.1) action.2 with
  | none => s
  | some e => s.apply action.1 e

/-- A shared lock is granted when nobody has the exclusive one of the key, and the exclusive one
when nobody has any. -/
def Granted (s : State ω κ ρ γ α ε) : ω × Action ρ α φ ε → Prop
  | (_, .call request none) => ∀ worker, (s.phases worker).isExclusive = true →
      ∀ held ∈ (s.phases worker).request?, I.key held ≠ I.key request
  | (waiting, .acquire none) => ∀ request ∈ (s.phases waiting).request?, ∀ worker,
      (s.phases worker).isExclusive = true ∨ (s.phases worker).isShared = true →
        ∀ held ∈ (s.phases worker).request?, I.key held ≠ I.key request
  | _ => True

end

/-- Nobody has called yet. -/
def State.start (ω : Type*) {κ ρ γ α ε : Type*} (cells : κ → γ) : State ω κ ρ γ α ε :=
  ⟨cells, fun _ => .idle, []⟩

/-! ## What one step can do -/

section

variable {I : Interface κ ρ γ α φ ε} {worker : ω} {cells : κ → γ} {phase : Phase ρ α ε}
  {action : Action ρ α φ ε} {e : Effect ω κ ρ γ α ε} {request : ρ}

theorem Interface.lookup_of_read {failure : Option ε} {found : Option α}
    (h : I.read cells request failure = .ok found) :
    I.lookup request (cells (I.key request)) = .ok found := by
  cases failure with
  | none => exact h
  | some failure => cases h

/-- The steps of a worker, one for each branch of `effect`. -/
inductive Takes (I : Interface κ ρ γ α φ ε) (worker : ω) (cells : κ → γ) :
    Phase ρ α ε → Action ρ α φ ε → Effect ω κ ρ γ α ε → Prop
  | call (request : ρ) :
      Takes I worker cells .idle (.call request none) { phase := .looking request }
  | callFailed (request : ρ) (failure : ε) :
      Takes I worker cells .idle (.call request (some failure))
        { phase := .idle, event := some (.returned worker request (.raised failure)) }
  | read (request : ρ) (failure : Option ε) :
      Takes I worker cells (.looking request) (.read failure)
        { phase := .looked request (I.read cells request failure) }
  | hit (request : ρ) (value : α) :
      Takes I worker cells (.looked request (.ok (some value))) .unlockShared
        { phase := .idle, event := some (.returned worker request (.cached value)) }
  | miss (request : ρ) :
      Takes I worker cells (.looked request (.ok none)) .unlockShared { phase := .missed request }
  | readFailed (request : ρ) (failure : ε) :
      Takes I worker cells (.looked request (.error failure)) .unlockShared
        { phase := .idle, event := some (.returned worker request (.raised failure)) }
  | acquire (request : ρ) :
      Takes I worker cells (.missed request) (.acquire none) { phase := .locked request }
  | acquireFailed (request : ρ) (failure : ε) :
      Takes I worker cells (.missed request) (.acquire (some failure))
        { phase := .idle, event := some (.returned worker request (.raised failure)) }
  | rehit (request : ρ) (failure : Option ε) (value : α)
      (hread : I.read cells request failure = .ok (some value)) :
      Takes I worker cells (.locked request) (.recheck failure)
        { phase := .finishing request (.cached value) }
  | invoke (request : ρ) (failure : Option ε) (hread : I.read cells request failure = .ok none) :
      Takes I worker cells (.locked request) (.recheck failure)
        { phase := .computing request, event := some (.invoked worker request) }
  | recheckFailed (request : ρ) (unread : Option ε) (failure : ε) :
      Takes I worker cells (.locked request) (.recheck unread)
        { phase := .finishing request (.raised failure) }
  | checked (request : ρ) (value : α) (hcheck : I.check request value = .ok ()) :
      Takes I worker cells (.computing request) (.compute (.ok value))
        { phase := .putting request value }
  | computeFailed (request : ρ) (outcome : Except ε α) (failure : ε) :
      Takes I worker cells (.computing request) (.compute outcome)
        { phase := .finishing request (.raised failure) }
  | stored (request : ρ) (value : α) (fault : φ) (cell : γ)
      (hput : I.put request value fault (cells (I.key request)) = .stored cell) :
      Takes I worker cells (.putting request value) (.put fault)
        { phase := .finishing request (.computed value)
          written := some (I.key request, cell)
          event := some (.stored request value) }
  | storedAndFailed (request : ρ) (value : α) (fault : φ) (cell : γ) (failure : ε)
      (hput : I.put request value fault (cells (I.key request)) = .storedAndFailed cell failure) :
      Takes I worker cells (.putting request value) (.put fault)
        { phase := .finishing request (.raised failure)
          written := some (I.key request, cell)
          event := some (.stored request value) }
  | tooLarge (request : ρ) (value : α) (fault : φ) :
      Takes I worker cells (.putting request value) (.put fault)
        { phase := .finishing request (.uncached value) }
  | putFailed (request : ρ) (value : α) (fault : φ) (failure : ε) :
      Takes I worker cells (.putting request value) (.put fault)
        { phase := .finishing request (.raised failure) }
  | release (request : ρ) (answer : Answer α ε) :
      Takes I worker cells (.finishing request answer) .release
        { phase := .idle, event := some (.returned worker request answer) }

theorem takes_of_effect (h : effect I worker cells phase action = some e) :
    Takes I worker cells phase action e := by
  revert h
  fun_cases effect I worker cells phase action <;> rintro ⟨⟩ <;> constructor <;> assumption

theorem request_of_effect (h : effect I worker cells phase action = some e) :
    ∀ request ∈ e.phase.request?, request ∈ phase.request? ∨
      phase = .idle ∧ action = .call request none ∧ e.phase = .looking request := by
  intro request hrequest
  cases takes_of_effect h <;>
    first
    | exact .inl hrequest
    | (cases hrequest; exact .inr ⟨rfl, rfl, rfl⟩)
    | cases hrequest

/-- The locks of a phase are those of the one before, or were just granted. -/
theorem isExclusive_of_effect (h : effect I worker cells phase action = some e)
    (hexclusive : e.phase.isExclusive = true) :
    phase.isExclusive = true ∨ ∃ request, phase = .missed request ∧ action = .acquire none := by
  cases takes_of_effect h <;>
    first
    | exact .inl rfl
    | exact .inr ⟨_, rfl, rfl⟩
    | cases hexclusive

theorem isShared_of_effect (h : effect I worker cells phase action = some e)
    (hshared : e.phase.isShared = true) :
    phase.isShared = true ∨ ∃ request, phase = .idle ∧ action = .call request none := by
  cases takes_of_effect h <;>
    first
    | exact .inl rfl
    | exact .inr ⟨_, rfl, rfl⟩
    | cases hshared

theorem written_of_effect (h : effect I worker cells phase action = some e) {key : κ} {cell : γ}
    (hwritten : e.written = some (key, cell)) :
    ∃ request value fault, phase = .putting request value ∧ key = I.key request ∧
      (I.put request value fault (cells key)).written? = some cell ∧
      e.event = some (.stored request value) ∧ e.phase.isComputing = false := by
  cases takes_of_effect h <;>
    first
    | cases hwritten; done
    | (cases hwritten
       exact ⟨_, _, _, rfl, rfl, congrArg Put.written? (by assumption), rfl, rfl⟩)

variable {value : α}

theorem stored_of_effect (h : effect I worker cells phase action = some e)
    (hevent : e.event = some (.stored request value)) :
    phase = .putting request value ∧ ∃ cell, e.written = some (I.key request, cell) := by
  cases takes_of_effect h <;>
    first
    | (cases hevent; exact ⟨rfl, _, rfl⟩)
    | cases hevent

theorem isComputing_of_effect (h : effect I worker cells phase action = some e)
    (hcomputing : e.phase.isComputing = true) :
    phase.isComputing = true ∨ ∃ request, phase = .locked request ∧
      I.lookup request (cells (I.key request)) = .ok none := by
  cases takes_of_effect h <;>
    first
    | exact .inl rfl
    | exact .inr ⟨_, rfl, I.lookup_of_read (by assumption)⟩
    | cases hcomputing

theorem invoked_of_effect (h : effect I worker cells phase action = some e) {invoker : ω}
    (hevent : e.event = some (.invoked invoker request)) :
    phase = .locked request ∧ I.lookup request (cells (I.key request)) = .ok none := by
  cases takes_of_effect h <;>
    first
    | (cases hevent; exact ⟨rfl, I.lookup_of_read (by assumption)⟩)
    | cases hevent

variable {result : Except ε (Option α)}

theorem hit_looked
    (h : (Phase.looked request result).hit? = some value) : result = .ok (some value) := by
  cases result with
  | ok found => exact congrArg Except.ok h
  | error failure => cases h

theorem value_looked
    (h : (Phase.looked request result).value? = some value) : result = .ok (some value) := by
  cases result with
  | ok found => exact congrArg Except.ok h
  | error failure => cases h

theorem hit_of_effect (h : effect I worker cells phase action = some e)
    (hhit : e.phase.hit? = some value) :
    phase.hit? = some value ∨ ∃ request ∈ phase.request?,
      I.lookup request (cells (I.key request)) = .ok (some value) := by
  cases takes_of_effect h <;>
    first
    | exact .inr ⟨_, rfl, I.lookup_of_read (hit_looked hhit)⟩
    | (cases hhit; exact .inr ⟨_, rfl, I.lookup_of_read (by assumption)⟩)
    | cases hhit

variable {caller : ω}

theorem cached_of_effect (h : effect I worker cells phase action = some e)
    (hevent : e.event = some (.returned caller request (.cached value))) :
    phase.hit? = some value := by
  cases takes_of_effect h <;>
    first
    | (cases hevent; rfl)
    | cases hevent

theorem putting_of_effect (h : effect I worker cells phase action = some e)
    (hputting : e.phase = .putting request value) :
    phase = .computing request ∧ action = .compute (.ok value) ∧
      I.check request value = .ok () := by
  cases takes_of_effect h <;>
    first
    | (cases hputting; exact ⟨rfl, rfl, by assumption⟩)
    | cases hputting

theorem value_of_effect (h : effect I worker cells phase action = some e)
    (hrequest : e.phase.request? = some request) (hvalue : e.phase.value? = some value) :
    phase.request? = some request ∧ phase.value? = some value ∨
      I.lookup request (cells (I.key request)) = .ok (some value) ∨
        phase = .computing request ∧ action = .compute (.ok value) := by
  cases takes_of_effect h <;> cases hrequest <;>
    first
    | cases hvalue; done
    | exact .inr (.inl (I.lookup_of_read (value_looked hvalue)))
    | (cases hvalue; exact .inr (.inl (I.lookup_of_read (by assumption))))
    | (cases hvalue; exact .inr (.inr ⟨rfl, rfl⟩))
    | (cases hvalue; exact .inl ⟨rfl, rfl⟩)

theorem returned_of_effect (h : effect I worker cells phase action = some e)
    {answer : Answer α ε} (hevent : e.event = some (.returned caller request answer))
    (hvalue : answer.value? = some value) :
    phase.request? = some request ∧ phase.value? = some value := by
  cases takes_of_effect h <;>
    first
    | cases hevent; done
    | (cases hevent; cases hvalue; done)
    | (cases hevent; exact ⟨rfl, hvalue⟩)

end

/-- What an event says about those before it: a value is stored once, nothing is computed behind
that, and only a stored value is returned from the cache. -/
def Event.Follows (earlier : List (Event ω ρ α ε)) : Event ω ρ α ε → Prop
  | invoked _ _ => ∀ request value, stored request value ∉ earlier
  | stored _ _ => ∀ request value, stored request value ∉ earlier
  | returned _ _ (.cached value) => ∃ request, stored request value ∈ earlier
  | returned _ _ _ => True

def Orderly (history : List (Event ω ρ α ε)) : Prop :=
  ∀ later event earlier, history = later ++ event :: earlier → event.Follows earlier

theorem Orderly.cons {history : List (Event ω ρ α ε)} {event : Event ω ρ α ε}
    (h : Orderly history) (hevent : event.Follows history) : Orderly (event :: history) := by
  intro later other earlier hsplit
  cases later with
  | nil =>
    obtain ⟨rfl, rfl⟩ := List.cons.inj hsplit
    exact hevent
  | cons first later => exact h later other earlier (List.cons.inj hsplit).2

section

variable {I : Interface κ ρ γ α φ ε} {s : State ω κ ρ γ α ε}

def Exclusive (I : Interface κ ρ γ α φ ε) (s : State ω κ ρ γ α ε) : Prop :=
  ∀ worker other, other ≠ worker → (s.phases worker).isExclusive = true →
    (s.phases other).isExclusive = true ∨ (s.phases other).isShared = true →
      ∀ request ∈ (s.phases worker).request?, ∀ held ∈ (s.phases other).request?,
        I.key held ≠ I.key request

/-! ## One key -/

structure OneKey (I : Interface κ ρ γ α φ ε) (key : κ) (same : ρ → Prop) : Prop where
  key_eq : ∀ request, same request → I.key request = key
  lookup_put : ∀ request other value fault cell written, same request → same other →
    I.check request value = .ok () →
      (I.put request value fault cell).written? = some written →
        I.lookup other written = .ok (some value)

def CallsOnly (same : ρ → Prop) : ω × Action ρ α φ ε → Prop
  | (_, .call request _) => same request
  | _ => True

/-- The invariant of a run with calls for one key: what the cell and the workers have found follows
from what has been stored. -/
structure Single (I : Interface κ ρ γ α φ ε) (key : κ) (same : ρ → Prop) (cell : γ)
    (s : State ω κ ρ γ α ε) : Prop where
  exclusive : Exclusive I s
  requests : ∀ worker, ∀ request ∈ (s.phases worker).request?, same request
  checked : ∀ worker request value, s.phases worker = .putting request value →
    I.check request value = .ok ()
  untouched : (∀ request value, Event.stored request value ∉ s.history) → s.cells key = cell
  kept : ∀ request value, Event.stored request value ∈ s.history →
    (∀ other, same other → I.lookup other (s.cells key) = .ok (some value)) ∧
      ∀ worker, (s.phases worker).isComputing = false
  owners : ∀ request value, Event.stored request value ∈ s.history → same request
  hits : ∀ worker, ∀ value ∈ (s.phases worker).hit?, ∃ request, .stored request value ∈ s.history
  orderly : Orderly s.history

variable {phase : Phase ρ α ε}

theorem isExclusive_of_isComputing (h : phase.isComputing = true) : phase.isExclusive = true := by
  cases phase <;> first | rfl | cases h

theorem exists_request_of_isExclusive (h : phase.isExclusive = true) :
    ∃ request, phase.request? = some request := by
  cases phase <;> first | exact ⟨_, rfl⟩ | cases h

namespace Single

variable {key : κ} {same : ρ → Prop} {cell : γ}

theorem exclusive_unique (hkey : OneKey I key same) (hs : Single I key same cell s)
    {worker other : ω} (hworker : (s.phases worker).isExclusive = true)
    (hother : (s.phases other).isExclusive = true) : worker = other := by
  obtain ⟨request, hrequest⟩ := exists_request_of_isExclusive hworker
  obtain ⟨held, hheld⟩ := exists_request_of_isExclusive hother
  by_contra hne
  refine hs.exclusive worker other (Ne.symm hne) hworker (.inl hother) request hrequest held hheld
    ?_
  rw [hkey.key_eq _ (hs.requests worker request hrequest),
    hkey.key_eq _ (hs.requests other held hheld)]

variable {request : ρ}

theorem not_stored_of_miss (hs : Single I key same cell s) (hsame : same request)
    (hmiss : I.lookup request (s.cells key) = .ok none) :
    ∀ other value, Event.stored other value ∉ s.history := by
  intro other value hstored
  rw [(hs.kept other value hstored).1 request hsame] at hmiss
  cases hmiss

theorem not_stored_of_computing (hs : Single I key same cell s) {worker : ω}
    (hcomputing : (s.phases worker).isComputing = true) :
    ∀ request value, Event.stored request value ∉ s.history := by
  intro request value hstored
  rw [(hs.kept request value hstored).2 worker] at hcomputing
  cases hcomputing

theorem stored_of_hit (hs : Single I key same cell s)
    (hstart : ∀ request value, same request → I.lookup request cell ≠ .ok (some value)) {value : α}
    (hsame : same request) (hhit : I.lookup request (s.cells key) = .ok (some value)) :
    ∃ other, Event.stored other value ∈ s.history := by
  by_contra hnone
  by_cases hstored : ∃ other found, Event.stored other found ∈ s.history
  · obtain ⟨other, found, hstored⟩ := hstored
    rw [(hs.kept other found hstored).1 request hsame] at hhit
    obtain rfl := Option.some.inj (Except.ok.inj hhit)
    exact hnone ⟨other, hstored⟩
  · rw [hs.untouched fun other found h => hstored ⟨other, found, h⟩] at hhit
    exact hstart request value hsame hhit

theorem lookup_of_effect (hkey : OneKey I key same) (hs : Single I key same cell s) (actor : ω)
    (hrequest : request ∈ (s.phases actor).request?) {found : Option α}
    (hlookup : I.lookup request (s.cells (I.key request)) = .ok found) :
    same request ∧ I.lookup request (s.cells key) = .ok found := by
  have hsame := hs.requests actor request hrequest
  rw [hkey.key_eq request hsame] at hlookup
  exact ⟨hsame, hlookup⟩

theorem start (I : Interface κ ρ γ α φ ε) (key : κ) (same : ρ → Prop) (cells : κ → γ) :
    Single I key same (cells key) (State.start ω cells) where
  exclusive := fun worker other hne hexclusive => by cases hexclusive
  requests := fun worker request hrequest => by cases hrequest
  checked := fun worker request value hputting => by cases hputting
  untouched := fun _ => rfl
  kept := fun request value hstored => by cases hstored
  owners := fun request value hstored => by cases hstored
  hits := fun worker value hvalue => by cases hvalue
  orderly := fun later event earlier hsplit => by
    have hlength := congrArg List.length hsplit
    simp [State.start] at hlength

end Single

end

/-! ## Runs for one key -/

section

variable [DecidableEq ω] [DecidableEq κ] {I : Interface κ ρ γ α φ ε} {s : State ω κ ρ γ α ε}

theorem step_cases (action : ω × Action ρ α φ ε) :
    step I s action = s ∨ ∃ e, effect I action.1 s.cells (s.phases action.1) action.2 = some e ∧
      step I s action = s.apply action.1 e := by
  unfold step
  cases h : effect I action.1 s.cells (s.phases action.1) action.2 with
  | none => exact .inl rfl
  | some e => exact .inr ⟨e, rfl, rfl⟩

variable {e : Effect ω κ ρ γ α ε} {worker actor : ω}

theorem step_of_effect {act : Action ρ α φ ε}
    (h : effect I worker s.cells (s.phases worker) act = some e) :
    step I s (worker, act) = s.apply worker e := by
  unfold step
  rw [h]

@[simp] theorem apply_phases_self (worker : ω) (e : Effect ω κ ρ γ α ε) :
    (s.apply worker e).phases worker = e.phase := Function.update_self ..

theorem apply_phases_of_ne {other : ω} (h : other ≠ worker) (e : Effect ω κ ρ γ α ε) :
    (s.apply worker e).phases other = s.phases other := Function.update_of_ne h ..

theorem mem_apply_history {event : Event ω ρ α ε} :
    event ∈ (s.apply actor e).history ↔ e.event = some event ∨ event ∈ s.history := by
  rw [State.apply, List.mem_append, Option.mem_toList]

theorem apply_cells_of_written_none (h : e.written = none) :
    (s.apply actor e).cells = s.cells := by
  rw [State.apply, h]

variable {action : ω × Action ρ α φ ε}

theorem Exclusive.step (hs : Exclusive I s)
    (hgranted : Granted I s action) : Exclusive I (step I s action) := by
  rcases step_cases (I := I) (s := s) action with hsame | ⟨e, heffect, hstep⟩
  · rw [hsame]
    exact hs
  obtain ⟨actor, act⟩ := action
  rw [hstep]
  intro worker other hne hexclusive hlocks request hrequest held hheld
  by_cases hworker : worker = actor
  · subst hworker
    rw [apply_phases_self] at hexclusive hrequest
    rw [apply_phases_of_ne hne] at hlocks hheld
    rcases request_of_effect heffect request hrequest with hold | ⟨-, -, hlooking⟩
    · rcases isExclusive_of_effect heffect hexclusive with hexclusive | ⟨_, -, rfl⟩
      · exact hs worker other hne hexclusive hlocks request hold held hheld
      · exact hgranted request hold other hlocks held hheld
    · rw [hlooking] at hexclusive
      cases hexclusive
  rw [apply_phases_of_ne hworker] at hexclusive hrequest
  by_cases hother : other = actor
  · subst hother
    rw [apply_phases_self] at hlocks hheld
    rcases request_of_effect heffect held hheld with hold | ⟨-, rfl, -⟩
    · rcases hlocks with hlock | hlock
      · rcases isExclusive_of_effect heffect hlock with hlock | ⟨_, -, rfl⟩
        · exact hs worker other hne hexclusive (.inl hlock) request hrequest held hold
        · exact (hgranted held hold worker (.inl hexclusive) request hrequest).symm
      · rcases isShared_of_effect heffect hlock with hlock | ⟨_, hidle, -⟩
        · exact hs worker other hne hexclusive (.inr hlock) request hrequest held hold
        · rw [hidle] at hold
          cases hold
    · exact (hgranted worker hexclusive request hrequest).symm
  · rw [apply_phases_of_ne hother] at hlocks hheld
    exact hs worker other hne hexclusive hlocks request hrequest held hheld

namespace Single

variable {key : κ} {same : ρ → Prop} {cell : γ} {actor : ω} {act : Action ρ α φ ε}
  {e : Effect ω κ ρ γ α ε}

theorem stored_step (hkey : OneKey I key same) (hs : Single I key same cell s)
    (heffect : effect I actor s.cells (s.phases actor) act = some e) {request : ρ} {value : α}
    (hevent : e.event = some (.stored request value)) :
    (∀ other, same other → I.lookup other ((s.apply actor e).cells key) = .ok (some value)) ∧
      ∀ worker, ((s.apply actor e).phases worker).isComputing = false := by
  obtain ⟨hputting, written, hwritten⟩ := stored_of_effect heffect hevent
  obtain ⟨_, _, fault, hphase, -, hput, -, hdone⟩ := written_of_effect heffect hwritten
  obtain ⟨rfl, rfl⟩ := Phase.putting.inj (hputting.symm.trans hphase)
  have hexclusive : (s.phases actor).isExclusive = true := by rw [hputting]; rfl
  have hsame : same request := hs.requests actor request (by rw [hputting]; rfl)
  constructor
  · intro other hother
    have hcell : (s.apply actor e).cells key = written := by
      rw [State.apply, hwritten, ← hkey.key_eq request hsame]
      exact Function.update_self ..
    rw [hcell]
    exact hkey.lookup_put request other value fault _ written hsame hother
      (hs.checked actor request value hputting) hput
  · intro worker
    by_cases hworker : worker = actor
    · rw [hworker, apply_phases_self]
      exact hdone
    · rw [apply_phases_of_ne hworker, Bool.eq_false_iff]
      intro hcomputing
      exact hworker (hs.exclusive_unique hkey (isExclusive_of_isComputing hcomputing) hexclusive)

theorem orderly_step (hkey : OneKey I key same) (hs : Single I key same cell s)
    (heffect : effect I actor s.cells (s.phases actor) act = some e) :
    Orderly (s.apply actor e).history := by
  cases hevent : e.event with
  | none =>
    rw [State.apply, hevent]
    exact hs.orderly
  | some event =>
    rw [State.apply, hevent]
    refine hs.orderly.cons ?_
    cases event with
    | invoked invoker request =>
      obtain ⟨hlocked, hmiss⟩ := invoked_of_effect heffect hevent
      obtain ⟨hsame, hmiss⟩ := hs.lookup_of_effect hkey actor (by rw [hlocked]; rfl) hmiss
      exact hs.not_stored_of_miss hsame hmiss
    | stored request value =>
      obtain ⟨hputting, -⟩ := stored_of_effect heffect hevent
      exact hs.not_stored_of_computing (by rw [hputting]; rfl)
    | returned caller request answer =>
      cases answer with
      | cached value => exact hs.hits actor value (cached_of_effect heffect hevent)
      | computed value => trivial
      | uncached value => trivial
      | raised failure => trivial

theorem step (hkey : OneKey I key same)
    (hstart : ∀ request value, same request → I.lookup request cell ≠ .ok (some value))
    (hs : Single I key same cell s) {action : ω × Action ρ α φ ε} (hgranted : Granted I s action)
    (hcalls : CallsOnly same action) : Single I key same cell (step I s action) := by
  have hexclusive := hs.exclusive.step hgranted
  rcases step_cases (I := I) (s := s) action with hstay | ⟨e, heffect, hstep⟩
  · rw [hstay]
    exact hs
  obtain ⟨actor, act⟩ := action
  rw [hstep] at hexclusive ⊢
  refine ⟨hexclusive, ?_, ?_, ?_, ?_, ?_, ?_, hs.orderly_step hkey heffect⟩
  · intro worker request hrequest
    by_cases hworker : worker = actor
    · subst hworker
      rw [apply_phases_self] at hrequest
      rcases request_of_effect heffect request hrequest with hold | ⟨-, rfl, -⟩
      · exact hs.requests worker request hold
      · exact hcalls
    · rw [apply_phases_of_ne hworker] at hrequest
      exact hs.requests worker request hrequest
  · intro worker request value hputting
    by_cases hworker : worker = actor
    · subst hworker
      rw [apply_phases_self] at hputting
      exact (putting_of_effect heffect hputting).2.2
    · rw [apply_phases_of_ne hworker] at hputting
      exact hs.checked worker request value hputting
  · intro hnone
    cases hwritten : e.written with
    | none =>
      rw [apply_cells_of_written_none hwritten]
      exact hs.untouched fun request value h =>
        hnone request value (mem_apply_history.mpr (.inr h))
    | some written =>
      obtain ⟨request, value, -, -, -, -, hevent, -⟩ := written_of_effect heffect hwritten
      exact absurd (mem_apply_history.mpr (.inl hevent)) (hnone request value)
  · intro request value hmem
    rcases mem_apply_history.mp hmem with hevent | hstored
    · exact hs.stored_step hkey heffect hevent
    obtain ⟨hlookup, hidle⟩ := hs.kept request value hstored
    constructor
    · cases hwritten : e.written with
      | none =>
        rw [apply_cells_of_written_none hwritten]
        exact hlookup
      | some written =>
        obtain ⟨_, _, -, hputting, -⟩ := written_of_effect heffect hwritten
        have hcomputing := hidle actor
        rw [hputting] at hcomputing
        cases hcomputing
    · intro worker
      by_cases hworker : worker = actor
      · subst hworker
        rw [apply_phases_self, Bool.eq_false_iff]
        intro hcomputing
        rcases isComputing_of_effect heffect hcomputing with hold | ⟨other, hlocked, hmiss⟩
        · exact Bool.eq_false_iff.mp (hidle worker) hold
        · obtain ⟨hsame, hmiss⟩ := hs.lookup_of_effect hkey worker (by rw [hlocked]; rfl) hmiss
          exact hs.not_stored_of_miss hsame hmiss request value hstored
      · rw [apply_phases_of_ne hworker]
        exact hidle worker
  · intro request value hmem
    rcases mem_apply_history.mp hmem with hevent | hstored
    · obtain ⟨hputting, -⟩ := stored_of_effect heffect hevent
      exact hs.requests actor request (by rw [hputting]; rfl)
    · exact hs.owners request value hstored
  · intro worker value hvalue
    have hfound : ∃ request, Event.stored request value ∈ s.history := by
      by_cases hworker : worker = actor
      · subst hworker
        rw [apply_phases_self] at hvalue
        rcases hit_of_effect heffect hvalue with hold | ⟨request, hrequest, hhit⟩
        · exact hs.hits worker value hold
        · obtain ⟨hsame, hhit⟩ := hs.lookup_of_effect hkey worker hrequest hhit
          exact hs.stored_of_hit hstart hsame hhit
      · rw [apply_phases_of_ne hworker] at hvalue
        exact hs.hits worker value hvalue
    obtain ⟨request, hstored⟩ := hfound
    exact ⟨request, mem_apply_history.mpr (.inr hstored)⟩

end Single

theorem single_of_reachable {key : κ} {same : ρ → Prop} (hkey : OneKey I key same) {cells : κ → γ}
    (hstart : ∀ request value, same request → I.lookup request (cells key) ≠ .ok (some value))
    (h : Runs.Reachable (step I) (fun s action => Granted I s action ∧ CallsOnly same action)
      (State.start ω cells) s) : Single I key same (cells key) s :=
  h.invariant _ (Single.start I key same cells) fun _ _ hs hallowed =>
    hs.step hkey hstart hallowed.1 hallowed.2

/-- A value that does not fit is returned all the same, and nothing else changes. -/
theorem run_put_tooLarge {request : ρ} {value : α} {fault : φ}
    (hphase : s.phases worker = .putting request value)
    (hput : I.put request value fault (s.cells (I.key request)) = .tooLarge) :
    Runs.run (step I) s [(worker, .put fault), (worker, .release)] =
      { s with
        phases := Function.update s.phases worker .idle
        history := .returned worker request (.uncached value) :: s.history } := by
  have hfirst : step I s (worker, .put fault) =
      s.apply worker { phase := .finishing request (.uncached value) } :=
    step_of_effect (by simp only [hphase, effect, hput])
  have hsecond : step I (s.apply worker { phase := .finishing request (.uncached value) })
      (worker, .release) = (s.apply worker { phase := .finishing request (.uncached value) }).apply
        worker { phase := .idle, event := some (.returned worker request (.uncached value)) } :=
    step_of_effect (by rw [apply_phases_self]; rfl)
  simp only [Runs.run, List.foldl_cons, List.foldl_nil, hfirst, hsecond]
  simp only [State.apply, Function.update_idem]
  rfl

def ComputesGood (good : ρ → α → Prop) (s : State ω κ ρ γ α ε) : ω × Action ρ α φ ε → Prop
  | (worker, .compute (.ok value)) =>
    ∀ request, s.phases worker = .computing request → good request value
  | _ => True

structure AllGood (I : Interface κ ρ γ α φ ε) (good : ρ → α → Prop) (s : State ω κ ρ γ α ε) :
    Prop where
  cells : ∀ request value, I.lookup request (s.cells (I.key request)) = .ok (some value) →
    good request value
  phases : ∀ worker request value, (s.phases worker).request? = some request →
    (s.phases worker).value? = some value → good request value
  stored : ∀ request value, .stored request value ∈ s.history → good request value
  returned : ∀ worker request answer value, .returned worker request answer ∈ s.history →
    answer.value? = some value → good request value

def PutsGood (I : Interface κ ρ γ α φ ε) (good : ρ → α → Prop) : Prop :=
  ∀ request other value found fault cell written, good request value →
    (I.put request value fault cell).written? = some written → I.key other = I.key request →
      I.lookup other written = .ok (some found) → good other found

theorem AllGood.step {good : ρ → α → Prop} (hputs : PutsGood I good) (hs : AllGood I good s)
    (hcomputes : ComputesGood good s action) : AllGood I good (step I s action) := by
  rcases step_cases (I := I) (s := s) action with hstay | ⟨e, heffect, hstep⟩
  · rw [hstay]
    exact hs
  obtain ⟨actor, act⟩ := action
  rw [hstep]
  refine ⟨?_, ?_, ?_, ?_⟩
  · intro request value hlookup
    cases hwritten : e.written with
    | none =>
      rw [apply_cells_of_written_none hwritten] at hlookup
      exact hs.cells request value hlookup
    | some written =>
      obtain ⟨key, cell⟩ := written
      obtain ⟨owner, stored, fault, hputting, rfl, hput, -, -⟩ :=
        written_of_effect heffect hwritten
      simp only [State.apply, hwritten] at hlookup
      by_cases hkey : I.key request = I.key owner
      · rw [hkey, Function.update_self] at hlookup
        have hgood := hs.phases actor owner stored (by rw [hputting]; rfl) (by rw [hputting]; rfl)
        exact hputs owner request stored value fault _ cell hgood hput hkey hlookup
      · rw [Function.update_of_ne hkey] at hlookup
        exact hs.cells request value hlookup
  · intro worker request value hrequest hvalue
    by_cases hworker : worker = actor
    · subst hworker
      rw [apply_phases_self] at hrequest hvalue
      rcases value_of_effect heffect hrequest hvalue with
        ⟨hrequest, hvalue⟩ | hlookup | ⟨hcomputing, rfl⟩
      · exact hs.phases worker request value hrequest hvalue
      · exact hs.cells request value hlookup
      · exact hcomputes request hcomputing
    · rw [apply_phases_of_ne hworker] at hrequest hvalue
      exact hs.phases worker request value hrequest hvalue
  · intro request value hstored
    rcases mem_apply_history.mp hstored with hevent | hold
    · obtain ⟨hputting, -⟩ := stored_of_effect heffect hevent
      exact hs.phases actor request value (by rw [hputting]; rfl) (by rw [hputting]; rfl)
    · exact hs.stored request value hold
  · intro caller request answer value hreturned hvalue
    rcases mem_apply_history.mp hreturned with hevent | hold
    · obtain ⟨hrequest, hvalue⟩ := returned_of_effect heffect hevent hvalue
      exact hs.phases actor request value hrequest hvalue
    · exact hs.returned caller request answer value hold hvalue

omit [DecidableEq ω] [DecidableEq κ] in
theorem AllGood.start (I : Interface κ ρ γ α φ ε) {good : ρ → α → Prop} {cells : κ → γ}
    (hcells : ∀ request value, I.lookup request (cells (I.key request)) = .ok (some value) →
      good request value) : AllGood I good (State.start ω cells) where
  cells := hcells
  phases := fun worker request value hrequest => by cases hrequest
  stored := fun request value hstored => by cases hstored
  returned := fun caller request answer value hreturned => by cases hreturned

end

end DoubleCheckedCache
