import AgenticLab.Model.Tracing.TraceSessions
import AgenticLab.Verification.Tracing.TraceBuilders

/-! # Traces have no gaps -/

namespace AgenticLab

open InMemoryTraceRecorder

/-! ## The recorder -/

theorem eventsOf_append (events : List AgentTraceEvent) (event : AgentTraceEvent)
    (traceId : String) : eventsOf (events ++ [event]) traceId =
      eventsOf events traceId ++ if event.traceId = traceId then [event] else [] := by
  rw [eventsOf, List.filter_append, List.filter_singleton]
  simp [eventsOf]

theorem emitRecord_eq_ok {events next : List AgentTraceEvent} {event : AgentTraceEvent} :
    emitRecord events event = .ok next ↔ event.validate = .ok () ∧
      event.sequence = (eventsOf events event.traceId).length + 1 ∧ events ++ [event] = next := by
  rw [emitRecord, bind_eq_ok]
  simp only [InMemoryTraceRecorder.record, raiseIf_bind_eq_ok, not_not, Except.ok.injEq]
  constructor
  · rintro ⟨_, hvalid, hrest⟩
    exact ⟨hvalid, hrest⟩
  · rintro ⟨hvalid, hrest⟩
    exact ⟨_, hvalid, hrest⟩

theorem getTrace_eq_ok {events trace : List AgentTraceEvent} {traceId : String} :
    getTrace events traceId = .ok trace ↔
      isBlank traceId = false ∧ orderedEvents (eventsOf events traceId) = trace := by
  simp [getTrace, raiseIf_bind_eq_ok]

@[simp] theorem length_orderedEvents (events : List AgentTraceEvent) :
    (orderedEvents events).length = events.length := List.length_mergeSort events

namespace TraceWorld

variable {world next : TraceWorld}

@[simp] theorem setCall_calls_self (world : TraceWorld) (number : ℕ) (state : EmitState) :
    (world.setCall number state).calls number = state := Function.update_self ..

variable {number other : ℕ}

theorem setCall_calls_of_ne (world : TraceWorld) (state : EmitState)
    (h : other ≠ number) : (world.setCall number state).calls other = world.calls other :=
  Function.update_of_ne h ..

inductive Moves (world : TraceWorld) : TraceWorld → Prop
  | stay : Moves world world
  | openSession (traceId : String) (hblank : isBlank traceId = false) :
      Moves world { world with
        sessions := world.sessions ++ [⟨traceId, (eventsOf world.events traceId).length⟩] }
  | tick (elapsed : ℕ) : Moves world { world with now := world.now + elapsed }
  | readSequence (number session : ℕ) (arguments : EmitArguments) (opened : AgentTraceSession)
      (hcall : world.calls number = .notStarted) (hopened : world.sessions[session]? = some opened) :
      Moves world
        (world.setCall number (.sequenced ⟨session, opened.traceId, arguments⟩ opened.sequence))
  | readClock (number : ℕ) (call : EmitCall) (sequence : ℕ)
      (hcall : world.calls number = .sequenced call sequence) :
      Moves world (world.setCall number
        (.timed call ⟨call.arguments, call.traceId, sequence + 1, world.now⟩))
  | raise (number : ℕ) (call : EmitCall) (event : AgentTraceEvent) (failure : Raised)
      (hcall : world.calls number = .timed call event) :
      Moves world (world.setCall number (.raised call failure))
  | record (number : ℕ) (call : EmitCall) (event : AgentTraceEvent)
      (hcall : world.calls number = .timed call event) (hvalid : event.validate = .ok ())
      (hsequence : event.sequence = (eventsOf world.events event.traceId).length + 1) :
      Moves world { world.setCall number (.recorded call event) with
        records := world.records ++ [⟨number, event⟩] }
  | store (number : ℕ) (call : EmitCall) (event : AgentTraceEvent)
      (hcall : world.calls number = .recorded call event) :
      Moves world { world.setCall number (.returned call event) with
        sessions := world.sessions.set call.session ⟨call.traceId, event.sequence⟩ }

theorem step_moves (world : TraceWorld) (action : TraceAction) :
    Moves world (world.step action) := by
  cases action with
  | openSession traceId =>
    rw [step, TraceWorld.openSession]
    split
    next => exact .stay
    next events htrace =>
      obtain ⟨hblank, rfl⟩ := getTrace_eq_ok.mp htrace
      rw [length_orderedEvents]
      exact .openSession traceId hblank
  | tick elapsed => exact .tick elapsed
  | readSequence number session arguments =>
    rw [step, TraceWorld.readSequence]
    split
    next opened hcall hopened => exact .readSequence number session arguments opened hcall hopened
    next => exact .stay
  | readClock number =>
    rw [step, TraceWorld.readClock]
    split
    next call sequence hcall => exact .readClock number call sequence hcall
    next => exact .stay
  | record number =>
    rw [step, TraceWorld.record]
    split
    next call event hcall =>
      split
      next failure _ => exact .raise number call event failure hcall
      next events hrecord =>
        obtain ⟨hvalid, hsequence, _⟩ := emitRecord_eq_ok.mp hrecord
        exact .record number call event hcall hvalid hsequence
    next => exact .stay
  | store number =>
    rw [step, TraceWorld.store]
    split
    next call event hcall => exact .store number call event hcall
    next => exact .stay

def CallCoherent (world : TraceWorld) (number : ℕ) : EmitState → Prop
  | .notStarted => number ∉ world.records.map (·.call)
  | .sequenced call sequence => number ∉ world.records.map (·.call) ∧
      ∃ opened, world.sessions[call.session]? = some opened ∧ opened.traceId = call.traceId ∧
        sequence ≤ opened.sequence
  | .timed call event => number ∉ world.records.map (·.call) ∧
      (∃ opened, world.sessions[call.session]? = some opened ∧ opened.traceId = call.traceId ∧
        event.sequence ≤ opened.sequence + 1) ∧
      event.traceId = call.traceId ∧ event.occurredAt ≤ world.now ∧
      ∀ earlier ∈ eventsOf world.events event.traceId, earlier.sequence < event.sequence →
        earlier.occurredAt ≤ event.occurredAt
  | .recorded call event => ⟨number, event⟩ ∈ world.records ∧ event.traceId = call.traceId ∧
      ∃ opened, world.sessions[call.session]? = some opened ∧ opened.traceId = call.traceId ∧
        event.sequence = opened.sequence + 1
  | .returned _ event => ⟨number, event⟩ ∈ world.records
  | .raised _ _ => number ∉ world.records.map (·.call)

structure Coherent (world : TraceWorld) : Prop where
  valid : ∀ event ∈ world.events, event.validate = .ok ()
  numbered : ∀ traceId, (eventsOf world.events traceId).map (·.sequence) =
    List.range' 1 (eventsOf world.events traceId).length
  chronological : ∀ traceId, (eventsOf world.events traceId).Pairwise fun first second =>
    first.occurredAt ≤ second.occurredAt
  past : ∀ event ∈ world.events, event.occurredAt ≤ world.now
  once : (world.records.map (·.call)).Nodup
  sessions_le : ∀ opened ∈ world.sessions,
    opened.sequence ≤ (eventsOf world.events opened.traceId).length
  calls : ∀ number, world.CallCoherent number (world.calls number)
  /-- Of the calls on a session one at most has recorded and not yet stored. -/
  alone : ∀ number other call call' event event', world.calls number = .recorded call event →
    world.calls other = .recorded call' event' → call.session = call'.session → number = other

theorem start_coherent (now : ℕ) : (start now).Coherent where
  valid := by simp [start, events]
  numbered := by simp [start, events, eventsOf]
  chronological := by simp [start, events, eventsOf]
  past := by simp [start, events]
  once := .nil
  sessions_le := by simp [start]
  calls number := by simp [start, CallCoherent]
  alone number other call call' event event' h := by cases h

variable {number : ℕ} {state : EmitState}

theorem CallCoherent.mono (world next : TraceWorld)
    (hrecords : next.records = world.records)
    (hsessions : ∀ (index : ℕ) opened, world.sessions[index]? = some opened →
      next.sessions[index]? = some opened)
    (hnow : world.now ≤ next.now) (h : world.CallCoherent number state) :
    next.CallCoherent number state := by
  have hevents : next.events = world.events := by rw [events, events, hrecords]
  cases state with
  | notStarted => simpa [CallCoherent, hrecords] using h
  | sequenced call sequence =>
    obtain ⟨hfresh, opened, hopened, hrest⟩ := h
    exact ⟨by rwa [hrecords], opened, hsessions _ _ hopened, hrest⟩
  | timed call event =>
    obtain ⟨hfresh, ⟨opened, hopened, hrest⟩, hid, htime, hlater⟩ := h
    refine ⟨by rwa [hrecords], ⟨opened, hsessions _ _ hopened, hrest⟩, hid, htime.trans hnow, ?_⟩
    rwa [hevents]
  | recorded call event =>
    obtain ⟨hmem, hid, opened, hopened, hrest⟩ := h
    exact ⟨by rwa [hrecords], hid, opened, hsessions _ _ hopened, hrest⟩
  | returned call event => simpa [CallCoherent, hrecords] using h
  | raised call failure => simpa [CallCoherent, hrecords] using h

theorem Coherent.setCall (h : world.Coherent) (hstate : world.CallCoherent number state)
    (hnew : ∀ call event, state ≠ .recorded call event) :
    (world.setCall number state).Coherent := by
  refine ⟨h.valid, h.numbered, h.chronological, h.past, h.once, h.sessions_le, ?_, ?_⟩
  · intro other
    refine CallCoherent.mono world _ rfl (fun _ _ hopened => hopened) le_rfl ?_
    by_cases hother : other = number
    · rwa [hother, setCall_calls_self]
    · rw [setCall_calls_of_ne world state hother]
      exact h.calls other
  · intro first second call call' event event' hfirst hsecond
    have hne : ∀ index call event, (world.setCall number state).calls index =
        .recorded call event → world.calls index = .recorded call event := by
      intro index call event hindex
      by_cases heq : index = number
      · rw [heq, setCall_calls_self] at hindex
        exact absurd hindex (hnew call event)
      · rwa [setCall_calls_of_ne world state heq] at hindex
    exact h.alone _ _ _ _ _ _ (hne _ _ _ hfirst) (hne _ _ _ hsecond)

/-! ## Steps -/

theorem Coherent.openSession (h : world.Coherent) (traceId : String) :
    Coherent { world with
      sessions := world.sessions ++ [⟨traceId, (eventsOf world.events traceId).length⟩] } where
  valid := h.valid
  numbered := h.numbered
  chronological := h.chronological
  past := h.past
  once := h.once
  sessions_le := by
    intro opened hopened
    rcases List.mem_append.mp hopened with hold | hnew
    · exact h.sessions_le opened hold
    · rw [List.mem_singleton.mp hnew]
      exact le_rfl
  calls number := by
    refine CallCoherent.mono world _ rfl (fun index opened hopened => ?_) le_rfl (h.calls number)
    exact (List.getElem?_append_left (List.getElem?_eq_some_iff.mp hopened).1).trans hopened
  alone := h.alone

theorem Coherent.tick (h : world.Coherent) (elapsed : ℕ) :
    Coherent { world with now := world.now + elapsed } where
  valid := h.valid
  numbered := h.numbered
  chronological := h.chronological
  past event hevent := (h.past event hevent).trans (Nat.le_add_right _ _)
  once := h.once
  sessions_le := h.sessions_le
  calls number := CallCoherent.mono world _ rfl (fun _ _ hopened => hopened)
    (Nat.le_add_right world.now elapsed) (h.calls number)
  alone := h.alone

variable {event : AgentTraceEvent}

theorem Coherent.sequence_le (h : world.Coherent) {traceId : String}
    (hevent : event ∈ eventsOf world.events traceId) :
    event.sequence ≤ (eventsOf world.events traceId).length := by
  have hmem : event.sequence ∈ (eventsOf world.events traceId).map (·.sequence) :=
    List.mem_map_of_mem hevent
  rw [h.numbered, List.mem_range'_1] at hmem
  omega

theorem mem_eventsOf_of_record
    (h : ⟨number, event⟩ ∈ world.records) : event ∈ eventsOf world.events event.traceId :=
  List.mem_filter.mpr ⟨List.mem_map_of_mem h, by simp⟩

theorem Coherent.session_le (h : world.Coherent) {index : ℕ} {opened : AgentTraceSession}
    (hopened : world.sessions[index]? = some opened) :
    opened.sequence ≤ (eventsOf world.events opened.traceId).length :=
  h.sessions_le opened (List.mem_of_getElem? hopened)

theorem Coherent.callCoherent_of_record (h : world.Coherent)
    (hrecords : next.records = world.records ++ [⟨number, event⟩])
    (hsessions : next.sessions = world.sessions) (hnow : next.now = world.now)
    (hsequence : event.sequence = (eventsOf world.events event.traceId).length + 1)
    (hother : other ≠ number) : next.CallCoherent other (world.calls other) := by
  have hevents : next.events = world.events ++ [event] := by simp [events, hrecords]
  have hfresh : other ∉ world.records.map (·.call) → other ∉ next.records.map (·.call) := by
    intro hnot hmem
    rw [hrecords, List.map_append, List.mem_append] at hmem
    rcases hmem with hold | hnew
    · exact hnot hold
    · exact hother (by simpa using hnew)
  have hmem : ∀ record ∈ world.records, record ∈ next.records := by
    rw [hrecords]
    exact fun record hrecord => List.mem_append_left _ hrecord
  have hcall := h.calls other
  cases hstate : world.calls other with
  | notStarted =>
    rw [hstate] at hcall
    exact hfresh hcall
  | sequenced call sequence =>
    rw [hstate] at hcall
    rw [CallCoherent, hsessions]
    exact ⟨hfresh hcall.1, hcall.2⟩
  | timed call late =>
    rw [hstate] at hcall
    obtain ⟨hnot, ⟨opened, hopened, hid, hle⟩, htrace, hpast, hlater⟩ := hcall
    have hbelow := h.session_le hopened
    rw [hid, ← htrace] at hbelow
    rw [CallCoherent, hsessions, hnow, hevents, eventsOf_append]
    refine ⟨hfresh hnot, ⟨opened, hopened, hid, hle⟩, htrace, hpast, ?_⟩
    intro earlier hearlier hlt
    rcases List.mem_append.mp hearlier with hold | hnew
    · exact hlater earlier hold hlt
    · by_cases hsame : event.traceId = late.traceId
      · rw [if_pos hsame, List.mem_singleton] at hnew
        rw [hnew, hsequence, hsame] at hlt
        omega
      · rw [if_neg hsame] at hnew
        cases hnew
  | recorded call event =>
    rw [hstate] at hcall
    rw [CallCoherent, hsessions]
    exact ⟨hmem _ hcall.1, hcall.2⟩
  | returned call event =>
    rw [hstate] at hcall
    exact hmem _ hcall
  | raised call failure =>
    rw [hstate] at hcall
    exact hfresh hcall

variable {call : EmitCall}

theorem Coherent.record (h : world.Coherent) (hcall : world.calls number = .timed call event)
    (hvalid : event.validate = .ok ())
    (hsequence : event.sequence = (eventsOf world.events event.traceId).length + 1)
    (hrecords : next.records = world.records ++ [⟨number, event⟩])
    (hsessions : next.sessions = world.sessions) (hnow : next.now = world.now)
    (hnext : next.calls = Function.update world.calls number (.recorded call event)) :
    next.Coherent := by
  have htimed := h.calls number
  rw [hcall] at htimed
  obtain ⟨hfresh, ⟨opened, hopened, hid, hle⟩, htrace, hpast, hlater⟩ := htimed
  have hlength : opened.sequence = (eventsOf world.events event.traceId).length := by
    have hbelow := h.session_le hopened
    rw [hid, ← htrace] at hbelow
    omega
  have hevents : next.events = world.events ++ [event] := by simp [events, hrecords]
  have hself : next.calls number = .recorded call event := by simp [hnext]
  have hcalls : ∀ other, other ≠ number → next.calls other = world.calls other := by
    intro other hother
    simp [hnext, hother]
  -- no call on the session waits for its store
  have halone : ∀ other call' event', other ≠ number → next.calls other = .recorded call' event' →
      call'.session ≠ call.session := by
    intro other call' event' hother hstate hsame
    have hrecorded := h.calls other
    rw [← hcalls other hother, hstate] at hrecorded
    obtain ⟨hmem, htrace', opened', hopened', hid', hnumber⟩ := hrecorded
    rw [hsame, hopened, Option.some.injEq] at hopened'
    have hbelow := h.sequence_le (mem_eventsOf_of_record hmem)
    rw [htrace', ← hid', ← hopened', hid, ← htrace, hnumber, ← hopened', hlength] at hbelow
    omega
  refine ⟨?_, ?_, ?_, ?_, ?_, ?_, ?_, ?_⟩
  · rw [hevents]
    exact List.forall_mem_append.mpr ⟨h.valid, by simpa using hvalid⟩
  · intro traceId
    rw [hevents, eventsOf_append]
    by_cases hsame : event.traceId = traceId
    · subst hsame
      rw [if_pos rfl, List.map_append, List.length_append, List.length_singleton,
        List.range'_1_concat, h.numbered, List.map_singleton, hsequence, Nat.add_comm 1]
    · rw [if_neg hsame, List.append_nil]
      exact h.numbered traceId
  · intro traceId
    rw [hevents, eventsOf_append]
    by_cases hsame : event.traceId = traceId
    · subst hsame
      rw [if_pos rfl]
      refine List.pairwise_append.mpr ⟨h.chronological _, List.pairwise_singleton _ _, ?_⟩
      intro earlier hearlier late hlate
      rw [List.mem_singleton.mp hlate]
      have hbelow := h.sequence_le hearlier
      exact hlater earlier hearlier (by omega)
    · rw [if_neg hsame, List.append_nil]
      exact h.chronological traceId
  · rw [hevents, hnow]
    exact List.forall_mem_append.mpr ⟨h.past, by simpa using hpast⟩
  · rw [hrecords, List.map_append, List.nodup_append]
    refine ⟨h.once, List.nodup_singleton _, ?_⟩
    intro other hother same hsame heq
    rw [List.map_singleton, List.mem_singleton] at hsame
    rw [heq, hsame] at hother
    exact hfresh hother
  · intro opened' hopened'
    rw [hsessions] at hopened'
    rw [hevents, eventsOf_append, List.length_append]
    exact (h.sessions_le opened' hopened').trans (Nat.le_add_right _ _)
  · intro other
    by_cases hother : other = number
    · rw [hother, hself, CallCoherent, hrecords, hsessions]
      exact ⟨by simp, htrace, opened, hopened, hid, by rw [hsequence, hlength]⟩
    · rw [hcalls other hother]
      exact h.callCoherent_of_record hrecords hsessions hnow hsequence hother
  · intro first second call₁ call₂ event₁ event₂ hfirst hsecond hsame
    by_cases heq : first = number
    · by_cases heq' : second = number
      · rw [heq, heq']
      · rw [heq, hself, EmitState.recorded.injEq] at hfirst
        rw [← hfirst.1] at hsame
        exact absurd hsame.symm (halone second call₂ event₂ heq' hsecond)
    · by_cases heq' : second = number
      · rw [heq', hself, EmitState.recorded.injEq] at hsecond
        rw [← hsecond.1] at hsame
        exact absurd hsame (halone first call₁ event₁ heq hfirst)
      · rw [hcalls first heq] at hfirst
        rw [hcalls second heq'] at hsecond
        exact h.alone _ _ _ _ _ _ hfirst hsecond hsame

theorem Coherent.store (h : world.Coherent) (hcall : world.calls number = .recorded call event)
    (hrecords : next.records = world.records)
    (hsessions : next.sessions = world.sessions.set call.session ⟨call.traceId, event.sequence⟩)
    (hnow : next.now = world.now)
    (hnext : next.calls = Function.update world.calls number (.returned call event)) :
    next.Coherent := by
  have hrecorded := h.calls number
  rw [hcall] at hrecorded
  obtain ⟨hmem, htrace, opened, hopened, hid, hsequence⟩ := hrecorded
  have hevents : next.events = world.events := by rw [events, events, hrecords]
  have hself : next.calls number = .returned call event := by simp [hnext]
  have hcalls : ∀ other, other ≠ number → next.calls other = world.calls other := by
    intro other hother
    simp [hnext, hother]
  have hkept : ∀ (index : ℕ) (opened' : AgentTraceSession), index ≠ call.session →
      world.sessions[index]? = some opened' → next.sessions[index]? = some opened' := by
    intro index opened' hindex hopened'
    rw [hsessions, List.getElem?_set_ne (Ne.symm hindex)]
    exact hopened'
  have hstored : next.sessions[call.session]? = some ⟨call.traceId, event.sequence⟩ := by
    rw [hsessions, List.getElem?_set_self (List.getElem?_eq_some_iff.mp hopened).1]
  -- what a session has stored does not become less
  have hgrown : ∀ (index : ℕ) (opened' : AgentTraceSession),
      world.sessions[index]? = some opened' → ∃ later : AgentTraceSession,
        next.sessions[index]? = some later ∧ later.traceId = opened'.traceId ∧
          opened'.sequence ≤ later.sequence := by
    intro index opened' hopened'
    by_cases hindex : index = call.session
    · rw [hindex, hopened, Option.some.injEq] at hopened'
      rw [hindex, ← hopened']
      exact ⟨_, hstored, hid.symm, hsequence ▸ Nat.le_succ opened.sequence⟩
    · exact ⟨opened', hkept _ _ hindex hopened', rfl, le_rfl⟩
  refine ⟨?_, ?_, ?_, ?_, ?_, ?_, ?_, ?_⟩
  · rw [hevents]
    exact h.valid
  · rw [hevents]
    exact h.numbered
  · rw [hevents]
    exact h.chronological
  · rw [hevents, hnow]
    exact h.past
  · rw [hrecords]
    exact h.once
  · intro opened' hopened'
    rw [hsessions] at hopened'
    rw [hevents]
    rcases List.mem_or_eq_of_mem_set hopened' with hold | hnew
    · exact h.sessions_le opened' hold
    · rw [hnew]
      have hbelow := h.sequence_le (mem_eventsOf_of_record hmem)
      rwa [htrace] at hbelow
  · intro other
    by_cases hother : other = number
    · rw [hother, hself, CallCoherent, hrecords]
      exact hmem
    · rw [hcalls other hother]
      have hstate := h.calls other
      cases heq : world.calls other with
      | notStarted =>
        rw [heq] at hstate
        rwa [CallCoherent, hrecords]
      | sequenced call' sequence =>
        rw [heq] at hstate
        obtain ⟨hfresh, opened', hopened', hid', hle⟩ := hstate
        obtain ⟨later, hlater, hsame, hgrows⟩ := hgrown _ _ hopened'
        rw [CallCoherent, hrecords]
        exact ⟨hfresh, later, hlater, hsame.trans hid', hle.trans hgrows⟩
      | timed call' event' =>
        rw [heq] at hstate
        obtain ⟨hfresh, ⟨opened', hopened', hid', hle⟩, hrest⟩ := hstate
        obtain ⟨later, hlater, hsame, hgrows⟩ := hgrown _ _ hopened'
        rw [CallCoherent, hrecords, hevents, hnow]
        exact ⟨hfresh, ⟨later, hlater, hsame.trans hid', by omega⟩, hrest⟩
      | recorded call' event' =>
        rw [heq] at hstate
        obtain ⟨hmem', htrace', opened', hopened', hrest⟩ := hstate
        rw [CallCoherent, hrecords]
        refine ⟨hmem', htrace', opened', hkept _ _ (fun hsame => ?_) hopened', hrest⟩
        exact hother (h.alone _ _ _ _ _ _ heq hcall hsame)
      | returned call' event' =>
        rw [heq] at hstate
        rwa [CallCoherent, hrecords]
      | raised call' failure =>
        rw [heq] at hstate
        rwa [CallCoherent, hrecords]
  · intro first second call₁ call₂ event₁ event₂ hfirst hsecond hsame
    have hne : ∀ index call' event', next.calls index = .recorded call' event' →
        world.calls index = .recorded call' event' := by
      intro index call' event' hindex
      by_cases heq : index = number
      · rw [heq, hself] at hindex
        cases hindex
      · rwa [hcalls index heq] at hindex
    exact h.alone _ _ _ _ _ _ (hne _ _ _ hfirst) (hne _ _ _ hsecond) hsame

theorem Coherent.step (h : world.Coherent) (action : TraceAction) :
    (world.step action).Coherent := by
  have hmoves := step_moves world action
  generalize world.step action = next at hmoves
  cases hmoves with
  | stay => exact h
  | openSession traceId _ => exact h.openSession traceId
  | tick elapsed => exact h.tick elapsed
  | readSequence number session arguments opened hcall hopened =>
    have hfresh := h.calls number
    rw [hcall] at hfresh
    have hnext : world.CallCoherent number
        (.sequenced ⟨session, opened.traceId, arguments⟩ opened.sequence) :=
      ⟨hfresh, opened, hopened, rfl, Nat.le_refl opened.sequence⟩
    exact h.setCall hnext (by simp)
  | readClock number call sequence hcall =>
    have hstate := h.calls number
    rw [hcall] at hstate
    obtain ⟨hfresh, opened, hopened, hid, hle⟩ := hstate
    have hnext : world.CallCoherent number
        (.timed call ⟨call.arguments, call.traceId, sequence + 1, world.now⟩) := by
      refine ⟨hfresh, ⟨opened, hopened, hid, Nat.succ_le_succ hle⟩, rfl,
        Nat.le_refl world.now, fun earlier hearlier _ => ?_⟩
      exact h.past earlier (List.mem_of_mem_filter hearlier)
    exact h.setCall hnext (by simp)
  | raise number call event failure hcall =>
    have hstate := h.calls number
    rw [hcall] at hstate
    exact h.setCall hstate.1 (by simp)
  | record number call event hcall hvalid hsequence =>
    refine h.record hcall hvalid hsequence ?_ ?_ ?_ ?_
    · rfl
    · rfl
    · rfl
    · rfl
  | store number call event hcall => exact h.store hcall rfl rfl rfl rfl

theorem Reachable.coherent {now : ℕ} (h : Reachable (start now) world) : world.Coherent := by
  refine Runs.Reachable.invariant Coherent (start_coherent now) ?_ h
  intro before action hcoherent _
  exact hcoherent.step action

/-- Others have recorded more than the session knows of, and it has no event of its own to
store. -/
structure Behind (world : TraceWorld) (session : ℕ) : Prop where
  short : ∃ opened, world.sessions[session]? = some opened ∧
    opened.sequence < (eventsOf world.events opened.traceId).length
  idle : ∀ number call event, world.calls number = .recorded call event → call.session ≠ session

variable {session number : ℕ}

theorem Behind.sequence_ne (h : world.Behind session) (hcoherent : world.Coherent)
    (hcall : world.calls number = .timed call event) (hsession : call.session = session) :
    event.sequence ≠ (eventsOf world.events event.traceId).length + 1 := by
  have htimed := hcoherent.calls number
  rw [hcall] at htimed
  obtain ⟨_, ⟨opened, hopened, hid, hle⟩, htrace, _⟩ := htimed
  obtain ⟨opened', hopened', hshort⟩ := h.short
  rw [hsession, hopened', Option.some.injEq] at hopened
  rw [hopened, hid, ← htrace] at hshort
  omega

theorem Behind.raises (h : world.Behind session) (hcoherent : world.Coherent)
    (hcall : world.calls number = .timed call event) (hsession : call.session = session) :
    ∃ failure, (world.record number).calls number = .raised call failure := by
  have hne := h.sequence_ne hcoherent hcall hsession
  cases hrecord : emitRecord world.events event with
  | error failure => exact ⟨failure, by simp [TraceWorld.record, hcall, hrecord, setCall]⟩
  | ok events => exact absurd (emitRecord_eq_ok.mp hrecord).2.1 hne

theorem Behind.step {session : ℕ} (h : world.Behind session) (hcoherent : world.Coherent)
    (action : TraceAction) : (world.step action).Behind session ∧
      ∀ number call event, call.session = session →
        (world.step action).calls number = .returned call event →
          world.calls number = .returned call event := by
  obtain ⟨opened, hopened, hshort⟩ := h.short
  have hmoves := step_moves world action
  generalize world.step action = next at hmoves
  -- a call that is put into a state before its end
  have hset : ∀ (changed : ℕ) (state : EmitState),
      (∀ call event, state = .recorded call event → call.session ≠ session) →
      (∀ call event, state = .returned call event → call.session ≠ session) →
      (∀ number call event, (world.setCall changed state).calls number = .recorded call event →
        call.session ≠ session) ∧
      ∀ number call event, call.session = session →
        (world.setCall changed state).calls number = .returned call event →
          world.calls number = .returned call event := by
    intro changed state hrecorded hreturned
    constructor
    · intro number call event hcall
      by_cases heq : number = changed
      · rw [heq, setCall_calls_self] at hcall
        exact hrecorded call event hcall
      · rw [setCall_calls_of_ne world state heq] at hcall
        exact h.idle number call event hcall
    · intro number call event hsession hcall
      by_cases heq : number = changed
      · rw [heq, setCall_calls_self] at hcall
        exact absurd hsession (hreturned call event hcall)
      · rwa [setCall_calls_of_ne world state heq] at hcall
  cases hmoves with
  | stay => exact ⟨h, fun _ _ _ _ hcall => hcall⟩
  | openSession traceId _ =>
    refine ⟨⟨⟨opened, ?_, hshort⟩, h.idle⟩, fun _ _ _ _ hcall => hcall⟩
    exact (List.getElem?_append_left (List.getElem?_eq_some_iff.mp hopened).1).trans hopened
  | tick elapsed => exact ⟨⟨h.short, h.idle⟩, fun _ _ _ _ hcall => hcall⟩
  | readSequence number session' arguments opened' _ _ =>
    obtain ⟨hidle, hkept⟩ := hset number
      (.sequenced ⟨session', opened'.traceId, arguments⟩ opened'.sequence) (by simp) (by simp)
    exact ⟨⟨h.short, hidle⟩, hkept⟩
  | readClock number call sequence _ =>
    obtain ⟨hidle, hkept⟩ := hset number
      (.timed call ⟨call.arguments, call.traceId, sequence + 1, world.now⟩) (by simp) (by simp)
    exact ⟨⟨h.short, hidle⟩, hkept⟩
  | raise number call event failure _ =>
    obtain ⟨hidle, hkept⟩ := hset number (.raised call failure) (by simp) (by simp)
    exact ⟨⟨h.short, hidle⟩, hkept⟩
  | record number call event hcall _ hsequence =>
    have hother : call.session ≠ session := fun hsession =>
      h.sequence_ne hcoherent hcall hsession hsequence
    obtain ⟨hidle, hkept⟩ := hset number (.recorded call event)
      (fun _ _ heq => (EmitState.recorded.injEq .. ▸ heq).1 ▸ hother) (by simp)
    refine ⟨⟨⟨opened, hopened, ?_⟩, hidle⟩, hkept⟩
    refine hshort.trans_le ?_
    simp only [TraceWorld.events, List.map_append, List.map_singleton, eventsOf_append,
      List.length_append]
    exact Nat.le_add_right _ _
  | store number call event hcall =>
    have hother : call.session ≠ session := h.idle number call event hcall
    obtain ⟨hidle, hkept⟩ := hset number (.returned call event) (by simp)
      (fun _ _ heq => (EmitState.returned.injEq .. ▸ heq).1 ▸ hother)
    refine ⟨⟨⟨opened, ?_, hshort⟩, hidle⟩, hkept⟩
    exact (List.getElem?_set_ne hother).trans hopened

theorem Behind.later {session : ℕ} (h : world.Behind session) (hcoherent : world.Coherent)
    {later : TraceWorld} (hlater : Reachable world later) : later.Coherent ∧ later.Behind session ∧
      ∀ number call event, call.session = session →
        later.calls number = .returned call event → world.calls number = .returned call event := by
  induction hlater with
  | start => exact ⟨hcoherent, h, fun _ _ _ _ hcall => hcall⟩
  | @step before action _ _ ih =>
    obtain ⟨hbefore, hbehind, hkept⟩ := ih
    obtain ⟨hstill, hreturned⟩ := hbehind.step hbefore action
    exact ⟨hbefore.step action, hstill, fun number call event hsession hcall =>
      hkept number call event hsession (hreturned number call event hsession hcall)⟩

theorem Coherent.wellRecorded (h : world.Coherent) {traceId : String}
    (hne : eventsOf world.events traceId ≠ []) : WellRecorded (eventsOf world.events traceId) where
  nonempty := hne
  valid event hevent := h.valid event (List.mem_of_mem_filter hevent)
  together first hfirst second hsecond := by
    have hfirst := (List.mem_filter.mp hfirst).2
    have hsecond := (List.mem_filter.mp hsecond).2
    exact (of_decide_eq_true hfirst).trans (of_decide_eq_true hsecond).symm
  numbered := h.numbered traceId
  chronological := h.chronological traceId

/-- What is known of the traces of a recorder. -/
structure Gapless (milliseconds : ℕ → ℕ) (world : TraceWorld) : Prop where
  returned : ∀ number call event, world.calls number = .returned call event →
    world.records.filter (·.call = number) = [⟨number, event⟩]
  raised : ∀ number call failure, world.calls number = .raised call failure →
    number ∉ world.records.map (·.call)
  numbered : ∀ traceId, (eventsOf world.events traceId).map (·.sequence) =
    List.range' 1 (eventsOf world.events traceId).length
  chronological : ∀ traceId, (eventsOf world.events traceId).Pairwise fun first second =>
    first.occurredAt ≤ second.occurredAt
  read : ∀ traceId, eventsOf world.events traceId ≠ [] →
    getTrace world.events traceId = .ok (eventsOf world.events traceId)
  timeline : ∀ traceId, eventsOf world.events traceId ≠ [] → ∃ timeline,
    AgentTraceTimelineBuilder.build milliseconds (eventsOf world.events traceId) = .ok timeline
  summary : ∀ traceId, eventsOf world.events traceId ≠ [] →
    ((∃ summary, AgentTraceSummaryBuilder.build milliseconds (eventsOf world.events traceId) =
      .ok summary) ↔ Balanced (eventsOf world.events traceId))

theorem filter_call_eq {records : List TraceRecord} (hnodup : (records.map (·.call)).Nodup)
    {record : TraceRecord} (h : record ∈ records) :
    records.filter (·.call = record.call) = [record] := by
  induction records with
  | nil => cases h
  | cons first records ih =>
    rw [List.map_cons, List.nodup_cons] at hnodup
    rcases List.mem_cons.mp h with rfl | hrest
    · rw [List.filter_cons_of_pos (by simp), List.filter_eq_nil_iff.mpr]
      intro other hother heq
      exact hnodup.1 (List.mem_map.mpr ⟨other, hother, of_decide_eq_true heq⟩)
    · have hne : first.call ≠ record.call := fun heq =>
        hnodup.1 (List.mem_map.mpr ⟨record, hrest, heq.symm⟩)
      rw [List.filter_cons_of_neg (by simpa using hne), ih hnodup.2 hrest]

theorem Coherent.gapless (h : world.Coherent) (milliseconds : ℕ → ℕ) :
    world.Gapless milliseconds where
  returned number call event hcall := by
    have hmem := h.calls number
    rw [hcall] at hmem
    exact filter_call_eq h.once hmem
  raised number call failure hcall := by
    have hfresh := h.calls number
    rwa [hcall] at hfresh
  numbered := h.numbered
  chronological := h.chronological
  read traceId hne := by
    obtain ⟨first, rest, heq⟩ := List.exists_cons_of_ne_nil hne
    have hrecorded := h.wellRecorded hne
    have hfirst : first ∈ eventsOf world.events traceId := by simp [heq]
    have hid : first.traceId = traceId := of_decide_eq_true (List.mem_filter.mp hfirst).2
    have hvalid := AgentTraceEvent.validate_eq_ok.mp (hrecorded.valid first hfirst)
    exact getTrace_eq_ok.mpr ⟨hid ▸ hvalid.traceId, hrecorded.ordered⟩
  timeline traceId hne := (h.wellRecorded hne).timeline_eq_ok
  summary traceId hne := (h.wellRecorded hne).summary_eq_ok_iff

/-- Traces have no gaps, and a session that is left behind records no more. -/
theorem traces_gapless (milliseconds : ℕ → ℕ) {now : ℕ} (h : Reachable (start now) world) :
    world.Gapless milliseconds ∧ ∀ session, world.Behind session →
      ∀ later, Reachable world later → later.Behind session ∧
        (∀ number call event, call.session = session →
          later.calls number = .returned call event →
          world.calls number = .returned call event) ∧
        ∀ number call event, call.session = session → later.calls number = .timed call event →
          ∃ failure, (later.record number).calls number = .raised call failure := by
  have hcoherent := h.coherent
  refine ⟨hcoherent.gapless milliseconds, fun session hbehind later hlater => ?_⟩
  obtain ⟨hcoherent, hbehind, hkept⟩ := hbehind.later hcoherent hlater
  exact ⟨hbehind, hkept, fun number call event hsession hcall =>
    hbehind.raises hcoherent hcall hsession⟩

def sampleArguments : EmitArguments := ⟨.stepCompleted, "done", none, none, none, none, []⟩

def sampleActions : List TraceAction :=
  [.openSession "trace", .openSession "trace",
    .readSequence 0 0 sampleArguments, .readClock 0, .record 0, .store 0,
    .readSequence 1 1 sampleArguments, .readClock 1, .record 1]

def sampleWorld : TraceWorld := Runs.run step (start 0) sampleActions

example : (eventsOf sampleWorld.events "trace").length = 1 := by decide +kernel

theorem sampleWorld_reachable : Reachable (start 0) sampleWorld := Runs.reachable_run sampleActions

def isRecorded : EmitState → Bool
  | .recorded _ _ => true
  | _ => false

theorem sampleWorld_behind : sampleWorld.Behind 1 where
  short := ⟨⟨"trace", 0⟩, by decide +kernel, by decide +kernel⟩
  idle number call event hcall := by
    have hmem := sampleWorld_reachable.coherent.calls number
    rw [hcall] at hmem
    have hnumber : number ∈ sampleWorld.records.map (·.call) := List.mem_map_of_mem hmem.1
    have hrecords : sampleWorld.records.map (·.call) = [0] := by decide +kernel
    rw [hrecords, List.mem_singleton] at hnumber
    have hreturned : isRecorded (sampleWorld.calls 0) = false := by decide +kernel
    rw [← hnumber, hcall] at hreturned
    cases hreturned

/-- The second session's emit raises, it will never emit again, and the trace has no summary. -/
theorem sampleWorld_stuck : Reachable (start 0) sampleWorld ∧
    (∃ call failure, sampleWorld.calls 1 = .raised call failure ∧ call.session = 1) ∧
    (∀ later, Reachable sampleWorld later → ∀ number call event,
      later.calls number = .returned call event → call.session ≠ 1) ∧
    (∃ event, eventsOf sampleWorld.events "trace" = [event] ∧
      ∀ milliseconds summary, AgentTraceSummaryBuilder.build milliseconds [event] ≠ .ok summary) := by
  have hcoherent := sampleWorld_reachable.coherent
  refine ⟨sampleWorld_reachable, ?_, ?_, ?_⟩
  · have hraised : (match sampleWorld.calls 1 with
        | .raised call _ => some call.session
        | _ => none) = some 1 := by decide +kernel
    split at hraised
    next call failure hcall => exact ⟨call, failure, hcall, Option.some.inj hraised⟩
    next => cases hraised
  · intro later hlater number call event hcall hsession
    have hbefore := (sampleWorld_behind.later hcoherent hlater).2.2 number call event hsession hcall
    have hmem := hcoherent.calls number
    rw [hbefore] at hmem
    have hnumber : number ∈ sampleWorld.records.map (·.call) := List.mem_map_of_mem hmem
    have hrecords : sampleWorld.records.map (·.call) = [0] := by decide +kernel
    rw [hrecords, List.mem_singleton] at hnumber
    subst hnumber
    have hfirst : (match sampleWorld.calls 0 with
        | .returned call _ => some call.session
        | _ => none) = some 0 := by decide +kernel
    rw [hbefore] at hfirst
    exact absurd ((Option.some.inj hfirst).symm.trans hsession) zero_ne_one
  · have hlength : (eventsOf sampleWorld.events "trace").length = 1 := by decide +kernel
    obtain ⟨event, hevent⟩ := List.length_eq_one_iff.mp hlength
    refine ⟨event, hevent, fun milliseconds summary hbuild => ?_⟩
    have hne : eventsOf sampleWorld.events "trace" ≠ [] := by simp [hevent]
    rw [← hevent] at hbuild
    have hbalanced := (hcoherent.wellRecorded hne).summary_eq_ok_iff.mp ⟨summary, hbuild⟩
    exact absurd hbalanced (by decide +kernel)

theorem traces_gapless_of_sample : sampleWorld.Gapless (· / 1000) ∧
    (sampleWorld.step (.tick 1)).Behind 1 := by
  obtain ⟨hgapless, hbehind⟩ := traces_gapless (· / 1000) sampleWorld_reachable
  have hlater : Reachable sampleWorld (sampleWorld.step (.tick 1)) :=
    Runs.Reachable.start.step trivial
  exact ⟨hgapless, (hbehind 1 sampleWorld_behind _ hlater).1⟩

end TraceWorld

end AgenticLab
