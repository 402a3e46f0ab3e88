import AgenticLab.Library.Runs
import AgenticLab.Model.Tracing.AgentTrace

/-! # Sessions over one recorder

`in_memory_trace_recorder.py` and `agent_trace_session.py` of `app/tracing`. A call of `emit`
reads the session's sequence, reads the clock, records its event and stores the new sequence;
other calls may come between any two of these. -/

namespace AgenticLab

namespace InMemoryTraceRecorder

variable (events : List AgentTraceEvent)

/-- The events of a trace, as `_matches` picks them. -/
def eventsOf (traceId : String) : List AgentTraceEvent := events.filter (·.traceId = traceId)

def traceRecorderError (message : String) : Raised :=
  ⟨.external "TraceRecorderError" .runtimeOrValueError, message⟩

def record (event : AgentTraceEvent) : Except Raised (List AgentTraceEvent) := do
  let expectedSequence := (eventsOf events event.traceId).length + 1
  raiseIf (event.sequence ≠ expectedSequence)
    (traceRecorderError ("trace event sequence must be contiguous; expected " ++
      toString expectedSequence ++ ", received " ++ toString event.sequence))
  .ok (events ++ [event])

/-- The events of one trace all have its id, so that `query` sorts them by their sequence. -/
def getTrace (traceId : String) : Except Raised (List AgentTraceEvent) := do
  raiseIf (isBlank traceId) ⟨.valueError, "trace_id must not be blank"⟩
  .ok (orderedEvents (eventsOf events traceId))

end InMemoryTraceRecorder

/-! ## Sessions -/

structure AgentTraceSession where
  traceId : String
  sequence : ℕ
  deriving DecidableEq

/-- A call of `emit`. -/
structure EmitCall where
  session : ℕ
  traceId : String
  arguments : EmitArguments

inductive EmitState where
  | notStarted
  | sequenced (call : EmitCall) (sequence : ℕ)
  | timed (call : EmitCall) (event : AgentTraceEvent)
  | recorded (call : EmitCall) (event : AgentTraceEvent)
  | returned (call : EmitCall) (event : AgentTraceEvent)
  | raised (call : EmitCall) (failure : Raised)

structure TraceRecord where
  call : ℕ
  event : AgentTraceEvent

structure TraceWorld where
  records : List TraceRecord
  sessions : List AgentTraceSession
  calls : ℕ → EmitState
  now : ℕ

/-- The recorder's `_events`. -/
def TraceWorld.events (world : TraceWorld) : List AgentTraceEvent := world.records.map (·.event)

def TraceWorld.start (now : ℕ) : TraceWorld := ⟨[], [], fun _ => .notStarted, now⟩

inductive TraceAction where
  | openSession (traceId : String)
  | tick (elapsed : ℕ)
  | readSequence (number session : ℕ) (arguments : EmitArguments)
  | readClock (number : ℕ)
  | record (number : ℕ)
  | store (number : ℕ)

/-- The construction of the event and `record`. -/
def emitRecord (events : List AgentTraceEvent) (event : AgentTraceEvent) :
    Except Raised (List AgentTraceEvent) := do
  event.validate
  InMemoryTraceRecorder.record events event

namespace TraceWorld

variable (world : TraceWorld)

def setCall (number : ℕ) (state : EmitState) : TraceWorld :=
  { world with calls := Function.update world.calls number state }

/-- `AgentTraceSession.__init__` -/
def openSession (traceId : String) : TraceWorld :=
  match InMemoryTraceRecorder.getTrace world.events traceId with
  | .error _ => world
  | .ok events => { world with sessions := world.sessions ++ [⟨traceId, events.length⟩] }

def readSequence (number session : ℕ) (arguments : EmitArguments) : TraceWorld :=
  match world.calls number, world.sessions[session]? with
  | .notStarted, some opened =>
    world.setCall number (.sequenced ⟨session, opened.traceId, arguments⟩ opened.sequence)
  | _, _ => world

def readClock (number : ℕ) : TraceWorld :=
  match world.calls number with
  | .sequenced call sequence =>
    world.setCall number (.timed call ⟨call.arguments, call.traceId, sequence + 1, world.now⟩)
  | _ => world

def record (number : ℕ) : TraceWorld :=
  match world.calls number with
  | .timed call event =>
    match emitRecord world.events event with
    | .error failure => world.setCall number (.raised call failure)
    | .ok _ => { world.setCall number (.recorded call event) with
        records := world.records ++ [⟨number, event⟩] }
  | _ => world

def store (number : ℕ) : TraceWorld :=
  match world.calls number with
  | .recorded call event => { world.setCall number (.returned call event) with
      sessions := world.sessions.set call.session ⟨call.traceId, event.sequence⟩ }
  | _ => world

def step : TraceAction → TraceWorld
  | .openSession traceId => world.openSession traceId
  | .tick elapsed => { world with now := world.now + elapsed }
  | .readSequence number session arguments => world.readSequence number session arguments
  | .readClock number => world.readClock number
  | .record number => world.record number
  | .store number => world.store number

/-- What any interleaving leads to. -/
abbrev Reachable (start world : TraceWorld) : Prop :=
  Runs.Reachable step (fun _ _ => True) start world

end TraceWorld

end AgenticLab
