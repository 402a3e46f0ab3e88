import AgenticLab.Library.Json.Value
import AgenticLab.Model.Application.Values
import Mathlib.Data.List.Dedup

/-! # Events, timelines and summaries of agent traces

`agent_trace.py`, `agent_trace_timeline.py` and `agent_trace_summary.py` of `app/schemas`, with
the builders of `app/tracing`. Times are instants in microseconds, of datetimes that have a
timezone. -/

namespace AgenticLab

inductive AgentTraceEventType where
  | agentStarted
  | agentCompleted
  | agentFailed
  | planningStarted
  | planningCompleted
  | planningFailed
  | planStarted
  | planCompleted
  | planFailed
  | planCancelled
  | planBlocked
  | stepStarted
  | stepCompleted
  | stepFailed
  | stepSkipped
  | toolStarted
  | toolCompleted
  | toolFailed
  | evaluationCompleted
  | replanningStarted
  | replanningCompleted
  | replanningFailed
  | replanLimitReached
  deriving DecidableEq

/-- What a caller of `emit` says about an event. -/
structure EmitArguments where
  eventType : AgentTraceEventType
  message : String
  planId : Option String
  stepId : Option String
  toolName : Option String
  attemptNumber : Option ℤ
  metadata : List (String × Json.Value)

structure AgentTraceEvent extends EmitArguments where
  traceId : String
  sequence : ℕ
  occurredAt : ℕ

/-- The ids of `optional_text` that are there. -/
def EmitArguments.optionalText (arguments : EmitArguments) : List (String × String) :=
  [("plan_id", arguments.planId), ("step_id", arguments.stepId),
    ("tool_name", arguments.toolName)].filterMap fun (name, value) => value.map (name, ·)

/-- `sequence` and `attempt_number` have `ge=1`. -/
def AgentTraceEvent.validate (event : AgentTraceEvent) : Except Raised Unit := do
  raiseIf (event.sequence < 1)
    ⟨.validationError, "sequence: Input should be greater than or equal to 1"⟩
  raiseIf (event.attemptNumber.any fun attempt => attempt < 1)
    ⟨.validationError, "attempt_number: Input should be greater than or equal to 1"⟩
  requireTexts [("trace_id", event.traceId), ("message", event.message)]
  requireTexts event.optionalText

/-! ## Timelines -/

structure AgentTraceTimelineItem extends EmitArguments where
  sequence : ℕ
  occurredAt : ℕ
  elapsedMs : ℕ

def AgentTraceTimelineItem.validate (item : AgentTraceTimelineItem) : Except Raised Unit := do
  raiseIf (item.sequence < 1)
    ⟨.validationError, "sequence: Input should be greater than or equal to 1"⟩
  raiseIf (item.attemptNumber.any fun attempt => attempt < 1)
    ⟨.validationError, "attempt_number: Input should be greater than or equal to 1"⟩
  raiseIf (isBlank item.message) ⟨.validationError, "timeline message must not be blank"⟩
  requireTexts item.optionalText

structure AgentTraceTimeline where
  traceId : String
  startedAt : ℕ
  endedAt : ℕ
  durationMs : ℕ
  items : List AgentTraceTimelineItem

section

-- `int(elapsed.total_seconds() * 1_000)` of a time in microseconds
variable (milliseconds : ℕ → ℕ)

/-- `items` has `min_length=1`. -/
def AgentTraceTimeline.validate (timeline : AgentTraceTimeline) : Except Raised Unit := do
  raiseIf (timeline.items.length < 1)
    ⟨.validationError, "items: List should have at least 1 item after validation"⟩
  raiseIf (isBlank timeline.traceId) ⟨.validationError, "trace_id must not be blank"⟩
  raiseIf (timeline.endedAt < timeline.startedAt)
    ⟨.validationError, "timeline ended_at must not precede started_at"⟩
  raiseIf ((timeline.items.map (·.sequence)) ≠ (timeline.items.map (·.sequence)).mergeSort)
    ⟨.validationError, "timeline items must be ordered by sequence"⟩
  raiseIf (¬(timeline.items.map (·.sequence)).Nodup)
    ⟨.validationError, "timeline sequences must be unique"⟩
  raiseIf ((timeline.items.head?.map (·.occurredAt)) ≠ some timeline.startedAt)
    ⟨.validationError, "timeline started_at must match first item"⟩
  raiseIf ((timeline.items.getLast?.map (·.occurredAt)) ≠ some timeline.endedAt)
    ⟨.validationError, "timeline ended_at must match final item"⟩
  raiseIf (timeline.durationMs ≠ milliseconds (timeline.endedAt - timeline.startedAt))
    ⟨.validationError, "timeline duration_ms is inconsistent"⟩

def timelineBuilderError (message : String) : Raised :=
  ⟨.external "AgentTraceTimelineBuilderError" .runtimeOrValueError, message⟩

/-- `sorted(events, key=lambda event: event.sequence)` -/
def orderedEvents (events : List AgentTraceEvent) : List AgentTraceEvent :=
  events.mergeSort fun first second => first.sequence ≤ second.sequence

namespace AgentTraceTimelineBuilder

def elapsedMs (startedAt occurredAt : ℕ) : Except Raised ℕ := do
  raiseIf (occurredAt < startedAt)
    (timelineBuilderError "trace event timestamps must be chronological")
  .ok (milliseconds (occurredAt - startedAt))

def item (startedAt : ℕ) (event : AgentTraceEvent) : Except Raised AgentTraceTimelineItem := do
  let elapsed ← elapsedMs milliseconds startedAt event.occurredAt
  let item := ⟨event.toEmitArguments, event.sequence, event.occurredAt, elapsed⟩
  item.validate
  .ok item

def items (startedAt : ℕ) : List AgentTraceEvent → Except Raised (List AgentTraceTimelineItem)
  | [] => .ok []
  | event :: events => do
      let first ← item milliseconds startedAt event
      let rest ← items startedAt events
      .ok (first :: rest)

def build (events : List AgentTraceEvent) : Except Raised AgentTraceTimeline :=
  match orderedEvents events with
  | [] => .error (timelineBuilderError "cannot build timeline from empty events")
  | first :: rest => do
      let last := (first :: rest).getLast (List.cons_ne_nil first rest)
      raiseIf (∃ event ∈ rest, event.traceId ≠ first.traceId)
        (timelineBuilderError "timeline events must share one trace_id")
      raiseIf ((first :: rest).map (·.sequence) ≠ List.range' 1 (first :: rest).length)
        (timelineBuilderError "timeline event sequences must be contiguous")
      let items ← items milliseconds first.occurredAt (first :: rest)
      let durationMs ← elapsedMs milliseconds first.occurredAt last.occurredAt
      let timeline := ⟨first.traceId, first.occurredAt, last.occurredAt, durationMs, items⟩
      timeline.validate milliseconds
      .ok timeline

end AgentTraceTimelineBuilder

/-! ## Summaries -/

inductive AgentTraceOutcome where
  | completed
  | failed
  | incomplete
  deriving DecidableEq

structure AgentTraceSummary where
  traceId : String
  outcome : AgentTraceOutcome
  startedAt : ℕ
  endedAt : ℕ
  durationMs : ℕ
  eventCount : ℕ
  attemptCount : ℕ
  planCount : ℕ
  planningCount : ℕ
  replanningCount : ℕ
  stepStartedCount : ℕ
  stepCompletedCount : ℕ
  stepFailedCount : ℕ
  stepSkippedCount : ℕ
  toolStartedCount : ℕ
  toolCompletedCount : ℕ
  toolFailedCount : ℕ
  finalPlanId : Option String
  finalMessage : String

/-- `event_count` has `ge=1`. -/
def AgentTraceSummary.validate (summary : AgentTraceSummary) : Except Raised Unit := do
  raiseIf (summary.eventCount < 1)
    ⟨.validationError, "event_count: Input should be greater than or equal to 1"⟩
  raiseIf (isBlank summary.traceId) ⟨.validationError, "trace_id must not be blank"⟩
  raiseIf (isBlank summary.finalMessage) ⟨.validationError, "final_message must not be blank"⟩
  raiseIf (summary.endedAt < summary.startedAt)
    ⟨.validationError, "summary ended_at must not precede started_at"⟩
  raiseIf (summary.finalPlanId.any isBlank) ⟨.validationError, "final_plan_id must not be blank"⟩
  raiseIf (summary.durationMs ≠ milliseconds (summary.endedAt - summary.startedAt))
    ⟨.validationError, "summary duration_ms is inconsistent"⟩
  raiseIf (summary.stepStartedCount <
      summary.stepCompletedCount + summary.stepFailedCount + summary.stepSkippedCount)
    ⟨.validationError, "finished step count must not exceed started step count"⟩
  raiseIf (summary.toolStartedCount < summary.toolCompletedCount + summary.toolFailedCount)
    ⟨.validationError, "finished tool count must not exceed started tool count"⟩

def summaryBuilderError (message : String) : Raised :=
  ⟨.external "AgentTraceSummaryBuilderError" .runtimeOrValueError, message⟩

namespace AgentTraceSummaryBuilder

/-- `counts[event_type]` -/
def count (events : List AgentTraceEvent) (eventType : AgentTraceEventType) : ℕ :=
  events.countP fun event => event.eventType = eventType

def outcome (events : List AgentTraceEvent) : AgentTraceOutcome :=
  if .agentCompleted ∈ events.map (·.eventType) then .completed
  else if .agentFailed ∈ events.map (·.eventType) then .failed
  else .incomplete

def finalPlanId (events : List AgentTraceEvent) : Option String :=
  events.reverse.findSome? (·.planId)

/-- The keyword arguments of `AgentTraceSummary`. -/
def summarize (first last : AgentTraceEvent) (events : List AgentTraceEvent) :
    AgentTraceSummary where
  traceId := first.traceId
  outcome := outcome events
  startedAt := first.occurredAt
  endedAt := last.occurredAt
  durationMs := milliseconds (last.occurredAt - first.occurredAt)
  eventCount := events.length
  attemptCount := (events.filterMap (·.attemptNumber)).dedup.length
  planCount := (events.filterMap (·.planId)).dedup.length
  planningCount := count events .planningStarted
  replanningCount := count events .replanningStarted
  stepStartedCount := count events .stepStarted
  stepCompletedCount := count events .stepCompleted
  stepFailedCount := count events .stepFailed
  stepSkippedCount := count events .stepSkipped
  toolStartedCount := count events .toolStarted
  toolCompletedCount := count events .toolCompleted
  toolFailedCount := count events .toolFailed
  finalPlanId := finalPlanId events
  finalMessage := last.message

def build (events : List AgentTraceEvent) : Except Raised AgentTraceSummary :=
  match orderedEvents events with
  | [] => .error (summaryBuilderError "cannot build summary from empty events")
  | first :: rest => do
      let last := (first :: rest).getLast (List.cons_ne_nil first rest)
      raiseIf (∃ event ∈ rest, event.traceId ≠ first.traceId)
        (summaryBuilderError "summary events must share one trace_id")
      raiseIf ((first :: rest).map (·.sequence) ≠ List.range' 1 (first :: rest).length)
        (summaryBuilderError "summary event sequences must be contiguous")
      raiseIf (last.occurredAt < first.occurredAt)
        (summaryBuilderError "summary timestamps must be chronological")
      let summary := summarize milliseconds first last (first :: rest)
      summary.validate milliseconds
      .ok summary

end AgentTraceSummaryBuilder

end

end AgenticLab
