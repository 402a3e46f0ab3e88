import AgenticLab.Model.Tracing.AgentTrace

/-! # Traces that can be read -/

namespace AgenticLab

variable {milliseconds : ℕ → ℕ}

structure WellRecorded (trace : List AgentTraceEvent) : Prop where
  nonempty : trace ≠ []
  valid : ∀ event ∈ trace, event.validate = .ok ()
  together : ∀ first ∈ trace, ∀ second ∈ trace, first.traceId = second.traceId
  numbered : trace.map (·.sequence) = List.range' 1 trace.length
  chronological : trace.Pairwise fun first second => first.occurredAt ≤ second.occurredAt

def Balanced (trace : List AgentTraceEvent) : Prop :=
  AgentTraceSummaryBuilder.count trace .stepCompleted +
      AgentTraceSummaryBuilder.count trace .stepFailed +
      AgentTraceSummaryBuilder.count trace .stepSkipped ≤
    AgentTraceSummaryBuilder.count trace .stepStarted ∧
  AgentTraceSummaryBuilder.count trace .toolCompleted +
      AgentTraceSummaryBuilder.count trace .toolFailed ≤
    AgentTraceSummaryBuilder.count trace .toolStarted

instance (trace : List AgentTraceEvent) : Decidable (Balanced trace) :=
  inferInstanceAs (Decidable (_ ∧ _))

structure AgentTraceEvent.Valid (event : AgentTraceEvent) : Prop where
  sequence : 1 ≤ event.sequence
  attempt : ¬event.attemptNumber.any (fun attempt => attempt < 1) = true
  traceId : isBlank event.traceId = false
  message : isBlank event.message = false
  optional : requireTexts event.optionalText = .ok ()

variable {event : AgentTraceEvent}

theorem AgentTraceEvent.validate_eq_ok : event.validate = .ok () ↔ event.Valid := by
  rw [AgentTraceEvent.validate, raiseIf_bind_eq_ok, raiseIf_bind_eq_ok, bind_eq_ok, not_lt]
  constructor
  · rintro ⟨hsequence, hattempt, _, htexts, hoptional⟩
    have htexts := requireTexts_eq_ok.mp htexts
    exact ⟨hsequence, hattempt, htexts ("trace_id", event.traceId) (by simp),
      htexts ("message", event.message) (by simp), hoptional⟩
  · intro h
    refine ⟨h.sequence, h.attempt, (), requireTexts_eq_ok.mpr ?_, h.optional⟩
    simp [h.traceId, h.message]

theorem AgentTraceEvent.Valid.planId (h : event.Valid) {planId : String}
    (hid : event.planId = some planId) : isBlank planId = false := by
  refine requireTexts_eq_ok.mp h.optional ("plan_id", planId) ?_
  simp [EmitArguments.optionalText, hid]

namespace WellRecorded

variable {trace : List AgentTraceEvent}

theorem ordered (h : WellRecorded trace) : orderedEvents trace = trace := by
  refine List.mergeSort_of_pairwise ?_
  have hsequences : (trace.map (·.sequence)).Pairwise (· ≤ ·) := by
    rw [h.numbered]
    exact List.pairwise_le_range' 1
  exact (List.pairwise_map.mp hsequences).imp decide_eq_true

theorem cons_cases (h : WellRecorded trace) :
    ∃ first rest, trace = first :: rest := List.exists_cons_of_ne_nil h.nonempty

end WellRecorded

namespace AgentTraceTimelineBuilder

def itemOf (milliseconds : ℕ → ℕ) (startedAt : ℕ) (event : AgentTraceEvent) :
    AgentTraceTimelineItem :=
  ⟨event.toEmitArguments, event.sequence, event.occurredAt,
    milliseconds (event.occurredAt - startedAt)⟩

theorem item_eq_ok {startedAt : ℕ} {event : AgentTraceEvent} (hvalid : event.Valid)
    (htime : startedAt ≤ event.occurredAt) :
    item milliseconds startedAt event = .ok (itemOf milliseconds startedAt event) := by
  have helapsed : elapsedMs milliseconds startedAt event.occurredAt =
      .ok (milliseconds (event.occurredAt - startedAt)) := by
    rw [elapsedMs, raiseIf_bind_eq_ok]
    exact ⟨not_lt.mpr htime, rfl⟩
  have hitem : (itemOf milliseconds startedAt event).validate = .ok () := by
    rw [AgentTraceTimelineItem.validate, raiseIf_bind_eq_ok, raiseIf_bind_eq_ok, raiseIf_bind_eq_ok]
    exact ⟨not_lt.mpr hvalid.sequence, hvalid.attempt, by simp [itemOf, hvalid.message],
      hvalid.optional⟩
  rw [item, helapsed, ok_bind]
  exact bind_eq_ok.mpr ⟨(), hitem, rfl⟩

theorem items_eq_ok {startedAt : ℕ} {events : List AgentTraceEvent}
    (h : ∀ event ∈ events, event.Valid ∧ startedAt ≤ event.occurredAt) :
    items milliseconds startedAt events = .ok (events.map (itemOf milliseconds startedAt)) := by
  induction events with
  | nil => rfl
  | cons event events ih =>
    obtain ⟨⟨hvalid, htime⟩, hrest⟩ := List.forall_mem_cons.mp h
    rw [items, item_eq_ok hvalid htime, ok_bind, ih hrest, ok_bind, List.map_cons]

end AgentTraceTimelineBuilder

theorem WellRecorded.first_le {first : AgentTraceEvent} {rest : List AgentTraceEvent}
    (h : WellRecorded (first :: rest)) :
    ∀ event ∈ first :: rest, first.occurredAt ≤ event.occurredAt :=
  List.forall_mem_cons.mpr ⟨le_rfl, (List.pairwise_cons.mp h.chronological).1⟩

variable {trace : List AgentTraceEvent}

theorem WellRecorded.timeline_eq_ok (h : WellRecorded trace) :
    ∃ timeline, AgentTraceTimelineBuilder.build milliseconds trace = .ok timeline := by
  obtain ⟨first, rest, rfl⟩ := h.cons_cases
  have hlast := h.first_le _ (List.getLast_mem (List.cons_ne_nil first rest))
  have hvalid : ∀ event ∈ first :: rest, event.Valid := fun event hevent =>
    AgentTraceEvent.validate_eq_ok.mp (h.valid event hevent)
  have htogether : ¬∃ event ∈ rest, event.traceId ≠ first.traceId := by
    rintro ⟨event, hevent, hne⟩
    exact hne (h.together _ (List.mem_cons_of_mem _ hevent) _ List.mem_cons_self)
  have hitems : AgentTraceTimelineBuilder.items milliseconds first.occurredAt (first :: rest) =
      .ok ((first :: rest).map (AgentTraceTimelineBuilder.itemOf milliseconds first.occurredAt)) :=
    AgentTraceTimelineBuilder.items_eq_ok fun event hevent =>
      ⟨hvalid event hevent, h.first_le event hevent⟩
  have helapsed : AgentTraceTimelineBuilder.elapsedMs milliseconds first.occurredAt
      ((first :: rest).getLast (List.cons_ne_nil first rest)).occurredAt = .ok (milliseconds
        (((first :: rest).getLast (List.cons_ne_nil first rest)).occurredAt -
          first.occurredAt)) := by
    rw [AgentTraceTimelineBuilder.elapsedMs, raiseIf_bind_eq_ok]
    exact ⟨not_lt.mpr hlast, rfl⟩
  have hsequences : ((first :: rest).map
      (AgentTraceTimelineBuilder.itemOf milliseconds first.occurredAt)).map (·.sequence) =
      List.range' 1 (first :: rest).length := by
    rw [List.map_map]
    exact h.numbered
  have hvalidate : AgentTraceTimeline.validate milliseconds ⟨first.traceId, first.occurredAt,
      ((first :: rest).getLast (List.cons_ne_nil first rest)).occurredAt,
      milliseconds (((first :: rest).getLast (List.cons_ne_nil first rest)).occurredAt -
        first.occurredAt),
      (first :: rest).map (AgentTraceTimelineBuilder.itemOf milliseconds first.occurredAt)⟩ =
      .ok () := by
    rw [AgentTraceTimeline.validate]
    simp only [raiseIf_bind_eq_ok, raiseIf_eq_ok, hsequences, not_not, not_lt]
    refine ⟨by simp, by simpa using (hvalid first List.mem_cons_self).traceId, hlast,
      ?_, List.nodup_range' 1, rfl, ?_, trivial⟩
    · exact (List.mergeSort_of_pairwise ((List.pairwise_le_range' 1).imp decide_eq_true)).symm
    · rw [List.getLast?_map, List.getLast?_eq_getLast_of_ne_nil (List.cons_ne_nil first rest)]
      rfl
  rw [AgentTraceTimelineBuilder.build, h.ordered]
  simp only [raiseIf_bind_eq_ok, htogether, h.numbered, hitems, ok_bind, helapsed, hvalidate]
  simp

theorem finalPlanId_mem {planId : String}
    (h : AgentTraceSummaryBuilder.finalPlanId trace = some planId) :
    ∃ event ∈ trace, event.planId = some planId := by
  obtain ⟨event, hevent, hplan⟩ := List.exists_of_findSome?_eq_some h
  exact ⟨event, List.mem_reverse.mp hevent, hplan⟩

theorem WellRecorded.summary_eq_ok_iff (h : WellRecorded trace) :
    (∃ summary, AgentTraceSummaryBuilder.build milliseconds trace = .ok summary) ↔
      Balanced trace := by
  obtain ⟨first, rest, rfl⟩ := h.cons_cases
  have hmem := List.getLast_mem (List.cons_ne_nil first rest)
  have hlast := h.first_le _ hmem
  have hvalid : ∀ event ∈ first :: rest, event.Valid := fun event hevent =>
    AgentTraceEvent.validate_eq_ok.mp (h.valid event hevent)
  have htogether : ¬∃ event ∈ rest, event.traceId ≠ first.traceId := by
    rintro ⟨event, hevent, hne⟩
    exact hne (h.together _ (List.mem_cons_of_mem _ hevent) _ List.mem_cons_self)
  have hplan : ¬(AgentTraceSummaryBuilder.finalPlanId (first :: rest)).any isBlank = true := by
    cases hfinal : AgentTraceSummaryBuilder.finalPlanId (first :: rest) with
    | none => simp
    | some planId =>
      obtain ⟨event, hevent, hid⟩ := finalPlanId_mem hfinal
      simp [(hvalid event hevent).planId hid]
  have hvalidate : AgentTraceSummary.validate milliseconds
      (AgentTraceSummaryBuilder.summarize milliseconds first
        ((first :: rest).getLast (List.cons_ne_nil first rest)) (first :: rest)) = .ok () ↔
      Balanced (first :: rest) := by
    rw [AgentTraceSummary.validate]
    simp only [raiseIf_bind_eq_ok, raiseIf_eq_ok]
    simp only [not_lt, AgentTraceSummaryBuilder.summarize, hlast, hplan, Balanced,
      (hvalid first List.mem_cons_self).traceId, (hvalid _ hmem).message]
    simp
  rw [AgentTraceSummaryBuilder.build, h.ordered, ← hvalidate]
  simp only [raiseIf_bind_eq_ok, htogether, h.numbered, not_lt, hlast]
  simp only [bind_eq_ok]
  exact ⟨fun ⟨_, _, _, _, _, hdone, _⟩ => hdone,
    fun hdone => ⟨_, not_false, by simp, trivial, (), hdone, rfl⟩⟩

end AgenticLab
