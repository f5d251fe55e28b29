import Mathlib
import RequestTracing.Proofs.Recorder.Ends
import RequestTracing.Proofs.Tracer.Departures

/-!
This module contains what a handler that encodes sampled spans gives out over a run of a tracing.
Main statement: it gives out the encodings of the sampled spans that were finished, flushed or
orphaned, one for each end and in order, and so nothing of a trace that is not sampled.
-/

namespace RequestTracing

theorem TracerState.exists_endSpan_of_asked {state : TracerState} {alive : Nat → Bool}
    {action : TracingAction} {context : Snapshot}
    (h : (state.asked alive action).subject? = some context) :
    ∃ span ending, action = .endSpan span ending ∧ context = state.heap.view span.source := by
  have hregister : ∀ state : TracerState, ∀ parent context,
      (state.askedToRegister alive parent context).subject? = none := by
    intro state parent context
    unfold askedToRegister
    split
    . rfl
    . rfl
  cases action with
  | create creation => cases (hregister _ _ _).symm.trans h
  | currentSpan current =>
    cases current with
    | none => cases h
    | some source => cases (hregister _ _ _).symm.trans h
  | endSpan span ending =>
    unfold asked at h
    dsimp only at h
    split at h
    . cases h
    . cases ending <;> exact ⟨span, _, rfl, (Option.some.inj h).symm⟩
  | _ => cases h

namespace TracingMoment

variable {encoder : SpanEncoder} {always : Bool} {others : List SpanHandler}
  {reading : Nat → UInt64}

def ends (moment : TracingMoment) : List SpanEnd :=
  moment.asked.ends

theorem feeds_after {moment : TracingMoment}
    (h : moment.before.tracing.registry.Feeds encoder always others reading)
    (hsound : moment.before.tracing.registry.Sound) :
    moment.after.tracing.registry.Feeds encoder always others reading := by
  have hasked : moment.asked.before.registry.Feeds encoder always others reading := h
  have hafter := RegistryStep.feeds_after hasked hsound
  constructor
  . rw [moment.chain_asked]
    exact hafter.encodes
  . rw [moment.chain_asked]
    exact hafter.reading

theorem receives {moment : TracingMoment}
    (h : moment.before.tracing.registry.Feeds encoder always others reading)
    (hsound : moment.before.tracing.registry.Sound) :
    ∃ texts, sunk others.length moment.after.notices =
        sunk others.length moment.before.notices ++ texts ∧
      Receives encoder always others reading moment.ends texts := by
  have hasked : moment.asked.before.registry.Feeds encoder always others reading := h
  have hnotices : moment.after.notices = moment.before.notices ++ moment.asked.notices :=
    (moment.before.asks moment.step.alive moment.step.action).notices
  rw [hnotices, sunk_append]
  exact ⟨_, rfl, RegistryStep.receives hasked hsound⟩

theorem context_of_mem_ends {moment : TracingMoment} {ended : SpanEnd} (h : ended ∈ moment.ends) :
    (∃ pending ∈ moment.before.tracing.registry.pendings, ended.context = pending.context) ∨
      ∃ span ending, moment.step.action = .endSpan span ending ∧
        ended.context = moment.before.heap.view span.source :=
  (RegistryStep.context_of_mem_ends h).imp id TracerState.exists_endSpan_of_asked

end TracingMoment

namespace TracerState

variable {encoder : SpanEncoder} {always : Bool} {others : List SpanHandler}
  {reading : Nat → UInt64}

theorem receives_after {state : TracerState}
    (h : state.tracing.registry.Feeds encoder always others reading)
    (hsound : state.tracing.registry.Sound) (steps : List TracingStep) :
    ∃ texts, sunk others.length (state.after steps).notices =
        sunk others.length state.notices ++ texts ∧
      Receives encoder always others reading
        ((state.history steps).flatMap TracingMoment.ends) texts := by
  induction steps generalizing state with
  | nil => exact ⟨[], (List.append_nil _).symm, .nil ..⟩
  | cons step steps ih =>
    let moment : TracingMoment := ⟨state, step⟩
    have hbefore : moment.before.tracing.registry.Feeds encoder always others reading := h
    have hsoundBefore : moment.before.tracing.registry.Sound := hsound
    obtain ⟨texts, htexts, hreceives⟩ := TracingMoment.receives hbefore hsoundBefore
    obtain ⟨more, hmore, hlater⟩ := ih (TracingMoment.feeds_after hbefore hsoundBefore)
      (TracingMoment.sound_after hsoundBefore).1
    refine ⟨texts ++ more, ?_, hreceives.append hlater⟩
    rw [← List.append_assoc]
    exact hmore.trans (congrArg (· ++ more) htexts)

theorem exists_pending_after {state : TracerState} {pending : PendingSpan}
    (hpending : pending ∈ state.tracing.registry.pendings) (steps : List TracingStep) :
    ∃ last ∈ (state.after steps).tracing.registry.pendings, last.context = pending.context := by
  induction steps generalizing state pending with
  | nil => exact ⟨pending, hpending, rfl⟩
  | cons step steps ih =>
    let moment : TracingMoment := ⟨state, step⟩
    have hidentity : pending.identity ∈
        moment.after.tracing.registry.pendings.map PendingSpan.identity := by
      have hmem := List.mem_map_of_mem (f := PendingSpan.identity) hpending
      rw [moment.alike_asked.spans]
      rcases RegistryState.spans_step moment.asked.before moment.asked.action with
        hsame | ⟨_, source, context, _, _, hnew⟩
      . exact hsame ▸ hmem
      . exact hnew ▸ List.mem_append_left _ hmem
    obtain ⟨kept, hkept, hsame⟩ := List.mem_map.1 hidentity
    obtain ⟨last, hlast, hcontext⟩ := ih hkept
    exact ⟨last, hlast, hcontext.trans (congrArg Prod.snd hsame)⟩

theorem context_of_mem_history {state : TracerState} {steps : List TracingStep} {ended : SpanEnd}
    (h : ended ∈ (state.history steps).flatMap TracingMoment.ends) :
    (∃ pending ∈ (state.after steps).tracing.registry.pendings, ended.context = pending.context) ∨
      ∃ step ∈ steps, ∃ (span : SpanHandle) (ending : SpanEnding) (heap : Heap),
        step.action = .endSpan span ending ∧ ended.context = heap.view span.source := by
  induction steps generalizing state with
  | nil => cases h
  | cons step steps ih =>
    let moment : TracingMoment := ⟨state, step⟩
    have hhistory : (state.history (step :: steps)).flatMap TracingMoment.ends =
        moment.ends ++ (moment.after.history steps).flatMap TracingMoment.ends := List.flatMap_cons
    rw [hhistory, List.mem_append] at h
    rcases h with hfirst | hlater
    . rcases TracingMoment.context_of_mem_ends hfirst with
        ⟨pending, hpending, hcontext⟩ | ⟨span, ending, haction, hcontext⟩
      . obtain ⟨last, hlast, hsame⟩ := exists_pending_after hpending (step :: steps)
        exact .inl ⟨last, hlast, hcontext.trans hsame.symm⟩
      . exact .inr ⟨step, List.mem_cons_self .., span, ending, _, haction, hcontext⟩
    . rcases ih hlater with hpending | ⟨known, hmem, hknown⟩
      . exact .inl hpending
      . exact .inr ⟨known, List.mem_cons_of_mem step hmem, hknown⟩

end TracerState

/--
The handlers of a service ahead of some that are configured: the one that marks orphans is the
first.
-/
def Tracing.ahead (config : TracerConfig) (before : List SpanHandler) : List SpanHandler :=
  .orphanTracker (Tracing.template config) .platform config.trackOrphans :: before

theorem Tracing.feeds_of_ofConfig {config : TracerConfig} {tracing : Tracing}
    (h : Tracing.ofConfig config = .ok tracing) {before rest : List SpanHandler} {name : String}
    {encoder : SpanEncoder} {always : Bool}
    (hhandlers : config.handlers = before ++ .encoding name encoder always :: rest)
    (hcontinues : ∀ handler ∈ before, handler.Continues) :
    tracing.registry.Feeds encoder always (Tracing.ahead config before) config.clock.reading := by
  have hchain : tracing.registry.chain = ⟨Tracing.handlers config, false, config.clock⟩ := by
    rw [Tracing.registry_of_ofConfig h]
    rfl
  constructor
  . rw [hchain]
    refine ⟨⟨name, rest, ?_⟩, ?_⟩
    . unfold Tracing.handlers Tracing.ahead
      rw [hhandlers]
      rfl
    . exact List.forall_mem_cons.2 ⟨SpanHandler.continues_orphanTracker _ _ _, hcontinues⟩
  . rw [hchain]

namespace TracerState

/--
A handler that encodes sampled spans, behind others that let it know of every end, gives out exactly
the encodings of the spans that are finished, flushed or orphaned under a sampled context, one for
each and in order. Nothing that it gives out is of a trace whose spans are all not sampled, whoever
has them recorded.
-/
theorem sink_receives_sampled {config : TracerConfig} {tracing : Tracing}
    (hconfig : Tracing.ofConfig config = .ok tracing) {before rest : List SpanHandler}
    {name : String} {encoder : SpanEncoder}
    (hhandlers : config.handlers = before ++ .encoding name encoder false :: rest)
    (hcontinues : ∀ handler ∈ before, handler.Continues) (heap : Heap) (steps : List TracingStep) :
    let start : TracerState := ⟨tracing, heap, []⟩
    let last := start.after steps
    let ahead := Tracing.ahead config before
    let reported := ((start.history steps).flatMap TracingMoment.ends).filter fun ended =>
      ended.cause ≠ .abandoned ∧ ended.context.sampled = some true
    List.Forall₂ (fun ended text => ∃ taken, text = encoder.encode
        (handed ended.context ended.cause ended.recorded ⟨config.clock.reading, taken⟩ ahead))
      reported (sunk ahead.length last.notices) ∧
    ∀ traceId,
      (∀ pending ∈ last.tracing.registry.pendings, pending.context.traceId = traceId →
        pending.context.sampled ≠ some true) →
      (∀ step ∈ steps, ∀ span ending, step.action = .endSpan span ending →
        span.source.context.traceId = traceId → span.source.context.sampled ≠ some true) →
      ∀ ended ∈ reported, ended.context.traceId ≠ traceId := by
  intro start last ahead reported
  have hfeeds : start.tracing.registry.Feeds encoder false ahead config.clock.reading :=
    Tracing.feeds_of_ofConfig hconfig hhandlers hcontinues
  have hsound : start.tracing.registry.Sound := Tracing.sound_of_ofConfig hconfig
  obtain ⟨texts, htexts, hreceives⟩ := receives_after hfeeds hsound steps
  have hreported : reported =
      ((start.history steps).flatMap TracingMoment.ends).filter (SpanEnd.isReported false) := by
    apply List.filter_congr
    intro ended _
    unfold SpanEnd.isReported SpanHandler.reports
    rw [Bool.false_or, Bool.decide_and]
  constructor
  . rw [hreported, htexts]
    exact hreceives
  . intro traceId hspans hended ended hmem htrace
    obtain ⟨hhistory, hsampled⟩ := List.mem_filter.1 hmem
    have hsampled := (of_decide_eq_true hsampled).2
    rcases context_of_mem_history hhistory with
      ⟨pending, hpending, hcontext⟩ | ⟨step, hstep, span, ending, heap, haction, hcontext⟩
    . rw [hcontext] at htrace hsampled
      exact hspans pending hpending htrace hsampled
    . rw [hcontext] at htrace hsampled
      exact hended step hstep span ending haction htrace hsampled

theorem sink_receives_sampled_among_local :
    let alive := fun _ : Nat => true
    let handlers : List SpanHandler :=
      [.memory "spans" true true [], .encoding "sink" ⟨"error"⟩ false]
    let config : TracerConfig :=
      ⟨"service", none, 0, .always, .counting, true, false, .fixed 1, .shared, handlers, []⟩
    let tracing : Tracing :=
      ⟨"service", .always, .counting, .shared, true, [],
        .ofHandlers (Tracing.template config) (Tracing.handlers config) (.fixed 1)⟩
    let start : TracerState := ⟨tracing, ⟨1, []⟩, []⟩
    let create (traceId : TraceId) (flags : SamplingFlags) : TracingStep :=
      ⟨alive, .create (.toSpan ⟨0, ⟨traceId, ⟨2⟩, none, none, flags, false, []⟩⟩)⟩
    let span (number : Nat) (traceId : TraceId) (flags : SamplingFlags) : SpanHandle :=
      ⟨⟨number, ⟨traceId, ⟨2⟩, none, some ⟨2⟩, flags.withSampledLocal true, false, []⟩⟩,
        some (number - 1)⟩
    let steps : List TracingStep :=
      [create ⟨1⟩ .sampledYes, create ⟨2⟩ .sampledNo, create ⟨3⟩ .sampledYes,
        ⟨alive, .endSpan (span 1 ⟨1⟩ .sampledYes) (.finish none)⟩,
        ⟨alive, .endSpan (span 2 ⟨2⟩ .sampledNo) (.finish none)⟩,
        ⟨alive, .endSpan (span 3 ⟨3⟩ .sampledYes) .abandon⟩]
    let ends := (start.history steps).flatMap TracingMoment.ends
    Tracing.ofConfig config = .ok tracing ∧
      config.handlers = [.memory "spans" true true []] ++ [.encoding "sink" ⟨"error"⟩ false] ∧
      ends.map (fun ended => (ended.context.traceId, ended.cause)) =
        [(⟨1⟩, .finished), (⟨2⟩, .finished), (⟨3⟩, .abandoned)] ∧
      (sunk 2 (start.after steps).notices).length = 1 ∧
      ∀ ended ∈ ends, ended.cause ≠ .abandoned ∧ ended.context.sampled = some true →
        ended.context.traceId ≠ ⟨2⟩ := by
  intro alive handlers config tracing start create span steps ends
  have hconfig : Tracing.ofConfig config = .ok tracing := if_neg (by decide +kernel)
  have hhandlers : config.handlers =
      [.memory "spans" true true []] ++ [.encoding "sink" ⟨"error"⟩ false] := rfl
  have hcontinues : ∀ handler ∈ ([.memory "spans" true true []] : List SpanHandler),
      handler.Continues := by
    rw [List.forall_mem_singleton]
    intro context cause recorded clock
    rfl
  obtain ⟨htexts, hnone⟩ := sink_receives_sampled hconfig hhandlers hcontinues ⟨1, []⟩ steps
  have hlength : (ends.filter fun ended =>
      ended.cause ≠ .abandoned ∧ ended.context.sampled = some true).length = 1 := by
    decide +kernel
  have hflags : (SamplingFlags.sampledNo.withSampledLocal true).sampled ≠ some true := by decide
  have hended : ∀ step ∈ steps, ∀ span ending, step.action = .endSpan span ending →
      span.source.context.traceId = ⟨2⟩ → span.source.context.sampled ≠ some true := by
    simp [steps, create, span, TraceContext.sampled, hflags]
  refine ⟨hconfig, hhandlers, by decide +kernel, htexts.length_eq.symm.trans hlength, ?_⟩
  intro ended hmem hreported
  exact hnone ⟨2⟩ (by decide +kernel) hended ended
    (List.mem_filter.2 ⟨hmem, decide_eq_true hreported⟩)

end TracerState

end RequestTracing
