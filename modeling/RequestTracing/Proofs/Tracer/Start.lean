import Mathlib
import RequestTracing.Proofs.Tracer.Baggage
import RequestTracing.Proofs.Tracer.OpenSpans

/-!
This module contains the start of spans under a current context or none. Main statement: a span that
is started under a new ID descends from the current context, and is one more that the code has open.
-/

namespace RequestTracing

structure TraceContext.Descends (parent : Option (TraceContext BaggageRef))
    (context : TraceContext BaggageRef) : Prop where
  parentId : context.parentId = parent.map (·.spanId)
  localRootId : context.localRootId = some ((parent.bind (·.localRootId)).getD context.spanId)
  traceId : ∀ known ∈ parent, context.traceId = known.traceId
  decided : context.sampled.isSome
  sampled : ∀ known ∈ parent, known.sampled.isSome → context.sampled = known.sampled

def IdSource.takeForSpan (ids : IdSource) (inTrace : Bool) : SpanId × IdSource :=
  if inTrace then ids.takeSpanId else ids.takeTraceId.2.takeSpanId

structure TracerState.SameRecording (state other : TracerState) : Prop where
  ids : state.tracing.ids = other.tracing.ids
  registry : state.tracing.registry = other.tracing.registry
  current : state.tracing.current = other.tracing.current
  notices : state.notices = other.notices

namespace Registry

theorem record_eq (registry : Registry) (place : Option Nat) (entry : SpanRecord)
    (absent : EditAnswer) :
    (registry.record place entry absent).2 = registry ∨
      ∃ edited f, (registry.record place entry absent).2 = registry.edit edited f := by
  unfold record perform
  cases place with
  | none => exact .inl rfl
  | some place =>
    dsimp only
    split
    . exact .inl rfl
    . next pending _ =>
      exact .inr ⟨place, fun _ => (pending.span.perform (entry.toEdit (registry.now place))).2, rfl⟩

theorem Hosts.record {known : List SpanKey} {handlers : List SpanHandler} {registry : Registry}
    {spans : List SpanHandle} (h : Hosts known handlers registry spans) (place : Option Nat)
    (entry : SpanRecord) (absent : EditAnswer) :
    Hosts known handlers (registry.record place entry absent).2 spans := by
  rcases registry.record_eq place entry absent with heq | ⟨edited, f, heq⟩
  . rwa [heq]
  . rw [heq]
    exact h.of_alike (alike_edit registry edited f) rfl

end Registry

namespace Tracer

open Registry (Hosts Held)

def nextContext (current : Option ContextInstance) : Tracer (TraceContext BaggageRef) :=
  match current with
  | some parent => childContext parent.context
  | none => rootContext .empty []

theorem nextSpan_eq (alive : Nat → Bool) (current : Option ContextInstance) :
    nextSpan alive current = nextContext current >>= register alive current := by
  cases current with
  | none => rfl
  | some parent => rfl

theorem complete_made (builder : ContextBuilder BaggageRef) (flags : SamplingFlags)
    (state : TracerState) :
    ∃ settled extra,
      (complete builder flags state).1 = { builder.toContext with flags := settled, extra } ∧
      settled.sampled.isSome ∧ (flags.sampled.isSome → settled.sampled = flags.sampled) ∧
      (complete builder flags state).2.SameRecording state := by
  obtain ⟨settled, sampler, hcomplete, hdecided, hkept⟩ := complete_eq builder flags state
  rw [hcomplete]
  unfold equip
  split
  . exact ⟨settled, _, rfl, hdecided, hkept, ⟨rfl, rfl, rfl, rfl⟩⟩
  . exact ⟨settled, _, rfl, hdecided, hkept, ⟨rfl, rfl, rfl, rfl⟩⟩

theorem flags_complete (builder : ContextBuilder BaggageRef) (flags : SamplingFlags)
    (state : TracerState) :
    let decided := decide builder.traceId flags state
    (complete builder flags state).1.flags =
      if decided.2.tracing.registry.chain.alwaysSampleLocal then decided.1.withSampledLocal true
      else decided.1 := by
  intro decided
  unfold complete
  rw [bind_apply, bind_apply, markLocal_eq]
  dsimp only
  obtain ⟨⟨extra, hequip⟩, _⟩ := gives_equip
    (builder.set (.samplingFlags (if decided.2.tracing.registry.chain.alwaysSampleLocal then
      decided.1.withSampledLocal true else decided.1))).toContext decided.2
  rw [hequip]
  rfl

/--
What comes of making a context that descends from a parent, or from none, under a span ID that was
taken from the source of IDs.
-/
structure Begets (taken : SpanId × IdSource) (parent : Option (TraceContext BaggageRef))
    (state : TracerState) (made : TraceContext BaggageRef × TracerState) : Prop where
  spanId : made.1.spanId = taken.1
  descends : made.1.Descends parent
  ids : made.2.tracing.ids = taken.2
  registry : made.2.tracing.registry = state.tracing.registry
  current : made.2.tracing.current = state.tracing.current
  notices : made.2.notices = state.notices

theorem begets_rootContext (flags : SamplingFlags) (extra : List (Extra BaggageRef))
    (state : TracerState) :
    Begets state.tracing.ids.takeTraceId.2.takeSpanId none state
      (rootContext flags extra state) := by
  unfold rootContext
  rw [bind_apply, bind_apply]
  obtain ⟨settled, own, hmade, hdecided, _, hsame⟩ := complete_made
    { traceId := (freshTraceId state).1, spanId := (freshSpanId (freshTraceId state).2).1,
      localRootId := some (freshSpanId (freshTraceId state).2).1, extra }
    flags (freshSpanId (freshTraceId state).2).2
  refine ⟨?_, ?_, hsame.ids, hsame.registry, hsame.current, hsame.notices⟩
  . rw [hmade]
    rfl
  . rw [hmade]
    exact ⟨rfl, rfl, by simp, hdecided, by simp⟩

theorem begets_childContext (parent : TraceContext BaggageRef) (state : TracerState) :
    Begets state.tracing.ids.takeSpanId (some parent) state (childContext parent state) := by
  unfold childContext
  rw [bind_apply, bind_apply]
  obtain ⟨settled, own, hmade, hdecided, hkept, hsame⟩ := complete_made
    { traceId := parent.traceId, spanId := (freshSpanId state).1, parentId := some parent.spanId,
      localRootId := some (parent.localRootId.getD (freshSpanId state).1),
      extra := (fork parent.extra (freshSpanId state).2).1 }
    parent.flags (fork parent.extra (freshSpanId state).2).2
  refine ⟨?_, ?_, hsame.ids, hsame.registry, hsame.current, hsame.notices⟩
  . rw [hmade]
    rfl
  . rw [hmade]
    refine ⟨rfl, rfl, ?_, hdecided, ?_⟩
    . rintro _ ⟨⟩
      rfl
    . rintro _ ⟨⟩
      exact hkept

theorem begets_nextContext (current : Option ContextInstance) (state : TracerState) :
    Begets (state.tracing.ids.takeForSpan current.isSome) (current.map (·.context)) state
      (nextContext current state) := by
  cases current with
  | none => exact begets_rootContext .empty [] state
  | some parent => exact begets_childContext parent.context state

theorem current_register (alive : Nat → Bool) (parent : Option ContextInstance)
    (context : TraceContext BaggageRef) (state : TracerState) :
    (register alive parent context state).2.tracing.current = state.tracing.current := by
  show (if _ then _ else _ : SpanHandle × TracerState).2.tracing.current = _
  split
  . rfl
  . rfl

variable {known : List SpanKey} {handlers : List SpanHandler} {spans : List SpanHandle}
  {alive : Nat → Bool}

theorem hosts_register {state : TracerState}
    (h : Hosts known handlers state.tracing.registry spans) (held : Held alive spans)
    (parent : Option ContextInstance) {context : TraceContext BaggageRef}
    (hkey : context.key ∉ known) (hnew : ∀ span ∈ spans, context.key ≠ span.key) :
    let made := register alive parent context state
    made.1.source.context = context ∧
      Hosts known handlers made.2.tracing.registry (made.1 :: spans) ∧
      ∃ notices, made.2.notices = state.notices ++ notices ∧ callsBeyond known notices = [] := by
  intro made
  let source := (state.heap.instantiate context).1
  have hmade := register_eq alive parent context state
  dsimp only [made]
  by_cases hnothing : keepsNothing state.tracing context
  . rw [hmade.trans (if_pos hnothing)]
    exact ⟨rfl, h.cons_of_unrecorded rfl hkey hnew, [], (List.append_nil _).symm, rfl⟩
  . obtain ⟨hhosts, hcalls⟩ :=
      h.begin held (parent.map state.heap.view) source (state.heap.view source) false rfl hkey hnew
    have hkept := (hhosts.kept _ (List.mem_cons_self ..) _ rfl).2
    obtain ⟨pending, hpending, heq⟩ := Option.map_eq_some_iff.1 hkept
    dsimp only at hpending heq
    rw [hmade.trans (if_neg hnothing), hpending, Option.elim_some, heq]
    exact ⟨rfl, hhosts, _, rfl, hcalls⟩

theorem startNamed_eq (alive : Nat → Bool) (current : Option ContextInstance) (name : String)
    (state : TracerState) :
    let made := nextSpan alive current state
    let named := (made.2.record made.1.place (.name name) .done).2
    startNamed alive current name state =
      (made.1, (named.record made.1.place .start .done).2) := by
  rfl

theorem current_startNamed (alive : Nat → Bool) (current : Option ContextInstance) (name : String)
    (state : TracerState) :
    (startNamed alive current name state).2.tracing.current = state.tracing.current := by
  rw [startNamed_eq, nextSpan_eq, bind_apply]
  exact (current_register alive current _ _).trans (begets_nextContext current state).current

theorem ids_startNamed (alive : Nat → Bool) (current : Option ContextInstance) (name : String)
    (state : TracerState) :
    (startNamed alive current name state).2.tracing.ids =
      (state.tracing.ids.takeForSpan current.isSome).2 := by
  rw [startNamed_eq, nextSpan_eq, bind_apply]
  exact (register_frame alive current _ _).1.trans (begets_nextContext current state).ids

theorem hosts_startNamed {state : TracerState}
    (h : Hosts known handlers state.tracing.registry spans) (held : Held alive spans)
    (current : Option ContextInstance) (name : String)
    (unknown : ∀ key ∈ known, key.spanId ≠ (state.tracing.ids.takeForSpan current.isSome).1)
    (apart : ∀ span ∈ spans,
      span.key.spanId ≠ (state.tracing.ids.takeForSpan current.isSome).1) :
    let made := startNamed alive current name state
    made.1.key.spanId = (state.tracing.ids.takeForSpan current.isSome).1 ∧
      made.1.source.context.Descends (current.map (·.context)) ∧
      Hosts known handlers made.2.tracing.registry (made.1 :: spans) ∧
      ∃ notices, made.2.notices = state.notices ++ notices ∧ callsBeyond known notices = [] := by
  have hbegets := begets_nextContext current state
  have hid : (nextContext current state).1.key.spanId =
      (state.tracing.ids.takeForSpan current.isSome).1 := hbegets.spanId
  rw [← hbegets.registry] at h
  rw [← hid] at unknown apart
  obtain ⟨hsource, hhosts, notices, hnotices, hcalls⟩ := hosts_register h held current
    (fun hmem => unknown _ hmem rfl) (fun span hspan heq => apart span hspan (by rw [← heq]))
  rw [startNamed_eq, nextSpan_eq, bind_apply]
  refine ⟨?_, ?_, ?_, notices, hnotices.trans (by rw [hbegets.notices]), hcalls⟩
  . unfold SpanHandle.key
    dsimp only
    rw [hsource, hid]
  . dsimp only
    rw [hsource]
    exact hbegets.descends
  . exact (hhosts.record _ (.name name) .done).record _ .start .done

end Tracer

end RequestTracing
