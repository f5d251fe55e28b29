import RequestTracing.Sampling.Rule
import RequestTracing.Tracer.Span

/-!
This module contains the creation of spans: new traces, children, spans joined to that of a client,
and spans that continue what was read from a carrier. A context without a sampling decision gets one
here, and a sampled span is registered for recording.
-/

namespace RequestTracing

abbrev Tracer := StateM TracerState

namespace Tracer

/--
The time at which samplers are asked, in nanoseconds since they were made. The moments that pass
while a program runs do not count.
-/
def samplingTime : UInt64 :=
  0

def freshTraceId : Tracer TraceId := fun state =>
  let (id, ids) := state.tracing.ids.takeTraceId
  (id, { state with tracing := { state.tracing with ids } })

def freshSpanId : Tracer SpanId := fun state =>
  let (id, ids) := state.tracing.ids.takeSpanId
  (id, { state with tracing := { state.tracing with ids } })

def sample (traceId : TraceId) : Tracer Bool := fun state =>
  let (sampled, sampler) := state.tracing.sampler.sample samplingTime traceId
  (sampled, { state with tracing := { state.tracing with sampler } })

/--
Flags with a decision: their own, or that of the sampler where they leave it open. Debug implies
sampled.
-/
def decide (traceId : TraceId) (flags : SamplingFlags) : Tracer SamplingFlags := do
  match flags.sampled with
  | some _ => return flags
  | none =>
    let sampled ← if flags.debug then pure true else sample traceId
    return flags.withSampled (some sampled)

def markLocal (flags : SamplingFlags) : Tracer SamplingFlags := do
  if (← get).tracing.registry.chain.alwaysSampleLocal then
    return flags.withSampledLocal true
  else
    return flags

def equip (context : TraceContext BaggageRef) : Tracer (TraceContext BaggageRef) := fun state =>
  if state.tracing.baggageFields.isEmpty || context.baggage?.isSome then
    (context, state)
  else
    let (ref, heap) := state.heap.allocate (.ofFields state.tracing.baggageFields)
    (context.withExtra (.baggage ref), { state with heap })

def fork (extra : List (Extra BaggageRef)) : Tracer (List (Extra BaggageRef)) := fun state =>
  let (forked, heap) := state.heap.forkAll extra
  (forked, { state with heap })

def instantiate (context : TraceContext BaggageRef) : Tracer ContextInstance := fun state =>
  let (source, heap) := state.heap.instantiate context
  (source, { state with heap })

def complete (builder : ContextBuilder BaggageRef) (flags : SamplingFlags) :
    Tracer (TraceContext BaggageRef) := do
  let flags ← markLocal (← decide builder.traceId flags)
  equip (builder.set (.samplingFlags flags)).toContext

def rootContext (flags : SamplingFlags) (extra : List (Extra BaggageRef)) :
    Tracer (TraceContext BaggageRef) := do
  let traceId ← freshTraceId
  let spanId ← freshSpanId
  complete { traceId, spanId, localRootId := some spanId, extra } flags

def childContext (parent : TraceContext BaggageRef) : Tracer (TraceContext BaggageRef) := do
  let spanId ← freshSpanId
  let extra ← fork parent.extra
  complete
    { traceId := parent.traceId, spanId, parentId := some parent.spanId
      localRootId := some (parent.localRootId.getD spanId), extra }
    parent.flags

def keepsNothing (tracing : Tracing) (context : TraceContext BaggageRef) : Bool :=
  tracing.isNoop || (!context.sampledLocal && context.sampled != some true)

/--
The handle of a span with the given context. Where a context of the same identity is recorded
already, the handle is one more for that span.
-/
def register (alive : Nat → Bool) (parent : Option ContextInstance)
    (context : TraceContext BaggageRef) : Tracer SpanHandle := do
  let source ← instantiate context
  fun state =>
    if keepsNothing state.tracing context then
      (⟨source, none⟩, state)
    else
      let (place, registry, notices) :=
        state.tracing.registry.getOrCreate alive (parent.map state.heap.view) source
          (state.heap.view source) false
      let tracked :=
        match registry.pendings[place]? with
        | some pending => pending.source
        | none => source
      (⟨tracked, some place⟩,
        { state with
          tracing := { state.tracing with registry }
          notices := state.notices ++ notices })

def newTrace (alive : Nat → Bool) : Tracer SpanHandle := do
  register alive none (← rootContext .empty [])

def newChild (alive : Nat → Bool) (parent : ContextInstance) : Tracer SpanHandle := do
  register alive (some parent) (← childContext parent.context)

/--
Continues the span that a client started, under the same span ID where that is supported.
-/
def joinSpan (alive : Nat → Bool) (client : ContextInstance) : Tracer SpanHandle := do
  if (← get).tracing.supportsJoin then
    let builder :=
      { ContextBuilder.ofContext client.context with
        shared := true, localRootId := some client.context.spanId }
    register alive (some client) (← complete builder client.context.flags)
  else
    newChild alive client

def nextSpan (alive : Nat → Bool) (current : Option ContextInstance) : Tracer SpanHandle :=
  match current with
  | some parent => newChild alive parent
  | none => newTrace alive

/--
Continues what was read from a carrier: as a child of its context; where it has none, as a child of
the current context with the extra state that was read; else as a new trace with the flags and the
extra state that were read.
-/
def nextSpanWith (alive : Nat → Bool) (current : Option ContextInstance)
    (extraction : HeldExtraction) : Tracer SpanHandle := do
  match extraction.found with
  | .context parent => newChild alive parent
  | .flags flags =>
    match current with
    | some parent =>
      let child ← childContext parent.context
      register alive (some parent) { child with extra := child.extra ++ extraction.extra }
    | none => register alive none (← rootContext flags extraction.extra)

/--
Creates a child of the current context. Where there is none, a function decides on the request
whether the new trace is sampled; when it leaves that open, the sampler does. The second component
is what the function answered if it was asked.
-/
def nextSpanFor (alive : Nat → Bool) (current : Option ContextInstance) (function : SamplerFunction)
    (request : Request) (draws : Draws) :
    Tracer (SpanHandle × Option (Verdict SamplerFunction)) := do
  match current with
  | some parent => return (← newChild alive parent, none)
  | none =>
    let verdict := function.trySample samplingTime request draws
    let span ← register alive none (← rootContext (.ofDecision verdict.decision) [])
    return (span, some verdict)

/--
The span of a context made elsewhere. It becomes a local root where it names none.
-/
def toSpan (alive : Nat → Bool) (source : ContextInstance) : Tracer SpanHandle := do
  let context := source.context
  let builder :=
    { ContextBuilder.ofContext context with
      localRootId := some (context.localRootId.getD context.spanId) }
  register alive none (← complete builder context.flags)

def currentSpan? (alive : Nat → Bool) (current : Option ContextInstance) :
    Tracer (Option SpanHandle) :=
  match current with
  | some source => return some (← toSpan alive source)
  | none => return none

def startNamed (alive : Nat → Bool) (current : Option ContextInstance) (name : String) :
    Tracer SpanHandle := do
  let span ← nextSpan alive current
  modify fun state =>
    let (_, state) := state.record span.place (.name name) .done
    let (_, state) := state.record span.place .start .done
    state
  return span

end Tracer

end RequestTracing
