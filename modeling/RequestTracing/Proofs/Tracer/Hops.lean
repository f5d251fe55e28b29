import Mathlib
import RequestTracing.Proofs.Propagation.B3
import RequestTracing.Proofs.Tracer.Decision

/-!
This module contains how code goes on from a context: it creates a span from it, or it writes it to
a carrier for another process to read. Main statement: where sampling is decided, a new context
agrees with the one that it goes on from, and no sampler takes part.
-/

namespace RequestTracing

inductive Creation where
  | newTrace
  | newChild (parent : ContextInstance)
  | joinSpan (client : ContextInstance)
  | nextSpan (current : Option ContextInstance)
  | nextSpanWith (current : Option ContextInstance) (extraction : HeldExtraction)
  | nextSpanFor (current : Option ContextInstance) (function : SamplerFunction) (request : Request)
      (draws : Draws)
  | toSpan (source : ContextInstance)
  | startNamed (current : Option ContextInstance) (name : String)

namespace Creation

def run (alive : Nat → Bool) : Creation → Tracer SpanHandle
  | newTrace => Tracer.newTrace alive
  | newChild parent => Tracer.newChild alive parent
  | joinSpan client => Tracer.joinSpan alive client
  | nextSpan current => Tracer.nextSpan alive current
  | nextSpanWith current extraction => Tracer.nextSpanWith alive current extraction
  | nextSpanFor current function request draws => do
    return (← Tracer.nextSpanFor alive current function request draws).1
  | toSpan source => Tracer.toSpan alive source
  | startNamed current name => Tracer.startNamed alive current name

end Creation

inductive Hop where
  | newChild
  | joinSpan
  | toSpan
  | nextSpanWith (current : Option ContextInstance) (extra : List (Extra BaggageRef))

def Hop.run (alive : Nat → Bool) (last : ContextInstance) : Hop → Tracer SpanHandle
  | newChild => Tracer.newChild alive last
  | joinSpan => Tracer.joinSpan alive last
  | toSpan => Tracer.toSpan alive last
  | nextSpanWith current extra => Tracer.nextSpanWith alive current ⟨.context last, extra⟩

def carried (encoding reader : B3.Encoding) (sender receiver : Heap) (last : ContextInstance) :
    HeldExtraction :=
  let written := Carrier.empty.setAll ((B3.propagator encoding).inject (sender.view last))
  (receiver.importReading ((B3.propagator reader).extract written.get?).value).1

namespace Tracer

theorem Creates.mono {P Q : TraceContext BaggageRef → Prop} {m : Tracer SpanHandle}
    (h : Creates P m) (hPQ : ∀ context, P context → Q context) : Creates Q m := by
  intro state
  obtain ⟨context, hcontext, hsource⟩ := h state
  exact ⟨context, hPQ context hcontext, hsource⟩

theorem creates_hop {last : ContextInstance} (h : last.context.Decided) (hop : Hop)
    (alive : Nat → Bool) :
    Creates (fun context => context.Decided ∧ context.Agrees last.context)
      (hop.run alive last) := by
  have hagrees : ∀ context, Continues last.context context →
      context.Decided ∧ context.Agrees last.context :=
    fun _ hcontext => ⟨hcontext.toDecided, hcontext.agrees h.sampled⟩
  cases hop with
  | newChild => exact (creates_newChild h.toValid alive).mono hagrees
  | joinSpan => exact (creates_joinSpan h.toValid alive).mono hagrees
  | toSpan => exact (creates_toSpan h.toValid alive).mono hagrees
  | nextSpanWith current extra => exact (creates_newChild h.toValid alive).mono hagrees

theorem unconsulted_newChild {parent : ContextInstance} (h : parent.context.sampled.isSome)
    (alive : Nat → Bool) : Unconsulted (newChild alive parent) := by
  unfold newChild childContext
  refine Unconsulted.bind ?_ fun context => unconsulted_register alive (some parent) context
  apply unconsulted_freshSpanId.bind
  intro spanId
  apply (unconsulted_fork _).bind
  intro extra
  exact unconsulted_complete _ h

theorem unconsulted_toSpan {source : ContextInstance} (h : source.context.sampled.isSome)
    (alive : Nat → Bool) : Unconsulted (toSpan alive source) :=
  (unconsulted_complete _ h).bind fun context => unconsulted_register alive none context

theorem unconsulted_joinSpan {client : ContextInstance} (h : client.context.sampled.isSome)
    (alive : Nat → Bool) : Unconsulted (joinSpan alive client) := by
  intro state sampler
  rw [joinSpan_eq, joinSpan_eq]
  have hsupports : (state.withSampler sampler).tracing.supportsJoin =
      state.tracing.supportsJoin := rfl
  rw [hsupports]
  split
  . exact (unconsulted_complete _ h).bind
      (fun context => unconsulted_register alive (some client) context) state sampler
  . exact unconsulted_newChild h alive state sampler

theorem unconsulted_hop {last : ContextInstance} (h : last.context.sampled.isSome) (hop : Hop)
    (alive : Nat → Bool) : Unconsulted (hop.run alive last) := by
  cases hop with
  | newChild => exact unconsulted_newChild h alive
  | joinSpan => exact unconsulted_joinSpan h alive
  | toSpan => exact unconsulted_toSpan h alive
  | nextSpanWith current extra => exact unconsulted_newChild h alive

end Tracer

namespace B3

theorem value_extract_written {context : Snapshot} (valid : context.Valid)
    (encoding reader : Encoding) :
    ((propagator reader).extract
        (Carrier.empty.setAll ((propagator encoding).inject context)).get?).value =
      .ofContext (received context encoding.writesParent) := by
  apply extract_of_calls valid encoding
  intro name hname
  have hlower : ∀ call ∈ calls encoding context, Text.lowercase call.1 = call.1 :=
    fun call hcall => lowercase_header call.1 (key_mem_headers hcall)
  unfold Carrier.get?
  rw [lowercase_header name hname]
  refine (Carrier.find?_setAll hlower (nodup_keys_calls encoding context) .empty name).trans ?_
  exact Option.or_none

end B3

theorem exists_carried {source : ContextInstance} (hvalid : source.context.Valid)
    (encoding reader : B3.Encoding) (sender receiver : Heap) :
    ∃ read, (carried encoding reader sender receiver source).found = .context read ∧
      read.context = B3.received source.context encoding.writesParent := by
  have valid : (sender.view source).Valid := ⟨hvalid.traceId, hvalid.spanId, hvalid.parentId⟩
  unfold carried
  dsimp only
  rw [B3.value_extract_written valid encoding reader]
  exact ⟨_, rfl, rfl⟩

end RequestTracing
