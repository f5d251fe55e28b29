import Mathlib
import RequestTracing.Proofs.Tracer.SpanLife

/-!
This module contains spans that a client and a server have in common: the server joins the span
whose context it reads from a carrier. Main statement: both give the span out under the same
identifiers and flags, and the server marks it as shared; only where it tracks a span of that
identity already, parent and debug flag may differ.
-/

namespace RequestTracing

open Json (Value)

namespace Tracer

theorem key_register {state : TracerState} (h : state.tracing.registry.Faithful)
    (alive : Nat → Bool) (parent : Option ContextInstance) (context : TraceContext BaggageRef) :
    (register alive parent context state).1.source.context.key = context.key := by
  have hself : context.key = context.key := rfl
  obtain ⟨other, hother, hsource | ⟨entry, hentry, hkey, pending, hpending, hsource⟩⟩ :=
    handles_register (P := fun other => other.key = context.key) hself alive parent state
  . rw [hsource]
    exact hother
  . rw [hsource]
    exact (h.source_key_eq hentry hpending).trans (hkey.trans hother)

theorem context_register {state : TracerState} {alive : Nat → Bool}
    {context : TraceContext BaggageRef}
    (h : state.tracing.registry.live? alive context.key = none) (parent : Option ContextInstance) :
    (register alive parent context state).1.source.context = context := by
  let source := (state.heap.instantiate context).1
  rw [source_register]
  split
  . rfl
  . have hfind : (state.tracing.registry.sweep alive).1.find? (state.heap.view source).key =
        none := by
      rw [Registry.find?_sweep]
      exact h
    obtain ⟨pending, hpending, hsource⟩ := Option.map_eq_some_iff.1
      (Registry.source_getOrCreate_of_none (parent.map state.heap.view) source false hfind)
    rw [hpending, Option.elim_some, hsource]
    rfl

structure Joins (client context : TraceContext BaggageRef) : Prop where
  key : context.key = ⟨client.traceId, client.spanId, true⟩
  parentId : context.parentId = client.parentId
  sampled : context.sampled = client.sampled
  debug : context.debug = client.debug

theorem joins_complete {client : TraceContext BaggageRef} (hsampled : client.sampled.isSome)
    (state : TracerState) :
    let builder := { ContextBuilder.ofContext client with
      shared := true, localRootId := some client.spanId }
    Joins client (complete builder client.flags state).1 := by
  intro builder
  obtain ⟨settled, extra, hmade, _, _, _⟩ := complete_made builder client.flags state
  have hsettles := (gives_complete builder client.flags state).1.settles
  obtain ⟨hkept, hdebug⟩ := hsettles.kept hsampled
  refine ⟨?_, ?_, hkept, hdebug⟩
  . rw [hmade]
    rfl
  . rw [hmade]
    rfl

end Tracer

namespace SpanLife

def sharedKey (client : SpanLife) : SpanKey :=
  ⟨client.context.traceId, client.context.spanId, true⟩

def Fresh (life : SpanLife) (key : SpanKey) : Prop :=
  life.before.tracing.registry.live? life.alive key = none

theorem context_of_joinSpan {life : SpanLife} {read : ContextInstance}
    (hcreation : life.creation = .joinSpan read) (hjoin : life.before.tracing.supportsJoin)
    (hsampled : read.context.sampled.isSome) :
    let key : SpanKey := ⟨read.context.traceId, read.context.spanId, true⟩
    life.context.key = key ∧ (life.Fresh key → Tracer.Joins read.context life.context) := by
  intro key
  let builder := { ContextBuilder.ofContext read.context with
    shared := true, localRootId := some read.context.spanId }
  let made := Tracer.complete builder read.context.flags life.before
  have hjoins : Tracer.Joins read.context made.1 := Tracer.joins_complete hsampled life.before
  have hregistry : made.2.tracing.registry = life.before.tracing.registry := by
    obtain ⟨_, _, _, _, _, hsame⟩ := Tracer.complete_made builder read.context.flags life.before
    exact hsame.registry
  have hspan : life.span = (Tracer.register life.alive (some read) made.1 made.2).1 := by
    unfold span created
    rw [hcreation]
    show (Tracer.joinSpan life.alive read life.before).1 = _
    rw [Tracer.joinSpan_eq, if_pos hjoin, Tracer.bind_apply]
  have hfaithful : made.2.tracing.registry.Faithful := by
    rw [hregistry]
    exact life.faithful_before
  unfold context
  rw [hspan]
  -- the key is what is registered in any case; the context may be that of a span tracked already
  constructor
  . exact (Tracer.key_register hfaithful life.alive (some read) made.1).trans hjoins.key
  . intro hfresh
    have hlive : made.2.tracing.registry.live? life.alive made.1.key = none := by
      rw [hregistry, hjoins.key]
      exact hfresh
    rw [Tracer.context_register hlive]
    exact hjoins

/--
A server that joins what was read of a client's context has a span under the key they have in
common, and where that span is new its context is the client's, but for a parent that is not
written.
-/
theorem context_of_carried {client server : SpanLife} {read : ContextInstance}
    {encoding : B3.Encoding}
    (hread : read.context = B3.received client.context encoding.writesParent)
    (hsampled : client.context.sampled = some true) (hcreation : server.creation = .joinSpan read)
    (hjoin : server.before.tracing.supportsJoin) :
    server.context.key = client.sharedKey ∧
      (server.Fresh client.sharedKey →
        server.context.sampled = some true ∧ server.context.debug = client.context.debug ∧
        server.context.parentId =
          if encoding = .singleNoParent then none else client.context.parentId) := by
  have hreadSampled : read.context.sampled = some true := by
    rw [hread]
    exact (B3.sampled_wireFlags_of_coherent fun _ => hsampled).trans hsampled
  have hreadDebug : read.context.debug = client.context.debug := by
    rw [hread]
    exact B3.debug_wireFlags client.context
  have hkey : (⟨read.context.traceId, read.context.spanId, true⟩ : SpanKey) = client.sharedKey := by
    rw [hread]
    rfl
  obtain ⟨hserverKey, hjoins⟩ := context_of_joinSpan hcreation hjoin
    (by rw [hreadSampled]; rfl)
  rw [hkey] at hserverKey hjoins
  refine ⟨hserverKey, ?_⟩
  intro hfresh
  refine ⟨(hjoins hfresh).sampled.trans hreadSampled, (hjoins hfresh).debug.trans hreadDebug, ?_⟩
  rw [(hjoins hfresh).parentId, hread]
  cases encoding <;> rfl

def atOnce (service : String) (named : Text.trim service ≠ "") (earlier : List TracingStep)
    (creation : Creation) : SpanLife :=
  let config : TracerConfig :=
    ⟨service, none, 0, .always, .counting, true, false, .fixed 1, .shared,
      [.encoding "spans" {} false], []⟩
  { config
    tracing := ⟨service, .always, .counting, .shared, true, [],
      .ofHandlers (Tracing.template config) (Tracing.handlers config) (.fixed 1)⟩
    ofConfig := if_neg named
    heap := .empty
    earlier
    alive := fun _ => true
    creation
    later := []
    aliveThen := fun _ => true
    timestamp := none }

theorem reports_atOnce (service : String) (named : Text.trim service ≠ "")
    (earlier : List TracingStep) (creation : Creation) :
    (atOnce service named earlier creation).config.Reports {} false [] where
  handlers := ⟨"spans", [], rfl⟩
  continues := List.forall_mem_nil _
  keepsIdentity := List.forall_mem_singleton.2 (SpanHandler.keepsIdentity_encoding ..)

theorem recorded_of_place {life : SpanLife} (place : Nat) (hplace : life.span.place = some place)
    (hbegun : life.before.tracing.isNoop = false)
    (htracks : life.last.tracing.registry.Tracks place)
    (hheld : life.aliveThen life.span.source.number) (hended : life.last.tracing.isNoop = false) :
    life.Recorded where
  begun := hbegun
  tracked := by
    rw [hplace]
    rintro _ ⟨⟩
    exact htracks
  held := hheld
  ended := hended

/--
A sampled span of a client, with a context such as can be built, is given out under its identifiers,
and as shared only if its context is. That context is read from any carrier that it was written to.
A server that joins what is read gives the span out as shared and under the same trace ID and span
ID. Where it has no live span of that identity, the debug flag and the parent are those of the
client as well, but for the parent where it is not written. Where it has one, the handle is one more
for that span, which is given out with the flag and the parent of its own context, if that is
sampled.
-/
theorem shares_span {client : SpanLife} {encoder : SpanEncoder} {always : Bool}
    {others : List SpanHandler} (hreports : client.config.Reports encoder always others)
    (hrecorded : client.Recorded) (hvalid : client.context.Valid)
    (hsampled : client.context.sampled = some true) (encoding reader : B3.Encoding)
    (sender receiver : Heap) :
    ∃ object read,
      client.object? others = some object ∧
      object.member? "traceId" = some (.string client.context.traceId.toText) ∧
      object.member? "id" = some (.string client.context.spanId.toText) ∧
      object.member? "shared" = (if client.context.shared then some (.bool true) else none) ∧
      (carried encoding reader sender receiver client.span.source).found = .context read ∧
      ∀ (server : SpanLife) (encoder : SpanEncoder) (always : Bool) (others : List SpanHandler),
        server.config.Reports encoder always others → server.Recorded →
        server.creation = .joinSpan read → server.before.tracing.supportsJoin →
        (server.Fresh client.sharedKey ∨ server.context.sampled = some true) →
        ∃ joined,
          server.object? others = some joined ∧
          joined.States server.context.reportedIdentity ∧
          joined.member? "traceId" = object.member? "traceId" ∧
          joined.member? "id" = object.member? "id" ∧
          joined.member? "shared" = some (.bool true) ∧
          (server.Fresh client.sharedKey →
            joined.member? "debug" = object.member? "debug" ∧
            joined.member? "parentId" =
              if encoding = .singleNoParent then none else object.member? "parentId") := by
  obtain ⟨object, hobject, hstates⟩ := exists_object hreports hrecorded hsampled
  obtain ⟨read, hfound, hread⟩ := exists_carried hvalid encoding reader sender receiver
  refine ⟨object, read, hobject, hstates.traceId, hstates.id, hstates.shared, hfound, ?_⟩
  intro server encoder always others hreports hrecorded hcreation hjoin hcase
  obtain ⟨hkey, hfreshContext⟩ := context_of_carried hread hsampled hcreation hjoin
  -- a new span takes the decision over; one that is tracked already has its own
  have hserverSampled : server.context.sampled = some true := by
    rcases hcase with hfresh | hsampled
    . exact (hfreshContext hfresh).1
    . exact hsampled
  obtain ⟨joined, hjoined, hserver⟩ := exists_object hreports hrecorded hserverSampled
  have htraceId : server.context.traceId = client.context.traceId := congrArg SpanKey.traceId hkey
  have hspanId : server.context.spanId = client.context.spanId := congrArg SpanKey.spanId hkey
  have hshared : server.context.shared = true := congrArg SpanKey.shared hkey
  refine ⟨joined, hjoined, hserver, ?_, ?_, ?_, ?_⟩
  . rw [hserver.traceId, hstates.traceId]
    unfold TraceContext.reportedIdentity
    rw [htraceId]
  . rw [hserver.id, hstates.id]
    unfold TraceContext.reportedIdentity
    rw [hspanId]
  . rw [hserver.shared]
    unfold TraceContext.reportedIdentity
    rw [hshared]
    rfl
  . intro hfresh
    obtain ⟨_, hdebug, hparentId⟩ := hfreshContext hfresh
    constructor
    . rw [hserver.debug, hstates.debug]
      unfold TraceContext.reportedIdentity
      rw [hdebug]
    . rw [hserver.parentId, hstates.parentId]
      unfold TraceContext.reportedIdentity
      rw [hparentId]
      split
      . rfl
      . rfl

theorem shares_span_single :
    let context : TraceContext BaggageRef :=
      ⟨⟨1⟩, ⟨2⟩, some ⟨3⟩, none, .sampledYes, false, []⟩
    let client := atOnce "frontend" (by decide +kernel) [] (.toSpan ⟨0, context⟩)
    let server := atOnce "backend" (by decide +kernel) [] (.joinSpan ⟨0, context⟩)
    client.Recorded ∧ server.Recorded ∧ server.Fresh client.sharedKey ∧
      ∃ object joined, client.object? [] = some object ∧ server.object? [] = some joined ∧
        joined.member? "traceId" = some (.string "0000000000000001") ∧
        joined.member? "shared" = some (.bool true) ∧
        joined.member? "parentId" = object.member? "parentId" := by
  intro context client server
  have hclient : client.Recorded := recorded_of_place 0 (by decide +kernel)
    (by decide +kernel) (by decide +kernel) rfl (by decide +kernel)
  have hserver : server.Recorded := recorded_of_place 0 (by decide +kernel)
    (by decide +kernel) (by decide +kernel) rfl (by decide +kernel)
  have hfresh : server.Fresh client.sharedKey := by
    unfold Fresh
    decide +kernel
  have hcarried : (carried .single .multi .empty .empty client.span.source).found =
      .context ⟨0, context⟩ := by
    decide +kernel
  obtain ⟨object, read, hobject, htraceId, _, _, hfound, hjoined⟩ :=
    shares_span (reports_atOnce _ _ _ _) hclient ⟨by decide +kernel, by decide +kernel,
      by decide +kernel⟩ (by decide +kernel) .single .multi .empty .empty
  have hread : read = ⟨0, context⟩ := Extracted.context.inj (hfound.symm.trans hcarried)
  obtain ⟨joined, hjoined, _, hsameTrace, _, hshared, hsame⟩ := hjoined server _ _ _
    (reports_atOnce _ _ _ _) hserver (by rw [hread]; rfl) rfl (.inl hfresh)
  exact ⟨hclient, hserver, hfresh, object, joined, hobject, hjoined,
    hsameTrace.trans (htraceId.trans (by decide +kernel)), hshared, (hsame hfresh).2⟩

theorem shares_span_joined_before :
    let context : TraceContext BaggageRef :=
      ⟨⟨1⟩, ⟨2⟩, some ⟨3⟩, none, .sampledYes, false, []⟩
    let client := atOnce "frontend" (by decide +kernel) [] (.toSpan ⟨0, context⟩)
    let bare : ContextInstance := ⟨0, { context with parentId := none }⟩
    let read : ContextInstance := ⟨0, context⟩
    let server := atOnce "backend" (by decide +kernel) [⟨fun _ => true, .create (.joinSpan bare)⟩]
      (.joinSpan read)
    client.context.sampled = some true ∧ client.Recorded ∧ server.Recorded ∧
      (carried .singleNoParent .multi .empty .empty client.span.source).found = .context bare ∧
      (carried .single .multi .empty .empty client.span.source).found = .context read ∧
      ∃ object joined, client.object? [] = some object ∧ server.object? [] = some joined ∧
        object.member? "parentId" = some (.string "0000000000000003") ∧
        joined.member? "parentId" = none := by
  intro context client bare read server
  have hclient : client.Recorded := recorded_of_place 0 (by decide +kernel)
    (by decide +kernel) (by decide +kernel) rfl (by decide +kernel)
  have hserver : server.Recorded := recorded_of_place 0 (by decide +kernel)
    (by decide +kernel) (by decide +kernel) rfl (by decide +kernel)
  obtain ⟨object, hobject, hstates⟩ :=
    exists_object (reports_atOnce _ _ _ _) hclient (by decide +kernel)
  obtain ⟨joined, hjoined, hserverStates⟩ :=
    exists_object (reports_atOnce _ _ _ _) hserver (by decide +kernel)
  exact ⟨by decide +kernel, hclient, hserver, by decide +kernel, by decide +kernel, object, joined,
    hobject, hjoined, hstates.parentId.trans (by decide +kernel),
    hserverStates.parentId.trans (by decide +kernel)⟩

end SpanLife

end RequestTracing
