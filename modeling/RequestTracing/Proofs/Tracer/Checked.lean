import Mathlib
import RequestTracing.Proofs.Propagation.Usable
import RequestTracing.Proofs.Tracer.Creation

/-!
This module contains contexts of new spans as they come out of builders that refuse identifiers
which stand for nothing. Main statement: where a span is created from usable contexts nothing is
refused, and the context is the one that the tracer makes.
-/

namespace RequestTracing

theorem SpanId.present_some {id : SpanId} (h : id ≠ .invalid) : present (some id) = some id :=
  present_of_ne (by simpa using h)

namespace ContextBuilder

open SpanId (present_some)

variable {β : Type}

theorem setAll_addExtra (builder : ContextBuilder β) (extra : List (Extra β)) :
    builder.setAll (extra.map .addExtra) = { builder with extra := builder.extra ++ extra } := by
  unfold setAll
  induction extra generalizing builder with
  | nil => simp
  | cons first rest ih =>
    rw [List.map_cons, List.foldl_cons, ih]
    simp [set]

def ofRoot (traceId : TraceId) (spanId : SpanId) (extra : List (Extra β)) : ContextBuilder β :=
  (setAll {} [.traceId traceId, .spanId spanId, .localRootId (some spanId)]).setAll
    (extra.map .addExtra)

def ofParent (parent : TraceContext β) (spanId : SpanId) (extra : List (Extra β)) :
    ContextBuilder β :=
  (setAll {}
    [.traceId parent.traceId, .parentId (some parent.spanId), .spanId spanId,
      .localRootId (some (parent.localRootId.getD spanId))]).setAll (extra.map .addExtra)

def ofClient (client : TraceContext β) : ContextBuilder β :=
  (ofContext client).setAll [.shared true, .localRootId (some client.spanId)]

def ofForeign (context : TraceContext β) : ContextBuilder β :=
  if context.localRootId.isNone then
    (ofContext context).set (.localRootId (some context.spanId))
  else
    ofContext context

theorem ofRoot_eq (traceId : TraceId) {spanId : SpanId} (h : spanId ≠ .invalid)
    (extra : List (Extra β)) :
    ofRoot traceId spanId extra = { traceId, spanId, localRootId := some spanId, extra } := by
  unfold ofRoot
  rw [setAll_addExtra]
  simp [setAll, set, present_some h]

theorem ofParent_eq {parent : TraceContext β} (hparent : parent.Usable) {spanId : SpanId}
    (h : spanId ≠ .invalid) (extra : List (Extra β)) :
    ofParent parent spanId extra =
      { traceId := parent.traceId, spanId, parentId := some parent.spanId
        localRootId := some (parent.localRootId.getD spanId), extra } := by
  have hroot : parent.localRootId.getD spanId ≠ .invalid := by
    cases hlocal : parent.localRootId with
    | none => exact h
    | some root =>
      intro heq
      exact hparent.localRootId (hlocal.trans (congrArg some heq))
  unfold ofParent
  rw [setAll_addExtra]
  simp [setAll, set, present_some hparent.spanId, present_some hroot]

theorem ofClient_eq {client : TraceContext β} (h : client.Usable) :
    ofClient client =
      { ofContext client with shared := true, localRootId := some client.spanId } := by
  simp [ofClient, setAll, set, present_some h.spanId]

theorem ofForeign_eq {context : TraceContext β} (h : context.Usable) :
    ofForeign context =
      { ofContext context with localRootId := some (context.localRootId.getD context.spanId) } := by
  unfold ofForeign
  cases hlocal : context.localRootId with
  | none => simp [set, present_some h.spanId]
  | some root => simp [ofContext, hlocal]

end ContextBuilder

namespace Tracer

def completeChecked (builder : ContextBuilder BaggageRef) (traceId : TraceId)
    (flags : SamplingFlags) : Tracer (Except TraceError (TraceContext BaggageRef)) := do
  let flags ← markLocal (← decide traceId flags)
  match (builder.set (.samplingFlags flags)).build with
  | .error fault => return .error fault
  | .ok context => return .ok (← equip context)

def rootChecked (flags : SamplingFlags) (extra : List (Extra BaggageRef)) :
    Tracer (Except TraceError (TraceContext BaggageRef)) := do
  let traceId ← freshTraceId
  let spanId ← freshSpanId
  completeChecked (.ofRoot traceId spanId extra) traceId flags

def childChecked (parent : TraceContext BaggageRef) :
    Tracer (Except TraceError (TraceContext BaggageRef)) := do
  let spanId ← freshSpanId
  let extra ← fork parent.extra
  completeChecked (.ofParent parent spanId extra) parent.traceId parent.flags

def Passes {γ : Type} (checked : Tracer (Except TraceError γ)) (m : Tracer γ) : Prop :=
  ∀ state, checked state = (.ok (m state).1, (m state).2)

theorem Passes.map {γ : Type} {checked : Tracer (Except TraceError γ)} {m : Tracer γ}
    (h : Passes checked m) (f : γ → γ) :
    Passes (do return (← checked).map f) (do return f (← m)) := by
  intro state
  rw [bind_apply, bind_apply, h]
  rfl

theorem passes_complete {builder : ContextBuilder BaggageRef} (htrace : builder.traceId ≠ .invalid)
    (hspan : builder.spanId ≠ .invalid) (flags : SamplingFlags) :
    Passes (completeChecked builder builder.traceId flags) (complete builder flags) := by
  intro state
  have hbuild : ∀ flags, (builder.set (.samplingFlags flags)).build =
      .ok (builder.set (.samplingFlags flags)).toContext :=
    fun _ => (if_neg htrace).trans (if_neg hspan)
  unfold completeChecked complete
  rw [bind_apply, bind_apply, bind_apply, bind_apply, hbuild]
  rfl

theorem passes_rootContext (flags : SamplingFlags) (extra : List (Extra BaggageRef)) :
    Passes (rootChecked flags extra) (rootContext flags extra) := by
  intro state
  unfold rootChecked rootContext
  rw [bind_apply, bind_apply, bind_apply, bind_apply]
  have htrace := (gives_freshTraceId state).1
  have hspan := (gives_freshSpanId (freshTraceId state).2).1
  rw [ContextBuilder.ofRoot_eq _ hspan]
  exact passes_complete htrace hspan flags _

theorem passes_childContext {parent : TraceContext BaggageRef} (h : parent.Usable) :
    Passes (childChecked parent) (childContext parent) := by
  intro state
  unfold childChecked childContext
  rw [bind_apply, bind_apply, bind_apply, bind_apply]
  have hspan := (gives_freshSpanId state).1
  rw [ContextBuilder.ofParent_eq h hspan]
  exact passes_complete h.traceId hspan parent.flags _

end Tracer

namespace Creation

open Tracer

def checked : Creation → Tracer (Except TraceError (TraceContext BaggageRef))
  | newTrace => rootChecked .empty []
  | newChild parent => childChecked parent.context
  | joinSpan client => do
    if (← get).tracing.supportsJoin then
      completeChecked (.ofClient client.context) client.context.traceId client.context.flags
    else
      childChecked client.context
  | nextSpan current | startNamed current _ =>
    match current with
    | some parent => childChecked parent.context
    | none => rootChecked .empty []
  | nextSpanWith current extraction =>
    match extraction.found with
    | .context parent => childChecked parent.context
    | .flags flags =>
      match current with
      | some parent => do
        return (← childChecked parent.context).map fun child =>
          { child with extra := child.extra ++ extraction.extra }
      | none => rootChecked flags extraction.extra
  | nextSpanFor current function request draws =>
    match current with
    | some parent => childChecked parent.context
    | none => rootChecked (.ofDecision (function.trySample samplingTime request draws).decision) []
  | toSpan source =>
    completeChecked (.ofForeign source.context) source.context.traceId source.context.flags

theorem checked_joinSpan (client : ContextInstance) (state : TracerState) :
    (joinSpan client).checked state =
      if state.tracing.supportsJoin then
        completeChecked (.ofClient client.context) client.context.traceId client.context.flags state
      else childChecked client.context state := by
  show (if _ then _ else _ : Tracer (Except TraceError (TraceContext BaggageRef))) state = _
  split
  . rfl
  . rfl

theorem passes_context {creation : Creation}
    (h : ∀ source ∈ creation.sources, source.context.Usable) :
    Passes creation.checked creation.context := by
  -- every way of creation comes down to the context of a root or a child, or completes a given one
  cases creation with
  | newTrace => exact passes_rootContext .empty []
  | newChild parent => exact passes_childContext (h parent (List.mem_singleton_self _))
  | joinSpan client =>
    have husable := h client (List.mem_singleton_self _)
    intro state
    rw [checked_joinSpan, context_joinSpan]
    split
    . rw [ContextBuilder.ofClient_eq husable]
      exact passes_complete husable.traceId husable.spanId client.context.flags state
    . exact passes_childContext husable state
  | nextSpan current =>
    cases current with
    | none => exact passes_rootContext .empty []
    | some parent => exact passes_childContext (h parent (List.mem_singleton_self _))
  | nextSpanWith current extraction =>
    unfold checked context
    dsimp only
    cases hfound : extraction.found with
    | context parent =>
      have hmem : parent ∈ (nextSpanWith current extraction).sources := by
        simp [sources, Extraction.context?, hfound]
      exact passes_childContext (h parent hmem)
    | flags flags =>
      cases current with
      | none => exact passes_rootContext flags extraction.extra
      | some parent =>
        have hmem : parent ∈ (nextSpanWith (some parent) extraction).sources := by
          simp [sources]
        exact (passes_childContext (h parent hmem)).map _
  | nextSpanFor current function request draws =>
    cases current with
    | none => exact passes_rootContext _ []
    | some parent => exact passes_childContext (h parent (List.mem_singleton_self _))
  | toSpan source =>
    have husable := h source (List.mem_singleton_self _)
    unfold checked context
    dsimp only
    rw [ContextBuilder.ofForeign_eq husable]
    exact passes_complete husable.traceId husable.spanId source.context.flags
  | startNamed current name =>
    cases current with
    | none => exact passes_rootContext .empty []
    | some parent => exact passes_childContext (h parent (List.mem_singleton_self _))

end Creation

end RequestTracing
