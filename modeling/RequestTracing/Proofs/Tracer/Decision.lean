import Mathlib
import RequestTracing.Proofs.Recorder.Effect
import RequestTracing.Proofs.Trace.Context
import RequestTracing.Proofs.Trace.Flags
import RequestTracing.Tracer.Tracer

/-!
This module contains where sampling decisions come from: a context that a tracer completes has a
decision, the one of its flags where they have one, and in that case the sampler has no part in it.
-/

namespace RequestTracing

/--
Holds for the contexts of spans: their identifiers stand for something and their sampling is
decided.
-/
structure TraceContext.Decided (context : TraceContext BaggageRef) : Prop extends context.Valid where
  sampled : context.sampled.isSome

structure TraceContext.Agrees (context first : TraceContext BaggageRef) : Prop where
  traceId : context.traceId = first.traceId
  sampled : context.sampled = first.sampled
  debug : context.debug = first.debug

def TracerState.withSampler (state : TracerState) (sampler : Sampler) : TracerState :=
  { state with tracing := { state.tracing with sampler } }

namespace Tracer

theorem bind_apply {γ δ : Type} (m : Tracer γ) (f : γ → Tracer δ) (state : TracerState) :
    (m >>= f) state = f (m state).1 (m state).2 := by
  rfl

def Unconsulted {γ : Type} (m : Tracer γ) : Prop :=
  ∀ state sampler, m (state.withSampler sampler) = ((m state).1, (m state).2.withSampler sampler)

theorem Unconsulted.pure {γ : Type} (value : γ) : Unconsulted (Pure.pure value) :=
  fun _ _ => rfl

theorem Unconsulted.bind {γ δ : Type} {m : Tracer γ} {f : γ → Tracer δ} (hm : Unconsulted m)
    (hf : ∀ value, Unconsulted (f value)) : Unconsulted (m >>= f) := by
  intro state sampler
  rw [bind_apply, bind_apply, hm state sampler]
  exact hf _ _ _

theorem unconsulted_freshSpanId : Unconsulted freshSpanId :=
  fun _ _ => rfl

theorem unconsulted_fork (extra : List (Extra BaggageRef)) : Unconsulted (fork extra) :=
  fun _ _ => rfl

theorem unconsulted_instantiate (context : TraceContext BaggageRef) :
    Unconsulted (instantiate context) :=
  fun _ _ => rfl

theorem markLocal_eq (flags : SamplingFlags) (state : TracerState) :
    markLocal flags state =
      (if state.tracing.registry.chain.alwaysSampleLocal then flags.withSampledLocal true
        else flags, state) := by
  unfold markLocal
  show (if _ then _ else _ : Tracer SamplingFlags) state = _
  split <;> rfl

theorem unconsulted_markLocal (flags : SamplingFlags) : Unconsulted (markLocal flags) := by
  intro state sampler
  rw [markLocal_eq, markLocal_eq]
  rfl

theorem unconsulted_equip (context : TraceContext BaggageRef) : Unconsulted (equip context) := by
  intro state sampler
  unfold equip
  unfold TracerState.withSampler
  dsimp only
  split <;> rfl

theorem unconsulted_decide {flags : SamplingFlags} (h : flags.sampled.isSome) (traceId : TraceId) :
    Unconsulted (decide traceId flags) := by
  unfold decide
  obtain ⟨decision, hdecision⟩ := Option.isSome_iff_exists.1 h
  rw [hdecision]
  exact .pure flags

theorem unconsulted_complete (builder : ContextBuilder BaggageRef) {flags : SamplingFlags}
    (h : flags.sampled.isSome) : Unconsulted (complete builder flags) := by
  unfold complete
  apply (unconsulted_decide h builder.traceId).bind
  intro flags
  apply (unconsulted_markLocal flags).bind
  intro flags
  exact unconsulted_equip _

theorem unconsulted_register (alive : Nat → Bool) (parent : Option ContextInstance)
    (context : TraceContext BaggageRef) : Unconsulted (register alive parent context) := by
  unfold register
  apply (unconsulted_instantiate context).bind
  intro source state sampler
  have hnoop : keepsNothing (state.withSampler sampler).tracing context =
      keepsNothing state.tracing context := rfl
  dsimp only
  rw [hnoop]
  split <;> rfl

def Gives {γ : Type} (P : γ → Prop) (m : Tracer γ) : Prop :=
  ∀ state, P (m state).1 ∧ (m state).2.tracing.registry = state.tracing.registry

theorem Gives.pure {γ : Type} {P : γ → Prop} {value : γ} (h : P value) :
    Gives P (Pure.pure value) :=
  fun _ => ⟨h, rfl⟩

theorem Gives.bind {γ δ : Type} {P : γ → Prop} {Q : δ → Prop} {m : Tracer γ} {f : γ → Tracer δ}
    (hm : Gives P m) (hf : ∀ value, P value → Gives Q (f value)) : Gives Q (m >>= f) := by
  intro state
  obtain ⟨hvalue, hregistry⟩ := hm state
  obtain ⟨hresult, hlast⟩ := hf _ hvalue (m state).2
  exact ⟨hresult, hlast.trans hregistry⟩

theorem gives_freshTraceId : Gives (· ≠ .invalid) freshTraceId :=
  fun state => ⟨state.tracing.ids.takeTraceId_ne_invalid, rfl⟩

theorem gives_freshSpanId : Gives (· ≠ .invalid) freshSpanId :=
  fun state => ⟨state.tracing.ids.takeSpanId_ne_invalid, rfl⟩

theorem gives_fork (extra : List (Extra BaggageRef)) : Gives (fun _ => True) (fork extra) :=
  fun _ => ⟨trivial, rfl⟩

structure Settles (flags settled : SamplingFlags) : Prop where
  coherent : flags.Coherent → settled.Coherent
  sampled : settled.sampled.isSome
  kept : flags.sampled.isSome → settled.sampled = flags.sampled ∧ settled.debug = flags.debug

theorem Settles.withSampled {flags : SamplingFlags} (h : flags.sampled = none) (decision : Bool) :
    Settles flags (flags.withSampled (some decision)) where
  coherent := fun _ => SamplingFlags.coherent_withSampled flags (some decision)
  sampled := by
    rw [SamplingFlags.sampled_withSampled]
    rfl
  kept := by
    rw [h]
    intro hdecided
    cases hdecided

theorem gives_decide (flags : SamplingFlags) (traceId : TraceId) :
    Gives (Settles flags) (decide traceId flags) := by
  unfold decide
  cases hsampled : flags.sampled with
  | some decision => exact .pure ⟨id, by rw [hsampled]; rfl, fun _ => ⟨rfl, rfl⟩⟩
  | none =>
    cases flags.debug with
    | true => exact .pure (.withSampled hsampled true)
    | false => exact fun _ => ⟨.withSampled hsampled _, rfl⟩

theorem gives_markLocal {flags settled : SamplingFlags} (h : Settles flags settled) :
    Gives (Settles flags) (markLocal settled) := by
  intro state
  rw [markLocal_eq]
  refine ⟨?_, rfl⟩
  dsimp only
  split
  . refine ⟨fun hcoherent => (h.coherent hcoherent).withSampledLocal true, ?_, ?_⟩
    . rw [SamplingFlags.sampled_withSampledLocal]
      exact h.sampled
    . rw [SamplingFlags.sampled_withSampledLocal, SamplingFlags.debug_withSampledLocal]
      exact h.kept
  . exact h

theorem gives_equip (context : TraceContext BaggageRef) :
    Gives (fun equipped => ∃ extra, equipped = { context with extra }) (equip context) := by
  intro state
  unfold equip
  split
  . exact ⟨⟨context.extra, rfl⟩, rfl⟩
  . exact ⟨⟨_, rfl⟩, rfl⟩

structure Completes (builder : ContextBuilder BaggageRef) (flags : SamplingFlags)
    (context : TraceContext BaggageRef) : Prop where
  traceId : context.traceId = builder.traceId
  spanId : context.spanId = builder.spanId
  parentId : context.parentId = builder.parentId
  settles : Settles flags context.flags

theorem gives_complete (builder : ContextBuilder BaggageRef) (flags : SamplingFlags) :
    Gives (Completes builder flags) (complete builder flags) := by
  unfold complete
  apply (gives_decide flags builder.traceId).bind
  intro settled hsettled
  apply (gives_markLocal hsettled).bind
  intro marked hmarked state
  obtain ⟨⟨extra, hequip⟩, hregistry⟩ :=
    gives_equip (builder.set (.samplingFlags marked)).toContext state
  refine ⟨?_, hregistry⟩
  rw [hequip]
  exact ⟨rfl, rfl, rfl, hmarked⟩

structure Begins (flags : SamplingFlags) (context : TraceContext BaggageRef) : Prop
    extends context.Decided where
  coherent : flags.Coherent → context.flags.Coherent

theorem Completes.begins {builder : ContextBuilder BaggageRef} {flags : SamplingFlags}
    {context : TraceContext BaggageRef} (h : Completes builder flags context)
    (htrace : builder.traceId ≠ .invalid) (hspan : builder.spanId ≠ .invalid)
    (hparent : builder.parentId ≠ some .invalid) : Begins flags context := by
  refine ⟨⟨⟨?_, ?_, ?_⟩, h.settles.sampled⟩, h.settles.coherent⟩
  . rwa [h.traceId]
  . rwa [h.spanId]
  . rwa [h.parentId]

theorem gives_rootContext (flags : SamplingFlags) (extra : List (Extra BaggageRef)) :
    Gives (Begins flags) (rootContext flags extra) := by
  unfold rootContext
  apply gives_freshTraceId.bind
  intro traceId htrace
  apply gives_freshSpanId.bind
  intro spanId hspan state
  obtain ⟨hcompletes, hregistry⟩ := gives_complete
    { traceId, spanId, localRootId := some spanId, extra } flags state
  exact ⟨hcompletes.begins htrace hspan (by simp), hregistry⟩

structure Continues (parent context : TraceContext BaggageRef) : Prop
    extends Begins parent.flags context where
  agrees : parent.sampled.isSome → context.Agrees parent

theorem Completes.continues {builder : ContextBuilder BaggageRef}
    {context parent : TraceContext BaggageRef} (h : Completes builder parent.flags context)
    (valid : parent.Valid) (htrace : builder.traceId = parent.traceId)
    (hspan : builder.spanId ≠ .invalid) (hparent : builder.parentId ≠ some .invalid) :
    Continues parent context := by
  refine ⟨h.begins (htrace ▸ valid.traceId) hspan hparent, ?_⟩
  intro hsampled
  obtain ⟨hkept, hdebug⟩ := h.settles.kept hsampled
  exact ⟨h.traceId.trans htrace, hkept, hdebug⟩

theorem gives_childContext {parent : TraceContext BaggageRef} (h : parent.Valid) :
    Gives (Continues parent) (childContext parent) := by
  unfold childContext
  apply gives_freshSpanId.bind
  intro spanId hspan
  apply (gives_fork parent.extra).bind
  intro extra _ state
  obtain ⟨hcompletes, hregistry⟩ := gives_complete
    { traceId := parent.traceId, spanId, parentId := some parent.spanId,
      localRootId := some (parent.localRootId.getD spanId), extra } parent.flags state
  have hparent : some parent.spanId ≠ some SpanId.invalid := by
    intro heq
    exact h.spanId (Option.some.inj heq)
  exact ⟨hcompletes.continues h rfl hspan hparent, hregistry⟩

/--
Holds for the handle of a new span with such a context, or of one that is tracked under the identity
of such a context.
-/
def Handles (P : TraceContext BaggageRef → Prop) (registry : Registry) (span : SpanHandle) : Prop :=
  ∃ context, P context ∧
    (span.source.context = context ∨ ∃ entry ∈ registry.tracked, entry.1 = context.key ∧
      ∃ pending, registry.pendings[entry.2]? = some pending ∧ span.source = pending.source)

/--
The instance that is made for the context is given up where the registry has a span of it.
-/
theorem register_eq (alive : Nat → Bool) (parent : Option ContextInstance)
    (context : TraceContext BaggageRef) (state : TracerState) :
    let source := (state.heap.instantiate context).1
    let heap := (state.heap.instantiate context).2
    let made := state.tracing.registry.getOrCreate alive (parent.map state.heap.view) source
      (state.heap.view source) false
    register alive parent context state =
      if keepsNothing state.tracing context then (⟨source, none⟩, { state with heap })
      else
        (⟨(made.2.1.pendings[made.1]?).elim source (·.source), some made.1⟩,
          { tracing := { state.tracing with registry := made.2.1 }, heap,
            notices := state.notices ++ made.2.2 }) := by
  intro source heap made
  show (if _ then _ else _ : SpanHandle × TracerState) = _
  split
  . rfl
  . dsimp only
    split
    . next pending hpending =>
      have hmade : made.2.1.pendings[made.1]? = some pending := hpending
      rw [hmade]
      rfl
    . next hpending =>
      have hmade : made.2.1.pendings[made.1]? = none := hpending
      rw [hmade]
      rfl

theorem source_register (alive : Nat → Bool) (parent : Option ContextInstance)
    (context : TraceContext BaggageRef) (state : TracerState) :
    let source := (state.heap.instantiate context).1
    let made := state.tracing.registry.getOrCreate alive (parent.map state.heap.view) source
      (state.heap.view source) false
    (register alive parent context state).1.source =
      if keepsNothing state.tracing context then source
      else (made.2.1.pendings[made.1]?).elim source (·.source) := by
  intro source made
  rw [register_eq]
  split
  . rfl
  . rfl

theorem place_register (alive : Nat → Bool) (parent : Option ContextInstance)
    (context : TraceContext BaggageRef) (state : TracerState) :
    let source := (state.heap.instantiate context).1
    let made := state.tracing.registry.getOrCreate alive (parent.map state.heap.view) source
      (state.heap.view source) false
    (register alive parent context state).1.place =
      if keepsNothing state.tracing context then none else some made.1 := by
  intro source made
  rw [register_eq]
  split
  . rfl
  . rfl

theorem handles_register {P : TraceContext BaggageRef → Prop} {context : TraceContext BaggageRef}
    (h : P context) (alive : Nat → Bool) (parent : Option ContextInstance) (state : TracerState) :
    Handles P state.tracing.registry (register alive parent context state).1 := by
  let source := (state.heap.instantiate context).1
  let made := state.tracing.registry.getOrCreate alive (parent.map state.heap.view) source
    (state.heap.view source) false
  refine ⟨context, h, ?_⟩
  rw [source_register]
  split
  . exact .inl rfl
  . cases hpending : made.2.1.pendings[made.1]? with
    | none => exact .inl rfl
    | some pending =>
      cases Registry.source_getOrCreate _ _ _ _ _ _ hpending with
      | inl hnew =>
        rw [Option.elim_some, hnew]
        exact .inl rfl
      | inr htracked => exact .inr htracked

def Creates (P : TraceContext BaggageRef → Prop) (m : Tracer SpanHandle) : Prop :=
  ∀ state, Handles P state.tracing.registry (m state).1

theorem Gives.creates {P Q : TraceContext BaggageRef → Prop} {m : Tracer (TraceContext BaggageRef)}
    (h : Gives P m) {f : TraceContext BaggageRef → TraceContext BaggageRef}
    (hf : ∀ context, P context → Q (f context)) (alive : Nat → Bool)
    (parent : Option ContextInstance) :
    Creates Q (m >>= fun context => register alive parent (f context)) := by
  intro state
  obtain ⟨hcontext, hregistry⟩ := h state
  rw [← hregistry]
  exact handles_register (hf _ hcontext) alive parent (m state).2

theorem creates_newTrace (alive : Nat → Bool) : Creates TraceContext.Decided (newTrace alive) :=
  (gives_rootContext .empty []).creates (fun _ h => h.toDecided) alive none

theorem creates_newChild {parent : ContextInstance} (h : parent.context.Valid)
    (alive : Nat → Bool) : Creates (Continues parent.context) (newChild alive parent) :=
  (gives_childContext h).creates (fun _ h => h) alive (some parent)

theorem joinSpan_eq (alive : Nat → Bool) (client : ContextInstance) (state : TracerState) :
    joinSpan alive client state =
      if state.tracing.supportsJoin then
        (complete { ContextBuilder.ofContext client.context with
            shared := true, localRootId := some client.context.spanId } client.context.flags >>=
          register alive (some client)) state
      else newChild alive client state := by
  unfold joinSpan
  show (if _ then _ else _ : Tracer SpanHandle) state = _
  split <;> rfl

theorem creates_joinSpan {client : ContextInstance} (h : client.context.Valid)
    (alive : Nat → Bool) : Creates (Continues client.context) (joinSpan alive client) := by
  intro state
  rw [joinSpan_eq]
  split
  . refine (gives_complete _ _).creates (f := fun context => context) ?_ alive _ state
    intro context hcontext
    exact hcontext.continues h rfl h.spanId h.parentId
  . exact creates_newChild h alive state

theorem creates_toSpan {source : ContextInstance} (h : source.context.Valid)
    (alive : Nat → Bool) : Creates (Continues source.context) (toSpan alive source) := by
  refine (gives_complete _ _).creates (f := fun context => context) ?_ alive none
  intro context hcontext
  exact hcontext.continues h rfl h.spanId h.parentId

end Tracer

end RequestTracing
