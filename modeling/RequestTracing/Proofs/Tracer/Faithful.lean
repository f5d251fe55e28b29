import Mathlib
import RequestTracing.Proofs.Recorder.Faithful
import RequestTracing.Tracer.Tracer

/-!
This module contains what the creation of spans does to the registry of a tracer: a context is
registered under the instance that was made of it, so that every span still knows its own context.
-/

set_option mvcgen.warning false

open Std.Do

namespace RequestTracing

theorem Tracing.faithful_of_ofConfig {config : TracerConfig} {tracing : Tracing}
    (h : ofConfig config = .ok tracing) : tracing.registry.Faithful := by
  rw [registry_of_ofConfig h]
  exact Registry.faithful_ofHandlers _ _ _

def TracerState.Faithful (state : TracerState) : Prop :=
  state.tracing.registry.Faithful

namespace TracerState.Faithful

variable {state : TracerState}

theorem record (h : state.Faithful) (place : Option Nat) (entry : SpanRecord)
    (absent : EditAnswer) : (state.record place entry absent).2.Faithful :=
  Registry.Faithful.record h place entry absent

theorem endSpan (h : state.Faithful) (alive : Nat → Bool) (span : SpanHandle)
    (ending : SpanEnding) : (state.endSpan alive span ending).Faithful := by
  unfold TracerState.endSpan
  split
  . exact h
  . exact Registry.Faithful.endSpan h alive _ ending

end TracerState.Faithful

namespace Tracer

abbrev Keeps {γ : Type} (m : Tracer γ) : Prop :=
  ⦃fun state => ⌜state.Faithful⌝⦄ m ⦃⇓_ state => ⌜state.Faithful⌝⦄

theorem keeps_of_run {γ : Type} {m : Tracer γ}
    (h : ∀ state : TracerState, state.Faithful → (m state).2.Faithful) : Keeps m :=
  fun state => h state

theorem Keeps.run {γ : Type} {m : Tracer γ} (h : Keeps m) {state : TracerState}
    (hstate : state.Faithful) : (m state).2.Faithful :=
  h state hstate

@[spec]
theorem keeps_freshTraceId : Keeps freshTraceId :=
  keeps_of_run fun _ h => h

@[spec]
theorem keeps_freshSpanId : Keeps freshSpanId :=
  keeps_of_run fun _ h => h

@[spec]
theorem keeps_sample (traceId : TraceId) : Keeps (sample traceId) :=
  keeps_of_run fun _ h => h

@[spec]
theorem keeps_decide (traceId : TraceId) (flags : SamplingFlags) :
    Keeps (decide traceId flags) := by
  unfold decide
  mvcgen

@[spec]
theorem keeps_markLocal (flags : SamplingFlags) : Keeps (markLocal flags) := by
  unfold markLocal
  mvcgen

@[spec]
theorem keeps_equip (context : TraceContext BaggageRef) : Keeps (equip context) := by
  apply keeps_of_run
  intro state h
  unfold equip
  split
  . exact h
  . exact h

@[spec]
theorem keeps_fork (extra : List (Extra BaggageRef)) : Keeps (fork extra) :=
  keeps_of_run fun _ h => h

@[spec]
theorem keeps_complete (builder : ContextBuilder BaggageRef) (flags : SamplingFlags) :
    Keeps (complete builder flags) := by
  unfold complete
  mvcgen

@[spec]
theorem keeps_rootContext (flags : SamplingFlags) (extra : List (Extra BaggageRef)) :
    Keeps (rootContext flags extra) := by
  unfold rootContext
  mvcgen

@[spec]
theorem keeps_childContext (parent : TraceContext BaggageRef) : Keeps (childContext parent) := by
  unfold childContext
  mvcgen

@[spec]
theorem keeps_register (alive : Nat → Bool) (parent : Option ContextInstance)
    (context : TraceContext BaggageRef) : Keeps (register alive parent context) := by
  apply keeps_of_run
  intro state h
  let source := (state.heap.instantiate context).1
  let heap := (state.heap.instantiate context).2
  show (if _ then _ else _ : SpanHandle × TracerState).2.Faithful
  split
  . exact h
  . exact Registry.Faithful.getOrCreate h alive (parent.map heap.view) heap source false

@[spec]
theorem keeps_newTrace (alive : Nat → Bool) : Keeps (newTrace alive) := by
  unfold newTrace
  mvcgen

@[spec]
theorem keeps_newChild (alive : Nat → Bool) (parent : ContextInstance) :
    Keeps (newChild alive parent) := by
  unfold newChild
  mvcgen

@[spec]
theorem keeps_joinSpan (alive : Nat → Bool) (client : ContextInstance) :
    Keeps (joinSpan alive client) := by
  unfold joinSpan
  mvcgen

@[spec]
theorem keeps_nextSpan (alive : Nat → Bool) (current : Option ContextInstance) :
    Keeps (nextSpan alive current) := by
  unfold nextSpan
  mvcgen

@[spec]
theorem keeps_nextSpanWith (alive : Nat → Bool) (current : Option ContextInstance)
    (extraction : HeldExtraction) : Keeps (nextSpanWith alive current extraction) := by
  unfold nextSpanWith
  mvcgen

@[spec]
theorem keeps_nextSpanFor (alive : Nat → Bool) (current : Option ContextInstance)
    (function : SamplerFunction) (request : Request) (draws : Draws) :
    Keeps (nextSpanFor alive current function request draws) := by
  unfold nextSpanFor
  mvcgen

@[spec]
theorem keeps_toSpan (alive : Nat → Bool) (source : ContextInstance) :
    Keeps (toSpan alive source) := by
  unfold toSpan
  mvcgen

@[spec]
theorem keeps_currentSpan? (alive : Nat → Bool) (current : Option ContextInstance) :
    Keeps (currentSpan? alive current) := by
  unfold currentSpan?
  mvcgen

@[spec]
theorem keeps_startNamed (alive : Nat → Bool) (current : Option ContextInstance) (name : String) :
    Keeps (startNamed alive current name) := by
  unfold startNamed
  mvcgen
  next state hstate _ =>
    exact (hstate.record _ (.name name) .done).record _ .start .done

end Tracer

end RequestTracing
