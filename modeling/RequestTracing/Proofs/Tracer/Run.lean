import Mathlib
import RequestTracing.Proofs.Recorder.Run
import RequestTracing.Proofs.Tracer.Hops

/-!
This module contains runs of a tracing: any spans created with it, any of them ended or recorded on,
its switch, and whatever happens to contexts and baggage elsewhere. Main statement: whatever is done
to a tracing is a run of its registry, and what becomes known is what becomes known in that run.
-/

namespace RequestTracing

inductive TracingAction where
  | create (creation : Creation)
  | currentSpan (current : Option ContextInstance)
  | endSpan (span : SpanHandle) (ending : SpanEnding)
  | record (place : Option Nat) (entry : SpanRecord)
  | setNoop (value : Bool)
  | close
  | elsewhere (heap : Heap)

structure TracingStep where
  alive : Nat → Bool
  action : TracingAction

namespace TracerState

def perform (state : TracerState) (alive : Nat → Bool) : TracingAction → TracerState
  | .create creation => (creation.run alive state).2
  | .currentSpan current => (Tracer.currentSpan? alive current state).2
  | .endSpan span ending => state.endSpan alive span ending
  | .record place entry => (state.record place entry .done).2
  | .setNoop value => { state with tracing := state.tracing.setNoop value }
  | .close => { state with tracing := state.tracing.close.value }
  | .elsewhere heap => { state with heap }

def after (state : TracerState) (steps : List TracingStep) : TracerState :=
  steps.foldl (fun state step => state.perform step.alive step.action) state

end TracerState

namespace Registry

/--
Holds where a run leads from one registry to another and makes the notices known, whichever contexts
were alive before.
-/
def Leads (registry other : Registry) (notices : List SpanNotice) : Prop :=
  ∀ alive, ∃ actions,
    ((RegistryState.mk registry alive).after actions).registry = other ∧
      ((RegistryState.mk registry alive).history actions).flatMap RegistryStep.notices = notices

namespace Leads

variable {registry other last : Registry} {notices later : List SpanNotice}

theorem refl (registry : Registry) : Leads registry registry [] :=
  fun _ => ⟨[], rfl, rfl⟩

theorem trans (h : Leads registry other notices) (h' : Leads other last later) :
    Leads registry last (notices ++ later) := by
  intro alive
  rcases h alive with ⟨actions, hother, hnotices⟩
  rcases h' ((RegistryState.mk registry alive).after actions).alive with ⟨more, hlast, hlater⟩
  have hstate : (RegistryState.mk registry alive).after actions =
      ⟨other, ((RegistryState.mk registry alive).after actions).alive⟩ := by
    rw [← hother]
  refine ⟨actions ++ more, ?_, ?_⟩
  . rw [RegistryState.after_append, hstate, hlast]
  . rw [RegistryState.history_append, List.flatMap_append, hnotices, hstate, hlater]

theorem step (alive : Nat → Bool) (registry : Registry) (action : RegistryAction) :
    Leads registry ((RegistryState.mk registry alive).step action).1.registry
      ((RegistryState.mk registry alive).step action).2 := by
  intro before
  -- which contexts are alive is settled first
  refine ⟨[.hold alive, action], rfl, ?_⟩
  change [] ++ (((RegistryState.mk registry alive).step action).2 ++ []) = _
  rw [List.nil_append, List.append_nil]

theorem sound (h : Leads registry other notices) (hsound : registry.Sound) : other.Sound := by
  rcases h fun _ => true with ⟨actions, hother, _⟩
  rw [← hother]
  apply RegistryState.sound_after hsound

end Leads

end Registry

def SpanEnding.action (context : Snapshot) : SpanEnding → RegistryAction
  | finish timestamp => .finish context timestamp
  | abandon => .abandon context
  | flush => .flush context

theorem Registry.step_endSpan (alive : Nat → Bool) (registry : Registry) (context : Snapshot)
    (ending : SpanEnding) :
    (RegistryState.mk registry alive).step (ending.action context) =
      (⟨(registry.endSpan alive context ending).1, alive⟩,
        (registry.endSpan alive context ending).2) := by
  cases ending with
  | finish timestamp => rfl
  | abandon => rfl
  | flush => rfl

namespace TracerState

def Leads (state other : TracerState) : Prop :=
  ∃ notices, other.notices = state.notices ++ notices ∧
    state.tracing.registry.Leads other.tracing.registry notices

namespace Leads

variable {state other last : TracerState}

theorem of_eq (hregistry : other.tracing.registry = state.tracing.registry)
    (hnotices : other.notices = state.notices) : Leads state other := by
  refine ⟨[], ?_, ?_⟩
  . rw [hnotices, List.append_nil]
  . rw [hregistry]
    apply Registry.Leads.refl

theorem refl (state : TracerState) : Leads state state :=
  of_eq rfl rfl

theorem trans (h : Leads state other) (h' : Leads other last) : Leads state last := by
  rcases h with ⟨notices, hnotices, hregistry⟩
  rcases h' with ⟨later, hlater, hlast⟩
  refine ⟨notices ++ later, ?_, hregistry.trans hlast⟩
  rw [hlater, hnotices, List.append_assoc]

theorem endSpan (alive : Nat → Bool) (state : TracerState) (span : SpanHandle)
    (ending : SpanEnding) : Leads state (state.endSpan alive span ending) := by
  unfold TracerState.endSpan
  split
  . apply refl
  . have hstep := Registry.Leads.step alive state.tracing.registry
      (ending.action (state.heap.view span.source))
    rw [Registry.step_endSpan] at hstep
    exact ⟨_, rfl, hstep⟩

theorem record (state : TracerState) (place : Option Nat) (entry : SpanRecord)
    (absent : EditAnswer) : Leads state (state.record place entry absent).2 := by
  cases place with
  | none => exact of_eq rfl rfl
  | some place =>
    refine ⟨[], (List.append_nil _).symm, ?_⟩
    unfold TracerState.record Registry.record Registry.perform
    dsimp only
    split
    . apply Registry.Leads.refl
    . next pending _ =>
      exact Registry.Leads.step (fun _ => true) state.tracing.registry
        (.record place fun _ => (pending.span.perform
          (entry.toEdit (state.tracing.registry.now place))).2)

theorem setNoop (state : TracerState) (value : Bool) :
    Leads state { state with tracing := state.tracing.setNoop value } := by
  refine ⟨[], (List.append_nil _).symm, ?_⟩
  apply Registry.Leads.step (fun _ => true) state.tracing.registry (.setNoop value)

theorem close (state : TracerState) :
    Leads state { state with tracing := state.tracing.close.value } := by
  unfold Tracing.close
  split
  . exact of_eq rfl rfl
  . apply setNoop

end Leads

end TracerState

namespace Tracer

def Operates {γ : Type} (m : Tracer γ) : Prop :=
  ∀ state : TracerState, state.Leads (m state).2

theorem Operates.pure {γ : Type} (value : γ) : Operates (Pure.pure value) := by
  intro state
  apply TracerState.Leads.refl

theorem Operates.bind {γ δ : Type} {m : Tracer γ} {f : γ → Tracer δ} (hm : Operates m)
    (hf : ∀ value, Operates (f value)) : Operates (m >>= f) := by
  intro state
  rw [bind_apply]
  apply (hm state).trans
  apply hf

theorem operates_freshTraceId : Operates freshTraceId :=
  fun _ => .of_eq rfl rfl

theorem operates_freshSpanId : Operates freshSpanId :=
  fun _ => .of_eq rfl rfl

theorem operates_sample (traceId : TraceId) : Operates (sample traceId) :=
  fun _ => .of_eq rfl rfl

theorem operates_fork (extra : List (Extra BaggageRef)) : Operates (fork extra) :=
  fun _ => .of_eq rfl rfl

theorem operates_decide (traceId : TraceId) (flags : SamplingFlags) :
    Operates (decide traceId flags) := by
  unfold decide
  split
  . apply Operates.pure
  . dsimp only
    split
    . apply (Operates.pure true).bind
      intro sampled
      apply Operates.pure
    . apply (operates_sample traceId).bind
      intro sampled
      apply Operates.pure

theorem operates_markLocal (flags : SamplingFlags) : Operates (markLocal flags) := by
  intro state
  rw [markLocal_eq]
  apply TracerState.Leads.refl

theorem operates_equip (context : TraceContext BaggageRef) : Operates (equip context) := by
  intro state
  unfold equip
  split
  . apply TracerState.Leads.refl
  . exact .of_eq rfl rfl

theorem operates_complete (builder : ContextBuilder BaggageRef) (flags : SamplingFlags) :
    Operates (complete builder flags) := by
  unfold complete
  apply (operates_decide builder.traceId flags).bind
  intro flags
  apply (operates_markLocal flags).bind
  intro flags
  apply operates_equip

theorem operates_rootContext (flags : SamplingFlags) (extra : List (Extra BaggageRef)) :
    Operates (rootContext flags extra) := by
  unfold rootContext
  apply operates_freshTraceId.bind
  intro traceId
  apply operates_freshSpanId.bind
  intro spanId
  apply operates_complete

theorem operates_childContext (parent : TraceContext BaggageRef) :
    Operates (childContext parent) := by
  unfold childContext
  apply operates_freshSpanId.bind
  intro spanId
  apply (operates_fork parent.extra).bind
  intro extra
  apply operates_complete

theorem operates_register (alive : Nat → Bool) (parent : Option ContextInstance)
    (context : TraceContext BaggageRef) : Operates (register alive parent context) := by
  intro state
  let source := (state.heap.instantiate context).1
  let heap := (state.heap.instantiate context).2
  show state.Leads (if _ then _ else _ : SpanHandle × TracerState).2
  split
  . exact .of_eq rfl rfl
  . exact ⟨_, rfl, Registry.Leads.step alive state.tracing.registry
      (.getOrCreate (parent.map heap.view) source (heap.view source) false)⟩

theorem operates_newTrace (alive : Nat → Bool) : Operates (newTrace alive) := by
  unfold newTrace
  apply (operates_rootContext .empty []).bind
  intro context
  apply operates_register

theorem operates_newChild (alive : Nat → Bool) (parent : ContextInstance) :
    Operates (newChild alive parent) := by
  unfold newChild
  apply (operates_childContext parent.context).bind
  intro context
  apply operates_register

theorem operates_joinSpan (alive : Nat → Bool) (client : ContextInstance) :
    Operates (joinSpan alive client) := by
  intro state
  rw [joinSpan_eq]
  split
  . apply (operates_complete _ client.context.flags).bind
    intro context
    apply operates_register
  . apply operates_newChild

theorem operates_nextSpan (alive : Nat → Bool) (current : Option ContextInstance) :
    Operates (nextSpan alive current) := by
  cases current with
  | none => apply operates_newTrace
  | some parent => apply operates_newChild

theorem operates_nextSpanWith (alive : Nat → Bool) (current : Option ContextInstance)
    (extraction : HeldExtraction) : Operates (nextSpanWith alive current extraction) := by
  unfold nextSpanWith
  cases extraction.found with
  | context parent => apply operates_newChild
  | flags flags =>
    cases current with
    | none =>
      apply (operates_rootContext flags extraction.extra).bind
      intro context
      apply operates_register
    | some parent =>
      apply (operates_childContext parent.context).bind
      intro child
      apply operates_register

theorem operates_nextSpanFor (alive : Nat → Bool) (current : Option ContextInstance)
    (function : SamplerFunction) (request : Request) (draws : Draws) :
    Operates (nextSpanFor alive current function request draws) := by
  unfold nextSpanFor
  split
  . next parent =>
    apply (operates_newChild alive parent).bind
    intro span
    apply Operates.pure
  . apply Operates.bind
    . apply operates_rootContext
    . intro context
      apply (operates_register alive none context).bind
      intro span
      apply Operates.pure

theorem operates_toSpan (alive : Nat → Bool) (source : ContextInstance) :
    Operates (toSpan alive source) := by
  unfold toSpan
  apply (operates_complete _ source.context.flags).bind
  intro context
  apply operates_register

theorem operates_currentSpan? (alive : Nat → Bool) (current : Option ContextInstance) :
    Operates (currentSpan? alive current) := by
  unfold currentSpan?
  split
  . next source =>
    apply (operates_toSpan alive source).bind
    intro span
    apply Operates.pure
  . apply Operates.pure

theorem operates_startNamed (alive : Nat → Bool) (current : Option ContextInstance)
    (name : String) : Operates (startNamed alive current name) := by
  unfold startNamed
  apply (operates_nextSpan alive current).bind
  intro span
  apply Operates.bind
  . intro state
    exact (TracerState.Leads.record state span.place (.name name) .done).trans
      (TracerState.Leads.record _ span.place .start .done)
  . intro _
    apply Operates.pure

theorem operates_run (alive : Nat → Bool) (creation : Creation) : Operates (creation.run alive) := by
  cases creation with
  | newTrace => apply operates_newTrace
  | newChild parent => apply operates_newChild
  | joinSpan client => apply operates_joinSpan
  | nextSpan current => apply operates_nextSpan
  | nextSpanWith current extraction => apply operates_nextSpanWith
  | nextSpanFor current function request draws =>
    apply (operates_nextSpanFor alive current function request draws).bind
    intro made
    apply Operates.pure
  | toSpan source => apply operates_toSpan
  | startNamed current name => apply operates_startNamed

end Tracer

namespace TracerState

theorem leads_perform (state : TracerState) (alive : Nat → Bool) (action : TracingAction) :
    state.Leads (state.perform alive action) := by
  cases action with
  | create creation => exact Tracer.operates_run alive creation state
  | currentSpan current => exact Tracer.operates_currentSpan? alive current state
  | endSpan span ending => exact Leads.endSpan alive state span ending
  | record place entry => exact Leads.record state place entry .done
  | setNoop value => exact Leads.setNoop state value
  | close => exact Leads.close state
  | elsewhere heap => exact .of_eq rfl rfl

theorem leads_after (state : TracerState) (steps : List TracingStep) :
    state.Leads (state.after steps) := by
  induction steps generalizing state with
  | nil => exact .refl state
  | cons step steps ih => exact (state.leads_perform step.alive step.action).trans (ih _)

end TracerState

end RequestTracing
