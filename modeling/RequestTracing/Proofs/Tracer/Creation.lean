import Mathlib
import RequestTracing.Proofs.Recorder.Beginnings
import RequestTracing.Proofs.Tracer.Start

/-!
This module contains what the ways of creating a span have in common. Main statement: each of them
makes a context, registers it and may record on the span, and as far as the registry goes it is one
action, like every other action on a tracing.
-/

namespace RequestTracing

namespace Registry

def KeptByRecord (P : Registry → Prop) : Prop :=
  ∀ registry place entry absent, P registry → P (registry.record place entry absent).2

variable (registry : Registry) (place : Option Nat) (entry : SpanRecord) (absent : EditAnswer)

theorem alike_record : Alike (registry.record place entry absent).2 registry := by
  rcases registry.record_eq place entry absent with heq | ⟨edited, f, heq⟩
  . rw [heq]
    exact Alike.refl _
  . rw [heq]
    exact alike_edit _ edited f

theorem tracked_record : (registry.record place entry absent).2.tracked = registry.tracked := by
  rcases registry.record_eq place entry absent with heq | ⟨edited, f, heq⟩
  . rw [heq]
  . rw [heq]
    rfl

theorem chain_record : (registry.record place entry absent).2.chain = registry.chain := by
  rcases registry.record_eq place entry absent with heq | ⟨edited, f, heq⟩
  . rw [heq]
  . rw [heq]
    rfl

end Registry

namespace TracerState

def recordAll (state : TracerState) (place : Option Nat) : List SpanRecord → TracerState
  | [] => state
  | entry :: entries => (state.record place entry .done).2.recordAll place entries

theorem kept_recordAll {P : Registry → Prop} (hP : Registry.KeptByRecord P) {state : TracerState}
    (h : P state.tracing.registry) (place : Option Nat) (entries : List SpanRecord) :
    P (state.recordAll place entries).tracing.registry := by
  induction entries generalizing state with
  | nil => exact h
  | cons entry entries ih =>
    have hrecord : P (state.record place entry .done).2.tracing.registry :=
      hP state.tracing.registry place entry .done h
    exact ih hrecord

theorem alike_record (state : TracerState) (place : Option Nat) (entry : SpanRecord)
    (absent : EditAnswer) :
    Registry.Alike (state.record place entry absent).2.tracing.registry state.tracing.registry :=
  state.tracing.registry.alike_record place entry absent

theorem alike_recordAll (state : TracerState) (place : Option Nat) (entries : List SpanRecord) :
    Registry.Alike (state.recordAll place entries).tracing.registry state.tracing.registry := by
  have hkept : Registry.KeptByRecord fun registry =>
      Registry.Alike registry state.tracing.registry :=
    fun registry place entry absent h => (registry.alike_record place entry absent).trans h
  exact kept_recordAll hkept (Registry.Alike.refl _) place entries

theorem notices_recordAll (state : TracerState) (place : Option Nat) (entries : List SpanRecord) :
    (state.recordAll place entries).notices = state.notices := by
  induction entries generalizing state with
  | nil => rfl
  | cons entry entries ih => exact ih _

theorem heap_recordAll (state : TracerState) (place : Option Nat) (entries : List SpanRecord) :
    (state.recordAll place entries).heap = state.heap := by
  induction entries generalizing state with
  | nil => rfl
  | cons entry entries ih => exact ih _

end TracerState

namespace Creation

open Tracer

def parent? : Creation → Option ContextInstance
  | newTrace => none
  | newChild parent => some parent
  | joinSpan client => some client
  | nextSpan current => current
  | nextSpanWith current extraction =>
    match extraction.found with
    | .context parent => some parent
    | .flags _ => current
  | nextSpanFor current _ _ _ => current
  | toSpan _ => none
  | startNamed current _ => current

def context : Creation → Tracer (TraceContext BaggageRef)
  | newTrace => rootContext .empty []
  | newChild parent => childContext parent.context
  | joinSpan client => do
    if (← get).tracing.supportsJoin then
      complete { ContextBuilder.ofContext client.context with
        shared := true, localRootId := some client.context.spanId } client.context.flags
    else
      childContext client.context
  | nextSpan current => nextContext current
  | nextSpanWith current extraction =>
    match extraction.found with
    | .context parent => childContext parent.context
    | .flags flags =>
      match current with
      | some parent => do
        let child ← childContext parent.context
        return { child with extra := child.extra ++ extraction.extra }
      | none => rootContext flags extraction.extra
  | nextSpanFor current function request draws =>
    match current with
    | some parent => childContext parent.context
    | none => rootContext (.ofDecision (function.trySample samplingTime request draws).decision) []
  | toSpan source =>
    complete { ContextBuilder.ofContext source.context with
      localRootId := some (source.context.localRootId.getD source.context.spanId) }
      source.context.flags
  | startNamed current _ => nextContext current

def entries : Creation → List SpanRecord
  | startNamed _ name => [.name name, .start]
  | _ => []

theorem run_of_entries_eq_nil {creation : Creation} {alive : Nat → Bool} {state : TracerState}
    (hentries : creation.entries = [])
    (hrun : creation.run alive state = (creation.context >>= register alive creation.parent?) state) :
    let made := (creation.context >>= register alive creation.parent?) state
    creation.run alive state = (made.1, made.2.recordAll made.1.place creation.entries) := by
  dsimp only
  rw [hrun, hentries]
  rfl

theorem context_joinSpan (client : ContextInstance) (state : TracerState) :
    (joinSpan client).context state =
      if state.tracing.supportsJoin then
        complete { ContextBuilder.ofContext client.context with
          shared := true, localRootId := some client.context.spanId } client.context.flags state
      else childContext client.context state := by
  show (if _ then _ else _ : Tracer (TraceContext BaggageRef)) state = _
  split
  . rfl
  . rfl

theorem run_eq (creation : Creation) (alive : Nat → Bool) (state : TracerState) :
    let made := (creation.context >>= register alive creation.parent?) state
    creation.run alive state = (made.1, made.2.recordAll made.1.place creation.entries) := by
  -- only a span that is started with a name has something recorded at once
  cases creation with
  | newTrace => exact run_of_entries_eq_nil rfl rfl
  | newChild parent => exact run_of_entries_eq_nil rfl rfl
  | joinSpan client =>
    apply run_of_entries_eq_nil rfl
    have hparent : (joinSpan client).parent? = some client := rfl
    rw [bind_apply, context_joinSpan, hparent]
    refine (joinSpan_eq alive client state).trans ?_
    by_cases hjoin : state.tracing.supportsJoin
    . rw [if_pos hjoin, if_pos hjoin, bind_apply]
    . rw [if_neg hjoin, if_neg hjoin, Tracer.newChild, bind_apply]
  | nextSpan current =>
    apply run_of_entries_eq_nil rfl
    exact congrFun (nextSpan_eq alive current) state
  | nextSpanWith current extraction =>
    apply run_of_entries_eq_nil rfl
    show Tracer.nextSpanWith alive current extraction state = _
    unfold context parent? Tracer.nextSpanWith
    dsimp only
    cases extraction.found with
    | context parent => rfl
    | flags flags =>
      cases current with
      | none => rfl
      | some parent => rfl
  | nextSpanFor current function request draws =>
    apply run_of_entries_eq_nil rfl
    cases current with
    | none => rfl
    | some parent => rfl
  | toSpan source => exact run_of_entries_eq_nil rfl rfl
  | startNamed current name =>
    show Tracer.startNamed alive current name state = _
    rw [startNamed_eq, nextSpan_eq]
    rfl

variable {extraction : HeldExtraction} {flags : SamplingFlags}

theorem context_nextSpanWith_none (h : extraction.found = .flags flags) (state : TracerState) :
    (nextSpanWith none extraction).context state = rootContext flags extraction.extra state := by
  unfold context
  dsimp only
  rw [h]

theorem context_nextSpanWith_some (h : extraction.found = .flags flags) (parent : ContextInstance)
    (state : TracerState) :
    let child := childContext parent.context state
    (nextSpanWith (some parent) extraction).context state =
      ({ child.1 with extra := child.1.extra ++ extraction.extra }, child.2) := by
  unfold context
  dsimp only
  rw [h]
  rfl

def sources : Creation → List ContextInstance
  | newTrace => []
  | newChild parent => [parent]
  | joinSpan client => [client]
  | nextSpan current => current.toList
  | nextSpanWith current extraction => extraction.context?.toList ++ current.toList
  | nextSpanFor current _ _ _ => current.toList
  | toSpan source => [source]
  | startNamed current _ => current.toList

def reading? : Creation → Option HeldExtraction
  | nextSpanWith _ extraction => if extraction.context?.isNone then some extraction else none
  | _ => none

/--
The ways of making a context: that of a new trace, a child, which may get what was read from a
carrier on top, or a context of the same span ID as another one.
-/
inductive Makes (creation : Creation) (state : TracerState) :
    TraceContext BaggageRef × TracerState → Prop where
  | root (flags : SamplingFlags) (extra : List (Extra BaggageRef))
      (hextra : extra = [] ∨ ∃ reading ∈ creation.reading?, reading.extra = extra) :
      Makes creation state (rootContext flags extra state)
  | child (parent : TraceContext BaggageRef) : Makes creation state (childContext parent state)
  | extended (parent : TraceContext BaggageRef) (reading : HeldExtraction)
      (hreading : reading ∈ creation.reading?) :
      Makes creation state
        ({ (childContext parent state).1 with
            extra := (childContext parent state).1.extra ++ reading.extra },
          (childContext parent state).2)
  | completed (source : ContextInstance) (builder : ContextBuilder BaggageRef)
      (flags : SamplingFlags) (hsource : source ∈ creation.sources)
      (hspanId : builder.spanId = source.context.spanId)
      (hextra : builder.extra = source.context.extra) :
      Makes creation state (complete builder flags state)

theorem makes_nextContext {creation : Creation} (current : Option ContextInstance)
    (state : TracerState) : creation.Makes state (nextContext current state) := by
  cases current with
  | none => exact .root .empty [] (.inl rfl)
  | some parent => exact .child parent.context

theorem makes (creation : Creation) (state : TracerState) :
    creation.Makes state (creation.context state) := by
  cases creation with
  | newTrace => exact .root .empty [] (.inl rfl)
  | newChild parent => exact .child parent.context
  | joinSpan client =>
    rw [context_joinSpan]
    by_cases hjoin : state.tracing.supportsJoin
    . rw [if_pos hjoin]
      exact .completed client _ client.context.flags (List.mem_singleton_self _) rfl rfl
    . rw [if_neg hjoin]
      exact .child client.context
  | nextSpan current => exact makes_nextContext current state
  | nextSpanWith current extraction =>
    cases hfound : extraction.found with
    | context parent =>
      have hcontext : (nextSpanWith current extraction).context state =
          childContext parent.context state := by
        unfold context
        dsimp only
        rw [hfound]
      rw [hcontext]
      exact .child parent.context
    -- with flags alone the extra state goes to a new trace, or to a child of what is current
    | flags flags =>
      have hreading : (nextSpanWith current extraction).reading? = some extraction := by
        unfold reading? Extraction.context?
        dsimp only
        rw [hfound]
        rfl
      cases current with
      | none =>
        rw [context_nextSpanWith_none hfound]
        exact .root flags extraction.extra (.inr ⟨extraction, hreading, rfl⟩)
      | some parent =>
        rw [context_nextSpanWith_some hfound]
        exact .extended parent.context extraction hreading
  | nextSpanFor current function request draws =>
    cases current with
    | none => exact .root _ [] (.inl rfl)
    | some parent => exact .child parent.context
  | toSpan source =>
    exact .completed source _ source.context.flags (List.mem_singleton_self _) rfl rfl
  | startNamed current name => exact makes_nextContext current state

theorem context_frame (creation : Creation) (state : TracerState) :
    (creation.context state).2.tracing.registry = state.tracing.registry ∧
      (creation.context state).2.notices = state.notices := by
  have hmakes := creation.makes state
  generalize creation.context state = made at hmakes ⊢
  cases hmakes with
  | root flags extra hextra =>
    have hbegets := begets_rootContext flags extra state
    exact ⟨hbegets.registry, hbegets.notices⟩
  | child parent =>
    have hbegets := begets_childContext parent state
    exact ⟨hbegets.registry, hbegets.notices⟩
  | extended parent reading hreading =>
    have hbegets := begets_childContext parent state
    exact ⟨hbegets.registry, hbegets.notices⟩
  | completed source builder flags hsource hspanId hextra =>
    obtain ⟨settled, extra, _, _, _, hsame⟩ := complete_made builder flags state
    exact ⟨hsame.registry, hsame.notices⟩

end Creation

namespace TracerState

def asking (state : TracerState) (alive : Nat → Bool) (action : RegistryAction) : RegistryStep :=
  ⟨⟨state.tracing.registry, alive⟩, action⟩

/--
Holds where one action of the registry leads from one state to another, but for what is recorded on
spans after it.
-/
structure Asks (alive : Nat → Bool) (action : RegistryAction) (state other : TracerState) :
    Prop where
  notices : other.notices = state.notices ++ (state.asking alive action).notices
  recorded : ∀ P, Registry.KeptByRecord P → P (state.asking alive action).after.registry →
    P other.tracing.registry

namespace Asks

variable {alive : Nat → Bool} {action : RegistryAction} {state other last : TracerState}

theorem of_registry
    (hregistry : other.tracing.registry = (state.asking alive action).after.registry)
    (hnotices : other.notices = state.notices ++ (state.asking alive action).notices) :
    Asks alive action state other where
  notices := hnotices
  recorded := by
    intro P _ h
    rwa [hregistry]

theorem hold (hregistry : other.tracing.registry = state.tracing.registry)
    (hnotices : other.notices = state.notices) : Asks alive (.hold alive) state other :=
  of_registry hregistry (hnotices.trans (List.append_nil _).symm)

theorem of_eq (h : Asks alive action other last)
    (hregistry : other.tracing.registry = state.tracing.registry)
    (hnotices : other.notices = state.notices) : Asks alive action state last := by
  have hasking : other.asking alive action = state.asking alive action := by
    unfold asking
    rw [hregistry]
  constructor
  . rw [← hasking, ← hnotices]
    exact h.notices
  . rw [← hasking]
    exact h.recorded

theorem recordAll (h : Asks alive action state other) (place : Option Nat)
    (entries : List SpanRecord) : Asks alive action state (other.recordAll place entries) where
  notices := (other.notices_recordAll place entries).trans h.notices
  recorded := by
    intro P hP hafter
    exact kept_recordAll hP (h.recorded P hP hafter) place entries

theorem alike (h : Asks alive action state other) :
    Registry.Alike other.tracing.registry (state.asking alive action).after.registry := by
  refine h.recorded (fun registry => Registry.Alike registry _) ?_ (Registry.Alike.refl _)
  intro registry place entry absent halike
  exact (registry.alike_record place entry absent).trans halike

theorem tracked (h : Asks alive action state other) :
    other.tracing.registry.tracked = (state.asking alive action).after.registry.tracked := by
  refine h.recorded (fun registry => registry.tracked = _) ?_ rfl
  intro registry place entry absent htracked
  exact (registry.tracked_record place entry absent).trans htracked

theorem chain (h : Asks alive action state other) :
    other.tracing.registry.chain = (state.asking alive action).after.registry.chain := by
  refine h.recorded (fun registry => registry.chain = _) ?_ rfl
  intro registry place entry absent hchain
  exact (registry.chain_record place entry absent).trans hchain

end Asks

def askedToRegister (state : TracerState) (alive : Nat → Bool) (parent : Option ContextInstance)
    (context : TraceContext BaggageRef) : RegistryAction :=
  if Tracer.keepsNothing state.tracing context then
    .hold alive
  else
    let (source, heap) := state.heap.instantiate context
    .getOrCreate (parent.map heap.view) source (heap.view source) false

def askedToCreate (state : TracerState) (alive : Nat → Bool) (creation : Creation) :
    RegistryAction :=
  (creation.context state).2.askedToRegister alive creation.parent? (creation.context state).1

theorem switch?_askedToRegister (state : TracerState) (alive : Nat → Bool)
    (parent : Option ContextInstance) (context : TraceContext BaggageRef) :
    (state.askedToRegister alive parent context).switch? = none := by
  unfold askedToRegister
  split
  . rfl
  . rfl

theorem asks_register (state : TracerState) (alive : Nat → Bool)
    (parent : Option ContextInstance) (context : TraceContext BaggageRef) :
    Asks alive (state.askedToRegister alive parent context) state
      (Tracer.register alive parent context state).2 := by
  let source := (state.heap.instantiate context).1
  let heap := (state.heap.instantiate context).2
  unfold askedToRegister
  by_cases hnothing : Tracer.keepsNothing state.tracing context
  . have hmade : Tracer.register alive parent context state = (⟨source, none⟩, { state with heap }) :=
      if_pos hnothing
    rw [hmade, if_pos hnothing]
    exact .hold rfl rfl
  . have hmade : Tracer.register alive parent context state = _ := if_neg hnothing
    rw [hmade, if_neg hnothing]
    exact .of_registry rfl rfl

theorem asks_run (state : TracerState) (alive : Nat → Bool) (creation : Creation) :
    Asks alive (state.askedToCreate alive creation) state (creation.run alive state).2 := by
  obtain ⟨hregistry, hnotices⟩ := creation.context_frame state
  have hasks := (creation.context state).2.asks_register alive creation.parent?
    (creation.context state).1
  rw [creation.run_eq, Tracer.bind_apply]
  exact (hasks.of_eq hregistry hnotices).recordAll _ creation.entries

end TracerState

def TracingAction.switch? : TracingAction → Option Bool
  | setNoop value => some value
  | close => some true
  | _ => none

theorem SpanEnding.switch?_action (context : Snapshot) (ending : SpanEnding) :
    (ending.action context).switch? = none := by
  cases ending <;> rfl

theorem Tracing.registry_close (tracing : Tracing) :
    tracing.close.value.registry = tracing.registry.setNoop true := by
  unfold close
  split
  . next hnoop =>
    have hsame : ∀ {value}, tracing.registry.chain.noop = value →
        tracing.registry = tracing.registry.setNoop value := by
      rintro _ rfl
      rfl
    exact hsame hnoop
  . rfl

namespace TracerState

def asked (state : TracerState) (alive : Nat → Bool) : TracingAction → RegistryAction
  | .create creation => state.askedToCreate alive creation
  | .currentSpan (some source) => state.askedToCreate alive (.toSpan source)
  | .endSpan span ending =>
    if span.isNoop then .hold alive else ending.action (state.heap.view span.source)
  | .setNoop value => .setNoop value
  | .close => .setNoop true
  | .currentSpan none | .record _ _ | .elsewhere _ => .hold alive

theorem switch?_asked (state : TracerState) (alive : Nat → Bool) (action : TracingAction) :
    (state.asked alive action).switch? = action.switch? := by
  cases action with
  | create creation => apply switch?_askedToRegister
  | currentSpan current =>
    cases current with
    | none => rfl
    | some source => apply switch?_askedToRegister
  | endSpan span ending =>
    unfold asked
    dsimp only
    split
    . rfl
    . exact ending.switch?_action _
  | record place entry => rfl
  | setNoop value => rfl
  | close => rfl
  | elsewhere heap => rfl

theorem asks (state : TracerState) (alive : Nat → Bool) (action : TracingAction) :
    Asks alive (state.asked alive action) state (state.perform alive action) := by
  cases action with
  | create creation => exact state.asks_run alive creation
  | currentSpan current =>
    cases current with
    | none => exact .hold rfl rfl
    | some source => exact state.asks_run alive (.toSpan source)
  | endSpan span ending =>
    unfold asked
    dsimp only
    split
    -- a handle without a place asks nothing of the registry
    . next hnoop =>
      have hended : state.perform alive (.endSpan span ending) = state := by
        unfold perform TracerState.endSpan
        dsimp only
        rw [Option.isNone_iff_eq_none.1 hnoop]
      rw [hended]
      exact .hold rfl rfl
    . next hreal =>
      let context := state.heap.view span.source
      have hsome : span.place.isSome :=
        Option.isSome_iff_ne_none.2 fun hnone => hreal (Option.isNone_iff_eq_none.2 hnone)
      obtain ⟨hregistry, hnotices⟩ := endSpan_of_isSome hsome alive state ending
      have hstep := state.tracing.registry.step_endSpan alive context ending
      apply Asks.of_registry
      . exact hregistry.trans (congrArg (·.1.registry) hstep).symm
      . exact hnotices.trans (congrArg (state.notices ++ ·.2) hstep).symm
  | record place entry => exact (Asks.hold rfl rfl).recordAll place [entry]
  | setNoop value => exact .of_registry rfl (List.append_nil _).symm
  | close => exact .of_registry state.tracing.registry_close (List.append_nil _).symm
  | elsewhere heap => exact .hold rfl rfl

end TracerState

end RequestTracing
