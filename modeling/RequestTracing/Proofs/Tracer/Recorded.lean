import Mathlib
import RequestTracing.Proofs.Tracer.Creation

/-!
This module contains what it means that a span is recorded: its registry tracks it at the place of
the handle, under the identity of the context in the handle. Main statement: so it is with every
handle that a tracer gives a place.
-/

namespace RequestTracing

namespace Registry

structure Carries (place : Nat) (source : ContextInstance) (registry : Registry) : Prop where
  tracked : (source.context.key, place) ∈ registry.tracked
  source : registry.pendings[place]?.map PendingSpan.source = some source

variable {registry other : Registry} {alive : Nat → Bool} {place : Nat} {source : ContextInstance}

theorem Carries.isLive (h : registry.Carries place source) (halive : alive source.number) :
    registry.isLive alive place := by
  rw [isLive_eq, h.source]
  exact halive

theorem kept_carries (place : Nat) (source : ContextInstance) :
    KeptByRecord (Carries place source) := by
  intro registry edited entry absent h
  refine ⟨?_, ?_⟩
  . rw [registry.tracked_record]
    exact h.tracked
  . rw [(registry.alike_record edited entry absent).source_eq]
    exact h.source

theorem Faithful.carries (h : registry.Faithful) {key : SpanKey} {pending : PendingSpan}
    (htracked : (key, place) ∈ registry.tracked)
    (hpending : registry.pendings[place]? = some pending) :
    registry.Carries place pending.source := by
  have hkey : pending.source.context.key = key := h.source_key_eq htracked hpending
  refine ⟨?_, ?_⟩
  . rwa [hkey]
  . rw [hpending]
    rfl

theorem mem_tracked_getOrCreate (alive : Nat → Bool) (registry : Registry)
    (parent : Option Snapshot) (source : ContextInstance) (context : Snapshot) (start : Bool) :
    let made := registry.getOrCreate alive parent source context start
    (context.key, made.1) ∈ made.2.1.tracked := by
  intro made
  cases hfind : (registry.sweep alive).1.find? context.key with
  | some place =>
    have hmade : made = (place, registry.sweep alive) :=
      getOrCreate_eq_sweep hfind parent source start
    rw [hmade]
    exact Lookup.mem_of_lookup_eq_some hfind
  | none =>
    obtain ⟨hplace, htracked, _⟩ := getOrCreate_of_none parent source start hfind
    rw [htracked, hplace]
    exact List.mem_append_right _ (List.mem_singleton_self _)

end Registry

namespace Tracer

theorem carries_register {state : TracerState} (h : state.tracing.registry.Faithful)
    (alive : Nat → Bool) (parent : Option ContextInstance) (context : TraceContext BaggageRef)
    {place : Nat} (hplace : (register alive parent context state).1.place = some place) :
    (register alive parent context state).2.tracing.registry.Carries place
      (register alive parent context state).1.source := by
  let source := (state.heap.instantiate context).1
  let made := state.tracing.registry.getOrCreate alive (parent.map state.heap.view) source
    (state.heap.view source) false
  rw [place_register] at hplace
  have hrecorded : ¬keepsNothing state.tracing context := by
    intro hnothing
    rw [if_pos hnothing] at hplace
    cases hplace
  have hregistry : (register alive parent context state).2.tracing.registry = made.2.1 :=
    (registry_register alive parent context state).trans (if_neg hrecorded)
  have hsource : (register alive parent context state).1.source =
      (made.2.1.pendings[made.1]?).elim source (·.source) :=
    (source_register alive parent context state).trans (if_neg hrecorded)
  have hmade : made.1 = place := by
    rw [if_neg hrecorded] at hplace
    exact Option.some.inj hplace
  have hfaithful : made.2.1.Faithful := h.getOrCreate alive _ state.heap source false
  have htracked := Registry.mem_tracked_getOrCreate alive state.tracing.registry
    (parent.map state.heap.view) source (state.heap.view source) false
  obtain ⟨pending, hpending, _⟩ := hfaithful.pending _ htracked
  rw [hregistry, hsource, hpending, ← hmade]
  exact hfaithful.carries htracked hpending

theorem carries_run {state : TracerState} (h : state.tracing.registry.Faithful) (alive : Nat → Bool)
    (creation : Creation) {place : Nat}
    (hplace : (creation.run alive state).1.place = some place) :
    (creation.run alive state).2.tracing.registry.Carries place
      (creation.run alive state).1.source := by
  rw [← (creation.context_frame state).1] at h
  rw [creation.run_eq, bind_apply] at hplace ⊢
  exact TracerState.kept_recordAll (Registry.kept_carries _ _) (carries_register h alive _ _ hplace)
    _ creation.entries

end Tracer

end RequestTracing
