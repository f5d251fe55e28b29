import Mathlib
import RequestTracing.Proofs.Recorder.Identity
import RequestTracing.Proofs.Tracer.Sink

/-!
This module contains properties of registries that last: no action of a tracing takes them away, and
nothing that is recorded on a span does. Main statement: what lasts holds after every run.
-/

namespace RequestTracing

/--
Holds for actions that a tracing may ask of its registry: it gives an instance only with its own
context, and records on spans only in the way that handles do.
-/
structure RegistryAction.Ordinary (action : RegistryAction) : Prop where
  fits : action.Fits
  rewrites : action.rewrites = false

namespace TracerState

theorem ordinary_askedToRegister (state : TracerState) (alive : Nat → Bool)
    (parent : Option ContextInstance) (context : TraceContext BaggageRef) :
    (state.askedToRegister alive parent context).Ordinary := by
  unfold askedToRegister
  split
  . exact ⟨trivial, rfl⟩
  . exact ⟨rfl, rfl⟩

theorem ordinary_asked (state : TracerState) (alive : Nat → Bool) (action : TracingAction) :
    (state.asked alive action).Ordinary := by
  cases action with
  | create creation => apply ordinary_askedToRegister
  | currentSpan current =>
    cases current with
    | none => exact ⟨trivial, rfl⟩
    | some source => apply ordinary_askedToRegister
  | endSpan span ending =>
    unfold asked
    dsimp only
    split
    . exact ⟨trivial, rfl⟩
    . cases ending <;> exact ⟨trivial, rfl⟩
  | _ => exact ⟨trivial, rfl⟩

end TracerState

namespace Registry

structure Lasting (P : Registry → Prop) : Prop where
  step : ∀ step : RegistryStep, step.action.Ordinary → P step.before.registry →
    P step.after.registry
  record : KeptByRecord P

theorem lasting_faithful : Lasting Faithful where
  step := fun step hordinary h => step.before.faithful_step step.action h hordinary.fits
  record := fun _ place entry absent h => h.record place entry absent

theorem lasting_identified : Lasting Identified where
  step := fun _ hordinary h => RegistryState.identified_step h hordinary.fits hordinary.rewrites
  record := fun _ place entry absent h => h.record place entry absent

theorem lasting_roles (roles : List SpanHandler) :
    Lasting fun registry =>
      registry.Sound ∧ registry.chain.handlers.map SpanHandler.role = roles where
  step := fun _ _ h => ⟨RegistryStep.sound_after h.1, (RegistryStep.roles_after h.1).trans h.2⟩
  record := by
    intro registry place entry absent ⟨hsound, hroles⟩
    have halike := registry.alike_record place entry absent
    have htracked := registry.tracked_record place entry absent
    exact ⟨hsound.of_sublist halike.spans (by rw [htracked]), halike.roles.trans hroles⟩

theorem lasting_feeds (encoder : SpanEncoder) (always : Bool) (others : List SpanHandler)
    (reading : Nat → UInt64) :
    Lasting fun registry => registry.Sound ∧ registry.Feeds encoder always others reading where
  step := fun _ _ h => ⟨RegistryStep.sound_after h.1, RegistryStep.feeds_after h.2 h.1⟩
  record := by
    intro registry place entry absent ⟨hsound, hfeeds⟩
    have halike := registry.alike_record place entry absent
    have htracked := registry.tracked_record place entry absent
    refine ⟨hsound.of_sublist halike.spans (by rw [htracked]), ?_, ?_⟩
    . rw [registry.chain_record]
      exact hfeeds.encodes
    . rw [registry.chain_record]
      exact hfeeds.reading

theorem lasting_source (place : Nat) (source : ContextInstance) :
    Lasting fun registry => registry.pendings[place]?.map PendingSpan.source = some source where
  step := by
    intro step _ h
    have hidentities : ∀ registry : Registry,
        (registry.pendings.map PendingSpan.identity)[place]?.map Prod.fst =
          registry.pendings[place]?.map PendingSpan.source := by
      intro registry
      rw [List.getElem?_map, Option.map_map]
      rfl
    rw [← hidentities] at h ⊢
    rcases step.before.spans_step step.action with hsame | ⟨_, new, context, _, _, hnew⟩
    . exact (congrArg (fun spans => spans[place]?.map Prod.fst) hsame).trans h
    . refine (congrArg (fun spans => spans[place]?.map Prod.fst) hnew).trans ?_
      obtain ⟨identity, hidentity, hsource⟩ := Option.map_eq_some_iff.1 h
      have hlt := (List.getElem?_eq_some_iff.1 hidentity).1
      rw [List.getElem?_append_left hlt]
      exact h
  record := by
    intro registry edited entry absent h
    exact ((registry.alike_record edited entry absent).source_eq place).trans h

end Registry

namespace TracerState

variable {P : Registry → Prop}

theorem lasts_perform (hP : Registry.Lasting P) {state : TracerState}
    (h : P state.tracing.registry) (alive : Nat → Bool) (action : TracingAction) :
    P (state.perform alive action).tracing.registry :=
  (state.asks alive action).recorded P hP.record
    (hP.step (state.asking alive _) (state.ordinary_asked alive action) h)

theorem lasts_after (hP : Registry.Lasting P) {state : TracerState}
    (h : P state.tracing.registry) (steps : List TracingStep) :
    P (state.after steps).tracing.registry := by
  induction steps generalizing state with
  | nil => exact h
  | cons step steps ih => exact ih (lasts_perform hP h step.alive step.action)

end TracerState

end RequestTracing
