import Mathlib
import RequestTracing.Proofs.Recorder.Run
import RequestTracing.Tracer.Span

/-!
This module contains what a registry knows about the contexts of its spans once their instances are
gone: all but the extra state, for every span that was ever created. Main statement: no operation on
a registry changes that, and none makes up a span.
-/

namespace RequestTracing

namespace Registry

/--
The invariant of registries that are given instances with their own contexts: each span keeps the
context of its instance, without extra state.
-/
structure Faithful (registry : Registry) : Prop extends Sound registry where
  stripped : ∀ identity ∈ registry.pendings.map PendingSpan.identity,
    identity.2 = identity.1.context.withoutExtra

variable {registry other : Registry}

theorem faithful_ofHandlers (template : SpanData) (handlers : List SpanHandler)
    (clock : PlatformClock) : Faithful (ofHandlers template handlers clock) where
  keys := List.nodup_nil
  places := List.nodup_nil
  pending := by simp [ofHandlers]
  stripped := by simp [ofHandlers]

theorem Faithful.context_eq (h : Faithful registry) {place : Nat} {pending : PendingSpan}
    (hpending : registry.pendings[place]? = some pending) :
    pending.context = pending.source.context.withoutExtra :=
  h.stripped pending.identity (List.mem_map_of_mem (List.mem_of_getElem? hpending))

theorem Faithful.source_key_eq (h : Faithful registry) {entry : SpanKey × Nat}
    (hentry : entry ∈ registry.tracked) {pending : PendingSpan}
    (hpending : registry.pendings[entry.2]? = some pending) :
    pending.source.context.key = entry.1 := by
  rw [← h.key_eq hentry hpending, h.context_eq hpending]
  rfl

theorem Faithful.of_sublist (h : Faithful registry)
    (hspans : other.pendings.map PendingSpan.identity =
      registry.pendings.map PendingSpan.identity)
    (hsublist : other.tracked.Sublist registry.tracked) : Faithful other where
  toSound := h.toSound.of_sublist hspans hsublist
  stripped := by
    rw [hspans]
    exact h.stripped

theorem alike_depart (alive : Nat → Bool) (registry : Registry) (context : Snapshot)
    (cause : Cause) {prepare : Registry → Nat → Registry}
    (hprepare : ∀ registry place, Alike (prepare registry place) registry) :
    Alike (registry.depart alive context cause prepare).1 registry := by
  have halike := alike_untrack_sweep alive registry context.key
  unfold depart
  rw [remove_eq]
  cases (registry.sweep alive).1.find? context.key with
  | none => exact halike
  | some place => exact (alike_report _ place context cause).trans ((hprepare _ place).trans halike)

theorem alike_abandon (alive : Nat → Bool) (registry : Registry) (context : Snapshot) :
    Alike (registry.abandon alive context).1 registry := by
  unfold abandon
  split
  . exact alike_depart alive registry context .abandoned fun registry _ => Alike.refl registry
  . exact alike_untrack_sweep alive registry context.key

theorem tracked_depart (alive : Nat → Bool) (registry : Registry) (context : Snapshot)
    (cause : Cause) {prepare : Registry → Nat → Registry}
    (hprepare : ∀ registry place, (prepare registry place).tracked = registry.tracked) :
    (registry.depart alive context cause prepare).1.tracked =
      ((registry.sweep alive).1.untrack context.key).tracked := by
  unfold depart
  rw [remove_eq]
  cases (registry.sweep alive).1.find? context.key with
  | none => rfl
  | some place =>
    dsimp only
    rw [tracked_report, hprepare]

theorem tracked_abandon (alive : Nat → Bool) (registry : Registry) (context : Snapshot) :
    (registry.abandon alive context).1.tracked =
      ((registry.sweep alive).1.untrack context.key).tracked := by
  unfold abandon
  split
  . apply tracked_depart
    intro _ _
    rfl
  . rfl

theorem spans_getOrCreate (alive : Nat → Bool) (registry : Registry) (parent : Option Snapshot)
    (source : ContextInstance) (context : Snapshot) (start : Bool) :
    let after := (registry.getOrCreate alive parent source context start).2.1
    after.pendings.map PendingSpan.identity = registry.pendings.map PendingSpan.identity ∨
      after.pendings.map PendingSpan.identity =
        registry.pendings.map PendingSpan.identity ++ [(source, context.withoutExtra)] := by
  have hsweep := alike_sweep alive registry
  unfold getOrCreate
  dsimp only
  split
  . exact .inl hsweep.spans
  . have halike := (alike_clockFor (registry.sweep alive).1 parent context).trans hsweep
    unfold track
    dsimp only
    rw [List.map_append, halike.spans]
    exact .inr rfl

end Registry

def RegistryAction.Fits : RegistryAction → Prop
  | getOrCreate _ source context _ =>
    (context.withoutExtra : Snapshot) = source.context.withoutExtra
  | _ => True

namespace RegistryState

theorem spans_step (state : RegistryState) (action : RegistryAction) :
    let spans := state.registry.pendings.map PendingSpan.identity
    (state.step action).1.registry.pendings.map PendingSpan.identity = spans ∨
      ∃ parent source context start, action = .getOrCreate parent source context start ∧
        (state.step action).1.registry.pendings.map PendingSpan.identity =
          spans ++ [(source, context.withoutExtra)] := by
  obtain ⟨registry, alive⟩ := state
  cases action with
  | getOrCreate parent source context start =>
    cases registry.spans_getOrCreate alive parent source context start with
    | inl hsame => exact .inl hsame
    | inr hnew => exact .inr ⟨parent, source, context, start, rfl, hnew⟩
  | get key => exact .inl (registry.alike_sweep alive).spans
  | remove key => exact .inl (registry.alike_untrack_sweep alive key).spans
  | finish context timestamp =>
    exact .inl (registry.alike_depart alive context .finished
      (Registry.alike_stamp timestamp)).spans
  | flush context =>
    exact .inl (registry.alike_depart alive context .flushed
      fun registry _ => Registry.Alike.refl registry).spans
  | abandon context => exact .inl (registry.alike_abandon alive context).spans
  | sweep => exact .inl (registry.alike_sweep alive).spans
  | record place f => exact .inl (registry.alike_edit place f).spans
  | setNoop value => exact .inl rfl
  | hold alive => exact .inl rfl

theorem faithful_step (state : RegistryState) (action : RegistryAction)
    (h : state.registry.Faithful) (hfits : action.Fits) :
    (state.step action).1.registry.Faithful where
  toSound := by
    have hsound : (RegistryStep.mk state action).before.registry.Sound := h.toSound
    exact RegistryStep.sound_after hsound
  stripped := by
    rcases state.spans_step action with hspans | ⟨parent, source, context, start, haction, hspans⟩
    . rw [hspans]
      exact h.stripped
    . rw [hspans]
      intro identity hidentity
      cases List.mem_append.1 hidentity with
      | inl hmem => exact h.stripped identity hmem
      | inr heq =>
        rw [List.mem_singleton.1 heq]
        rw [haction] at hfits
        exact hfits

end RegistryState

namespace Registry.Faithful

open RegistryState (faithful_step)

variable {registry : Registry}

theorem getOrCreate (h : Faithful registry) (alive : Nat → Bool) (parent : Option Snapshot)
    (heap : Heap) (source : ContextInstance) (start : Bool) :
    Faithful (registry.getOrCreate alive parent source (heap.view source) start).2.1 :=
  faithful_step ⟨registry, alive⟩ (.getOrCreate parent source (heap.view source) start) h rfl

theorem sweep (h : Faithful registry) (alive : Nat → Bool) : Faithful (registry.sweep alive).1 :=
  faithful_step ⟨registry, alive⟩ .sweep h trivial

theorem remove (h : Faithful registry) (alive : Nat → Bool) (key : SpanKey) :
    Faithful (registry.remove alive key).2.1 :=
  faithful_step ⟨registry, alive⟩ (.remove key) h trivial

theorem setNoop (h : Faithful registry) (value : Bool) : Faithful (registry.setNoop value) :=
  faithful_step ⟨registry, fun _ => true⟩ (.setNoop value) h trivial

theorem edit (h : Faithful registry) (place : Nat) (f : SpanData → SpanData) :
    Faithful (registry.edit place f) :=
  faithful_step ⟨registry, fun _ => true⟩ (.record place f) h trivial

theorem endSpan (h : Faithful registry) (alive : Nat → Bool) (context : Snapshot)
    (ending : SpanEnding) : Faithful (registry.endSpan alive context ending).1 := by
  cases ending with
  | finish timestamp =>
    exact faithful_step ⟨registry, alive⟩ (.finish context timestamp) h trivial
  | abandon => exact faithful_step ⟨registry, alive⟩ (.abandon context) h trivial
  | flush => exact faithful_step ⟨registry, alive⟩ (.flush context) h trivial

theorem perform (h : Faithful registry) (place : Nat) (change : SpanEdit) :
    Faithful (registry.perform place change).2 := by
  unfold Registry.perform
  split
  . exact h
  . next pending _ => exact h.edit place fun _ => (pending.span.perform change).2

theorem performAll (h : Faithful registry) (place : Nat) (changes : List SpanEdit) :
    Faithful (registry.performAll place changes).2 := by
  induction changes generalizing registry with
  | nil => exact h
  | cons change changes ih => exact ih (h.perform place change)

theorem record (h : Faithful registry) (place : Option Nat) (entry : SpanRecord)
    (absent : EditAnswer) : Faithful (registry.record place entry absent).2 := by
  cases place with
  | none => exact h
  | some place => exact h.perform place _

theorem forgetAll (h : Faithful registry) (name : String) :
    Faithful { registry with chain := registry.chain.forgetAll name } :=
  h.of_sublist rfl (List.Sublist.refl _)

end Registry.Faithful

end RequestTracing
