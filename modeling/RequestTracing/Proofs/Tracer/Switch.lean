import Mathlib
import RequestTracing.Proofs.Tracer.Creation

/-!
This module contains the switch that turns recording off, and closing, which does so too. Main
statement: a tracing that was closed keeps nothing of any span and calls no handler, until it is
switched on again.
-/

namespace RequestTracing

theorem TracingAction.switch?_ne_of_ne {action : TracingAction} (h : action ≠ .setNoop false) :
    action.switch? ≠ some false := by
  cases action with
  | setNoop value =>
    intro heq
    rw [Option.some.inj heq] at h
    exact h rfl
  | close => simp [switch?]
  | _ => simp [switch?]

namespace TracerState

def returned? (state : TracerState) (alive : Nat → Bool) : TracingAction → Option SpanHandle
  | .create creation => some (creation.run alive state).1
  | .currentSpan current => (Tracer.currentSpan? alive current state).1
  | _ => none

theorem isNoop_perform (state : TracerState) (alive : Nat → Bool) (action : TracingAction) :
    (state.perform alive action).tracing.isNoop = action.switch?.getD state.tracing.isNoop := by
  rw [← state.switch?_asked alive action]
  exact (state.asks alive action).alike.noop.trans (RegistryStep.noop_after _)

theorem isNoop_after (state : TracerState) (steps : List TracingStep) :
    (state.after steps).tracing.isNoop =
      (steps.filterMap (·.action.switch?)).getLast?.getD state.tracing.isNoop := by
  induction steps generalizing state with
  | nil => rfl
  | cons step steps ih =>
    have hafter : state.after (step :: steps) =
        (state.perform step.alive step.action).after steps := rfl
    rw [hafter, ih, isNoop_perform]
    rw [List.filterMap_cons]
    cases step.action.switch? with
    | none => rfl
    | some value =>
      dsimp only
      rw [List.getLast?_cons]
      rfl

theorem notices_perform_of_isNoop {state : TracerState} (h : state.tracing.isNoop)
    (alive : Nat → Bool) (action : TracingAction) :
    (state.perform alive action).notices = state.notices := by
  have hsilent : (state.asking alive (state.asked alive action)).notices = [] :=
    RegistryStep.notices_of_noop h
  rw [(state.asks alive action).notices, hsilent, List.append_nil]

theorem keepsNothing_of_isNoop {state : TracerState} (h : state.tracing.isNoop)
    (creation : Creation) :
    Tracer.keepsNothing (creation.context state).2.tracing (creation.context state).1 := by
  have hnoop : (creation.context state).2.tracing.isNoop := by
    unfold Tracing.isNoop
    rw [(creation.context_frame state).1]
    exact h
  unfold Tracer.keepsNothing
  rw [hnoop, Bool.true_or]

theorem place_run_of_isNoop {state : TracerState} (h : state.tracing.isNoop) (alive : Nat → Bool)
    (creation : Creation) : (creation.run alive state).1.isNoop := by
  have hmade : Tracer.register alive creation.parent? (creation.context state).1
      (creation.context state).2 = _ := if_pos (keepsNothing_of_isNoop h creation)
  rw [creation.run_eq, Tracer.bind_apply, hmade]
  rfl

theorem spans_asked_of_isNoop {state : TracerState} (h : state.tracing.isNoop) (alive : Nat → Bool)
    (action : TracingAction) :
    (state.asking alive (state.asked alive action)).after.registry.pendings.map
        PendingSpan.identity =
      state.tracing.registry.pendings.map PendingSpan.identity := by
  -- only a creation asks for a span, and what it makes while recording is off keeps nothing
  have hnone : ∀ parent source context start,
      state.asked alive action ≠ .getOrCreate parent source context start := by
    intro parent source context start
    have hcreate : ∀ creation, state.askedToCreate alive creation ≠
        .getOrCreate parent source context start := by
      intro creation
      have hhold : state.askedToCreate alive creation = .hold alive :=
        if_pos (keepsNothing_of_isNoop h creation)
      rw [hhold]
      simp
    cases action with
    | create creation => exact hcreate creation
    | currentSpan current =>
      cases current with
      | none => simp [asked]
      | some made => exact hcreate (.toSpan made)
    | endSpan span ending =>
      unfold asked
      dsimp only
      split
      . simp
      . cases ending <;> simp [SpanEnding.action]
    | _ => simp [asked]
  cases RegistryState.spans_step ⟨state.tracing.registry, alive⟩ (state.asked alive action) with
  | inl hsame => exact hsame
  | inr hnew =>
    obtain ⟨parent, source, context, start, heq, _⟩ := hnew
    exact absurd heq (hnone parent source context start)

theorem isNoop_of_returned? {state : TracerState} (h : state.tracing.isNoop) {alive : Nat → Bool}
    {action : TracingAction} {span : SpanHandle} (hspan : state.returned? alive action = some span) :
    span.isNoop := by
  cases action with
  | create creation =>
    rw [← Option.some.inj hspan]
    exact place_run_of_isNoop h alive creation
  | currentSpan current =>
    cases current with
    | none => cases hspan
    | some source =>
      rw [← Option.some.inj hspan]
      exact place_run_of_isNoop h alive (.toSpan source)
  | _ => cases hspan

theorem isNoop_after_of_ne {state : TracerState} (h : state.tracing.isNoop)
    {steps : List TracingStep} (hsteps : ∀ step ∈ steps, step.action ≠ .setNoop false) :
    (state.after steps).tracing.isNoop := by
  rw [isNoop_after]
  cases hlast : (steps.filterMap (·.action.switch?)).getLast? with
  | none => exact h
  | some value =>
    obtain ⟨step, hstep, hswitch⟩ := List.mem_filterMap.1 (List.mem_of_getLast? hlast)
    have hne := TracingAction.switch?_ne_of_ne (hsteps step hstep)
    rw [hswitch] at hne
    simpa using hne

theorem notices_after_of_ne {state : TracerState} (h : state.tracing.isNoop)
    {steps : List TracingStep} (hsteps : ∀ step ∈ steps, step.action ≠ .setNoop false) :
    (state.after steps).notices = state.notices := by
  induction steps generalizing state with
  | nil => rfl
  | cons step steps ih =>
    rw [List.forall_mem_cons] at hsteps
    have hnoop : (state.after [step]).tracing.isNoop :=
      isNoop_after_of_ne h (List.forall_mem_singleton.2 hsteps.1)
    exact (ih hnoop hsteps.2).trans (notices_perform_of_isNoop h step.alive step.action)

/--
Once a tracing was closed, and as long as recording is not switched on again, it is off, no handler
was called since, and every span that is returned keeps nothing.
-/
theorem closed_until_switched_on (state : TracerState) (alive : Nat → Bool)
    {later : List TracingStep} (hlater : ∀ step ∈ later, step.action ≠ .setNoop false) :
    let last := (state.perform alive .close).after later
    last.tracing.isNoop ∧ last.notices = state.notices ∧
      ∀ alive action span, last.returned? alive action = some span → span.isNoop := by
  intro last
  have hclosed : (state.perform alive .close).tracing.isNoop := state.isNoop_perform alive .close
  have hnoop : last.tracing.isNoop := isNoop_after_of_ne hclosed hlater
  have hclose : (state.perform alive .close).notices = state.notices := rfl
  refine ⟨hnoop, (notices_after_of_ne hclosed hlater).trans hclose, ?_⟩
  intro alive action span hspan
  exact isNoop_of_returned? hnoop hspan

theorem closed_until_switched_on_finish :
    let alive := fun _ : Nat => true
    let config : TracerConfig :=
      ⟨"service", none, 0, .always, .counting, true, false, .fixed 1, .shared,
        [.memory "spans" false false []], []⟩
    let tracing : Tracing :=
      ⟨"service", .always, .counting, .shared, true, [],
        .ofHandlers (Tracing.template config) (Tracing.handlers config) (.fixed 1)⟩
    let create : TracingAction :=
      .create (.toSpan ⟨0, ⟨⟨1⟩, ⟨2⟩, none, none, .sampledYes, false, []⟩⟩)
    let start : TracerState := ⟨tracing, ⟨1, []⟩, []⟩
    let span : SpanHandle := ⟨⟨1, ⟨⟨1⟩, ⟨2⟩, none, some ⟨2⟩, .sampledYes, false, []⟩⟩, some 0⟩
    let opened := start.perform alive create
    let last := (opened.perform alive .close).after
      [⟨alive, .setNoop true⟩, ⟨alive, create⟩, ⟨alive, .endSpan span (.finish none)⟩]
    Tracing.ofConfig config = .ok tracing ∧ start.returned? alive create = some span ∧
      opened.notices.length = 2 ∧ last.tracing.isNoop ∧ last.notices = opened.notices ∧
      ∀ made, last.returned? alive create = some made → made.isNoop := by
  intro alive config tracing create start span opened last
  have hconfig : Tracing.ofConfig config = .ok tracing := if_neg (by decide +kernel)
  have hlater : ∀ step ∈ ([⟨alive, .setNoop true⟩, ⟨alive, create⟩,
      ⟨alive, .endSpan span (.finish none)⟩] : List TracingStep), step.action ≠ .setNoop false := by
    simp [create]
  obtain ⟨hnoop, hnotices, hspans⟩ := closed_until_switched_on opened alive hlater
  exact ⟨hconfig, by decide +kernel, by decide +kernel, hnoop, hnotices, hspans alive create⟩

/--
A closed tracing that is switched on again records, and calls handlers.
-/
theorem closed_then_switched_on :
    let alive := fun _ : Nat => true
    let config : TracerConfig :=
      ⟨"service", none, 0, .always, .counting, true, false, .fixed 1, .shared,
        [.memory "spans" false false []], []⟩
    let tracing : Tracing :=
      ⟨"service", .always, .counting, .shared, true, [],
        .ofHandlers (Tracing.template config) (Tracing.handlers config) (.fixed 1)⟩
    let create : TracingAction :=
      .create (.toSpan ⟨0, ⟨⟨1⟩, ⟨2⟩, none, none, .sampledYes, false, []⟩⟩)
    let closed := (TracerState.mk tracing ⟨1, []⟩ []).perform alive .close
    let reopened := closed.perform alive (.setNoop false)
    let span : SpanHandle := ⟨⟨1, ⟨⟨1⟩, ⟨2⟩, none, some ⟨2⟩, .sampledYes, false, []⟩⟩, some 0⟩
    let recorded := reopened.perform alive create
    let last := recorded.perform alive (.endSpan span (.finish none))
    Tracing.ofConfig config = .ok tracing ∧ closed.tracing.isNoop ∧
      reopened.tracing.isNoop = false ∧ reopened.returned? alive create = some span ∧
      (SpanNotice.beginnings recorded.notices).length = 2 ∧
      (SpanNotice.endings last.notices).length = 2 := by
  intro alive config tracing create closed reopened span recorded last
  have hconfig : Tracing.ofConfig config = .ok tracing := if_neg (by decide +kernel)
  refine ⟨hconfig, ?_⟩
  decide +kernel

end TracerState

end RequestTracing
