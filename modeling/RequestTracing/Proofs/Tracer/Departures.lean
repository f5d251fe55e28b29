import Mathlib
import RequestTracing.Proofs.Tracer.Beginnings
import RequestTracing.Proofs.Tracer.Switch

/-!
This module contains what becomes of the spans of a tracing whose recording is switched off and on
any number of times. Main statement: while it is off no handler is called and no span is added, and
what departs is never reported; what is tracked still when it is on again is reported as ever, and
of each span that handlers are told the end of they were told the beginning.
-/

namespace RequestTracing

open SpanNotice (endings)

def endingsFor (history : List TracingMoment) (place : Nat) : List HandlerCall :=
  history.flatMap fun moment => moment.endingsFor place

def departuresFor (history : List TracingMoment) (place : Nat) : List Departure :=
  departures (history.map TracingMoment.asked) place

def SpanEnding.fate : SpanEnding → Fate
  | finish _ => .finished
  | abandon => .abandoned
  | flush => .flushed

theorem SpanEnding.way_action (context : Snapshot) (ending : SpanEnding) :
    (ending.action context).way = Registry.leave context.key ending.fate := by
  cases ending with
  | finish timestamp => rfl
  | abandon => rfl
  | flush => rfl

theorem TracerState.way_askedToRegister (state : TracerState) (alive : Nat → Bool)
    (parent : Option ContextInstance) (context : TraceContext BaggageRef) :
    (state.askedToRegister alive parent context).way = Registry.stay := by
  unfold askedToRegister
  split
  . rfl
  . rfl

theorem TracerState.way_asked (state : TracerState) (alive : Nat → Bool) (action : TracingAction) :
    (state.asked alive action).way = Registry.stay ∨ ∃ span ending,
      action = .endSpan span ending ∧
      (state.asked alive action).way =
        Registry.leave (state.heap.view span.source).key ending.fate := by
  cases action with
  | create creation => exact .inl (way_askedToRegister ..)
  | currentSpan current =>
    cases current with
    | none => exact .inl rfl
    | some source => exact .inl (way_askedToRegister ..)
  | endSpan span ending =>
    by_cases hnoop : span.isNoop
    . have hasked : state.asked alive (.endSpan span ending) = .hold alive := if_pos hnoop
      rw [hasked]
      exact .inl rfl
    . have hasked : state.asked alive (.endSpan span ending) =
          ending.action (state.heap.view span.source) := if_neg hnoop
      rw [hasked]
      exact .inr ⟨span, ending, rfl, ending.way_action _⟩
  | record place entry => exact .inl rfl
  | setNoop value => exact .inl rfl
  | close => exact .inl rfl
  | elsewhere heap => exact .inl rfl

theorem RegistryStep.departure_eq_ofChain {step : RegistryStep} {place : Nat} {pending : PendingSpan}
    (hpending : step.before.registry.pendings[place]? = some pending) {departure : Departure}
    (h : step.departure? place = some departure) :
    departure = .ofChain step.before.registry.chain departure.fate ∧
      step.before.registry.fate? step.before.alive step.action.way (pending.context.key, place) =
        some departure.fate := by
  unfold departure? at h
  split at h
  . obtain ⟨known, hknown, h⟩ := Option.bind_eq_some_iff.1 h
    obtain ⟨fate, hfate, h⟩ := Option.bind_eq_some_iff.1 h
    rw [← Option.some.inj (hknown.symm.trans hpending), hfate, ← Option.some.inj h]
    exact ⟨rfl, rfl⟩
  . cases h

namespace TracingMoment

/--
Live spans depart in the way in which they are ended, and the others as orphans.
-/
theorem departure_eq {moment : TracingMoment} {place : Nat} {pending : PendingSpan}
    (hpending : moment.before.tracing.registry.pendings[place]? = some pending)
    {departure : Departure} (h : moment.asked.departure? place = some departure) :
    departure = .ofChain moment.before.tracing.registry.chain departure.fate ∧
      if moment.before.tracing.registry.isLive moment.step.alive place then
        ∃ span ending, moment.step.action = .endSpan span ending ∧
          (moment.before.heap.view span.source).key = pending.context.key ∧
          departure.fate = ending.fate
      else departure.fate = .orphaned := by
  have hbefore : moment.asked.before.registry.pendings[place]? = some pending := hpending
  obtain ⟨hdeparture, hfate⟩ := RegistryStep.departure_eq_ofChain hbefore h
  refine ⟨hdeparture, ?_⟩
  by_cases hlive : moment.before.tracing.registry.isLive moment.step.alive place
  . rw [if_pos hlive]
    rw [Registry.fate?_of_live hlive] at hfate
    rcases moment.before.way_asked moment.step.alive moment.step.action with
      hstay | ⟨span, ending, haction, hleave⟩
    . have hnone := congrFun hstay pending.context.key
      rw [Registry.stay] at hnone
      cases hnone.symm.trans hfate
    . have hsome := (congrFun hleave pending.context.key).symm.trans hfate
      unfold Registry.leave at hsome
      split at hsome
      . next hkey => exact ⟨span, ending, haction, hkey.symm, (Option.some.inj hsome).symm⟩
      . cases hsome
  . rw [if_neg hlive]
    rw [Registry.fate?_of_not_live hlive] at hfate
    exact (Option.some.inj hfate).symm

theorem callsFor_asked (moment : TracingMoment) (place : Nat) :
    moment.asked.callsFor place = moment.endingsFor place := by
  unfold RegistryStep.callsFor endingsFor
  rw [moment.notices_asked]
  rfl

theorem tracks_asked (moment : TracingMoment) {place : Nat} :
    moment.after.tracing.registry.Tracks place ↔ moment.asked.after.registry.Tracks place :=
  Registry.tracks_congr moment.tracked_asked

theorem begun_after {moment : TracingMoment} {roles : List SpanHandler}
    {began : Nat → List HandlerCall} (h : moment.before.tracing.registry.Begun roles began) :
    moment.after.tracing.registry.Begun roles fun place =>
      began place ++ moment.beginningsFor place := by
  have hbefore : moment.asked.before.registry.Begun roles began := h
  have hafter := (RegistryStep.begun_after hbefore fun hoff =>
    TracerState.spans_asked_of_isNoop hoff moment.step.alive moment.step.action).of_alike
      moment.alike_asked moment.tracked_asked
  unfold RegistryStep.beginningsFor at hafter
  rw [moment.notices_asked] at hafter
  exact hafter

theorem accounted_after {moment : TracingMoment} {handlers : List SpanHandler}
    {history : List RegistryStep} {alive : Nat → Bool}
    (h : Accounted handlers history ⟨moment.before.tracing.registry, alive⟩) :
    Accounted handlers (history ++ [moment.asked]) ⟨moment.after.tracing.registry, alive⟩ := by
  -- which contexts were alive before is settled by the step itself
  have hbefore : Accounted handlers history moment.asked.before :=
    h.of_alike (Registry.Alike.refl _) rfl
  exact (hbefore.step moment.asked.action).of_alike moment.alike_asked moment.tracked_asked

end TracingMoment

theorem callsFor_asked (history : List TracingMoment) (place : Nat) :
    callsFor (history.map TracingMoment.asked) place = endingsFor history place := by
  unfold callsFor endingsFor
  rw [List.flatMap_map]
  simp only [TracingMoment.callsFor_asked]

theorem endingsFor_append (history later : List TracingMoment) (place : Nat) :
    endingsFor (history ++ later) place = endingsFor history place ++ endingsFor later place :=
  List.flatMap_append

theorem departuresFor_append (history later : List TracingMoment) (place : Nat) :
    departuresFor (history ++ later) place =
      departuresFor history place ++ departuresFor later place := by
  unfold departuresFor
  rw [List.map_append, departures_append]

theorem endingsFor_singleton (moment : TracingMoment) (place : Nat) :
    endingsFor [moment] place = moment.endingsFor place :=
  List.append_nil _

theorem departuresFor_singleton (moment : TracingMoment) (place : Nat) :
    departuresFor [moment] place = (moment.asked.departure? place).toList :=
  departures_singleton moment.asked place

namespace TracerState

theorem after_append (state : TracerState) (steps later : List TracingStep) :
    state.after (steps ++ later) = (state.after steps).after later :=
  List.foldl_append

theorem history_append (state : TracerState) (steps later : List TracingStep) :
    state.history (steps ++ later) = state.history steps ++ (state.after steps).history later := by
  induction steps generalizing state with
  | nil => rfl
  | cons step steps ih => exact congrArg (TracingMoment.mk state step :: ·) (ih _)

theorem begun_after {state : TracerState} {roles : List SpanHandler}
    {began : Nat → List HandlerCall} (h : state.tracing.registry.Begun roles began)
    (steps : List TracingStep) :
    (state.after steps).tracing.registry.Begun roles fun place =>
      began place ++ beginningsFor (state.history steps) place := by
  induction steps generalizing state began with
  | nil =>
    unfold history beginningsFor
    simp only [List.flatMap_nil, List.append_nil]
    exact h
  | cons step steps ih =>
    have hstep : (TracingMoment.mk state step).before.tracing.registry.Begun roles began := h
    have hlast := ih (TracingMoment.begun_after hstep)
    unfold history
    simp only [beginningsFor_cons, ← List.append_assoc]
    exact hlast

theorem accounted_after {state : TracerState} {handlers : List SpanHandler}
    {before : List RegistryStep} {alive : Nat → Bool}
    (h : Accounted handlers before ⟨state.tracing.registry, alive⟩) (steps : List TracingStep) :
    Accounted handlers (before ++ (state.history steps).map TracingMoment.asked)
      ⟨(state.after steps).tracing.registry, alive⟩ := by
  induction steps generalizing state before with
  | nil =>
    unfold history
    rw [List.map_nil, List.append_nil]
    exact h
  | cons step steps ih =>
    have hstep : Accounted handlers before
        ⟨(TracingMoment.mk state step).before.tracing.registry, alive⟩ := h
    have hlast := ih (TracingMoment.accounted_after hstep)
    unfold history
    rw [List.map_cons, List.append_cons]
    exact hlast

theorem gone_for_good {state : TracerState} (h : state.tracing.registry.Sound) {place : Nat}
    (hlt : place < state.tracing.registry.pendings.length)
    (hgone : ¬state.tracing.registry.Tracks place) (steps : List TracingStep) :
    ¬(state.after steps).tracing.registry.Tracks place ∧
      departuresFor (state.history steps) place = [] ∧
      endingsFor (state.history steps) place = [] := by
  induction steps generalizing state with
  | nil => exact ⟨hgone, rfl, rfl⟩
  | cons step steps ih =>
    let moment : TracingMoment := ⟨state, step⟩
    have hbefore : moment.before.tracing.registry.Sound := h
    have hasked : moment.asked.before.registry.Sound := h
    obtain ⟨hsound, hle⟩ := TracingMoment.sound_after hbefore
    obtain ⟨hafter, hdepartures, hcalls⟩ :=
      RegistryState.gone_for_good hasked hlt hgone [moment.asked.action]
    have hdeparture : departuresFor [moment] place = [] := hdepartures
    have hendings : endingsFor [moment] place = [] := by
      rw [← callsFor_asked]
      exact hcalls
    obtain ⟨hlast, hlater, hsilent⟩ :=
      ih hsound (hlt.trans_le hle) (fun htracks => hafter (moment.tracks_asked.1 htracks))
    have hhistory : state.history (step :: steps) = [moment] ++ moment.after.history steps := rfl
    rw [hhistory, departuresFor_append, endingsFor_append, hdeparture, hendings]
    exact ⟨hlast, hlater, hsilent⟩

end TracerState

theorem Tracing.accounted_of_ofConfig {config : TracerConfig} {tracing : Tracing}
    (h : Tracing.ofConfig config = .ok tracing) (alive : Nat → Bool) :
    Accounted (Tracing.handlers config) [] ⟨tracing.registry, alive⟩ := by
  rw [Tracing.registry_of_ofConfig h]
  apply Accounted.start

namespace TracingMoment

theorem tracked_of_isNoop {moment : TracingMoment} (hsound : moment.before.tracing.registry.Sound)
    (h : moment.before.tracing.isNoop) :
    moment.after.tracing.registry.tracked.Sublist moment.before.tracing.registry.tracked := by
  have hasked : moment.asked.before.registry.Sound := hsound
  have hspans := TracerState.spans_asked_of_isNoop h moment.step.alive moment.step.action
  rw [moment.tracked_asked]
  cases RegistryStep.does hasked with
  | operation heffect =>
    rcases heffect.grown with ⟨_, htracked⟩ | ⟨source, context, hgrown, _⟩
    . rw [htracked]
      exact List.filter_sublist
    . have hlength := Registry.length_of_spans_eq_append hgrown
      have hsame := congrArg List.length hspans
      rw [List.length_map, List.length_map] at hsame
      exact absurd (hsame.symm.trans hlength) (Nat.lt_succ_self _).ne
  | quiet _ _ htracked _ =>
    rw [htracked]
    exact List.Sublist.refl _

theorem mem_tracked_of_endSpan {moment : TracingMoment} {span : SpanHandle} {ending : SpanEnding}
    (haction : moment.step.action = .endSpan span ending) (hreal : span.isNoop = false)
    {entry : SpanKey × Nat} :
    entry ∈ moment.after.tracing.registry.tracked ↔
      entry ∈ moment.before.tracing.registry.tracked ∧
        moment.before.tracing.registry.isLive moment.step.alive entry.2 ∧
        entry.1 ≠ (moment.before.heap.view span.source).key := by
  have hasked : moment.asked.action = ending.action (moment.before.heap.view span.source) := by
    unfold asked TracerState.asking TracerState.asked
    rw [haction]
    exact if_neg (Bool.eq_false_iff.1 hreal)
  have hafter : moment.asked.after.registry =
      (moment.before.tracing.registry.endSpan moment.step.alive
        (moment.before.heap.view span.source) ending).1 := by
    unfold RegistryStep.after
    rw [hasked]
    exact congrArg (·.1.registry) (Registry.step_endSpan _ _ _ ending)
  rw [moment.tracked_asked, hafter, Registry.tracked_endSpan, Registry.mem_untrack_sweep]

theorem notices_of_isNoop {moment : TracingMoment} (h : moment.before.tracing.isNoop) :
    moment.notices = [] := by
  rw [← moment.notices_asked]
  exact RegistryStep.notices_of_noop h

theorem spans_of_isNoop {moment : TracingMoment} (h : moment.before.tracing.isNoop) :
    moment.after.tracing.registry.pendings.map PendingSpan.identity =
      moment.before.tracing.registry.pendings.map PendingSpan.identity := by
  apply moment.alike_asked.spans.trans
  exact TracerState.spans_asked_of_isNoop h moment.step.alive moment.step.action

theorem endingsFor_of_tracks {moment : TracingMoment}
    (hsound : moment.before.tracing.registry.Sound) {place : Nat}
    (hstays : moment.after.tracing.registry.Tracks place) : moment.endingsFor place = [] := by
  have hasked : moment.asked.before.registry.Sound := hsound
  rw [← moment.callsFor_asked]
  cases RegistryStep.outcome hasked place with
  | stays _ _ hcalls _ => exact hcalls
  | departs _ _ _ _ _ hgone _ => exact absurd (moment.tracks_asked.1 hstays) hgone
  | untracked _ _ hcalls _ => exact hcalls

theorem exists_heralded {moment : TracingMoment} {roles : List SpanHandler}
    {began : Nat → List HandlerCall} (h : moment.before.tracing.registry.Begun roles began)
    {call : HandlerCall} (hcall : call ∈ endings moment.notices) :
    ∃ place, moment.before.tracing.registry.find? call.context.key = some place ∧
      Heralds 0 roles call.context.key (began place) := by
  have hasked : moment.asked.before.registry.Sound := h.sound
  rw [← moment.notices_asked] at hcall
  obtain ⟨place, hfind⟩ := RegistryStep.exists_subject hasked hcall
  -- the span that is found is there under its own key, which is the key of the call
  obtain ⟨pending, hpending, hkey⟩ := h.sound.pending _ (h.sound.find?_eq_some_iff.1 hfind)
  have hheralds := h.begun place pending hpending
  rw [hkey] at hheralds
  exact ⟨place, hfind, hheralds⟩

end TracingMoment

namespace TracerState

theorem silent_of_tracks {start : TracerState} {handlers : List SpanHandler} {alive : Nat → Bool}
    {earlier : List TracingStep}
    (h : Accounted handlers ((start.history earlier).map TracingMoment.asked)
      ⟨(start.after earlier).tracing.registry, alive⟩)
    {place : Nat} (htracks : (start.after earlier).tracing.registry.Tracks place) :
    departuresFor (start.history earlier) place = [] ∧
      endingsFor (start.history earlier) place = [] := by
  rw [← callsFor_asked]
  exact h.pending place (.inl htracks)

theorem departs_for_good {start : TracerState} {handlers : List SpanHandler} {alive : Nat → Bool}
    {earlier : List TracingStep} {step : TracingStep}
    (h : Accounted handlers ((start.history earlier).map TracingMoment.asked)
      ⟨(start.after earlier).tracing.registry, alive⟩)
    {place : Nat} {pending : PendingSpan}
    (hpending : (start.after earlier).tracing.registry.pendings[place]? = some pending)
    (htracks : (start.after earlier).tracing.registry.Tracks place) :
    let moment : TracingMoment := ⟨start.after earlier, step⟩
    ¬moment.after.tracing.registry.Tracks place → ∃ departure,
      moment.asked.departure? place = some departure ∧
      Told handlers pending.context.key departure (moment.endingsFor place) ∧
      ∀ later, ¬(start.after (earlier ++ step :: later)).tracing.registry.Tracks place ∧
        departuresFor (start.history (earlier ++ step :: later)) place = [departure] ∧
        endingsFor (start.history (earlier ++ step :: later)) place = moment.endingsFor place := by
  intro moment hgone
  have hsound : moment.asked.before.registry.Sound := h.sound
  obtain ⟨hdepartures, hendings⟩ := silent_of_tracks h htracks
  cases RegistryStep.outcome hsound place with
  | stays hstays _ _ _ => exact absurd (moment.tracks_asked.2 hstays) hgone
  | untracked _ _ _ hnot => exact absurd htracks hnot
  | departs known departure hknown hdeparture htold _ _ =>
    have hsame : known = pending := Option.some.inj (hknown.symm.trans hpending)
    rw [hsame, moment.callsFor_asked] at htold
    refine ⟨departure, hdeparture, Registry.told_of_roles h.roles htold, ?_⟩
    intro later
    have hbefore : moment.before.tracing.registry.Sound := h.sound
    obtain ⟨hafter, hle⟩ := TracingMoment.sound_after hbefore
    have hlt := (List.getElem?_eq_some_iff.1 hpending).1.trans_le hle
    obtain ⟨hlast, hnone, hsilent⟩ := gone_for_good hafter hlt hgone later
    have hhistory : (start.after earlier).history (step :: later) =
        [moment] ++ moment.after.history later := rfl
    rw [after_append, history_append, hhistory, departuresFor_append, departuresFor_append,
      endingsFor_append, endingsFor_append, departuresFor_singleton, endingsFor_singleton,
      hdeparture, hdepartures, hendings, hnone, hsilent, List.append_nil, List.append_nil]
    exact ⟨hlast, rfl, rfl⟩

/--
Recording may be switched off and on at any time. While it is off no handler is called and no span
is added. Ending a span takes it from the registry, and so it does with the orphans, whether
recording is on or off. The handlers were told of the beginning of every span, and of no end of one
that is tracked. When it departs they are told so once, and of nothing if recording is off then, and
they are told of no other end of it later. Nothing else is told to handlers at the end of a span.
-/
theorem departs_as_switched {config : TracerConfig} {tracing : Tracing}
    (hconfig : Tracing.ofConfig config = .ok tracing) (heap : Heap) (earlier : List TracingStep)
    (step : TracingStep) :
    let roles := (Tracing.handlers config).map SpanHandler.role
    let start : TracerState := ⟨tracing, heap, []⟩
    let moment : TracingMoment := ⟨start.after earlier, step⟩
    let before := moment.before.tracing.registry
    let after := moment.after.tracing.registry
    (moment.before.tracing.isNoop → moment.notices = [] ∧ after.tracked.Sublist before.tracked ∧
      after.pendings.map PendingSpan.identity = before.pendings.map PendingSpan.identity) ∧
    (∀ span ending, step.action = .endSpan span ending → span.isNoop = false →
      ∀ entry, entry ∈ after.tracked ↔ entry ∈ before.tracked ∧
        before.isLive step.alive entry.2 ∧
        entry.1 ≠ (moment.before.heap.view span.source).key) ∧
    (∀ place pending, before.pendings[place]? = some pending →
      Heralds 0 roles pending.context.key (beginningsFor (start.history earlier) place) ∧
      (before.Tracks place → endingsFor (start.history earlier) place = []) ∧
      (before.Tracks place → after.Tracks place → moment.endingsFor place = []) ∧
      (before.Tracks place → ¬after.Tracks place → ∃ departure,
        departure = .ofChain before.chain departure.fate ∧
        (if before.isLive step.alive place then
          ∃ span ending, step.action = .endSpan span ending ∧
            (moment.before.heap.view span.source).key = pending.context.key ∧
            departure.fate = ending.fate
        else departure.fate = .orphaned) ∧
        Told (Tracing.handlers config) pending.context.key departure (moment.endingsFor place) ∧
        ∀ later, ¬(start.after (earlier ++ step :: later)).tracing.registry.Tracks place ∧
          departuresFor (start.history (earlier ++ step :: later)) place = [departure] ∧
          endingsFor (start.history (earlier ++ step :: later)) place =
            moment.endingsFor place) ∧
      (¬before.Tracks place → ∃ departure,
        departuresFor (start.history earlier) place = [departure])) ∧
    ∀ call ∈ endings moment.notices, ∃ place, before.find? call.context.key = some place ∧
      Heralds 0 roles call.context.key (beginningsFor (start.history earlier) place) := by
  intro roles start moment before after
  have hstart : start.tracing.registry.Begun roles fun _ => [] := Tracing.begun_of_ofConfig hconfig
  have hbegun : before.Begun roles fun place => [] ++ beginningsFor (start.history earlier) place :=
    begun_after hstart earlier
  have hnothing : Accounted (Tracing.handlers config) [] ⟨start.tracing.registry, step.alive⟩ :=
    Tracing.accounted_of_ofConfig hconfig step.alive
  have haccounted : Accounted (Tracing.handlers config)
      ((start.history earlier).map TracingMoment.asked) ⟨before, step.alive⟩ :=
    accounted_after hnothing earlier
  refine ⟨?_, ?_, ?_, fun call hcall => TracingMoment.exists_heralded hbegun hcall⟩
  . intro hoff
    exact ⟨TracingMoment.notices_of_isNoop hoff,
      TracingMoment.tracked_of_isNoop hbegun.sound hoff, TracingMoment.spans_of_isNoop hoff⟩
  . intro span ending haction hreal entry
    exact TracingMoment.mem_tracked_of_endSpan haction hreal
  . intro place pending hpending
    refine ⟨hbegun.begun place pending hpending,
      fun htracks => (silent_of_tracks haccounted htracks).2,
      fun _ hstays => TracingMoment.endingsFor_of_tracks hbegun.sound hstays, ?_, ?_⟩
    . intro htracks hgone
      obtain ⟨departure, hdeparture, htold, hlater⟩ :=
        departs_for_good haccounted hpending htracks hgone
      obtain ⟨hchain, hfate⟩ := TracingMoment.departure_eq hpending hdeparture
      exact ⟨departure, hchain, hfate, htold, hlater⟩
    . intro hgone
      obtain ⟨departure, hdepartures, _⟩ := haccounted.departed place pending hpending hgone
      exact ⟨departure, hdepartures⟩

theorem departs_as_switched_twice :
    let alive := fun _ : Nat => true
    let config : TracerConfig :=
      ⟨"service", none, 0, .always, .counting, true, false, .fixed 1, .shared,
        [.memory "spans" false false []], []⟩
    let tracing : Tracing :=
      ⟨"service", .always, .counting, .shared, true, [],
        .ofHandlers (Tracing.template config) (Tracing.handlers config) (.fixed 1)⟩
    let start : TracerState := ⟨tracing, ⟨1, []⟩, []⟩
    let create : TracingStep :=
      ⟨alive, .create (.toSpan ⟨0, ⟨⟨1⟩, ⟨2⟩, none, none, .sampledYes, false, []⟩⟩)⟩
    let createOther : TracingStep :=
      ⟨alive, .create (.toSpan ⟨0, ⟨⟨3⟩, ⟨4⟩, none, none, .sampledYes, false, []⟩⟩)⟩
    let span : SpanHandle := ⟨⟨1, ⟨⟨1⟩, ⟨2⟩, none, some ⟨2⟩, .sampledYes, false, []⟩⟩, some 0⟩
    let other : SpanHandle := ⟨⟨2, ⟨⟨3⟩, ⟨4⟩, none, some ⟨4⟩, .sampledYes, false, []⟩⟩, some 1⟩
    let earlier : List TracingStep := [create, createOther, ⟨alive, .setNoop true⟩]
    let finish : TracingStep := ⟨alive, .endSpan span (.finish none)⟩
    let moment : TracingMoment := ⟨start.after earlier, finish⟩
    let last : TracingMoment :=
      ⟨start.after (earlier ++ [finish, ⟨alive, .setNoop false⟩]),
        ⟨alive, .endSpan other (.finish none)⟩⟩
    Tracing.ofConfig config = .ok tracing ∧ moment.before.tracing.isNoop ∧
      moment.before.tracing.registry.Tracks 0 ∧
      (∀ later, ¬(start.after (earlier ++ finish :: later)).tracing.registry.Tracks 0 ∧
        endingsFor (start.history (earlier ++ finish :: later)) 0 = []) ∧
      (last.endingsFor 1).map (·.place) = [0, 1] := by
  intro alive config tracing start create createOther span other earlier finish moment last
  have hconfig : Tracing.ofConfig config = .ok tracing := if_neg (by decide +kernel)
  have hoff : moment.before.tracing.isNoop := by decide +kernel
  have htracks : moment.before.tracing.registry.Tracks 0 := by decide +kernel
  have hgone : ¬moment.after.tracing.registry.Tracks 0 := by decide +kernel
  have hlt : 0 < moment.before.tracing.registry.pendings.length := by decide +kernel
  obtain ⟨_, _, hspans, _⟩ := departs_as_switched hconfig ⟨1, []⟩ earlier finish
  obtain ⟨_, _, _, hdeparts, _⟩ := hspans 0 _ (List.getElem?_eq_getElem hlt)
  obtain ⟨departure, hchain, _, htold, hlater⟩ := hdeparts htracks hgone
  unfold Told at htold
  rw [hchain, Departure.cause?_of_noop hoff] at htold
  refine ⟨hconfig, hoff, htracks, ?_, by decide +kernel⟩
  intro later
  obtain ⟨hlast, _, hendings⟩ := hlater later
  exact ⟨hlast, hendings.trans htold⟩

end TracerState

end RequestTracing
