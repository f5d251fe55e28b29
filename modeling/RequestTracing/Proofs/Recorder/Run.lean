import Mathlib
import RequestTracing.Proofs.Recorder.Effect

/-!
This module contains runs of a registry: any operations on it, any recordings on its spans, the
switching of handlers and the coming and going of contexts, in any order. Main statement: each span
that was ever created is tracked or departed, once and for good, and the handlers were told about
its departure in a single pass where they are to be told, and else never.
-/

namespace RequestTracing

open SpanNotice (endings)

structure RegistryState where
  registry : Registry
  alive : Nat → Bool

inductive RegistryAction where
  | getOrCreate (parent : Option Snapshot) (source : ContextInstance) (context : Snapshot)
      (start : Bool)
  | get (key : SpanKey)
  | remove (key : SpanKey)
  | finish (context : Snapshot) (timestamp : Option UInt64)
  | flush (context : Snapshot)
  | abandon (context : Snapshot)
  | sweep
  | record (place : Nat) (f : SpanData → SpanData)
  | setNoop (value : Bool)
  | hold (alive : Nat → Bool)

def RegistryAction.way : RegistryAction → SpanKey → Option Fate
  | remove key => Registry.leave key .removed
  | finish context _ => Registry.leave context.key .finished
  | flush context => Registry.leave context.key .flushed
  | abandon context => Registry.leave context.key .abandoned
  | _ => Registry.stay

namespace RegistryState

def step (state : RegistryState) : RegistryAction → RegistryState × List SpanNotice
  | .getOrCreate parent source context start =>
    let (_, registry, notices) := state.registry.getOrCreate state.alive parent source context start
    ({ state with registry }, notices)
  | .get key =>
    let (_, registry, notices) := state.registry.get state.alive key
    ({ state with registry }, notices)
  | .remove key =>
    let (_, registry, notices) := state.registry.remove state.alive key
    ({ state with registry }, notices)
  | .finish context timestamp =>
    let (registry, notices) := state.registry.finish state.alive context timestamp
    ({ state with registry }, notices)
  | .flush context =>
    let (registry, notices) := state.registry.flush state.alive context
    ({ state with registry }, notices)
  | .abandon context =>
    let (registry, notices) := state.registry.abandon state.alive context
    ({ state with registry }, notices)
  | .sweep =>
    let (registry, notices) := state.registry.sweep state.alive
    ({ state with registry }, notices)
  | .record place f => ({ state with registry := state.registry.edit place f }, [])
  | .setNoop value => ({ state with registry := state.registry.setNoop value }, [])
  | .hold alive => ({ state with alive }, [])

end RegistryState

structure RegistryStep where
  before : RegistryState
  action : RegistryAction

namespace RegistryState

def after (state : RegistryState) : List RegistryAction → RegistryState
  | [] => state
  | action :: actions => (state.step action).1.after actions

def history (state : RegistryState) : List RegistryAction → List RegistryStep
  | [] => []
  | action :: actions => ⟨state, action⟩ :: (state.step action).1.history actions

end RegistryState

def Registry.Tracks (registry : Registry) (place : Nat) : Prop :=
  place ∈ registry.tracked.map (·.2)

instance (registry : Registry) (place : Nat) : Decidable (registry.Tracks place) :=
  inferInstanceAs (Decidable (place ∈ registry.tracked.map (·.2)))

theorem Registry.tracks_congr {registry other : Registry} (h : other.tracked = registry.tracked)
    {place : Nat} : other.Tracks place ↔ registry.Tracks place := by
  unfold Tracks
  rw [h]

namespace RegistryStep

def after (step : RegistryStep) : RegistryState :=
  (step.before.step step.action).1

def notices (step : RegistryStep) : List SpanNotice :=
  (step.before.step step.action).2

/--
The departure of a span in a step: as an orphan when its context is gone, else the way that the
action has for its key.
-/
def departure? (step : RegistryStep) (place : Nat) : Option Departure :=
  if step.before.registry.Tracks place ∧ ¬step.after.registry.Tracks place then do
    let pending ← step.before.registry.pendings[place]?
    let fate ← step.before.registry.fate? step.before.alive step.action.way
      (pending.context.key, place)
    return .ofChain step.before.registry.chain fate
  else
    none

/--
The calls of a step that tell handlers of the end of a span: those under the key that it is tracked
by.
-/
def callsFor (step : RegistryStep) (place : Nat) : List HandlerCall :=
  (endings step.notices).filter fun call =>
    step.before.registry.find? call.context.key = some place

end RegistryStep

def departures (history : List RegistryStep) (place : Nat) : List Departure :=
  history.filterMap fun step => step.departure? place

def callsFor (history : List RegistryStep) (place : Nat) : List HandlerCall :=
  history.flatMap fun step => step.callsFor place

namespace Registry.Sound

variable {registry : Registry} {key : SpanKey} {place : Nat}

theorem find?_eq_some_iff (h : Sound registry) :
    registry.find? key = some place ↔ (key, place) ∈ registry.tracked :=
  ⟨Lookup.mem_of_lookup_eq_some, Lookup.lookup_eq_some_of_mem h.keys⟩

theorem key_unique (h : Sound registry) (hmem : (key, place) ∈ registry.tracked) {other : SpanKey} :
    registry.find? other = some place ↔ other = key := by
  rw [h.find?_eq_some_iff]
  constructor
  . intro hother
    exact congrArg Prod.fst (List.inj_on_of_nodup_map h.places hother hmem rfl)
  . intro heq
    rwa [heq]

end Registry.Sound

inductive RegistryStep.Does (step : RegistryStep) : Prop where
  | operation (h : Registry.Effect step.before.alive step.action.way step.before.registry
      step.after.registry step.notices)
  | quiet (hspans : step.after.registry.pendings.map PendingSpan.identity =
        step.before.registry.pendings.map PendingSpan.identity)
      (hroles : step.after.registry.chain.handlers.map SpanHandler.role =
        step.before.registry.chain.handlers.map SpanHandler.role)
      (htracked : step.after.registry.tracked = step.before.registry.tracked)
      (hnotices : step.notices = [])

namespace RegistryStep

theorem does {step : RegistryStep} (h : step.before.registry.Sound) : step.Does := by
  obtain ⟨state, action⟩ := step
  cases action with
  | getOrCreate parent source context start =>
    exact .operation (h.effect_getOrCreate state.alive parent source context start)
  | get key => exact .operation (h.effect_sweep state.alive)
  | remove key =>
    exact .operation (h.effect_remove state.alive key (Departure.cause?_removed _))
  | finish context timestamp =>
    exact .operation (h.effect_depart state.alive context .finished
      (Registry.alike_stamp timestamp) (fun _ _ => rfl) (by simp))
  | flush context =>
    exact .operation (h.effect_depart state.alive context .flushed
      (fun registry _ => Registry.Alike.refl registry) (fun _ _ => rfl) (by simp))
  | abandon context => exact .operation (h.effect_abandon state.alive context)
  | sweep => exact .operation (h.effect_sweep state.alive)
  | record place f => exact .quiet (state.registry.alike_edit place f).spans rfl rfl rfl
  | setNoop value => exact .quiet rfl rfl rfl rfl
  | hold alive => exact .quiet rfl rfl rfl rfl

theorem sound_after {step : RegistryStep} (h : step.before.registry.Sound) :
    step.after.registry.Sound := by
  cases does h with
  | operation heffect => exact h.of_effect heffect
  | quiet hspans hroles htracked hnotices =>
    apply h.of_sublist hspans
    rw [htracked]

theorem roles_after {step : RegistryStep} (h : step.before.registry.Sound) :
    step.after.registry.chain.handlers.map SpanHandler.role =
      step.before.registry.chain.handlers.map SpanHandler.role := by
  cases does h with
  | operation heffect => exact heffect.roles
  | quiet hspans hroles htracked hnotices => exact hroles

inductive Outcome (step : RegistryStep) (place : Nat) : Prop where
  | stays (htracks : step.after.registry.Tracks place) (hnone : step.departure? place = none)
      (hcalls : step.callsFor place = []) (h : step.before.registry.Tracks place)
  | departs (pending : PendingSpan) (departure : Departure)
      (hpending : step.before.registry.pendings[place]? = some pending)
      (hsome : step.departure? place = some departure)
      (htold : Told step.before.registry.chain.handlers pending.context.key departure
        (step.callsFor place))
      (hgone : ¬step.after.registry.Tracks place) (h : step.before.registry.Tracks place)
  | untracked (hafter : step.after.registry.Tracks place →
        step.before.registry.pendings.length ≤ place)
      (hnone : step.departure? place = none) (hcalls : step.callsFor place = [])
      (h : ¬step.before.registry.Tracks place)

theorem departure?_of_not_tracks {step : RegistryStep} {place : Nat}
    (h : ¬step.before.registry.Tracks place) : step.departure? place = none := by
  unfold departure?
  rw [if_neg fun hboth => h hboth.1]

theorem departure?_of_tracks_after {step : RegistryStep} {place : Nat}
    (h : step.after.registry.Tracks place) : step.departure? place = none := by
  unfold departure?
  rw [if_neg fun hboth => hboth.2 h]

theorem callsFor_of_not_tracks {step : RegistryStep} {place : Nat}
    (h : ¬step.before.registry.Tracks place) : step.callsFor place = [] := by
  unfold callsFor
  rw [List.filter_eq_nil_iff]
  intro call _ hfind
  rw [decide_eq_true_eq] at hfind
  exact h (List.mem_map_of_mem (f := (·.2)) (Lookup.mem_of_lookup_eq_some hfind))

theorem callsFor_eq {step : RegistryStep} (h : step.before.registry.Sound) {key : SpanKey}
    {place : Nat} (hmem : (key, place) ∈ step.before.registry.tracked) :
    step.callsFor place = callsAbout key step.notices := by
  unfold callsFor callsAbout
  apply List.filter_congr
  intro call _
  rw [decide_eq_decide]
  exact h.key_unique hmem

theorem exists_subject {step : RegistryStep} (h : step.before.registry.Sound) {call : HandlerCall}
    (hcall : call ∈ endings step.notices) :
    ∃ place, step.before.registry.find? call.context.key = some place := by
  cases does h with
  | operation heffect =>
    by_contra hnone
    have hsilent : callsAbout call.context.key step.notices = [] := by
      apply heffect.announced.silent
      intro entry hentry hkey
      exact absurd ⟨entry.2, h.find?_eq_some_iff.2 (by rwa [← hkey])⟩ hnone
    unfold callsAbout at hsilent
    rw [List.filter_eq_nil_iff] at hsilent
    exact hsilent call hcall (decide_eq_true rfl)
  | quiet hspans hroles htracked hnotices =>
    rw [hnotices] at hcall
    simp [endings] at hcall

theorem mem_remaining_iff {registry : Registry} (h : registry.Sound) {alive : Nat → Bool}
    {way : SpanKey → Option Fate} {entry : SpanKey × Nat} (hentry : entry ∈ registry.tracked) :
    entry.2 ∈ (registry.remaining alive way).map (·.2) ↔
      registry.fate? alive way entry = none := by
  unfold Registry.remaining
  constructor
  . intro hmem
    obtain ⟨other, hother, hplace⟩ := List.mem_map.1 hmem
    have ⟨htracked, hnone⟩ := List.mem_filter.1 hother
    rw [← List.inj_on_of_nodup_map h.places htracked hentry hplace]
    exact Option.isNone_iff_eq_none.1 hnone
  . intro hnone
    apply List.mem_map_of_mem
    rw [List.mem_filter]
    exact ⟨hentry, Option.isNone_iff_eq_none.2 hnone⟩

theorem tracks_of_effect {alive : Nat → Bool} {way : SpanKey → Option Fate}
    {before after : Registry} {notices : List SpanNotice}
    (heffect : Registry.Effect alive way before after notices) {place : Nat}
    (hlt : place < before.pendings.length) :
    after.Tracks place ↔ place ∈ (before.remaining alive way).map (·.2) := by
  unfold Registry.Tracks
  rcases heffect.grown with ⟨_, htracked⟩ | ⟨source, context, _, htracked, _⟩
  . rw [htracked]
  . rw [htracked, List.map_append, List.mem_append, List.map_singleton, List.mem_singleton]
    constructor
    . intro hor
      cases hor with
      | inl hmem => exact hmem
      | inr heq => omega
    . exact Or.inl

theorem outcome_of_mem_tracked {step : RegistryStep} (h : step.before.registry.Sound)
    {entry : SpanKey × Nat} (hentry : entry ∈ step.before.registry.tracked) :
    step.Outcome entry.2 := by
  have htracks : step.before.registry.Tracks entry.2 := List.mem_map_of_mem hentry
  have ⟨pending, hpending, hkey⟩ := h.pending entry hentry
  have hcalls := callsFor_eq h hentry
  cases does h with
  | operation heffect =>
    have hiff := (tracks_of_effect heffect (h.place_lt hentry)).trans (mem_remaining_iff h hentry)
    cases hfate : step.before.registry.fate? step.before.alive step.action.way entry with
    | none =>
      have hafter := hiff.2 hfate
      apply Outcome.stays hafter (departure?_of_tracks_after hafter) _ htracks
      rw [hcalls]
      apply heffect.announced.silent
      intro other hother hsame
      rw [h.eq_of_key_eq hother hentry hsame, hfate]
    | some fate =>
      have hgone : ¬step.after.registry.Tracks entry.2 := by
        rw [hiff, hfate]
        simp
      apply Outcome.departs pending (.ofChain step.before.registry.chain fate) hpending _ _ hgone
        htracks
      . unfold departure?
        rw [if_pos ⟨htracks, hgone⟩, hpending]
        simp [hkey, hfate]
      . rw [hcalls, hkey]
        exact heffect.announced.told entry hentry fate hfate
  | quiet hspans hroles htracked hnotices =>
    have hafter : step.after.registry.Tracks entry.2 := by
      unfold Registry.Tracks
      rw [htracked]
      exact htracks
    apply Outcome.stays hafter (departure?_of_tracks_after hafter) _ htracks
    rw [hcalls, hnotices]
    rfl

theorem length_le_of_tracks_after {step : RegistryStep} (h : step.before.registry.Sound)
    {place : Nat} (htracks : ¬step.before.registry.Tracks place)
    (hafter : step.after.registry.Tracks place) :
    step.before.registry.pendings.length ≤ place := by
  cases does h with
  | operation heffect =>
    by_contra hlt
    have hmem := (tracks_of_effect heffect (Nat.lt_of_not_le hlt)).1 hafter
    exact htracks (((List.filter_sublist).map _).subset hmem)
  | quiet hspans hroles htracked hnotices =>
    unfold Registry.Tracks at hafter
    rw [htracked] at hafter
    exact absurd hafter htracks

theorem outcome {step : RegistryStep} (h : step.before.registry.Sound) (place : Nat) :
    step.Outcome place := by
  by_cases htracks : step.before.registry.Tracks place
  . obtain ⟨entry, hentry, rfl⟩ := List.mem_map.1 htracks
    exact outcome_of_mem_tracked h hentry
  . apply Outcome.untracked _ (departure?_of_not_tracks htracks) (callsFor_of_not_tracks htracks)
      htracks
    exact fun hafter => length_le_of_tracks_after h htracks hafter

theorem length_le {step : RegistryStep} (h : step.before.registry.Sound) :
    step.before.registry.pendings.length ≤ step.after.registry.pendings.length := by
  have hle : ∀ rest, step.after.registry.pendings.map PendingSpan.identity =
      step.before.registry.pendings.map PendingSpan.identity ++ rest →
      step.before.registry.pendings.length ≤ step.after.registry.pendings.length := by
    intro rest hspans
    have hlength := congrArg List.length hspans
    rw [List.length_append, List.length_map, List.length_map] at hlength
    omega
  cases does h with
  | operation heffect =>
    rcases heffect.grown with ⟨hspans, _⟩ | ⟨source, context, hspans, _⟩
    . exact hle [] (by rw [hspans, List.append_nil])
    . exact hle _ hspans
  | quiet hspans hroles htracked hnotices => exact hle [] (by rw [hspans, List.append_nil])

theorem exists_before {step : RegistryStep} (h : step.before.registry.Sound) {place : Nat}
    {pending : PendingSpan} (hpending : step.after.registry.pendings[place]? = some pending)
    (hgone : ¬step.after.registry.Tracks place) :
    ∃ p, step.before.registry.pendings[place]? = some p ∧ p.context = pending.context := by
  cases does h with
  | operation heffect =>
    rcases heffect.grown with ⟨hspans, _⟩ | ⟨source, context, hspans, htracked, _⟩
    . exact Registry.exists_pending_of_spans hspans.symm hpending
    . rcases Registry.pending_of_spans_eq_append hspans hpending with hold | ⟨heq, _⟩
      . exact hold
      . -- only the new span has no place before the step, and that one is tracked
        apply absurd _ hgone
        unfold Registry.Tracks
        rw [htracked, List.map_append, heq]
        exact List.mem_append_right _ (List.mem_singleton_self _)
  | quiet hspans hroles htracked hnotices =>
    exact Registry.exists_pending_of_spans hspans.symm hpending

end RegistryStep

theorem departures_append (history later : List RegistryStep) (place : Nat) :
    departures (history ++ later) place = departures history place ++ departures later place :=
  List.filterMap_append

theorem callsFor_append (history later : List RegistryStep) (place : Nat) :
    callsFor (history ++ later) place = callsFor history place ++ callsFor later place :=
  List.flatMap_append

theorem departures_singleton (step : RegistryStep) (place : Nat) :
    departures [step] place = (step.departure? place).toList := by
  unfold departures
  cases h : step.departure? place with
  | none => simp [h]
  | some departure => simp [h]

theorem callsFor_singleton (step : RegistryStep) (place : Nat) :
    callsFor [step] place = step.callsFor place := by
  unfold callsFor
  rw [List.flatMap_cons, List.flatMap_nil, List.append_nil]

/--
The invariant of runs: what departed was told about once, and nothing else was.
-/
structure Accounted (handlers : List SpanHandler) (history : List RegistryStep)
    (state : RegistryState) : Prop where
  sound : state.registry.Sound
  roles : state.registry.chain.handlers.map SpanHandler.role = handlers.map SpanHandler.role
  pending : ∀ place, state.registry.Tracks place ∨ state.registry.pendings.length ≤ place →
    departures history place = [] ∧ callsFor history place = []
  departed : ∀ place pending, state.registry.pendings[place]? = some pending →
    ¬state.registry.Tracks place → ∃ departure, departures history place = [departure] ∧
      Told handlers pending.context.key departure (callsFor history place)

theorem Accounted.start (template : SpanData) (handlers : List SpanHandler) (clock : PlatformClock)
    (alive : Nat → Bool) :
    Accounted handlers [] ⟨.ofHandlers template handlers clock, alive⟩ := by
  refine ⟨⟨List.nodup_nil, List.nodup_nil, ?_⟩, rfl, ?_, ?_⟩
  . intro entry hentry
    simp [Registry.ofHandlers] at hentry
  . intro place _
    exact ⟨rfl, rfl⟩
  . intro place pending hpending
    simp [Registry.ofHandlers] at hpending

theorem Accounted.of_alike {handlers : List SpanHandler} {history : List RegistryStep}
    {state other : RegistryState} (h : Accounted handlers history state)
    (halike : Registry.Alike other.registry state.registry)
    (htracked : other.registry.tracked = state.registry.tracked) :
    Accounted handlers history other where
  sound := h.sound.of_sublist halike.spans (by rw [htracked])
  roles := halike.roles.trans h.roles
  pending := by
    intro place hplace
    rw [Registry.tracks_congr htracked, halike.length_eq] at hplace
    exact h.pending place hplace
  departed := by
    intro place pending hpending hgone
    rw [Registry.tracks_congr htracked] at hgone
    obtain ⟨p, hp, hcontext⟩ := halike.symm.exists_pending hpending
    rw [← hcontext]
    exact h.departed place p hp hgone

theorem Accounted.step {handlers : List SpanHandler} {history : List RegistryStep}
    {state : RegistryState} (h : Accounted handlers history state) (action : RegistryAction) :
    Accounted handlers (history ++ [⟨state, action⟩]) (state.step action).1 := by
  have hsound : (RegistryStep.mk state action).before.registry.Sound := h.sound
  refine ⟨RegistryStep.sound_after hsound, (RegistryStep.roles_after hsound).trans h.roles, ?_, ?_⟩
  -- nothing departed so far from a place that is tracked or still free
  . intro place hplace
    rw [departures_append, callsFor_append, departures_singleton, callsFor_singleton]
    cases RegistryStep.outcome hsound place with
    | stays htracks hnone hcalls hbefore =>
      have ⟨hdepartures, hcallsFor⟩ := h.pending place (.inl hbefore)
      rw [hnone, hcalls, hdepartures, hcallsFor]
      exact ⟨rfl, rfl⟩
    | departs pending departure hpending hsome htold hgone hbefore =>
      have hlt := (List.getElem?_eq_some_iff.1 hpending).1
      cases hplace with
      | inl htracks => exact absurd htracks hgone
      | inr hle => exact absurd ((RegistryStep.length_le hsound).trans hle) (Nat.not_le_of_lt hlt)
    | untracked hafter hnone hcalls hbefore =>
      have hle : state.registry.pendings.length ≤ place := by
        cases hplace with
        | inl htracks => exact hafter htracks
        | inr hle => exact (RegistryStep.length_le hsound).trans hle
      have ⟨hdepartures, hcallsFor⟩ := h.pending place (.inr hle)
      rw [hnone, hcalls, hdepartures, hcallsFor]
      exact ⟨rfl, rfl⟩
  -- a place that is tracked no more departs in this step, or did so before
  . intro place pending hpending hgone
    rw [departures_append, callsFor_append, departures_singleton, callsFor_singleton]
    have ⟨p, hp, hcontext⟩ := RegistryStep.exists_before hsound hpending hgone
    cases RegistryStep.outcome hsound place with
    | stays htracks hnone hcalls hbefore => exact absurd htracks hgone
    | departs q departure hq hsome htold _ hbefore =>
      have ⟨hdepartures, hcallsFor⟩ := h.pending place (.inl hbefore)
      rw [hsome, hdepartures, hcallsFor, List.nil_append, List.nil_append]
      refine ⟨departure, rfl, ?_⟩
      have hsame : q = p := Option.some.inj (hq.symm.trans hp)
      rw [hsame, hcontext] at htold
      exact Registry.told_of_roles h.roles htold
    | untracked hafter hnone hcalls hbefore =>
      have ⟨departure, hdepartures, htold⟩ := h.departed place p hp hbefore
      rw [hnone, hcalls, hdepartures, Option.toList_none, List.append_nil, List.append_nil,
        ← hcontext]
      exact ⟨departure, rfl, htold⟩

theorem Accounted.run {handlers : List SpanHandler} {history : List RegistryStep}
    {state : RegistryState} (h : Accounted handlers history state) (actions : List RegistryAction) :
    Accounted handlers (history ++ state.history actions) (state.after actions) := by
  induction actions generalizing history state with
  | nil =>
    unfold RegistryState.history RegistryState.after
    rwa [List.append_nil]
  | cons action actions ih =>
    have := ih (h.step action)
    rwa [List.append_assoc] at this

theorem RegistryState.gone_for_good {state : RegistryState} (h : state.registry.Sound) {place : Nat}
    (hlt : place < state.registry.pendings.length) (hgone : ¬state.registry.Tracks place)
    (actions : List RegistryAction) :
    ¬(state.after actions).registry.Tracks place ∧
      departures (state.history actions) place = [] ∧
      callsFor (state.history actions) place = [] := by
  induction actions generalizing state with
  | nil => exact ⟨hgone, rfl, rfl⟩
  | cons action actions ih =>
    have hsound : (RegistryStep.mk state action).before.registry.Sound := h
    cases RegistryStep.outcome hsound place with
    | stays htracks hnone hcalls hbefore => exact absurd hbefore hgone
    | departs pending departure hpending hsome htold _ hbefore => exact absurd hbefore hgone
    | untracked hafter hnone hcalls _ =>
      have ⟨hlast, hdepartures, hcallsFor⟩ := ih (RegistryStep.sound_after hsound)
        (Nat.lt_of_lt_of_le hlt (RegistryStep.length_le hsound))
        (fun htracks => absurd (hafter htracks) (Nat.not_le_of_lt hlt))
      have hcons : state.history (action :: actions) =
          [⟨state, action⟩] ++ (state.step action).1.history actions := rfl
      rw [hcons, departures_append, callsFor_append, departures_singleton, callsFor_singleton,
        hnone, hcalls]
      exact ⟨hlast, hdepartures, hcallsFor⟩

theorem RegistryState.after_append (state : RegistryState) (actions later : List RegistryAction) :
    state.after (actions ++ later) = (state.after actions).after later := by
  induction actions generalizing state with
  | nil => rfl
  | cons action actions ih => exact ih _

theorem RegistryState.history_append (state : RegistryState)
    (actions later : List RegistryAction) :
    state.history (actions ++ later) =
      state.history actions ++ (state.after actions).history later := by
  induction actions generalizing state with
  | nil => rfl
  | cons action actions ih => exact congrArg (RegistryStep.mk state action :: ·) (ih _)

theorem RegistryState.sound_after {state : RegistryState} (h : state.registry.Sound)
    (actions : List RegistryAction) : (state.after actions).registry.Sound := by
  induction actions generalizing state with
  | nil => exact h
  | cons action actions ih =>
    have hsound : (RegistryStep.mk state action).before.registry.Sound := h
    apply ih
    apply RegistryStep.sound_after hsound

theorem RegistryState.exists_subject {state : RegistryState} (h : state.registry.Sound)
    {actions : List RegistryAction} {step : RegistryStep} (hstep : step ∈ state.history actions)
    {call : HandlerCall} (hcall : call ∈ endings step.notices) :
    ∃ place, step.before.registry.find? call.context.key = some place := by
  induction actions generalizing state with
  | nil => simp [RegistryState.history] at hstep
  | cons action actions ih =>
    have hsound : (RegistryStep.mk state action).before.registry.Sound := h
    cases List.mem_cons.1 hstep with
    | inl heq =>
      rw [heq] at hcall ⊢
      exact RegistryStep.exists_subject hsound hcall
    | inr hmem => exact ih (RegistryStep.sound_after hsound) hmem

/--
Each span that was ever created is tracked, with nothing told about its end, or it departed once and
for good. In that case handlers were told in a single pass with the cause of the departure, and not
at all where the departure has none; and they are never told about any other end.
-/
theorem RegistryState.departs_once (template : SpanData) (handlers : List SpanHandler)
    (clock : PlatformClock) (alive : Nat → Bool) (actions : List RegistryAction) :
    let start : RegistryState := ⟨.ofHandlers template handlers clock, alive⟩
    let last := start.after actions
    let history := start.history actions
    (∀ place pending, last.registry.pendings[place]? = some pending →
      (last.registry.Tracks place ∧ departures history place = [] ∧ callsFor history place = []) ∨
      (¬last.registry.Tracks place ∧ ∃ departure, departures history place = [departure] ∧
        Told handlers pending.context.key departure (callsFor history place) ∧
        ∀ later, ¬(start.after (actions ++ later)).registry.Tracks place ∧
          departures (start.history (actions ++ later)) place = [departure] ∧
          callsFor (start.history (actions ++ later)) place = callsFor history place)) ∧
    ∀ step ∈ history, ∀ call ∈ endings step.notices,
      ∃ place, step.before.registry.find? call.context.key = some place := by
  intro start last history
  have hstart : Accounted handlers [] start := Accounted.start template handlers clock alive
  have hlast : Accounted handlers history last := hstart.run actions
  constructor
  . intro place pending hpending
    by_cases htracks : last.registry.Tracks place
    . exact .inl ⟨htracks, hlast.pending place (.inl htracks)⟩
    . have ⟨departure, hdepartures, htold⟩ := hlast.departed place pending hpending htracks
      refine .inr ⟨htracks, departure, hdepartures, htold, ?_⟩
      intro later
      have hlt := (List.getElem?_eq_some_iff.1 hpending).1
      have ⟨hgone, hnone, hcalls⟩ := gone_for_good hlast.sound hlt htracks later
      rw [after_append, history_append, departures_append, callsFor_append]
      refine ⟨hgone, ?_, ?_⟩
      . rw [hnone, List.append_nil]
        exact hdepartures
      . rw [hcalls, List.append_nil]
  . intro step hstep call hcall
    exact exists_subject hstart.sound hstep hcall

theorem RegistryState.departs_once_orphaned :
    let context : Snapshot :=
      { traceId := ⟨1⟩, spanId := ⟨2⟩, parentId := none, localRootId := none, flags := .empty,
        shared := false, extra := [] }
    let source : ContextInstance :=
      ⟨0, { context with extra := [] }⟩
    let start : RegistryState :=
      ⟨.ofHandlers .empty [.memory "spans" false false []] (.fixed 1), fun _ => true⟩
    let actions : List RegistryAction :=
      [.getOrCreate none source context true, .hold fun _ => false, .sweep,
        .finish context none]
    ∃ pending, (start.after actions).registry.pendings[0]? = some pending ∧
      departures (start.history actions) 0 = [⟨.orphaned, false, false⟩] ∧
      Passed [.memory "spans" false false []] pending.context.key .orphaned
        (callsFor (start.history actions) 0) ∧
      ∀ later, ¬(start.after (actions ++ later)).registry.Tracks 0 := by
  intro context source start actions
  have hgone : ¬(start.after actions).registry.Tracks 0 := by decide +kernel
  have hdepartures : departures (start.history actions) 0 = [⟨.orphaned, false, false⟩] := by
    decide +kernel
  have hlt : 0 < (start.after actions).registry.pendings.length := by decide +kernel
  have hpending := List.getElem?_eq_getElem hlt
  have h := (departs_once .empty [.memory "spans" false false []] (.fixed 1) (fun _ => true)
    actions).1 0 _ hpending
  cases h with
  | inl h => exact absurd h.1 hgone
  | inr h =>
    have ⟨_, departure, hsingle, htold, hlater⟩ := h
    rw [hdepartures, List.cons.injEq] at hsingle
    rw [← hsingle.1] at htold
    exact ⟨_, hpending, hdepartures, htold, fun later => (hlater later).1⟩

end RequestTracing
