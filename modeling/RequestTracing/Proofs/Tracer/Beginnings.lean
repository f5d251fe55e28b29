import Mathlib
import RequestTracing.Proofs.Tracer.Creation

/-!
This module contains what handlers are told of a span over a run of a tracing whose recording stays
on. Main statement: a handler that is told of the end of a span was told of its beginning before,
and once, unless a handler before it in the chain kept the span from it.
-/

namespace RequestTracing

open SpanNotice (beginnings endings)

structure TracingMoment where
  before : TracerState
  step : TracingStep

namespace TracingMoment

def after (moment : TracingMoment) : TracerState :=
  moment.before.perform moment.step.alive moment.step.action

def notices (moment : TracingMoment) : List SpanNotice :=
  moment.after.notices.drop moment.before.notices.length

def beginningsFor (moment : TracingMoment) (place : Nat) : List HandlerCall :=
  if place = moment.before.tracing.registry.pendings.length then beginnings moment.notices else []

def endingsFor (moment : TracingMoment) (place : Nat) : List HandlerCall :=
  (endings moment.notices).filter fun call =>
    moment.before.tracing.registry.find? call.context.key = some place

end TracingMoment

def TracerState.history (state : TracerState) : List TracingStep → List TracingMoment
  | [] => []
  | step :: steps => ⟨state, step⟩ :: (state.perform step.alive step.action).history steps

def beginningsFor (history : List TracingMoment) (place : Nat) : List HandlerCall :=
  history.flatMap fun moment => moment.beginningsFor place

namespace TracingMoment

def asked (moment : TracingMoment) : RegistryStep :=
  moment.before.asking moment.step.alive (moment.before.asked moment.step.alive moment.step.action)

theorem switch?_asked (moment : TracingMoment) :
    moment.asked.action.switch? = moment.step.action.switch? :=
  moment.before.switch?_asked moment.step.alive moment.step.action

theorem notices_asked (moment : TracingMoment) : moment.asked.notices = moment.notices := by
  have hnotices : moment.after.notices = moment.before.notices ++ moment.asked.notices :=
    (moment.before.asks moment.step.alive moment.step.action).notices
  unfold notices
  rw [hnotices, List.drop_left]

theorem alike_asked (moment : TracingMoment) :
    Registry.Alike moment.after.tracing.registry moment.asked.after.registry :=
  (moment.before.asks moment.step.alive moment.step.action).alike

theorem tracked_asked (moment : TracingMoment) :
    moment.after.tracing.registry.tracked = moment.asked.after.registry.tracked :=
  (moment.before.asks moment.step.alive moment.step.action).tracked

theorem chain_asked (moment : TracingMoment) :
    moment.after.tracing.registry.chain = moment.asked.after.registry.chain :=
  (moment.before.asks moment.step.alive moment.step.action).chain

theorem exists_step (moment : TracingMoment) :
    ∃ step : RegistryStep, step.before.registry = moment.before.tracing.registry ∧
      step.action.switch? = moment.step.action.switch? ∧ step.notices = moment.notices ∧
      Registry.Alike moment.after.tracing.registry step.after.registry ∧
      moment.after.tracing.registry.tracked = step.after.registry.tracked :=
  ⟨moment.asked, rfl, moment.switch?_asked, moment.notices_asked, moment.alike_asked,
    moment.tracked_asked⟩

theorem heralded_after {moment : TracingMoment} {roles : List SpanHandler}
    {began : Nat → List HandlerCall}
    (h : moment.before.tracing.registry.Heralded roles began)
    (hon : moment.step.action.switch? ≠ some true) :
    moment.after.tracing.registry.Heralded roles fun place =>
      began place ++ moment.beginningsFor place := by
  have hbefore : moment.asked.before.registry.Heralded roles began := h
  rw [← moment.switch?_asked] at hon
  have hafter := (RegistryStep.heralded_after hbefore hon).of_alike moment.alike_asked
    moment.tracked_asked
  unfold RegistryStep.beginningsFor at hafter
  rw [moment.notices_asked] at hafter
  exact hafter

theorem sound_after {moment : TracingMoment} (h : moment.before.tracing.registry.Sound) :
    moment.after.tracing.registry.Sound ∧
      moment.before.tracing.registry.pendings.length ≤
        moment.after.tracing.registry.pendings.length := by
  have hbefore : moment.asked.before.registry.Sound := h
  have hsound := RegistryStep.sound_after hbefore
  refine ⟨hsound.of_sublist moment.alike_asked.spans (by rw [moment.tracked_asked]), ?_⟩
  rw [moment.alike_asked.length_eq]
  exact RegistryStep.length_le hbefore

end TracingMoment

theorem beginningsFor_cons (moment : TracingMoment) (history : List TracingMoment) (place : Nat) :
    beginningsFor (moment :: history) place =
      moment.beginningsFor place ++ beginningsFor history place :=
  List.flatMap_cons

theorem Tracing.begun_of_ofConfig {config : TracerConfig} {tracing : Tracing}
    (h : Tracing.ofConfig config = .ok tracing) :
    tracing.registry.Begun ((Tracing.handlers config).map SpanHandler.role) fun _ => [] := by
  have hsound := Tracing.sound_of_ofConfig h
  rw [Tracing.registry_of_ofConfig h] at hsound ⊢
  exact ⟨hsound, rfl, by simp [Registry.ofHandlers], by simp⟩

theorem Tracing.isNoop_of_ofConfig {config : TracerConfig} {tracing : Tracing}
    (h : Tracing.ofConfig config = .ok tracing) : tracing.isNoop = false := by
  unfold Tracing.isNoop
  rw [Tracing.registry_of_ofConfig h]
  rfl

theorem Tracing.heralded_of_ofConfig {config : TracerConfig} {tracing : Tracing}
    (h : Tracing.ofConfig config = .ok tracing) :
    tracing.registry.Heralded ((Tracing.handlers config).map SpanHandler.role) fun _ => [] :=
  ⟨begun_of_ofConfig h, isNoop_of_ofConfig h⟩

namespace TracerState

theorem heralded_after {state : TracerState} {roles : List SpanHandler}
    {began : Nat → List HandlerCall} (h : state.tracing.registry.Heralded roles began)
    {steps : List TracingStep} (hon : ∀ step ∈ steps, step.action.switch? ≠ some true) :
    (state.after steps).tracing.registry.Heralded roles fun place =>
      began place ++ beginningsFor (state.history steps) place := by
  induction steps generalizing state began with
  | nil =>
    unfold history beginningsFor
    simp only [List.flatMap_nil, List.append_nil]
    exact h
  | cons step steps ih =>
    rw [List.forall_mem_cons] at hon
    have hstep : (TracingMoment.mk state step).before.tracing.registry.Heralded roles began := h
    have hlast := ih (TracingMoment.heralded_after hstep hon.1) hon.2
    unfold history
    simp only [beginningsFor_cons, ← List.append_assoc]
    exact hlast

theorem beginningsFor_history {state : TracerState} (h : state.tracing.registry.Sound) {place : Nat}
    (hplace : place < state.tracing.registry.pendings.length) (steps : List TracingStep) :
    beginningsFor (state.history steps) place = [] := by
  induction steps generalizing state with
  | nil => rfl
  | cons step steps ih =>
    let moment : TracingMoment := ⟨state, step⟩
    have hbefore : moment.before.tracing.registry.Sound := h
    obtain ⟨hsound, hle⟩ := TracingMoment.sound_after hbefore
    have hfirst : moment.beginningsFor place = [] := if_neg hplace.ne
    have hhistory : state.history (step :: steps) = moment :: moment.after.history steps := rfl
    rw [hhistory, beginningsFor_cons, hfirst, ih hsound (hplace.trans_le hle)]
    rfl

/--
Whoever is told of the end of a span was told of its beginning before, once, and not again since,
unless a handler before it kept the span from it when it began; in that case it was not told.
-/
theorem ended_after_begun {config : TracerConfig} {tracing : Tracing}
    (hconfig : Tracing.ofConfig config = .ok tracing) (heap : Heap) {earlier : List TracingStep}
    (hon : ∀ step ∈ earlier, step.action.switch? ≠ some true) (step : TracingStep)
    (later : List TracingStep) :
    let start : TracerState := ⟨tracing, heap, []⟩
    let moment : TracingMoment := ⟨start.after earlier, step⟩
    ∀ call ∈ endings moment.notices, ∃ place, call ∈ moment.endingsFor place ∧
      let began := beginningsFor (start.history earlier) place
      (∀ other ∈ began, other.context.key = call.context.key ∧
        (other.place = call.place → other.handler.role = call.handler.role)) ∧
      (began.countP fun other => other.place = call.place) =
        (if began.any fun other => other.refuses && other.place < call.place then 0 else 1) ∧
      beginningsFor (moment :: moment.after.history later) place = [] := by
  intro start moment call hcall
  have hheralded : moment.before.tracing.registry.Heralded
      ((Tracing.handlers config).map SpanHandler.role) fun place =>
        [] ++ beginningsFor (start.history earlier) place :=
    heralded_after (Tracing.heralded_of_ofConfig hconfig : start.tracing.registry.Heralded _ _) hon
  have hsound := hheralded.sound
  obtain ⟨asked, hbefore, _, hnotices, _, _⟩ := moment.exists_step
  rw [← hnotices] at hcall
  -- a call at an end is of a tracked span, whose beginning the same handlers were told of
  have hamong := RegistryStep.among hcall
  obtain ⟨place, hfind⟩ := RegistryStep.exists_subject (hbefore ▸ hsound) hcall
  rw [hbefore] at hamong hfind
  rw [hnotices] at hcall
  have hentry := hsound.find?_eq_some_iff.1 hfind
  obtain ⟨pending, hpending, hkey⟩ := hsound.pending _ hentry
  have hheralds := hheralded.begun place pending hpending
  rw [hheralded.same] at hamong
  rw [hkey, List.nil_append] at hheralds
  refine ⟨place, List.mem_filter.2 ⟨hcall, decide_eq_true hfind⟩, ?_, ?_, ?_⟩
  . intro other hother
    exact ⟨hheralds.key other hother, hamong.role_eq (hheralds.among other hother)⟩
  . exact hheralds.once call.place hamong.le hamong.lt
  . exact beginningsFor_history hsound (hsound.place_lt hentry) (step :: later)

theorem ended_after_begun_memory :
    let alive := fun _ : Nat => true
    let config : TracerConfig :=
      ⟨"service", none, 0, .always, .counting, true, false, .fixed 1, .shared,
        [.memory "spans" false false []], []⟩
    let tracing : Tracing :=
      ⟨"service", .always, .counting, .shared, true, [],
        .ofHandlers (Tracing.template config) (Tracing.handlers config) (.fixed 1)⟩
    let start : TracerState := ⟨tracing, ⟨1, []⟩, []⟩
    let create : TracingStep :=
      ⟨alive, .create (.toSpan ⟨0, ⟨⟨1⟩, ⟨2⟩, none, none, .sampledYes, false, []⟩⟩)⟩
    let span : SpanHandle := ⟨⟨1, ⟨⟨1⟩, ⟨2⟩, none, some ⟨2⟩, .sampledYes, false, []⟩⟩, some 0⟩
    let moment : TracingMoment :=
      ⟨start.after [create], ⟨alive, .endSpan span (.finish none)⟩⟩
    Tracing.ofConfig config = .ok tracing ∧
      (∀ step ∈ [create], step.action.switch? ≠ some true) ∧
      (endings moment.notices).map (·.place) = [0, 1] ∧
      ∀ call ∈ endings moment.notices,
        ((beginningsFor (start.history [create]) 0).countP fun other =>
          other.place = call.place) = 1 := by
  intro alive config tracing start create span moment
  have hconfig : Tracing.ofConfig config = .ok tracing := if_neg (by decide +kernel)
  have hon : ∀ step ∈ [create], step.action.switch? ≠ some true := by decide
  have hplaces : (endings moment.notices).map (·.place) = [0, 1] := by decide +kernel
  have hsubject : ∀ call ∈ endings moment.notices,
      moment.before.tracing.registry.find? call.context.key = some 0 := by
    decide +kernel
  have hwilling : ∀ other ∈ beginningsFor (start.history [create]) 0, ¬other.refuses := by
    decide +kernel
  refine ⟨hconfig, hon, hplaces, ?_⟩
  intro call hcall
  obtain ⟨place, hmem, _, honce, _⟩ :=
    ended_after_begun hconfig ⟨1, []⟩ hon ⟨alive, .endSpan span (.finish none)⟩ [] call hcall
  have hfind := of_decide_eq_true (List.mem_filter.1 hmem).2
  have hplace : place = 0 := Option.some.inj (hfind.symm.trans (hsubject call hcall))
  rw [hplace] at honce
  have hany : ((beginningsFor (start.history [create]) 0).any fun other =>
      other.refuses && other.place < call.place) = false := by
    rw [List.any_eq_false]
    intro other hother
    simp [hwilling other hother]
  rw [honce, hany]
  rfl

/--
A handler that refuses a span at its beginning and not at its end: the handler after it is told of
the end only.
-/
theorem end_without_beginning :
    let alive := fun _ : Nat => true
    let config : TracerConfig :=
      ⟨"service", none, 0, .always, .counting, true, false, .fixed 1, .shared,
        [.supplied "first" (.constant false true none none false false),
          .memory "second" false false []], []⟩
    let tracing : Tracing :=
      ⟨"service", .always, .counting, .shared, true, [],
        .ofHandlers (Tracing.template config) (Tracing.handlers config) (.fixed 1)⟩
    let start : TracerState := ⟨tracing, ⟨1, []⟩, []⟩
    let create : TracingStep :=
      ⟨alive, .create (.toSpan ⟨0, ⟨⟨1⟩, ⟨2⟩, none, none, .sampledYes, false, []⟩⟩)⟩
    let span := (Tracer.toSpan alive ⟨0, ⟨⟨1⟩, ⟨2⟩, none, none, .sampledYes, false, []⟩⟩ start).1
    let moment : TracingMoment :=
      ⟨start.after [create], ⟨alive, .endSpan span (.finish none)⟩⟩
    Tracing.ofConfig config = .ok tracing ∧ start.tracing.isNoop = false ∧
      moment.after.tracing.isNoop = false ∧ span.place = some 0 ∧
      (endings moment.notices).map (fun call => (call.place, call.handler.name)) =
        [(0, ""), (1, "first"), (2, "second")] ∧
      (moment.endingsFor 0).map (·.place) = [0, 1, 2] ∧
      (beginningsFor (start.history [create]) 0).map (·.place) = [0, 1] := by
  intro alive config tracing start create span moment
  have hconfig : Tracing.ofConfig config = .ok tracing := if_neg (by decide +kernel)
  refine ⟨hconfig, ?_⟩
  decide +kernel

end TracerState

end RequestTracing
