import Mathlib
import RequestTracing.Proofs.Recorder.Live
import RequestTracing.Proofs.Tracer.Faithful
import RequestTracing.Proofs.Tracer.Lasting

/-!
This module contains the life of a span, from its creation to its finish, with anything that is done
to the same tracing before and between. Main statement: a sampled span that is recorded until it is
finished is given out then, as an object that states the identity of its context.
-/

namespace RequestTracing

theorem Receives.getLast?_texts {encoder : SpanEncoder} {always : Bool} {others : List SpanHandler}
    {reading : Nat → UInt64} {ends : List SpanEnd} {ended : SpanEnd} {texts : List String}
    (h : Receives encoder always others reading (ends ++ [ended]) texts)
    (hreported : ended.isReported always) :
    ∃ taken, texts.getLast? = some (encoder.encode
      (handed ended.context ended.cause ended.recorded ⟨reading, taken⟩ others)) := by
  unfold Receives at h
  rw [List.filter_append, List.filter_cons_of_pos hreported, List.filter_nil,
    ← List.forall₂_reverse_iff, List.reverse_append] at h
  obtain ⟨text, rest, ⟨taken, htext⟩, _, hreverse⟩ := List.forall₂_cons_left_iff.1 h
  refine ⟨taken, ?_⟩
  rw [← List.head?_reverse, hreverse, htext]
  rfl

namespace Registry

variable {registry : Registry} {alive : Nat → Bool}

theorem exists_pending_getOrCreate (h : registry.Sound) (alive : Nat → Bool)
    (parent : Option Snapshot) (source : ContextInstance) (context : Snapshot) (start : Bool) :
    let made := registry.getOrCreate alive parent source context start
    ∃ pending, made.2.1.pendings[made.1]? = some pending := by
  intro made
  cases hfind : (registry.sweep alive).1.find? context.key with
  | some place =>
    have hmade : made = (place, registry.sweep alive) :=
      getOrCreate_eq_sweep hfind parent source start
    obtain ⟨pending, hpending, _⟩ :=
      (h.of_effect (h.effect_sweep alive)).pending _ (Lookup.mem_of_lookup_eq_some hfind)
    rw [hmade]
    exact ⟨pending, hpending⟩
  | none =>
    obtain ⟨pending, hpending, _⟩ :=
      Option.map_eq_some_iff.1 (source_getOrCreate_of_none parent source start hfind)
    exact ⟨pending, hpending⟩

theorem live?_of_tracks (h : registry.Sound) {place : Nat} {pending : PendingSpan}
    (hpending : registry.pendings[place]? = some pending) (htracks : registry.Tracks place)
    (halive : alive pending.source.number) :
    registry.live? alive pending.context.key = some place := by
  obtain ⟨entry, hentry, rfl⟩ := List.mem_map.1 htracks
  obtain ⟨known, hknown, hkey⟩ := h.pending entry hentry
  have hsame : known = pending := Option.some.inj (hknown.symm.trans hpending)
  rw [hsame] at hkey
  have hlive : registry.isLive alive entry.2 := by
    unfold isLive
    rw [hpending]
    exact halive
  rw [hkey]
  exact h.live?_eq hentry hlive

end Registry

namespace Tracer

theorem recorded_register {state : TracerState} (hsound : state.tracing.registry.Sound)
    (hon : state.tracing.isNoop = false) (alive : Nat → Bool) (parent : Option ContextInstance)
    (context : TraceContext BaggageRef) :
    let made := register alive parent context state
    made.1.source.context.sampled = some true → ∃ place, made.1.place = some place ∧
      made.2.tracing.registry.pendings[place]?.map PendingSpan.source = some made.1.source := by
  intro made hsampled
  let source := (state.heap.instantiate context).1
  have hmade := register_eq alive parent context state
  by_cases hnothing : keepsNothing state.tracing context
  . have hcontext : made.1.source.context = context :=
      congrArg (·.1.source.context) (hmade.trans (if_pos hnothing))
    rw [hcontext] at hsampled
    unfold keepsNothing at hnothing
    rw [hon, hsampled] at hnothing
    simp at hnothing
  . obtain ⟨pending, hpending⟩ := Registry.exists_pending_getOrCreate hsound alive
      (parent.map state.heap.view) source (state.heap.view source) false
    dsimp only [made]
    rw [hmade.trans (if_neg hnothing), hpending]
    exact ⟨_, rfl, congrArg (Option.map PendingSpan.source) hpending⟩

end Tracer

/--
Holds for services with a handler that encodes spans, behind others that let it know of every end.
No handler changes identifiers or flags of a span.
-/
structure TracerConfig.Reports (config : TracerConfig) (encoder : SpanEncoder) (always : Bool)
    (others : List SpanHandler) : Prop where
  handlers : ∃ name rest, config.handlers = others ++ .encoding name encoder always :: rest
  continues : ∀ handler ∈ others, handler.Continues
  keepsIdentity : ∀ handler ∈ config.handlers, handler.KeepsIdentity

theorem TracerConfig.Reports.identified {config : TracerConfig} {encoder : SpanEncoder}
    {always : Bool} {others : List SpanHandler} (h : config.Reports encoder always others)
    {tracing : Tracing} (hconfig : Tracing.ofConfig config = .ok tracing) :
    tracing.registry.Identified := by
  rw [Tracing.registry_of_ofConfig hconfig]
  refine ⟨?_, List.forall_mem_nil _⟩
  exact List.forall_mem_cons.2 ⟨SpanHandler.keepsIdentity_orphanTracker _ _ _, h.keepsIdentity⟩

/--
The life of a span of a service: what was done before it was created, how it was created, what was
done until it was finished, and when that was.
-/
structure SpanLife where
  config : TracerConfig
  tracing : Tracing
  ofConfig : Tracing.ofConfig config = .ok tracing
  heap : Heap
  earlier : List TracingStep
  alive : Nat → Bool
  creation : Creation
  later : List TracingStep
  aliveThen : Nat → Bool
  timestamp : Option UInt64

namespace SpanLife

def before (life : SpanLife) : TracerState :=
  (TracerState.mk life.tracing life.heap []).after life.earlier

def created (life : SpanLife) : SpanHandle × TracerState :=
  life.creation.run life.alive life.before

def span (life : SpanLife) : SpanHandle :=
  life.created.1

def context (life : SpanLife) : TraceContext BaggageRef :=
  life.span.source.context

def last (life : SpanLife) : TracerState :=
  life.created.2.after life.later

def finish (life : SpanLife) : TracingMoment :=
  ⟨life.last, ⟨life.aliveThen, .endSpan life.span (.finish life.timestamp)⟩⟩

/--
The object that the span is given out as when it is finished, by a handler behind the given ones.
Orphans are given out before.
-/
def object? (life : SpanLife) (others : List SpanHandler) : Option Json.Value :=
  (sunk (Tracing.ahead life.config others).length life.finish.notices).getLast?.bind Json.read?

/--
Holds for spans that are recorded from their creation on and are tracked until they are finished by
whoever holds on to them.
-/
structure Recorded (life : SpanLife) : Prop where
  begun : life.before.tracing.isNoop = false
  tracked : ∀ place ∈ life.span.place, life.last.tracing.registry.Tracks place
  held : life.aliveThen life.span.source.number
  ended : life.last.tracing.isNoop = false

variable {P : Registry → Prop}

theorem lasts_before (hP : Registry.Lasting P) {life : SpanLife} (h : P life.tracing.registry) :
    P life.before.tracing.registry :=
  TracerState.lasts_after hP h life.earlier

theorem lasts_last (hP : Registry.Lasting P) {life : SpanLife} (h : P life.tracing.registry) :
    P life.last.tracing.registry :=
  TracerState.lasts_after hP
    (TracerState.lasts_perform hP (lasts_before hP h) life.alive (.create life.creation)) life.later

theorem faithful_before (life : SpanLife) : life.before.tracing.registry.Faithful :=
  lasts_before Registry.lasting_faithful (Tracing.faithful_of_ofConfig life.ofConfig)

theorem faithful_last (life : SpanLife) : life.last.tracing.registry.Faithful :=
  lasts_last Registry.lasting_faithful (Tracing.faithful_of_ofConfig life.ofConfig)

theorem roles_last (life : SpanLife) :
    life.last.tracing.registry.chain.handlers.map SpanHandler.role =
      (Tracing.handlers life.config).map SpanHandler.role := by
  have hfaithful := Tracing.faithful_of_ofConfig life.ofConfig
  refine (lasts_last (Registry.lasting_roles _) ⟨hfaithful.toSound, ?_⟩).2
  rw [Tracing.registry_of_ofConfig life.ofConfig]
  rfl

theorem exists_pending {life : SpanLife} (h : life.Recorded)
    (hsampled : life.context.sampled = some true) :
    ∃ place pending, life.span.place = some place ∧
      life.last.tracing.registry.pendings[place]? = some pending ∧
      pending.source = life.span.source := by
  obtain ⟨hregistry, _⟩ := life.creation.context_frame life.before
  let ready := life.creation.context life.before
  let made := Tracer.register life.alive life.creation.parent? ready.1 ready.2
  have hrun : life.created = (made.1, made.2.recordAll made.1.place life.creation.entries) := by
    unfold created
    rw [life.creation.run_eq, Tracer.bind_apply]
  have hspan : life.span = made.1 := by
    unfold span
    rw [hrun]
  have hcreated : life.created.2 = made.2.recordAll made.1.place life.creation.entries :=
    congrArg Prod.snd hrun
  have hsound : ready.2.tracing.registry.Sound := hregistry ▸ life.faithful_before.toSound
  have hon : ready.2.tracing.isNoop = false :=
    (congrArg Registry.isNoop hregistry).trans h.begun
  have hmade : made.1.source.context.sampled = some true := hspan ▸ hsampled
  obtain ⟨place, hplace, hsource⟩ :=
    Tracer.recorded_register hsound hon life.alive life.creation.parent? ready.1 hmade
  -- the instance that a place belongs to outlasts the rest of the creation and all later steps
  have hlasting := Registry.lasting_source place made.1.source
  have hkept := TracerState.kept_recordAll hlasting.record hsource made.1.place
    life.creation.entries
  rw [← hcreated] at hkept
  obtain ⟨pending, hpending, hsame⟩ :=
    Option.map_eq_some_iff.1 (TracerState.lasts_after hlasting hkept life.later)
  rw [hspan]
  exact ⟨place, pending, hplace, hpending, hsame⟩

theorem exists_live {life : SpanLife} (h : life.Recorded)
    (hsampled : life.context.sampled = some true) :
    ∃ place pending, life.span.place = some place ∧
      life.last.tracing.registry.pendings[place]? = some pending ∧
      pending.source = life.span.source ∧
      life.last.tracing.registry.live? life.aliveThen
        (life.last.heap.view life.span.source).key = some place := by
  obtain ⟨place, pending, hplace, hpending, hsource⟩ := exists_pending h hsampled
  have hfaithful := life.faithful_last
  have hkey : (life.last.heap.view life.span.source).key = pending.context.key := by
    rw [hfaithful.context_eq hpending, hsource]
    rfl
  refine ⟨place, pending, hplace, hpending, hsource, ?_⟩
  rw [hkey]
  apply Registry.live?_of_tracks hfaithful.toSound hpending (h.tracked place hplace)
  rw [hsource]
  exact h.held

theorem action_asked_finish {life : SpanLife} {place : Nat} (hplace : life.span.place = some place) :
    life.finish.asked.action = .finish (life.last.heap.view life.span.source) life.timestamp := by
  have hreal : life.span.isNoop = false := by
    unfold SpanHandle.isNoop
    rw [hplace]
    rfl
  exact if_neg (Bool.eq_false_iff.1 hreal)

theorem exists_end {life : SpanLife} (h : life.Recorded)
    (hsampled : life.context.sampled = some true)
    (hidentified : life.last.tracing.registry.Identified) :
    ∃ (orphans : List SpanEnd) (own : SpanEnd),
      life.finish.asked.ends = orphans ++ [own] ∧
      own.context = life.last.heap.view life.span.source ∧ own.cause = .finished ∧
      own.recorded.reportedIdentity = life.context.reportedIdentity := by
  let registry := life.last.tracing.registry
  let context := life.last.heap.view life.span.source
  obtain ⟨place, pending, hplace, hpending, hsource, hlive⟩ := exists_live h hsampled
  let own : SpanEnd := ⟨place, context, .finished, Registry.stamped life.timestamp pending⟩
  have hown : registry.ownEnd? life.aliveThen context .finished
      (Registry.stamped life.timestamp) = some own := by
    unfold Registry.ownEnd?
    rw [hlive]
    dsimp only [Option.bind_eq_bind, Option.bind_some]
    rw [hpending]
    rfl
  refine ⟨registry.orphanEnds life.aliveThen, own, ?_, rfl, rfl, ?_⟩
  . have hon : life.finish.asked.before.registry.chain.noop = false := h.ended
    unfold RegistryStep.ends
    rw [action_asked_finish hplace, if_neg (Bool.eq_false_iff.1 hon)]
    exact congrArg (registry.orphanEnds life.aliveThen ++ ·.toList) hown
  . have hspan := hidentified.getElem? hpending
    rw [hsource] at hspan
    exact hspan

theorem exists_object {life : SpanLife} {encoder : SpanEncoder} {always : Bool}
    {others : List SpanHandler} (hreports : life.config.Reports encoder always others)
    (h : life.Recorded) (hsampled : life.context.sampled = some true) :
    ∃ object, life.object? others = some object ∧
      object.States life.context.reportedIdentity := by
  obtain ⟨name, rest, hhandlers⟩ := hreports.handlers
  let ahead := Tracing.ahead life.config others
  let reading := life.config.clock.reading
  have hfed : life.last.tracing.registry.Sound ∧
      life.last.tracing.registry.Feeds encoder always ahead reading :=
    lasts_last (Registry.lasting_feeds encoder always ahead reading)
      ⟨Tracing.sound_of_ofConfig life.ofConfig,
        Tracing.feeds_of_ofConfig life.ofConfig hhandlers hreports.continues⟩
  have hidentified : life.last.tracing.registry.Identified :=
    lasts_last Registry.lasting_identified (hreports.identified life.ofConfig)
  have hahead : ∀ handler ∈ ahead, handler.KeepsIdentity := by
    refine List.forall_mem_cons.2 ⟨SpanHandler.keepsIdentity_orphanTracker _ _ _, ?_⟩
    intro handler hhandler
    apply hreports.keepsIdentity
    rw [hhandlers]
    exact List.mem_append_left _ hhandler
  obtain ⟨orphans, own, hends, hcontext, hcause, hrecorded⟩ := exists_end h hsampled hidentified
  have hfeeds : life.finish.asked.before.registry.Feeds encoder always ahead reading := hfed.2
  have hreceives := RegistryStep.receives hfeeds hfed.1
  rw [hends, life.finish.notices_asked] at hreceives
  have hreported : own.isReported always := by
    have hsampled : own.context.sampled = some true := by rw [hcontext]; exact hsampled
    unfold SpanEnd.isReported SpanHandler.reports
    rw [hsampled, hcause]
    simp
  -- the span itself ends after all orphans, so its text is the last one
  obtain ⟨taken, hlast⟩ := hreceives.getLast?_texts hreported
  obtain ⟨object, hobject, hstates⟩ := encoder.exists_states
    (handed own.context own.cause own.recorded ⟨reading, taken⟩ ahead)
  rw [reportedIdentity_handed hahead, hrecorded] at hstates
  refine ⟨object, ?_, hstates⟩
  unfold object?
  rw [hlast, Option.bind_some]
  exact hobject

end SpanLife

end RequestTracing
