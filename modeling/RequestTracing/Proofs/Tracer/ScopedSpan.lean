import Mathlib
import RequestTracing.Proofs.Scope.Nested
import RequestTracing.Proofs.Tracer.Start

/-!
This module contains programs of spans that are current until they are finished, nested in any way.
Main statement: spans and reports mirror the nesting. Each span is a child of the one around it, all
inside an outermost span are in its trace, and those that are recorded are reported once, when they
finish, after the ones inside them; then what was current before is current again.
-/

namespace RequestTracing

inductive ScopedProgram where
  | done
  /--
  Starts a span, runs a program until it is finished, and goes on with another one. Other code keeps
  instances alive, not always the same when the span starts and when it is finished.
  -/
  | span (name : String) (heldBefore heldAfter : Nat → Bool) (inside rest : ScopedProgram)

inductive SpanTree where
  | done
  | span (handle : SpanHandle) (inside rest : SpanTree)

structure ScopedState where
  tracer : TracerState
  ambient : Ambient ContextInstance
  faults : List OutOfOrderClose

namespace ScopedState

def current (state : ScopedState) : Option ContextInstance :=
  state.tracer.tracing.current.get state.ambient.thread

def depth (state : ScopedState) : Nat :=
  (state.tracer.tracing.current.stack state.ambient.thread).depth

def start (alive : Nat → Bool) (name : String) (state : ScopedState) : ScopedSpan × ScopedState :=
  let access := state.tracer.tracing.current
  let made := Tracer.startNamed alive state.current name state.tracer
  let entered := access.openScope made.2.heap.view (some made.1.source) state.ambient
  (⟨made.1, entered.1⟩, ⟨made.2, entered.2, state.faults⟩)

def finish (alive : Nat → Bool) (scopedSpan : ScopedSpan) (state : ScopedState) : ScopedState :=
  match CurrentContext.closeScope scopedSpan.scope state.ambient with
  | (some fault, ambient) => { state with ambient, faults := state.faults ++ [fault] }
  | (none, ambient) =>
    { state with tracer := state.tracer.endSpan alive scopedSpan.span (.finish none), ambient }

end ScopedState

def keeping (held : Nat → Bool) (spans : List SpanHandle) : Nat → Bool :=
  fun number => held number || spans.any fun span => span.source.number == number

namespace ScopedProgram

def height : ScopedProgram → Nat
  | done => 0
  | span _ _ _ inside rest => max (inside.height + 1) rest.height

/--
The span IDs that a source gives out for a program, in order, where something is current or not, and
the source then.
-/
def draw (inTrace : Bool) : ScopedProgram → IdSource → List SpanId × IdSource
  | done, ids => ([], ids)
  | span _ _ _ inside rest, ids =>
    let taken := ids.takeForSpan inTrace
    let below := inside.draw true taken.2
    let beside := rest.draw inTrace below.2
    (taken.1 :: (below.1 ++ beside.1), beside.2)

def run (spans : List SpanHandle) : ScopedProgram → ScopedState → SpanTree × ScopedState
  | done, state => (.done, state)
  | span name heldBefore heldAfter inside rest, state =>
    let started := state.start (keeping heldBefore spans) name
    let inner := started.1.span :: spans
    let below := inside.run inner started.2
    let beside := rest.run spans (below.2.finish (keeping heldAfter inner) started.1)
    (.span started.1.span below.1 beside.1, beside.2)

def trace (spans : List SpanHandle) (current : Option ContextInstance) :
    ScopedProgram → TracerState → SpanTree × TracerState
  | done, state => (.done, state)
  | span name heldBefore heldAfter inside rest, state =>
    let started := Tracer.startNamed (keeping heldBefore spans) current name state
    let inner := started.1 :: spans
    let below := inside.trace inner (some started.1.source) started.2
    let beside := rest.trace spans current
      (below.2.endSpan (keeping heldAfter inner) started.1 (.finish none))
    (.span started.1 below.1 beside.1, beside.2)

end ScopedProgram

structure TraceContext.Accompanies (context first : TraceContext BaggageRef) : Prop where
  traceId : context.traceId = first.traceId
  sampled : context.sampled = first.sampled
  localRootId : context.localRootId = first.localRootId

theorem TraceContext.Accompanies.trans {context between first : TraceContext BaggageRef}
    (h : context.Accompanies between) (hfirst : between.Accompanies first) :
    context.Accompanies first :=
  ⟨h.traceId.trans hfirst.traceId, h.sampled.trans hfirst.sampled,
    h.localRootId.trans hfirst.localRootId⟩

namespace SpanTree

def spans : SpanTree → List SpanHandle
  | done => []
  | span handle inside rest => handle :: (inside.spans ++ rest.spans)

def finished : SpanTree → List SpanHandle
  | done => []
  | span handle inside rest => inside.finished ++ ([handle] ++ rest.finished)

def recorded (tree : SpanTree) : List SpanHandle :=
  tree.finished.filter fun span => !span.isNoop

def Under (parentId : Option SpanId) : SpanTree → Prop
  | done => True
  | span handle inside rest =>
    handle.source.context.parentId = parentId ∧
      inside.Under (some handle.source.context.spanId) ∧ rest.Under parentId

/--
All spans inside an outermost span accompany it; it has a sampling decision, and where it has no
parent it is the local root.
-/
def OfOneTrace : SpanTree → Prop
  | done => True
  | span handle inside rest =>
    handle.source.context.sampled.isSome ∧
      (handle.source.context.parentId = none → handle.source.context.isLocalRoot) ∧
      (∀ below ∈ inside.spans, below.source.context.Accompanies handle.source.context) ∧
      rest.OfOneTrace

def Descends (parent : Option (TraceContext BaggageRef)) : SpanTree → Prop
  | done => True
  | span handle inside rest =>
    handle.source.context.Descends parent ∧
      inside.Descends (some handle.source.context) ∧ rest.Descends parent

variable {tree : SpanTree}

theorem Descends.under {parent : Option (TraceContext BaggageRef)} (h : tree.Descends parent) :
    tree.Under (parent.map (·.spanId)) := by
  induction tree generalizing parent with
  | done => trivial
  | span handle inside rest ihInside ihRest =>
    obtain ⟨hhandle, hinside, hrest⟩ := h
    exact ⟨hhandle.parentId, ihInside hinside, ihRest hrest⟩

theorem Descends.accompanies {first : TraceContext BaggageRef} (h : tree.Descends (some first))
    (hdecided : first.sampled.isSome) (hroot : first.localRootId.isSome) :
    ∀ below ∈ tree.spans, below.source.context.Accompanies first := by
  induction tree generalizing first with
  | done => simp [spans]
  | span handle inside rest ihInside ihRest =>
    obtain ⟨hhandle, hinside, hrest⟩ := h
    obtain ⟨root, hsome⟩ := Option.isSome_iff_exists.1 hroot
    have hfirst : handle.source.context.Accompanies first := by
      refine ⟨hhandle.traceId first rfl, hhandle.sampled first rfl hdecided, ?_⟩
      rw [hhandle.localRootId, Option.bind_some, hsome]
      rfl
    have hbelow := ihInside hinside hhandle.decided (by rw [hfirst.localRootId]; exact hroot)
    intro below hmem
    cases List.mem_cons.1 hmem with
    | inl heq =>
      rw [heq]
      exact hfirst
    | inr hmem =>
      cases List.mem_append.1 hmem with
      | inl hin => exact (hbelow below hin).trans hfirst
      | inr hin => exact ihRest hrest hdecided hroot below hin

theorem Descends.ofOneTrace {parent : Option (TraceContext BaggageRef)} (h : tree.Descends parent) :
    tree.OfOneTrace := by
  induction tree with
  | done => trivial
  | span handle inside rest _ ihRest =>
    obtain ⟨hhandle, hinside, hrest⟩ := h
    refine ⟨hhandle.decided, ?_, ?_, ihRest hrest⟩
    . intro hparent
      rw [hhandle.parentId, Option.map_eq_none_iff] at hparent
      unfold TraceContext.isLocalRoot
      rw [hhandle.localRootId, hparent]
      exact beq_self_eq_true _
    . apply hinside.accompanies hhandle.decided
      rw [hhandle.localRootId]
      rfl

end SpanTree

open Registry (Hosts Held)

theorem held_keeping (held : Nat → Bool) (spans : List SpanHandle) :
    Held (keeping held spans) spans := by
  intro span hspan
  unfold keeping
  rw [Bool.or_eq_true, List.any_eq_true]
  exact .inr ⟨span, hspan, beq_self_eq_true _⟩

theorem TracerState.current_endSpan (alive : Nat → Bool) (state : TracerState) (span : SpanHandle)
    (ending : SpanEnding) :
    (state.endSpan alive span ending).tracing.current = state.tracing.current := by
  unfold endSpan
  split
  . rfl
  . rfl

theorem TracerState.ids_endSpan (alive : Nat → Bool) (state : TracerState) (span : SpanHandle)
    (ending : SpanEnding) : (state.endSpan alive span ending).tracing.ids = state.tracing.ids := by
  unfold endSpan
  split
  . rfl
  . rfl

namespace ScopedState

variable {state other : ScopedState} {opened : List (OpenScope ContextInstance)}

theorem current_congr (haccess : other.tracer.tracing.current = state.tracer.tracing.current)
    (hstack : other.ambient.thread.stack? = state.ambient.thread.stack?) :
    other.current = state.current := by
  unfold current
  rw [haccess, CurrentContext.get_congr hstack]

theorem depth_congr (haccess : other.tracer.tracing.current = state.tracer.tracing.current)
    (hstack : other.ambient.thread.stack? = state.ambient.thread.stack?) :
    other.depth = state.depth := by
  unfold depth CurrentContext.stack
  rw [haccess, hstack]

theorem access_start (alive : Nat → Bool) (name : String) (state : ScopedState) :
    (state.start alive name).2.tracer.tracing.current = state.tracer.tracing.current :=
  Tracer.current_startNamed ..

theorem current_start (hroom : state.depth + 1 < ContextStack.overflowPosition)
    (alive : Nat → Bool) (name : String) :
    (state.start alive name).2.current = some (state.start alive name).1.span.source := by
  unfold current
  rw [access_start]
  exact (CurrentContext.get_openScope ..).trans (if_pos (decide_eq_true hroom))

theorem depth_start_le (alive : Nat → Bool) (name : String) (state : ScopedState) :
    (state.start alive name).2.depth ≤ state.depth + 1 := by
  unfold depth CurrentContext.stack
  rw [access_start]
  unfold start
  dsimp only
  rw [CurrentContext.stack?_openScope_self]
  exact ContextStack.depth_openScope_le _ _

theorem finish_start (h : state.ambient.thread.Follows opened) (alive later : Nat → Bool)
    (name : String) (inside : ScopedState) (hinside : inside.ambient.thread.stack? =
      (state.start alive name).2.ambient.thread.stack?) :
    let scopedSpan := (state.start alive name).1
    ∃ ambient, inside.finish later scopedSpan =
        ⟨inside.tracer.endSpan later scopedSpan.span (.finish none), ambient, inside.faults⟩ ∧
      ambient.thread.stack? = state.ambient.thread.stack? := by
  intro scopedSpan
  obtain ⟨hfault, hkept⟩ := CurrentContext.closeScope_openScope _ h _ _ hinside
  have hclose : CurrentContext.closeScope scopedSpan.scope inside.ambient =
      (none, (CurrentContext.closeScope scopedSpan.scope inside.ambient).2) := Prod.ext hfault rfl
  refine ⟨(CurrentContext.closeScope scopedSpan.scope inside.ambient).2, ?_, hkept⟩
  unfold finish
  rw [hclose]

end ScopedState

namespace ScopedProgram

theorem current_trace (program : ScopedProgram) (spans : List SpanHandle)
    (current : Option ContextInstance) (state : TracerState) :
    (program.trace spans current state).2.tracing.current = state.tracing.current := by
  induction program generalizing spans current state with
  | done => rfl
  | span name heldBefore heldAfter inside rest ihInside ihRest =>
    unfold trace
    dsimp only
    rw [ihRest, TracerState.current_endSpan, ihInside, Tracer.current_startNamed]

theorem run_eq_trace (program : ScopedProgram) (spans : List SpanHandle) (state : ScopedState)
    {opened : List (OpenScope ContextInstance)} (h : state.ambient.thread.Follows opened)
    (hfits : state.depth + program.height < ContextStack.overflowPosition) :
    let traced := program.trace spans state.current state.tracer
    ∃ ambient, program.run spans state = (traced.1, ⟨traced.2, ambient, state.faults⟩) ∧
      ambient.thread.stack? = state.ambient.thread.stack? := by
  induction program generalizing spans state opened with
  | done => exact ⟨state.ambient, rfl, rfl⟩
  | span name heldBefore heldAfter inside rest ihInside ihRest =>
    intro traced
    unfold height at hfits
    let started := state.start (keeping heldBefore spans) name
    let inner := started.1.span :: spans
    have hdepth : started.2.depth ≤ state.depth + 1 := state.depth_start_le _ _
    have hcurrent : started.2.current = some started.1.span.source :=
      ScopedState.current_start (by omega) _ _
    obtain ⟨ambient, hinside, hkept⟩ := ihInside inner started.2
      (h.openScope state.tracer.tracing.current _) (by omega)
    rw [hcurrent] at hinside
    obtain ⟨closed, hfinish, hclosed⟩ := ScopedState.finish_start h (keeping heldBefore spans)
      (keeping heldAfter inner) name (inside.run inner started.2).2 (by
        rw [hinside]
        exact hkept)
    let ended := (inside.trace inner (some started.1.span.source) started.2.tracer).2.endSpan
      (keeping heldAfter inner) started.1.span (.finish none)
    have haccess : ended.tracing.current = state.tracer.tracing.current :=
      (TracerState.current_endSpan ..).trans
        ((current_trace ..).trans (Tracer.current_startNamed ..))
    let finished : ScopedState := ⟨ended, closed, state.faults⟩
    have hfinished : (inside.run inner started.2).2.finish (keeping heldAfter inner) started.1 =
        finished := by
      rw [hfinish, hinside]
      rfl
    have hsame : finished.current = state.current := ScopedState.current_congr haccess hclosed
    obtain ⟨last, hrest, hlast⟩ := ihRest spans finished (h.congr hclosed) (by
      rw [ScopedState.depth_congr haccess hclosed]
      omega)
    rw [hsame] at hrest
    refine ⟨last, ?_, hlast.trans hclosed⟩
    have hrun : (span name heldBefore heldAfter inside rest).run spans state =
        (.span started.1.span (inside.run inner started.2).1
          (rest.run spans ((inside.run inner started.2).2.finish (keeping heldAfter inner)
            started.1)).1,
        (rest.run spans ((inside.run inner started.2).2.finish (keeping heldAfter inner)
          started.1)).2) := rfl
    rw [hrun, hfinished, hrest, hinside]
    rfl

theorem ids_trace (program : ScopedProgram) (spans : List SpanHandle)
    (current : Option ContextInstance) (state : TracerState) :
    (program.trace spans current state).2.tracing.ids =
      (program.draw current.isSome state.tracing.ids).2 := by
  induction program generalizing spans current state with
  | done => rfl
  | span name heldBefore heldAfter inside rest ihInside ihRest =>
    unfold trace draw
    dsimp only
    rw [ihRest, TracerState.ids_endSpan, ihInside, Tracer.ids_startNamed]
    rfl

/--
What a program does while the code has spans open: it starts spans with the IDs that were drawn,
which descend from each other, and finishes them in turn.
-/
structure Nests (known : List SpanKey) (handlers : List SpanHandler) (spans : List SpanHandle)
    (current : Option ContextInstance) (before : TracerState) (drawn : List SpanId)
    (result : SpanTree × TracerState) : Prop where
  hosts : Hosts known handlers result.2.tracing.registry spans
  spanIds : result.1.spans.map (·.key.spanId) = drawn
  descends : result.1.Descends (current.map (·.context))
  notices : ∃ notices, result.2.notices = before.notices ++ notices ∧
    FinishedInTurn known handlers result.1.recorded notices

variable {known : List SpanKey} {handlers : List SpanHandler} {spans : List SpanHandle}
  {current : Option ContextInstance}

theorem Nests.around {handle : SpanHandle} {state started ended : TracerState}
    {drawnInside drawnRest : List SpanId} {inside rest : SpanTree × TracerState}
    {began told : List SpanNotice}
    (descends : handle.source.context.Descends (current.map (·.context)))
    (hbegan : started.notices = state.notices ++ began) (silent : callsBeyond known began = [])
    (hinside : Nests known handlers (handle :: spans) (some handle.source) started drawnInside
      inside)
    (htold : ended.notices = inside.2.notices ++ told)
    (finished : FinishedInTurn known handlers ([handle].filter fun span => !span.isNoop) told)
    (hrest : Nests known handlers spans current ended drawnRest rest) :
    Nests known handlers spans current state (handle.key.spanId :: (drawnInside ++ drawnRest))
      (.span handle inside.1 rest.1, rest.2) := by
  obtain ⟨noticesInside, hnoticesInside, hreportsInside⟩ := hinside.notices
  obtain ⟨noticesRest, hnoticesRest, hreportsRest⟩ := hrest.notices
  refine ⟨hrest.hosts, ?_, ⟨descends, hinside.descends, hrest.descends⟩,
    began ++ (noticesInside ++ (told ++ noticesRest)), ?_, ?_⟩
  . unfold SpanTree.spans
    rw [List.map_cons, List.map_append, hinside.spanIds, hrest.spanIds]
  . dsimp only
    rw [hnoticesRest, htold, hnoticesInside, hbegan]
    simp only [List.append_assoc]
  . unfold SpanTree.recorded SpanTree.finished
    rw [List.filter_append, List.filter_append, ← List.nil_append (List.filter _ _ ++ _)]
    exact (FinishedInTurn.nil silent).append
      (hreportsInside.append (finished.append hreportsRest))

theorem nests_trace (program : ScopedProgram) (spans : List SpanHandle)
    (current : Option ContextInstance) (state : TracerState)
    (h : Hosts known handlers state.tracing.registry spans)
    (unrepeated : (program.draw current.isSome state.tracing.ids).1.Nodup)
    (unknown : ∀ key ∈ known, key.spanId ∉ (program.draw current.isSome state.tracing.ids).1)
    (apart : ∀ span ∈ spans,
      span.key.spanId ∉ (program.draw current.isSome state.tracing.ids).1) :
    Nests known handlers spans current state (program.draw current.isSome state.tracing.ids).1
      (program.trace spans current state) := by
  induction program generalizing spans current state with
  | done => exact ⟨h, rfl, trivial, [], (List.append_nil _).symm, .nil rfl⟩
  | span name heldBefore heldAfter inside rest ihInside ihRest =>
    let taken := state.tracing.ids.takeForSpan current.isSome
    let started := Tracer.startNamed (keeping heldBefore spans) current name state
    let inner := started.1 :: spans
    let below := inside.trace inner (some started.1.source) started.2
    let ended := below.2.endSpan (keeping heldAfter inner) started.1 (.finish none)
    let beside := rest.trace spans current ended
    have hstartedIds : started.2.tracing.ids = taken.2 := Tracer.ids_startNamed ..
    have hendedIds : ended.tracing.ids = (inside.draw true taken.2).2 := by
      rw [← hstartedIds]
      exact (TracerState.ids_endSpan ..).trans (ids_trace ..)
    have hdraw : (span name heldBefore heldAfter inside rest).draw current.isSome
        state.tracing.ids =
        (taken.1 :: ((inside.draw true started.2.tracing.ids).1 ++
          (rest.draw current.isSome ended.tracing.ids).1),
        (rest.draw current.isSome ended.tracing.ids).2) := by
      rw [hendedIds, hstartedIds]
      rfl
    rw [hdraw] at unrepeated unknown apart ⊢
    simp only [List.mem_cons, List.mem_append, not_or] at unrepeated unknown apart
    obtain ⟨hnew, hdrawn⟩ := List.nodup_cons.1 unrepeated
    rw [List.mem_append, not_or] at hnew
    obtain ⟨hid, hdescends, hstarted, began, hbegan, hsilent⟩ := Tracer.hosts_startNamed h
      (held_keeping heldBefore spans) current name (fun key hkey => (unknown key hkey).1)
      (fun span hspan => (apart span hspan).1)
    have hinside : Nests known handlers inner (some started.1.source) started.2
        (inside.draw true started.2.tracing.ids).1 below := by
      apply ihInside inner (some started.1.source) started.2 hstarted hdrawn.of_append_left
      . exact fun key hkey => (unknown key hkey).2.1
      . rw [List.forall_mem_cons]
        refine ⟨?_, fun span hspan => (apart span hspan).2.1⟩
        rw [hid]
        exact hnew.1
    obtain ⟨hended, told, htold, hfinished⟩ :=
      TracerState.hosts_endSpan hinside.hosts (held_keeping heldAfter inner)
    have hrest : Nests known handlers spans current ended
        (rest.draw current.isSome ended.tracing.ids).1 beside :=
      ihRest spans current ended hended hdrawn.of_append_right (fun key hkey => (unknown key hkey).2.2)
        fun span hspan => (apart span hspan).2.2
    rw [← hid]
    exact .around hdescends hbegan hsilent hinside htold hfinished hrest

/--
Whatever is current, and whatever is tracked, the spans of a program mirror its nesting, provided
that scopes fit in and that the span IDs are new: each is a child of the one around it, those inside
an outermost one are of its trace, and the recorded ones are reported once as finished, those inside
before the one around them. No close fails, and what was current is current again.
-/
theorem spans_mirror_nesting {config : TracerConfig} {tracing : Tracing}
    (hconfig : Tracing.ofConfig config = .ok tracing) (heap : Heap) (before : List TracingStep)
    (first : ScopedState) (reached : first.tracer = (TracerState.mk tracing heap []).after before)
    (active : first.tracer.tracing.isNoop = false) {opened : List (OpenScope ContextInstance)}
    (scopes : first.ambient.thread.Follows opened) (program : ScopedProgram)
    (fits : first.depth + program.height < ContextStack.overflowPosition)
    (unrepeated : (program.draw first.current.isSome first.tracer.tracing.ids).1.Nodup)
    (unused : ∀ entry ∈ first.tracer.tracing.registry.tracked,
      entry.1.spanId ∉ (program.draw first.current.isSome first.tracer.tracing.ids).1) :
    let tree := (program.run [] first).1
    let last := (program.run [] first).2
    let registry := first.tracer.tracing.registry
    tree.spans.map (·.source.context.spanId) =
        (program.draw first.current.isSome first.tracer.tracing.ids).1 ∧
      tree.Under (first.current.map (·.context.spanId)) ∧
      tree.OfOneTrace ∧
      (∃ notices, last.tracer.notices = first.tracer.notices ++ notices ∧
        FinishedInTurn (registry.tracked.map (·.1)) registry.chain.handlers tree.recorded notices) ∧
      last.faults = first.faults ∧ last.current = first.current := by
  intro tree last registry
  have ⟨_, _, hleads⟩ := (TracerState.mk tracing heap []).leads_after before
  rw [← reached] at hleads
  have hhosts : Hosts (registry.tracked.map (·.1)) registry.chain.handlers registry [] := by
    refine ⟨hleads.sound (Tracing.sound_of_ofConfig hconfig), active, rfl, .nil, ?_, ?_, ?_⟩
    . simp
    . exact fun entry hentry => .inl (List.mem_map_of_mem hentry)
    . simp
  have hnests := program.nests_trace [] first.current first.tracer hhosts unrepeated (by
    intro key hkey
    obtain ⟨entry, hentry, rfl⟩ := List.mem_map.1 hkey
    exact unused entry hentry) (by simp)
  obtain ⟨ambient, hrun, hstacks⟩ := program.run_eq_trace [] first scopes fits
  have htree : tree = (program.trace [] first.current first.tracer).1 := congrArg Prod.fst hrun
  have hlast : last = ⟨(program.trace [] first.current first.tracer).2, ambient, first.faults⟩ :=
    congrArg Prod.snd hrun
  rw [htree, hlast]
  refine ⟨hnests.spanIds, ?_, hnests.descends.ofOneTrace, hnests.notices, rfl, ?_⟩
  . have hunder := hnests.descends.under
    rwa [Option.map_map] at hunder
  . exact ScopedState.current_congr (current_trace ..) hstacks

theorem spans_mirror_nesting_two_traces :
    let config : TracerConfig :=
      ⟨"service", none, 0, .always, .counting, true, false, .fixed 1, .shared,
        [.memory "spans" false false []], []⟩
    let tracing : Tracing :=
      ⟨"service", .always, .counting, .shared, true, [],
        .ofHandlers (Tracing.template config) (Tracing.handlers config) (.fixed 1)⟩
    let first : ScopedState := ⟨⟨tracing, .empty, []⟩, .fresh "main", []⟩
    let nobody := fun _ : Nat => false
    let program : ScopedProgram :=
      .span "outer" nobody nobody (.span "inner" nobody nobody .done .done)
        (.span "next" nobody nobody .done .done)
    Tracing.ofConfig config = .ok tracing ∧ tracing.isNoop = false ∧
      ∃ tree last, program.run [] first = (tree, last) ∧
        tree.spans.map (·.source.context.spanId) = [.ofNat 2, .ofNat 3, .ofNat 5] ∧
        tree.Under none ∧ tree.OfOneTrace ∧
        FinishedInTurn [] tracing.registry.chain.handlers tree.recorded last.tracer.notices ∧
        last.current = none := by
  intro config tracing first nobody program
  have hconfig : Tracing.ofConfig config = .ok tracing := if_neg (by decide +kernel)
  have houter : IdSource.counting.takeForSpan false =
      (.ofNat 2, { IdSource.counting with traces := 1, spans := 1 }) := by
    unfold IdSource.takeForSpan
    rw [if_neg Bool.false_ne_true, IdSource.takeTraceId_of_usable (by decide),
      IdSource.takeSpanId_of_usable (by decide)]
    rfl
  have hinner : ({ IdSource.counting with traces := 1, spans := 1 } : IdSource).takeForSpan true =
      (.ofNat 3, { IdSource.counting with traces := 1, spans := 2 }) := by
    unfold IdSource.takeForSpan
    rw [if_pos rfl, IdSource.takeSpanId_of_usable (by decide)]
    rfl
  have hnext : ({ IdSource.counting with traces := 1, spans := 2 } : IdSource).takeForSpan false =
      (.ofNat 5, { IdSource.counting with traces := 2, spans := 3 }) := by
    unfold IdSource.takeForSpan
    rw [if_neg Bool.false_ne_true, IdSource.takeTraceId_of_usable (by decide),
      IdSource.takeSpanId_of_usable (by decide)]
    rfl
  have hdrawn : (program.draw first.current.isSome first.tracer.tracing.ids).1 =
      [.ofNat 2, .ofNat 3, .ofNat 5] := by
    show (program.draw false IdSource.counting).1 = _
    simp only [program, draw, houter, hinner, hnext, List.append_nil, List.cons_append,
      List.nil_append]
  have hidle : first.current = none := rfl
  have hbegun : first.tracer.notices = [] := rfl
  have huntracked : first.tracer.tracing.registry.tracked = [] := rfl
  have scopes : first.ambient.thread.Follows ([] : List (OpenScope ContextInstance)) := fun _ => rfl
  obtain ⟨hids, hunder, htrace, ⟨notices, hnotices, hfinished⟩, _, hcurrent⟩ :=
    spans_mirror_nesting hconfig .empty [] first rfl rfl scopes program (by decide)
      (by rw [hdrawn]; decide) (by rw [huntracked]; simp)
  rw [hdrawn] at hids
  rw [hidle] at hunder hcurrent
  rw [hbegun, List.nil_append] at hnotices
  rw [huntracked, List.map_nil, ← hnotices] at hfinished
  exact ⟨hconfig, rfl, _, _, Prod.mk.eta.symm, hids, hunder, htrace, hfinished, hcurrent⟩

end ScopedProgram

end RequestTracing
