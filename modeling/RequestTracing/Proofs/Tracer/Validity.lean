import Mathlib
import RequestTracing.Proofs.Tracer.Apart
import RequestTracing.Proofs.Tracer.Checked
import RequestTracing.Proofs.Tracer.Faithful
import RequestTracing.Proofs.Tracer.Lasting
import RequestTracing.Proofs.Tracer.Recorded

/-!
This module contains the contexts that a tracer makes while it is fed with contexts that were built,
read from carriers or made by itself. Main statement: all of them have identifiers that stand for
something, a local root and a decision, and their spans are recorded where the decision says so.
-/

namespace RequestTracing

variable {β : Type}

namespace TraceContext

structure Established (context : TraceContext β) : Prop extends context.Usable where
  rooted : context.localRootId.isSome
  decided : context.sampled.isSome

def Recordable (context : TraceContext β) : Prop :=
  context.sampled = some true ∨ context.sampledLocal = true

theorem Usable.with_extra {γ : Type} {context : TraceContext β} {other : TraceContext γ}
    (h : context.Usable) (hother : other.withoutExtra (γ := β) = context.withoutExtra) :
    other.Usable := by
  obtain ⟨⟨htrace, hspan, hparent⟩, hroot, hcoherent⟩ := h
  obtain ⟨traceId, spanId, parentId, localRootId, flags, shared, extra⟩ := other
  simp only [withoutExtra, TraceContext.mk.injEq] at hother
  obtain ⟨rfl, rfl, rfl, rfl, rfl, rfl, _⟩ := hother
  exact ⟨⟨htrace, hspan, hparent⟩, hroot, hcoherent⟩

end TraceContext

namespace Tracer

theorem keepsNothing_eq_false_iff {tracing : Tracing} {context : TraceContext BaggageRef} :
    keepsNothing tracing context = false ↔ tracing.isNoop = false ∧ context.Recordable := by
  unfold keepsNothing TraceContext.Recordable
  cases tracing.isNoop <;> cases context.sampledLocal <;> simp

/--
Holds for decided contexts with the local root of the context that they continue, if it has one, and
their own span ID otherwise.
-/
structure Grounds (continued : Option ContextInstance) (context : TraceContext BaggageRef) :
    Prop where
  decided : context.Decided
  coherent : context.flags.Coherent
  localRootId : context.localRootId =
    some ((continued.bind (·.context.localRootId)).getD context.spanId)

theorem Grounds.established {continued : Option ContextInstance} {context : TraceContext BaggageRef}
    (h : Grounds continued context) (hcontinued : ∀ source ∈ continued, source.context.Usable) :
    context.Established := by
  refine ⟨⟨h.decided.toValid, ?_, h.coherent⟩, ?_, h.decided.sampled⟩
  . rw [h.localRootId]
    cases hroot : continued.bind (·.context.localRootId) with
    | none => simpa using h.decided.spanId
    | some root =>
      obtain ⟨source, hsource, hlocal⟩ := Option.bind_eq_some_iff.1 hroot
      rw [Option.getD_some, ← hlocal]
      exact (hcontinued source hsource).localRootId
  . rw [h.localRootId]
    rfl

variable (state : TracerState)

theorem grounds_rootContext {flags : SamplingFlags} (h : flags.Coherent)
    (extra : List (Extra BaggageRef)) : Grounds none (rootContext flags extra state).1 where
  decided := (gives_rootContext flags extra state).1.toDecided
  coherent := (gives_rootContext flags extra state).1.coherent h
  localRootId := (begets_rootContext flags extra state).descends.localRootId

theorem grounds_childContext {parent : ContextInstance} (h : parent.context.Usable) :
    Grounds (some parent) (childContext parent.context state).1 where
  decided := (gives_childContext h.toValid state).1.toDecided
  coherent := (gives_childContext h.toValid state).1.coherent h.coherent
  localRootId := (begets_childContext parent.context state).descends.localRootId

theorem grounds_nextContext {current : Option ContextInstance}
    (h : ∀ parent ∈ current, parent.context.Usable) :
    Grounds current (nextContext current state).1 := by
  cases current with
  | none => exact grounds_rootContext state (SamplingFlags.coherent_ofDecision none) []
  | some parent => exact grounds_childContext state (h parent rfl)

theorem grounds_complete {source : ContextInstance} (h : source.context.Usable)
    {continued : Option ContextInstance} {builder : ContextBuilder BaggageRef}
    (hbuilder : builder = { ContextBuilder.ofContext source.context with
      shared := builder.shared, localRootId := builder.localRootId })
    (hroot : builder.localRootId =
      some ((continued.bind (·.context.localRootId)).getD source.context.spanId)) :
    Grounds continued (complete builder source.context.flags state).1 := by
  have hcompletes := (gives_complete builder source.context.flags state).1
  have hbegins : Begins source.context.flags (complete builder source.context.flags state).1 := by
    apply hcompletes.begins
    . rw [hbuilder]
      exact h.traceId
    . rw [hbuilder]
      exact h.spanId
    . rw [hbuilder]
      exact h.parentId
  obtain ⟨settled, extra, hmade, _⟩ := complete_made builder source.context.flags state
  refine ⟨hbegins.toDecided, hbegins.coherent h.coherent, ?_⟩
  . rw [hmade]
    refine hroot.trans ?_
    rw [hbuilder]
    rfl

end Tracer

namespace Creation

open Tracer

/--
The context whose local root the new span takes over, if it has one. There is none where a trace
starts, or where the span ID of a client becomes the local root.
-/
def continued? (supportsJoin : Bool) : Creation → Option ContextInstance
  | newTrace => none
  | newChild parent => some parent
  | joinSpan client => if supportsJoin then none else some client
  | nextSpan current => current
  | nextSpanWith current extraction =>
    match extraction.found with
    | .context parent => some parent
    | .flags _ => current
  | nextSpanFor current _ _ _ => current
  | toSpan source => some source
  | startNamed current _ => current

theorem mem_sources_of_continued? {creation : Creation} {supportsJoin : Bool}
    {source : ContextInstance} (h : creation.continued? supportsJoin = some source) :
    source ∈ creation.sources := by
  cases creation with
  | joinSpan client =>
    unfold continued? at h
    dsimp only at h
    split at h
    . cases h
    . cases h
      exact List.mem_singleton_self _
  | nextSpanWith current extraction =>
    unfold continued? at h
    dsimp only at h
    unfold sources Extraction.context?
    cases hfound : extraction.found with
    | context parent => simp_all
    | flags flags => simp_all
  | _ => simp_all [continued?, sources]

def FlagsNamed (creation : Creation) : Prop :=
  ∀ reading ∈ creation.reading?, ∀ flags, reading.found = .flags flags → flags.Named

theorem grounds_context {creation : Creation}
    (h : ∀ source ∈ creation.sources, source.context.Usable) (hflags : creation.FlagsNamed)
    (state : TracerState) :
    Grounds (creation.continued? state.tracing.supportsJoin) (creation.context state).1 := by
  cases creation with
  | newTrace => exact grounds_rootContext state (SamplingFlags.coherent_ofDecision none) []
  | newChild parent => exact grounds_childContext state (h parent (List.mem_singleton_self _))
  | joinSpan client =>
    have husable := h client (List.mem_singleton_self _)
    rw [context_joinSpan]
    unfold continued?
    dsimp only
    split
    . exact grounds_complete state husable rfl rfl
    . exact grounds_childContext state husable
  | nextSpan current =>
    apply grounds_nextContext state
    exact fun parent hparent => h parent (Option.mem_toList.2 hparent)
  | nextSpanWith current extraction =>
    unfold continued?
    dsimp only
    cases hfound : extraction.found with
    | context parent =>
      have hcontext : (nextSpanWith current extraction).context = childContext parent.context := by
        unfold context
        dsimp only
        rw [hfound]
      rw [hcontext]
      exact grounds_childContext state (h parent (by simp [sources, Extraction.context?, hfound]))
    | flags flags =>
      cases current with
      | none =>
        have hreading : extraction ∈ (nextSpanWith none extraction).reading? := by
          simp [reading?, Extraction.context?, hfound]
        rw [context_nextSpanWith_none hfound]
        exact grounds_rootContext state (hflags extraction hreading flags hfound).coherent _
      | some parent =>
        rw [context_nextSpanWith_some hfound]
        obtain ⟨⟨⟨htrace, hspan, hparent⟩, hsampled⟩, hcoherent, hroot⟩ :=
          grounds_childContext state (h parent (by simp [sources]))
        exact ⟨⟨⟨htrace, hspan, hparent⟩, hsampled⟩, hcoherent, hroot⟩
  | nextSpanFor current function request draws =>
    cases current with
    | none => exact grounds_rootContext state (SamplingFlags.coherent_ofDecision _) []
    | some parent => exact grounds_childContext state (h parent (List.mem_singleton_self _))
  | toSpan source =>
    exact grounds_complete state (h source (List.mem_singleton_self _)) rfl rfl
  | startNamed current name =>
    apply grounds_nextContext state
    exact fun parent hparent => h parent (Option.mem_toList.2 hparent)

theorem isSome_place_run (creation : Creation) (alive : Nat → Bool) (state : TracerState) :
    (creation.run alive state).1.place.isSome =
      !keepsNothing state.tracing (creation.context state).1 := by
  have hnothing : keepsNothing (creation.context state).2.tracing (creation.context state).1 =
      keepsNothing state.tracing (creation.context state).1 := by
    unfold keepsNothing Tracing.isNoop
    rw [(creation.context_frame state).1]
  rw [creation.run_eq, bind_apply, ← hnothing]
  dsimp only
  rw [place_register]
  split
  . next h => rw [h]; rfl
  . next h => rw [Bool.eq_false_iff.2 h]; rfl

theorem run_of_keepsNothing {creation : Creation} {state : TracerState}
    (h : keepsNothing state.tracing (creation.context state).1) (alive : Nat → Bool) :
    (creation.run alive state).1.source.context = (creation.context state).1 ∧
      (creation.run alive state).2.tracing.registry.sources = state.tracing.registry.sources := by
  have hregistry := (creation.context_frame state).1
  have hnothing : keepsNothing (creation.context state).2.tracing (creation.context state).1 := by
    rw [← h]
    unfold keepsNothing Tracing.isNoop
    rw [hregistry]
  rw [creation.run_eq, bind_apply]
  dsimp only
  refine ⟨?_, ?_⟩
  . rw [source_register, if_pos hnothing]
    rfl
  . rw [Registry.sources_of_spans (TracerState.alike_recordAll _ _ creation.entries).spans,
      registry_register, if_pos hnothing, hregistry]

theorem recorded_run {P : TraceContext BaggageRef → Prop} {creation : Creation} {state : TracerState}
    (h : ∀ source ∈ state.tracing.registry.sources, P source.context)
    (hmade : (creation.context state).1.Recordable → P (creation.context state).1)
    (alive : Nat → Bool) :
    (∀ source ∈ (creation.run alive state).2.tracing.registry.sources, P source.context) ∧
      ((creation.run alive state).1.place.isSome →
        P (creation.run alive state).1.source.context) := by
  by_cases hnothing : keepsNothing state.tracing (creation.context state).1
  . rw [(run_of_keepsNothing hnothing alive).2, isSome_place_run, hnothing]
    exact ⟨h, fun hplace => nomatch hplace⟩
  . have hnew := hmade (keepsNothing_eq_false_iff.1 (Bool.eq_false_iff.2 hnothing)).2
    cases state.adds_run alive creation with
    | nothing hsources hspan =>
      rw [hsources]
      refine ⟨h, fun _ => ?_⟩
      -- the handle may be one more for a span that was recorded before, with the context of that
      rcases hspan with hcontext | hold
      . rwa [hcontext]
      . exact h _ hold
    | span hsources hspan =>
      rw [← hspan] at hnew
      rw [hsources]
      refine ⟨?_, fun _ => hnew⟩
      intro source hsource
      rcases List.mem_append.1 hsource with hold | hlast
      . exact h source hold
      . rwa [List.mem_singleton.1 hlast]

end Creation

namespace TracerState

variable {state : TracerState}

end TracerState

theorem Heap.usable_importReading (heap : Heap) {reading : Reading} (h : reading.found.Usable) :
    (∀ source, (heap.importReading reading).1.context? = some source → source.context.Usable) ∧
      ∀ flags, (heap.importReading reading).1.found = .flags flags → flags.Named := by
  unfold importReading
  cases hfound : reading.found with
  | context context =>
    rw [hfound] at h
    refine ⟨?_, by simp⟩
    rintro source ⟨⟩
    exact h.context.with_extra rfl
  | flags flags =>
    rw [hfound] at h
    refine ⟨by simp [Extraction.context?], ?_⟩
    rintro _ ⟨⟩
    exact h

structure Supply where
  state : TracerState
  contexts : List ContextInstance
  readings : List HeldExtraction

namespace Supply

def sources (supply : Supply) : List ContextInstance :=
  supply.contexts ++ supply.readings.filterMap Extraction.context?

def withHeap (supply : Supply) (heap : Heap) : Supply :=
  { supply with state := { supply.state with heap } }

def hold (supply : Supply) (source : ContextInstance) : Supply :=
  { supply with contexts := source :: supply.contexts }

def add (supply : Supply) (extraction : HeldExtraction) : Supply :=
  { supply with readings := extraction :: supply.readings }

def read (supply : Supply) (reading : Reading) : Supply :=
  let (extraction, heap) := supply.state.heap.importReading reading
  (supply.withHeap heap).add extraction

def act (supply : Supply) (alive : Nat → Bool) (action : TracingAction) : Supply :=
  { supply with state := supply.state.perform alive action }

structure Offers (supply : Supply) (creation : Creation) : Prop where
  sources : ∀ source ∈ creation.sources, source ∈ supply.sources
  reading : ∀ reading ∈ creation.reading?, reading ∈ supply.readings

/--
Holds for what a tracing is fed with: contexts that are built from nothing or from those at hand,
copied with other baggage, read from carriers, or the contexts of its own spans. Flags are set at
once only to those that have a name.
-/
inductive Fed (tracing : Tracing) (heap : Heap) : Supply → Prop where
  | start : Fed tracing heap ⟨⟨tracing, heap, []⟩, [], []⟩
  | build {supply : Supply} (origin : Option ContextInstance) (plan : List ContextStep)
      {source : ContextInstance} {last : Heap} :
      Fed tracing heap supply → (∀ known ∈ origin, known ∈ supply.sources) →
      (∀ step ∈ plan, step.SetsNamed) →
      supply.state.heap.build (origin.elim {} fun known => .ofContext known.context) plan =
        .ok (source, last) →
      Fed tracing heap ((supply.withHeap last).hold source)
  | copy {supply : Supply} (known : ContextInstance) (number : Nat)
      (extra : List (Extra BaggageRef)) :
      Fed tracing heap supply → known ∈ supply.sources →
      Fed tracing heap (supply.hold ⟨number, { known.context with extra }⟩)
  | read {supply : Supply} (propagator : Propagator) (get : String → Option String) :
      Fed tracing heap supply → propagator.Provided →
      Fed tracing heap (supply.read (propagator.extract get).value)
  | flags {supply : Supply} (flags : SamplingFlags) (extra : List (Extra BaggageRef)) :
      Fed tracing heap supply → flags.Named → Fed tracing heap (supply.add ⟨.flags flags, extra⟩)
  | create {supply : Supply} (alive : Nat → Bool) (creation : Creation) :
      Fed tracing heap supply → supply.Offers creation →
      Fed tracing heap ((supply.act alive (.create creation)).hold
        (creation.run alive supply.state).1.source)
  | act {supply : Supply} (alive : Nat → Bool) (action : TracingAction) :
      Fed tracing heap supply → action.Plain → Fed tracing heap (supply.act alive action)
  | elsewhere {supply : Supply} (last : Heap) :
      Fed tracing heap supply → Fed tracing heap (supply.withHeap last)

structure Proper (supply : Supply) : Prop where
  sources : ∀ source ∈ supply.sources, source.context.Usable
  readings : ∀ reading ∈ supply.readings, ∀ flags, reading.found = .flags flags → flags.Named
  recorded : ∀ source ∈ supply.state.tracing.registry.sources,
    source.context.Established ∧ source.context.Recordable

variable {supply : Supply}

theorem mem_sources_hold {source known : ContextInstance} :
    known ∈ (supply.hold source).sources ↔ known = source ∨ known ∈ supply.sources :=
  List.mem_cons

theorem mem_sources_add {extraction : HeldExtraction} {known : ContextInstance} :
    known ∈ (supply.add extraction).sources ↔
      extraction.context? = some known ∨ known ∈ supply.sources := by
  unfold sources add
  simp only [List.mem_append, List.filterMap_cons]
  cases extraction.context? with
  | none => simp
  | some source =>
    simp only [List.mem_cons, Option.some.injEq]
    grind

theorem Offers.usable (h : supply.Proper) {creation : Creation} (offers : supply.Offers creation) :
    ∀ source ∈ creation.sources, source.context.Usable :=
  fun source hsource => h.sources source (offers.sources source hsource)

theorem Offers.flagsNamed (h : supply.Proper) {creation : Creation}
    (offers : supply.Offers creation) : creation.FlagsNamed :=
  fun reading hreading => h.readings reading (offers.reading reading hreading)

theorem Offers.established (h : supply.Proper) {creation : Creation}
    (offers : supply.Offers creation) :
    (creation.context supply.state).1.Established := by
  apply (Creation.grounds_context (offers.usable h) (offers.flagsNamed h) supply.state).established
  intro source hsource
  exact offers.usable h source (Creation.mem_sources_of_continued? hsource)

namespace Proper

theorem start {tracing : Tracing} (h : tracing.registry.pendings = []) (heap : Heap) :
    Proper ⟨⟨tracing, heap, []⟩, [], []⟩ where
  sources := by simp [Supply.sources]
  readings := by simp
  recorded := by simp [Registry.sources, h]

theorem withHeap (h : supply.Proper) (heap : Heap) : (supply.withHeap heap).Proper :=
  ⟨h.sources, h.readings, h.recorded⟩

theorem hold (h : supply.Proper) {source : ContextInstance} (hsource : source.context.Usable) :
    (supply.hold source).Proper where
  sources := by
    intro known hknown
    rcases mem_sources_hold.1 hknown with rfl | hold
    . exact hsource
    . exact h.sources known hold
  readings := h.readings
  recorded := h.recorded

theorem add (h : supply.Proper) {extraction : HeldExtraction}
    (hcontext : ∀ source, extraction.context? = some source → source.context.Usable)
    (hflags : ∀ flags, extraction.found = .flags flags → flags.Named) :
    (supply.add extraction).Proper where
  sources := by
    intro known hknown
    rcases mem_sources_add.1 hknown with hnew | hold
    . exact hcontext known hnew
    . exact h.sources known hold
  readings := by
    intro reading hreading
    rcases List.mem_cons.1 hreading with rfl | hold
    . exact hflags
    . exact h.readings reading hold
  recorded := h.recorded

theorem act (h : supply.Proper) (alive : Nat → Bool) {action : TracingAction}
    (hplain : action.Plain) : (supply.act alive action).Proper := by
  refine ⟨h.sources, h.readings, ?_⟩
  unfold Supply.act
  dsimp only
  rw [(TracerState.plain_frame hplain alive supply.state).2]
  exact h.recorded

theorem read (h : supply.Proper) {reading : Reading} (hreading : reading.found.Usable) :
    (supply.read reading).Proper := by
  obtain ⟨hcontext, hflags⟩ := supply.state.heap.usable_importReading hreading
  exact (h.withHeap _).add hcontext hflags

theorem recorded_run (h : supply.Proper) {creation : Creation} (offers : supply.Offers creation)
    (alive : Nat → Bool) :
    let made := creation.run alive supply.state
    (∀ source ∈ made.2.tracing.registry.sources,
        source.context.Established ∧ source.context.Recordable) ∧
      (made.1.place.isSome →
        made.1.source.context.Established ∧ made.1.source.context.Recordable) :=
  creation.recorded_run (P := fun context => context.Established ∧ context.Recordable) h.recorded
    (fun hnew => ⟨offers.established h, hnew⟩) alive

theorem established_run (h : supply.Proper) {creation : Creation} (offers : supply.Offers creation)
    (alive : Nat → Bool) :
    let span := (creation.run alive supply.state).1
    span.source.context.Established ∧ (span.place.isSome → span.source.context.Recordable) := by
  intro span
  have hrecorded := (h.recorded_run offers alive).2
  refine ⟨?_, fun hplace => (hrecorded hplace).2⟩
  by_cases hnothing : Tracer.keepsNothing supply.state.tracing (creation.context supply.state).1
  . rw [(Creation.run_of_keepsNothing hnothing alive).1]
    exact offers.established h
  . apply And.left
    apply hrecorded
    rw [creation.isSome_place_run, Bool.eq_false_iff.2 hnothing]
    rfl

theorem create (h : supply.Proper) {creation : Creation} (offers : supply.Offers creation)
    (alive : Nat → Bool) :
    ((supply.act alive (.create creation)).hold
      (creation.run alive supply.state).1.source).Proper := by
  have hact : (supply.act alive (.create creation)).Proper :=
    ⟨h.sources, h.readings, (h.recorded_run offers alive).1⟩
  exact hact.hold (h.established_run offers alive).1.toUsable

end Proper

theorem Fed.proper {tracing : Tracing} (h : tracing.registry.pendings = []) {heap : Heap}
    (fed : Fed tracing heap supply) : supply.Proper := by
  induction fed with
  | start => exact .start h heap
  | build origin plan _ horigin hplan hbuild ih =>
    refine (ih.withHeap _).hold (Heap.usable_build ?_ hplan hbuild)
    cases origin with
    | none => exact ContextBuilder.tidy_empty
    | some known => exact ContextBuilder.tidy_ofContext (ih.sources known (horigin known rfl))
  | copy known number extra _ hknown ih =>
    exact ih.hold ((ih.sources known hknown).with_extra rfl)
  | read propagator get _ hprovided ih => exact ih.read (hprovided.usable get)
  | flags flags extra _ hnamed ih =>
    refine ih.add (by simp [Extraction.context?]) ?_
    rintro _ ⟨⟩
    exact hnamed
  | create alive creation _ offers ih => exact ih.create offers alive
  | act alive action _ hplain ih => exact ih.act alive hplain
  | elsewhere last _ ih => exact ih.withHeap last

theorem Fed.faithful {tracing : Tracing} (h : tracing.registry.Faithful) {heap : Heap}
    (fed : Fed tracing heap supply) : supply.state.tracing.registry.Faithful := by
  -- contexts and readings come and go without the registry
  induction fed with
  | start => exact h
  | create alive creation _ _ ih =>
    exact TracerState.lasts_perform Registry.lasting_faithful ih alive (.create creation)
  | act alive action _ _ ih =>
    exact TracerState.lasts_perform Registry.lasting_faithful ih alive action
  | _ => assumption

/--
Whatever a tracing is fed with, each context that it makes is established, with the local root of
the context that it continues or its own, and no builder refuses it. The span is recorded exactly
where recording is on and the decision, or a local component, asks for it; which holds of the
context in its handle as well, which is another one where the span was recorded before. A recorded
span is tracked at its place under the identity of that context, and one that is not recorded leaves
the registry with the spans that there were.
-/
theorem created_contexts_established {config : TracerConfig} {tracing : Tracing}
    (hconfig : Tracing.ofConfig config = .ok tracing) {heap : Heap} (fed : Fed tracing heap supply)
    {creation : Creation} (offers : supply.Offers creation) (alive : Nat → Bool) :
    let made := creation.context supply.state
    let span := (creation.run alive supply.state).1
    let before := supply.state.tracing.registry
    let after := (creation.run alive supply.state).2.tracing.registry
    creation.checked supply.state = (.ok made.1, made.2) ∧
      made.1.localRootId = some (((creation.continued? supply.state.tracing.supportsJoin).bind
        (·.context.localRootId)).getD made.1.spanId) ∧
      (∀ context ∈ [made.1, span.source.context], context.Established ∧
        (span.place.isSome ↔ supply.state.tracing.isNoop = false ∧ context.Recordable)) ∧
      (∀ place, span.place = some place → after.Carries place span.source) ∧
      (span.place = none → after.sources = before.sources) := by
  intro made span before after
  have hproper := fed.proper (Tracing.pendings_of_ofConfig hconfig)
  have hfaithful := fed.faithful (Tracing.faithful_of_ofConfig hconfig)
  have husable := offers.usable hproper
  have hflags := offers.flagsNamed hproper
  have hestablished := offers.established hproper
  have hspan := hproper.established_run offers alive
  have hrecorded := creation.isSome_place_run alive supply.state
  have hplace : span.place.isSome ↔
      supply.state.tracing.isNoop = false ∧ made.1.Recordable := by
    rw [hrecorded, Bool.not_eq_true', Tracer.keepsNothing_eq_false_iff]
  refine ⟨Creation.passes_context husable supply.state,
    (Creation.grounds_context husable hflags supply.state).localRootId, ?_,
    fun place hsome => Tracer.carries_run hfaithful alive creation hsome, ?_⟩
  . rw [List.forall_mem_cons, List.forall_mem_singleton]
    refine ⟨⟨hestablished, hplace⟩, hspan.1, ?_, ?_⟩
    . intro hsome
      exact ⟨(hplace.1 hsome).1, hspan.2 hsome⟩
    . rintro ⟨hnoop, hrecordable⟩
      by_cases hnothing : Tracer.keepsNothing supply.state.tracing made.1
      . rw [(Creation.run_of_keepsNothing hnothing alive).1] at hrecordable
        exact hplace.2 ⟨hnoop, hrecordable⟩
      . rw [hrecorded, Bool.eq_false_iff.2 hnothing]
        rfl
  . intro hnone
    have hnothing : Tracer.keepsNothing supply.state.tracing made.1 := by
      rw [hnone, eq_comm, Option.isSome_none, Bool.not_eq_false'] at hrecorded
      exact hrecorded
    exact (Creation.run_of_keepsNothing hnothing alive).2

theorem created_contexts_established_joined :
    let config : TracerConfig :=
      ⟨"service", none, 0, .always, .counting, true, false, .fixed 1, .shared, [], []⟩
    let tracing : Tracing :=
      ⟨"service", .always, .counting, .shared, true, [],
        .ofHandlers (Tracing.template config) (Tracing.handlers config) (.fixed 1)⟩
    let plan : List ContextStep :=
      [.set (.traceId ⟨5⟩), .set (.spanId ⟨7⟩), .set (.parentId (some .invalid))]
    let client : ContextInstance := ⟨0, ⟨⟨5⟩, ⟨7⟩, none, none, .empty, false, []⟩⟩
    let supply := (Supply.withHeap ⟨⟨tracing, .empty, []⟩, [], []⟩ ⟨1, []⟩).hold client
    let creation := Creation.joinSpan client
    let span := (creation.run (fun _ => true) supply.state).1
    Tracing.ofConfig config = .ok tracing ∧ Heap.empty.build {} plan = .ok (client, ⟨1, []⟩) ∧
      Fed tracing .empty supply ∧ supply.Offers creation ∧
      creation.checked supply.state =
        (.ok (creation.context supply.state).1, (creation.context supply.state).2) ∧
      (creation.context supply.state).1.localRootId = some ⟨7⟩ ∧
      span.source.context.Established ∧
      ∃ place, span.place = some place ∧
        (creation.run (fun _ => true) supply.state).2.tracing.registry.Carries place span.source := by
  intro config tracing plan client supply creation span
  have hconfig : Tracing.ofConfig config = .ok tracing := if_neg (by decide +kernel)
  have hbuild : Heap.empty.build {} plan = .ok (client, ⟨1, []⟩) := by decide +kernel
  have hfed : Fed tracing .empty supply := by
    refine .build none plan .start (by simp) ?_ hbuild
    simp [plan, ContextStep.SetsNamed]
  have offers : supply.Offers creation := by
    constructor
    . intro source hsource
      rw [List.mem_singleton.1 hsource]
      exact List.mem_cons_self ..
    . intro reading hreading
      cases hreading
  obtain ⟨hchecked, hroot, hcontexts, hcarries, _⟩ :=
    created_contexts_established hconfig hfed offers fun _ => true
  obtain ⟨hestablished, hplace⟩ := hcontexts _ (List.mem_cons_of_mem _ (List.mem_cons_self ..))
  have hrecorded := hplace.2 ⟨by decide +kernel, .inl (by decide +kernel)⟩
  obtain ⟨place, hsome⟩ := Option.isSome_iff_exists.1 hrecorded
  refine ⟨hconfig, hbuild, hfed, offers, hchecked, ?_, hestablished, place, hsome,
    hcarries place hsome⟩
  rw [hroot]
  decide +kernel

end Supply

end RequestTracing
