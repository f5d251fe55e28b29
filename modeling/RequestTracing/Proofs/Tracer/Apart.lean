import Mathlib
import RequestTracing.Proofs.Tracer.Inheritance

/-!
This module contains the baggage of all spans that a tracing creates, while more is read from
carriers and baggage changes. Main statement: an update through one span is not seen by a span of
another ID, unless both took over the baggage of one reading without a context.
-/

namespace RequestTracing

def TracingAction.Plain : TracingAction → Prop
  | create _ => False
  | currentSpan _ => False
  | elsewhere _ => False
  | _ => True

theorem SpanEnding.action_ne (ending : SpanEnding) (context : Snapshot) (parent : Option Snapshot)
    (source : ContextInstance) (other : Snapshot) (start : Bool) :
    ending.action context ≠ .getOrCreate parent source other start := by
  cases ending <;> simp [action]

theorem Creation.bare_of_mem_reading? {creation : Creation} {reading : HeldExtraction}
    (h : reading ∈ creation.reading?) : reading.context? = none := by
  cases creation with
  | nextSpanWith current extraction =>
    unfold reading? at h
    dsimp only at h
    split at h
    . next hbare =>
      rw [← Option.some.inj h]
      exact Option.isNone_iff_eq_none.1 hbare
    . cases h
  | _ => cases h

theorem Tracing.pendings_of_ofConfig {config : TracerConfig} {tracing : Tracing}
    (h : Tracing.ofConfig config = .ok tracing) : tracing.registry.pendings = [] := by
  rw [Tracing.registry_of_ofConfig h]
  rfl

namespace Registry

def sources (registry : Registry) : List ContextInstance :=
  registry.pendings.map PendingSpan.source

variable {registry other : Registry}

theorem sources_of_spans
    (h : other.pendings.map PendingSpan.identity = registry.pendings.map PendingSpan.identity) :
    other.sources = registry.sources := by
  have hsources := congrArg (List.map Prod.fst) h
  rwa [List.map_map, List.map_map] at hsources

theorem sources_endSpan (alive : Nat → Bool) (registry : Registry) (context : Snapshot)
    (ending : SpanEnding) :
    (registry.endSpan alive context ending).1.sources = registry.sources := by
  have hstep := registry.step_endSpan alive context ending
  apply sources_of_spans
  rcases (RegistryState.mk registry alive).spans_step (ending.action context) with
    hspans | ⟨parent, source, other, start, haction, _⟩
  . rwa [hstep] at hspans
  . exact absurd haction (ending.action_ne context parent source other start)

end Registry

namespace TracerState

theorem plain_frame {action : TracingAction} (h : action.Plain) (alive : Nat → Bool)
    (state : TracerState) :
    (state.perform alive action).heap = state.heap ∧
      (state.perform alive action).tracing.registry.sources = state.tracing.registry.sources := by
  cases action with
  | create creation => exact h.elim
  | currentSpan current => exact h.elim
  | endSpan span ending =>
    unfold perform endSpan
    dsimp only
    split
    . exact ⟨rfl, rfl⟩
    . exact ⟨rfl, Registry.sources_endSpan alive _ _ ending⟩
  | record place entry =>
    exact ⟨rfl, Registry.sources_of_spans (state.alike_record place entry .done).spans⟩
  | setNoop value => exact ⟨rfl, rfl⟩
  | close =>
    refine ⟨rfl, ?_⟩
    show state.tracing.close.value.registry.sources = _
    rw [Tracing.registry_close]
    rfl
  | elsewhere heap => exact h.elim

inductive Adds (state : TracerState) (context : TraceContext BaggageRef)
    (made : SpanHandle × TracerState) : Prop where
  | nothing (hsources : made.2.tracing.registry.sources = state.tracing.registry.sources)
      (hspan : made.1.source.context = context ∨
        made.1.source ∈ state.tracing.registry.sources)
  | span (hsources : made.2.tracing.registry.sources =
        state.tracing.registry.sources ++ [made.1.source])
      (hspan : made.1.source.context = context)

theorem adds_register (state : TracerState) (alive : Nat → Bool) (parent : Option ContextInstance)
    (context : TraceContext BaggageRef) :
    Adds state context (Tracer.register alive parent context state) := by
  let source := (state.heap.instantiate context).1
  let swept := state.tracing.registry.sweep alive
  let made := state.tracing.registry.getOrCreate alive (parent.map state.heap.view) source
    (state.heap.view source) false
  let span := Tracer.register alive parent context state
  have hsource := Tracer.source_register alive parent context state
  have hregistry := Tracer.registry_register alive parent context state
  by_cases hnothing : Tracer.keepsNothing state.tracing context
  . replace hsource : span.1.source = source := hsource.trans (if_pos hnothing)
    replace hregistry : span.2.tracing.registry = _ := hregistry.trans (if_pos hnothing)
    exact .nothing (congrArg Registry.sources hregistry)
      (.inl (congrArg ContextInstance.context hsource))
  . replace hsource : span.1.source = made.2.1.pendings[made.1]?.elim source (·.source) :=
      hsource.trans (if_neg hnothing)
    replace hregistry : span.2.tracing.registry = made.2.1 := hregistry.trans (if_neg hnothing)
    cases hfind : swept.1.find? (state.heap.view source).key with
    | none =>
      obtain ⟨_, _, hsources⟩ :=
        Registry.getOrCreate_of_none (parent.map state.heap.view) source false hfind
      obtain ⟨pending, hpending, hsame⟩ := Option.map_eq_some_iff.1
        (Registry.source_getOrCreate_of_none (parent.map state.heap.view) source false hfind)
      rw [hpending, Option.elim_some, hsame] at hsource
      refine .span ?_ (congrArg ContextInstance.context hsource)
      rw [hregistry, hsource]
      exact hsources
    | some place =>
      have hswept : made = (place, swept) := Registry.getOrCreate_eq_sweep hfind _ source false
      have hsources := Registry.sources_of_spans (state.tracing.registry.alike_sweep alive).spans
      rw [hswept] at hregistry hsource
      refine .nothing ((congrArg Registry.sources hregistry).trans hsources) ?_
      rw [hsource]
      cases hpending : swept.1.pendings[place]? with
      | none => exact .inl rfl
      | some pending =>
        rw [Option.elim_some, ← hsources]
        exact .inr (List.mem_map_of_mem (List.mem_of_getElem? hpending))

theorem adds_run (state : TracerState) (alive : Nat → Bool) (creation : Creation) :
    Adds state (creation.context state).1 (creation.run alive state) := by
  have hregistry := (creation.context_frame state).1
  have hadds := adds_register (creation.context state).2 alive creation.parent?
    (creation.context state).1
  have hrecorded : ∀ other : TracerState, ∀ place,
      (other.recordAll place creation.entries).tracing.registry.sources =
        other.tracing.registry.sources :=
    fun other place => Registry.sources_of_spans (other.alike_recordAll place creation.entries).spans
  rw [creation.run_eq, Tracer.bind_apply]
  cases hadds with
  | nothing hsources hspan =>
    rw [hregistry] at hsources hspan
    exact .nothing ((hrecorded _ _).trans hsources) hspan
  | span hsources hspan =>
    rw [hregistry] at hsources
    exact .span ((hrecorded _ _).trans hsources) hspan

end TracerState

/--
What there is while spans are created: what was read from carriers, the spans, and which span IDs go
back to which reading without a context.
-/
structure Workload where
  state : TracerState
  readings : List HeldExtraction
  spans : List SpanHandle
  heirs : List (SpanId × HeldExtraction)

namespace Workload

def sources (work : Workload) : List ContextInstance :=
  work.spans.map SpanHandle.source ++ work.readings.filterMap Extraction.context?

def read (work : Workload) (reading : Reading) : Workload :=
  let (extraction, heap) := work.state.heap.importReading reading
  { work with
    state := { work.state with heap }
    readings := extraction :: work.readings }

def create (work : Workload) (alive : Nat → Bool) (creation : Creation) : Workload :=
  let (span, state) := creation.run alive work.state
  { work with
    state
    spans := span :: work.spans
    heirs := (creation.reading?.map fun reading => (span.key.spanId, reading)).toList ++ work.heirs }

def act (work : Workload) (alive : Nat → Bool) (action : TracingAction) : Workload :=
  { work with state := work.state.perform alive action }

def update (work : Workload) (extra : List (Extra BaggageRef)) (field : BaggageField)
    (value : Option String) : Workload :=
  { work with state := { work.state with heap := work.state.heap.updateIn extra field value } }

structure Offers (work : Workload) (creation : Creation) : Prop where
  sources : ∀ source ∈ creation.sources, source ∈ work.sources
  reading : ∀ reading ∈ creation.reading?, reading ∈ work.readings

/--
Holds for what is reached when spans are created from the contexts at hand, in any order with what
is read and with updates of baggage.
-/
inductive Reached (tracing : Tracing) (heap : Heap) : Workload → Prop where
  | start : Reached tracing heap ⟨⟨tracing, heap, []⟩, [], [], []⟩
  | read {work : Workload} (reading : Reading) :
      Reached tracing heap work → Reached tracing heap (work.read reading)
  | create {work : Workload} (alive : Nat → Bool) (creation : Creation) :
      Reached tracing heap work → work.Offers creation →
      Reached tracing heap (work.create alive creation)
  | act {work : Workload} (alive : Nat → Bool) (action : TracingAction) :
      Reached tracing heap work → action.Plain → Reached tracing heap (work.act alive action)
  | update {work : Workload} (extra : List (Extra BaggageRef)) (field : BaggageField)
      (value : Option String) :
      Reached tracing heap work → Reached tracing heap (work.update extra field value)

def Heir (work : Workload) (span : SpanHandle) (reading : HeldExtraction) : Prop :=
  (span.key.spanId, reading) ∈ work.heirs ∧
    ∃ ref ∈ span.source.context.baggage?, ref ∈ reading.extra.findSome? Extra.baggage?

end Workload

inductive BaggageOwner where
  | spans (spanId : SpanId)
  | reading (reading : HeldExtraction)

namespace BaggageOwner

def ofReading (extraction : HeldExtraction) (ref : BaggageRef) : BaggageOwner :=
  match extraction.context? with
  | some source => .spans source.context.spanId
  | none =>
    if ref ∈ extraction.extra.findSome? Extra.baggage? then .reading extraction else .spans .invalid

variable {extraction other : HeldExtraction} {ref : BaggageRef}

theorem ofReading_of_context {source : ContextInstance} (h : extraction.context? = some source)
    (ref : BaggageRef) : ofReading extraction ref = .spans source.context.spanId := by
  unfold ofReading
  rw [h]

theorem ofReading_of_mem (h : extraction.context? = none)
    (href : ref ∈ extraction.extra.findSome? Extra.baggage?) :
    ofReading extraction ref = .reading extraction := by
  unfold ofReading
  rw [h]
  exact if_pos href

theorem eq_of_ofReading_eq (h : ofReading extraction ref = .reading other) :
    extraction = other ∧ ref ∈ extraction.extra.findSome? Extra.baggage? := by
  unfold ofReading at h
  split at h
  . cases h
  . split at h
    . next href => exact ⟨BaggageOwner.reading.inj h, href⟩
    . cases h

def assign (heap : Heap) (owner added : BaggageRef → BaggageOwner) (ref : BaggageRef) :
    BaggageOwner :=
  if ref < heap.baggage.length then owner ref else added ref

theorem assign_of_lt {heap : Heap} (h : ref < heap.baggage.length)
    (owner added : BaggageRef → BaggageOwner) : assign heap owner added ref = owner ref :=
  if_pos h

theorem assign_of_fresh {heap grown : Heap} (h : Heap.Fresh heap grown ref)
    (owner added : BaggageRef → BaggageOwner) : assign heap owner added ref = added ref :=
  if_neg (Nat.not_lt.2 h.le)

end BaggageOwner

namespace Workload

open BaggageOwner (assign assign_of_lt assign_of_fresh ofReading)

def Holds (work : Workload) (owner : BaggageRef → BaggageOwner) (source : ContextInstance) : Prop :=
  ∀ ref ∈ source.context.baggage?, ref < work.state.heap.baggage.length ∧
    (owner ref = .spans source.context.spanId ∨
      ∃ reading, owner ref = .reading reading ∧ (source.context.spanId, reading) ∈ work.heirs)

structure Apportioned (work : Workload) (owner : BaggageRef → BaggageOwner) : Prop where
  sources : ∀ source ∈ work.sources, work.Holds owner source
  recorded : ∀ source ∈ work.state.tracing.registry.sources, work.Holds owner source
  readings : ∀ reading ∈ work.readings, reading.context? = none →
    ∀ ref ∈ reading.extra.findSome? Extra.baggage?,
      ref < work.state.heap.baggage.length ∧ owner ref = .reading reading
  owned : ∀ ref < work.state.heap.baggage.length, ∀ reading, owner ref = .reading reading →
    reading ∈ work.readings ∧ ref ∈ reading.extra.findSome? Extra.baggage?

variable {work other : Workload} {owner : BaggageRef → BaggageOwner}

theorem mem_readings_read {reading : Reading} {extraction : HeldExtraction} :
    extraction ∈ (work.read reading).readings ↔
      extraction ∈ work.readings ∨ extraction = (work.state.heap.importReading reading).1 :=
  List.mem_cons.trans or_comm

theorem mem_sources_read {reading : Reading} {source : ContextInstance} :
    source ∈ (work.read reading).sources ↔
      source ∈ work.sources ∨
        (work.state.heap.importReading reading).1.context? = some source := by
  unfold sources
  rw [List.mem_append, List.mem_append, List.mem_filterMap, List.mem_filterMap, or_assoc]
  apply or_congr_right
  constructor
  . rintro ⟨extraction, hmem, hcontext⟩
    rcases mem_readings_read.1 hmem with hold | rfl
    . exact .inl ⟨extraction, hold, hcontext⟩
    . exact .inr hcontext
  . rintro (⟨extraction, hold, hcontext⟩ | hcontext)
    . exact ⟨extraction, mem_readings_read.2 (.inl hold), hcontext⟩
    . exact ⟨_, mem_readings_read.2 (.inr rfl), hcontext⟩

theorem mem_sources_create {alive : Nat → Bool} {creation : Creation} {source : ContextInstance} :
    source ∈ (work.create alive creation).sources ↔
      source ∈ work.sources ∨ source = (creation.run alive work.state).1.source :=
  List.mem_cons.trans or_comm

theorem Offers.create {creation : Creation} (h : work.Offers creation) (alive : Nat → Bool)
    (other : Creation) : (work.create alive other).Offers creation where
  sources := fun source hsource => mem_sources_create.2 (.inl (h.sources source hsource))
  reading := h.reading

theorem Holds.of_grown {source : ContextInstance} (h : work.Holds owner source)
    (hle : work.state.heap.baggage.length ≤ other.state.heap.baggage.length)
    (hheirs : work.heirs ⊆ other.heirs) (added : BaggageRef → BaggageOwner) :
    other.Holds (assign work.state.heap owner added) source := by
  intro ref href
  obtain ⟨hlt, howner⟩ := h ref href
  rw [assign_of_lt hlt]
  refine ⟨hlt.trans_le hle, howner.imp_right ?_⟩
  rintro ⟨reading, hreading, hheir⟩
  exact ⟨reading, hreading, hheirs hheir⟩

theorem length_le_create (work : Workload) (alive : Nat → Bool) (creation : Creation) :
    work.state.heap.baggage.length ≤
      (work.create alive creation).state.heap.baggage.length := by
  have hbaggage : (work.create alive creation).state.heap.baggage =
      (creation.context work.state).2.heap.baggage := creation.baggage_run alive work.state
  rw [hbaggage]
  exact (creation.grown_context work.state).length_le

theorem Holds.create {source : ContextInstance} (h : work.Holds owner source) (alive : Nat → Bool)
    (creation : Creation) (added : BaggageRef → BaggageOwner) :
    (work.create alive creation).Holds (assign work.state.heap owner added) source :=
  h.of_grown (length_le_create work alive creation) (List.subset_append_right _ _) added

namespace Apportioned

theorem start {tracing : Tracing} (h : tracing.registry.pendings = []) (heap : Heap) :
    Apportioned ⟨⟨tracing, heap, []⟩, [], [], []⟩ fun _ => .spans .invalid where
  sources := by simp [Workload.sources]
  recorded := by simp [Registry.sources, h]
  readings := by simp
  owned := by simp

theorem of_frame (h : Apportioned work owner) {state : TracerState}
    (hlength : state.heap.baggage.length = work.state.heap.baggage.length)
    (hsources : state.tracing.registry.sources = work.state.tracing.registry.sources) :
    Apportioned { work with state } owner := by
  have hholds : ∀ source, work.Holds owner source → Holds { work with state } owner source := by
    intro source hsource ref href
    dsimp only
    rw [hlength]
    exact hsource ref href
  refine ⟨fun source hsource => hholds source (h.sources source hsource), ?_, ?_, ?_⟩
  . dsimp only
    rw [hsources]
    exact fun source hsource => hholds source (h.recorded source hsource)
  . dsimp only
    rw [hlength]
    exact h.readings
  . dsimp only
    rw [hlength]
    exact h.owned

theorem act (h : Apportioned work owner) (alive : Nat → Bool) {action : TracingAction}
    (hplain : action.Plain) : Apportioned (work.act alive action) owner := by
  obtain ⟨hheap, hsources⟩ := TracerState.plain_frame hplain alive work.state
  exact h.of_frame (by rw [hheap]) hsources

theorem update (h : Apportioned work owner) (extra : List (Extra BaggageRef)) (field : BaggageField)
    (value : Option String) : Apportioned (work.update extra field value) owner :=
  h.of_frame (work.state.heap.length_updateIn extra field value) rfl

theorem read (h : Apportioned work owner) (reading : Reading) :
    ∃ owner, Apportioned (work.read reading) owner := by
  let heap := work.state.heap
  have hle : heap.baggage.length ≤ (work.read reading).state.heap.baggage.length :=
    (heap.grown_importReading reading).length_le
  let added := ofReading (heap.importReading reading).1
  have hkept : ∀ source, work.Holds owner source →
      (work.read reading).Holds (assign heap owner added) source :=
    fun source hsource => hsource.of_grown hle (List.Subset.refl _) added
  refine ⟨assign heap owner added, ?_,
    fun source hsource => hkept source (h.recorded source hsource), ?_, ?_⟩
  . intro source hsource
    rcases mem_sources_read.1 hsource with hold | hcontext
    . exact hkept source (h.sources source hold)
    . intro ref href
      have hfresh := Heap.fresh_importReading_context hcontext ref href
      rw [assign_of_fresh hfresh]
      exact ⟨hfresh.lt, .inl (BaggageOwner.ofReading_of_context hcontext ref)⟩
  . intro other hother hbare ref href
    rcases mem_readings_read.1 hother with hold | rfl
    . obtain ⟨hlt, howner⟩ := h.readings other hold hbare ref href
      rw [assign_of_lt hlt]
      exact ⟨hlt.trans_le hle, howner⟩
    . have hfresh := Heap.fresh_importReading_extra hbare ref href
      rw [assign_of_fresh hfresh]
      exact ⟨hfresh.lt, BaggageOwner.ofReading_of_mem hbare href⟩
  . intro ref hlast other howner
    by_cases hlt : ref < heap.baggage.length
    . rw [assign_of_lt hlt] at howner
      obtain ⟨hmem, href⟩ := h.owned ref hlt other howner
      exact ⟨mem_readings_read.2 (.inl hmem), href⟩
    . have hfresh : Heap.Fresh heap (work.read reading).state.heap ref := ⟨Nat.le_of_not_lt hlt, hlast⟩
      rw [assign_of_fresh hfresh] at howner
      obtain ⟨rfl, href⟩ := BaggageOwner.eq_of_ofReading_eq howner
      exact ⟨mem_readings_read.2 (.inr rfl), href⟩

theorem holds_made (h : Apportioned work owner) {creation : Creation}
    (offers : work.Offers creation) {alive : Nat → Bool}
    (hcontext : (creation.run alive work.state).1.source.context =
      (creation.context work.state).1) :
    (work.create alive creation).Holds
      (assign work.state.heap owner fun _ => .spans (creation.context work.state).1.spanId)
      (creation.run alive work.state).1.source := by
  have hbaggage : (work.create alive creation).state.heap.baggage =
      (creation.context work.state).2.heap.baggage := creation.baggage_run alive work.state
  intro ref href
  rw [hcontext] at href
  cases creation.stems work.state href with
  | fresh hfresh =>
    rw [hbaggage, assign_of_fresh hfresh, hcontext]
    exact ⟨hfresh.lt, .inl rfl⟩
  | kept source hsource hspanId href =>
    rw [hcontext, ← hspanId]
    exact (h.sources source (offers.sources source hsource)).create alive creation _ ref href
  | inherited reading hmem href =>
    obtain ⟨hlt, howner⟩ :=
      h.readings reading (offers.reading reading hmem) (creation.bare_of_mem_reading? hmem) ref href
    rw [assign_of_lt hlt]
    -- the reading stays the owner, and the new span becomes one of its heirs
    refine ⟨hlt.trans_le (length_le_create work alive creation), .inr ⟨reading, howner, ?_⟩⟩
    apply List.mem_append_left
    rw [Option.mem_toList]
    exact Option.map_eq_some_iff.2 ⟨reading, hmem, rfl⟩

theorem create (h : Apportioned work owner) {creation : Creation} (offers : work.Offers creation)
    (alive : Nat → Bool) : ∃ owner, Apportioned (work.create alive creation) owner := by
  let state := work.state
  let span := (creation.run alive state).1
  let added : BaggageRef → BaggageOwner := fun _ => .spans (creation.context state).1.spanId
  have hkept : ∀ source, work.Holds owner source →
      (work.create alive creation).Holds (assign state.heap owner added) source :=
    fun source hsource => hsource.create alive creation added
  have hspan : (work.create alive creation).Holds (assign state.heap owner added) span.source := by
    cases state.adds_run alive creation with
    | nothing _ hsource =>
      exact hsource.elim (h.holds_made offers) fun hold => hkept _ (h.recorded _ hold)
    | span _ hcontext => exact h.holds_made offers hcontext
  refine ⟨assign state.heap owner added, ?_, ?_, ?_, ?_⟩
  . intro source hsource
    rcases mem_sources_create.1 hsource with hold | rfl
    . exact hkept source (h.sources source hold)
    . exact hspan
  . intro source hsource
    have hmem : source ∈ (creation.run alive state).2.tracing.registry.sources := hsource
    cases state.adds_run alive creation with
    | nothing hsame _ =>
      rw [hsame] at hmem
      exact hkept source (h.recorded source hmem)
    | span hadded _ =>
      rw [hadded, List.mem_append, List.mem_singleton] at hmem
      rcases hmem with hold | rfl
      . exact hkept source (h.recorded source hold)
      . exact hspan
  . intro reading hmem hbare ref href
    obtain ⟨hlt, howner⟩ := h.readings reading hmem hbare ref href
    rw [assign_of_lt hlt]
    exact ⟨hlt.trans_le (length_le_create work alive creation), howner⟩
  . intro ref hlast reading howner
    by_cases hlt : ref < state.heap.baggage.length
    . rw [assign_of_lt hlt] at howner
      exact h.owned ref hlt reading howner
    . have hfresh : Heap.Fresh state.heap (work.create alive creation).state.heap ref :=
        ⟨Nat.le_of_not_lt hlt, hlast⟩
      rw [assign_of_fresh hfresh] at howner
      cases howner

end Apportioned

theorem Reached.apportioned {tracing : Tracing} {heap : Heap} (h : Reached tracing heap work)
    (hempty : tracing.registry.pendings = []) : ∃ owner, Apportioned work owner := by
  induction h with
  | start => exact ⟨_, .start hempty heap⟩
  | read reading _ ih =>
    obtain ⟨owner, h⟩ := ih
    exact h.read reading
  | create alive creation _ offers ih =>
    obtain ⟨owner, h⟩ := ih
    exact h.create offers alive
  | act alive action _ hplain ih =>
    obtain ⟨owner, h⟩ := ih
    exact ⟨owner, h.act alive hplain⟩
  | update extra field value _ ih =>
    obtain ⟨owner, h⟩ := ih
    exact ⟨owner, h.update extra field value⟩

theorem Apportioned.exists_coheirs (h : Apportioned work owner) {a b : SpanHandle}
    (ha : a ∈ work.spans) (hb : b ∈ work.spans) (hids : a.key.spanId ≠ b.key.spanId)
    {ref : BaggageRef} (href : ref ∈ a.source.context.baggage?)
    (hsame : ref ∈ b.source.context.baggage?) :
    ∃ reading ∈ work.readings, work.Heir a reading ∧ work.Heir b reading := by
  have hsource : ∀ span ∈ work.spans, span.source ∈ work.sources :=
    fun span hspan => List.mem_append_left _ (List.mem_map_of_mem hspan)
  obtain ⟨hlt, hfirst⟩ := h.sources a.source (hsource a ha) ref href
  obtain ⟨_, hsecond⟩ := h.sources b.source (hsource b hb) ref hsame
  rcases hfirst with hfirst | ⟨reading, hfirst, hheir⟩
  . -- the baggage is that of the first span's ID, so the second one has no business with it
    rcases hsecond with hsecond | ⟨reading, hsecond, _⟩
    . exact absurd (BaggageOwner.spans.inj (hfirst.symm.trans hsecond)) hids
    . cases hfirst.symm.trans hsecond
  . rcases hsecond with hsecond | ⟨other, hsecond, hother⟩
    . cases hfirst.symm.trans hsecond
    . have heq := BaggageOwner.reading.inj (hfirst.symm.trans hsecond)
      rw [← heq] at hother
      obtain ⟨hmem, hread⟩ := h.owned ref hlt reading hfirst
      exact ⟨reading, hmem, ⟨hheir, ref, href, hread⟩, ⟨hother, ref, hsame, hread⟩⟩

/--
Whatever was read, created and updated before: an update of baggage through one span changes nothing
that is read through a span of another ID, unless both have the baggage of one reading without a
context that they go back to.
-/
theorem valueIn_update_of_apart {config : TracerConfig} {tracing : Tracing}
    (hconfig : Tracing.ofConfig config = .ok tracing) {heap : Heap} {work : Workload}
    (reached : Reached tracing heap work) {a b : SpanHandle} (ha : a ∈ work.spans)
    (hb : b ∈ work.spans) (hids : a.key.spanId ≠ b.key.spanId)
    (hapart : ∀ reading ∈ work.readings, ¬(work.Heir a reading ∧ work.Heir b reading))
    (field : BaggageField) (value : Option String) (other : BaggageField) :
    (work.update a.source.context.extra field value).state.heap.valueIn b.source.context.extra
        other =
      work.state.heap.valueIn b.source.context.extra other := by
  obtain ⟨owner, h⟩ := reached.apportioned (Tracing.pendings_of_ofConfig hconfig)
  apply Heap.valueIn_updateIn
  intro ref href hsame
  obtain ⟨reading, hmem, hboth⟩ := h.exists_coheirs ha hb hids href hsame
  exact hapart reading hmem hboth

theorem valueIn_update_of_apart_children :
    let alive := fun _ : Nat => true
    let field : BaggageField := ⟨"userId"⟩
    let config : TracerConfig :=
      ⟨"service", none, 0, .always, .counting, true, false, .fixed 1, .shared, [], []⟩
    let tracing : Tracing :=
      ⟨"service", .always, .counting, .shared, true, [],
        .ofHandlers (Tracing.template config) (Tracing.handlers config) (.fixed 1)⟩
    let reading : Reading :=
      ⟨.context ⟨⟨1⟩, ⟨9⟩, none, none, .sampledYes, false,
        [.baggage ⟨[(field, some "romeo")]⟩]⟩, []⟩
    let read := Workload.read ⟨⟨tracing, .empty, []⟩, [], [], []⟩ reading
    let creation : Creation := .nextSpanWith none (Heap.empty.importReading reading).1
    let first := read.create alive creation
    let second := first.create alive creation
    let a := (creation.run alive read.state).1
    let b := (creation.run alive first.state).1
    Tracing.ofConfig config = .ok tracing ∧ Reached tracing .empty second ∧ a ∈ second.spans ∧
      b ∈ second.spans ∧ a.key.spanId ≠ b.key.spanId ∧
      (second.update a.source.context.extra field (some "juliet")).state.heap.valueIn
        a.source.context.extra field = some "juliet" ∧
      (second.update a.source.context.extra field (some "juliet")).state.heap.valueIn
        b.source.context.extra field = some "romeo" := by
  intro alive field config tracing reading read creation first second a b
  have hconfig : Tracing.ofConfig config = .ok tracing := if_neg (by decide +kernel)
  have offers : read.Offers creation := ⟨by decide +kernel, by decide +kernel⟩
  have hfirst : Reached tracing .empty first := .create alive creation (.read reading .start) offers
  have hsecond : Reached tracing .empty second :=
    .create alive creation hfirst (offers.create alive creation)
  have ha : a ∈ second.spans := List.mem_cons_of_mem _ (List.mem_cons_self ..)
  have hb : b ∈ second.spans := List.mem_cons_self ..
  have hvalues : a.key.spanId ≠ b.key.spanId ∧
      (second.update a.source.context.extra field (some "juliet")).state.heap.valueIn
        a.source.context.extra field = some "juliet" ∧
      second.state.heap.valueIn b.source.context.extra field = some "romeo" := by
    subst b a second first creation read reading tracing config field alive
    cbv
    decide
  obtain ⟨hids, hupdated, hvalue⟩ := hvalues
  refine ⟨hconfig, hsecond, ha, hb, hids, hupdated, ?_⟩
  rw [valueIn_update_of_apart hconfig hsecond ha hb hids]
  . exact hvalue
  . intro extraction _ hboth
    exact List.not_mem_nil hboth.1.1

/--
Two spans of their own IDs that were created from the flags and the baggage of one reading.
-/
theorem coheirs_share_baggage :
    let alive := fun _ : Nat => true
    let field : BaggageField := ⟨"userId"⟩
    let config : TracerConfig :=
      ⟨"service", none, 0, .always, .counting, true, false, .fixed 1, .shared, [], []⟩
    let tracing : Tracing :=
      ⟨"service", .always, .counting, .shared, true, [],
        .ofHandlers (Tracing.template config) (Tracing.handlers config) (.fixed 1)⟩
    let reading : Reading := ⟨.flags .sampledYes, [.baggage ⟨[(field, some "romeo")]⟩]⟩
    let read := Workload.read ⟨⟨tracing, .empty, []⟩, [], [], []⟩ reading
    let creation : Creation := .nextSpanWith none (Heap.empty.importReading reading).1
    let first := read.create alive creation
    let second := first.create alive creation
    let a := (creation.run alive read.state).1
    let b := (creation.run alive first.state).1
    Tracing.ofConfig config = .ok tracing ∧ Reached tracing .empty second ∧ a ∈ second.spans ∧
      b ∈ second.spans ∧ a.key.spanId ≠ b.key.spanId ∧
      second.state.heap.valueIn b.source.context.extra field = some "romeo" ∧
      (second.update a.source.context.extra field (some "juliet")).state.heap.valueIn
        b.source.context.extra field = some "juliet" := by
  intro alive field config tracing reading read creation first second a b
  have hconfig : Tracing.ofConfig config = .ok tracing := if_neg (by decide +kernel)
  have offers : read.Offers creation := by
    refine ⟨by decide +kernel, ?_⟩
    intro extraction hextraction
    rw [← Option.some.inj hextraction]
    exact List.mem_cons_self ..
  have hfirst : Reached tracing .empty first := .create alive creation (.read reading .start) offers
  have hsecond : Reached tracing .empty second :=
    .create alive creation hfirst (offers.create alive creation)
  have hvalues : a.key.spanId ≠ b.key.spanId ∧
      second.state.heap.valueIn b.source.context.extra field = some "romeo" ∧
      (second.update a.source.context.extra field (some "juliet")).state.heap.valueIn
        b.source.context.extra field = some "juliet" := by
    subst b a second first creation read reading tracing config field alive
    cbv
    decide
  exact ⟨hconfig, hsecond, List.mem_cons_of_mem _ (List.mem_cons_self ..), List.mem_cons_self ..,
    hvalues⟩

end Workload

end RequestTracing
