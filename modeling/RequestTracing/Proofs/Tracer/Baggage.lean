import Mathlib
import RequestTracing.Proofs.Trace.Baggage
import RequestTracing.Proofs.Tracer.Decision

/-!
This module contains the forests of contexts that a tracer with baggage fields grows: roots,
children of any context, and updates of baggage through any context in between. Main statement:
although contexts refer to baggage that changes over time, each reads as if it owned a map, which
starts as a copy of that of its parent and is changed by updates through that context alone.
-/

namespace RequestTracing

theorem Heap.get_update {heap : Heap} {ref : BaggageRef} (h : ref < heap.baggage.length)
    (field : BaggageField) (value : Option String) (other : BaggageRef) :
    (heap.update ref field value).2.get other =
      if other = ref then (heap.get ref).update field value else heap.get other := by
  unfold get update
  dsimp only
  rw [List.getD_eq_getElem?_getD, List.getElem?_modify]
  by_cases hother : ref = other
  . subst hother
    simp [h]
  . simp [hother, Ne.symm hother]

namespace Tracer

theorem decide_eq (traceId : TraceId) (flags : SamplingFlags) (state : TracerState) :
    ∃ settled sampler, decide traceId flags state = (settled, state.withSampler sampler) ∧
      settled.sampled.isSome ∧ (flags.sampled.isSome → settled.sampled = flags.sampled) := by
  unfold decide
  cases hsampled : flags.sampled with
  | some decision =>
    exact ⟨flags, state.tracing.sampler, rfl, by rw [hsampled]; rfl, fun _ => hsampled⟩
  | none =>
    have hdecided : ∀ sampled, (flags.withSampled (some sampled)).sampled.isSome := by
      intro sampled
      rw [SamplingFlags.sampled_withSampled]
      rfl
    cases flags.debug with
    | true => exact ⟨_, state.tracing.sampler, rfl, hdecided true, by simp⟩
    | false => exact ⟨_, _, rfl, hdecided _, by simp⟩

theorem complete_eq (builder : ContextBuilder BaggageRef) (flags : SamplingFlags)
    (state : TracerState) :
    ∃ settled sampler, complete builder flags state =
        equip { builder.toContext with flags := settled } (state.withSampler sampler) ∧
      settled.sampled.isSome ∧ (flags.sampled.isSome → settled.sampled = flags.sampled) := by
  obtain ⟨decided, sampler, hdecide, hsome, hkept⟩ := decide_eq builder.traceId flags state
  unfold complete
  rw [bind_apply, hdecide, bind_apply, markLocal_eq]
  refine ⟨if state.tracing.registry.chain.alwaysSampleLocal then decided.withSampledLocal true
    else decided, sampler, rfl, ?_⟩
  split
  . rw [SamplingFlags.sampled_withSampledLocal]
    exact ⟨hsome, hkept⟩
  . exact ⟨hsome, hkept⟩

theorem equip_of_nil {context : TraceContext BaggageRef} {state : TracerState}
    (hfields : state.tracing.baggageFields ≠ []) (hextra : context.extra = []) :
    equip context state =
      ({ context with extra := [.baggage state.heap.baggage.length] },
        { state with
          heap := (state.heap.allocate (.ofFields state.tracing.baggageFields)).2 }) := by
  unfold equip TraceContext.baggage?
  rw [if_neg (by simp [hextra, hfields])]
  unfold Heap.allocate TraceContext.withExtra
  rw [hextra]
  rfl

theorem equip_of_baggage {context : TraceContext BaggageRef} {ref : BaggageRef}
    (hextra : context.extra = [.baggage ref]) (state : TracerState) :
    equip context state = (context, state) := by
  unfold equip TraceContext.baggage?
  rw [if_pos (by simp [hextra, Extra.baggage?])]

/--
What comes of making a context with baggage of its own, under a span ID that was taken from the
source of IDs.
-/
structure Bears (taken : SpanId × IdSource) (fields : BaggageFields) (state : TracerState)
    (made : TraceContext BaggageRef × TracerState) : Prop where
  spanId : made.1.spanId = taken.1
  ids : made.2.tracing.ids = taken.2
  extra : made.1.extra = [.baggage state.heap.baggage.length]
  heap : made.2.heap.baggage = state.heap.baggage ++ [fields]
  registry : made.2.tracing.registry = state.tracing.registry
  baggageFields : made.2.tracing.baggageFields = state.tracing.baggageFields

theorem bears_rootContext {state : TracerState} (h : state.tracing.baggageFields ≠ [])
    (flags : SamplingFlags) :
    Bears state.tracing.ids.takeTraceId.2.takeSpanId (.ofFields state.tracing.baggageFields) state
      (rootContext flags [] state) := by
  unfold rootContext
  rw [bind_apply, bind_apply]
  obtain ⟨settled, sampler, hcomplete, _⟩ := complete_eq
    { traceId := (freshTraceId state).1, spanId := (freshSpanId (freshTraceId state).2).1,
      localRootId := some (freshSpanId (freshTraceId state).2).1, extra := [] }
    flags (freshSpanId (freshTraceId state).2).2
  rw [hcomplete, equip_of_nil]
  . exact ⟨rfl, rfl, rfl, rfl, rfl, rfl⟩
  . exact h
  . rfl

theorem bears_childContext {parent : TraceContext BaggageRef} {ref : BaggageRef}
    (h : parent.extra = [.baggage ref]) (state : TracerState) :
    Bears state.tracing.ids.takeSpanId (state.heap.get ref) state (childContext parent state) := by
  unfold childContext
  rw [bind_apply, bind_apply, h]
  obtain ⟨settled, sampler, hcomplete, _⟩ := complete_eq
    { traceId := parent.traceId, spanId := (freshSpanId state).1, parentId := some parent.spanId,
      localRootId := some (parent.localRootId.getD (freshSpanId state).1),
      extra := (fork [.baggage ref] (freshSpanId state).2).1 }
    parent.flags (fork [.baggage ref] (freshSpanId state).2).2
  rw [hcomplete, equip_of_baggage rfl]
  exact ⟨rfl, rfl, rfl, rfl, rfl, rfl⟩

/--
What comes of creating a span for a context with baggage of its own, where nothing tracked has the
span ID that was taken.
-/
structure Plants (taken : SpanId × IdSource) (fields : BaggageFields) (state : TracerState)
    (made : SpanHandle × TracerState) : Prop where
  ids : made.2.tracing.ids = taken.2
  extra : made.1.source.context.extra = [.baggage state.heap.baggage.length]
  heap : made.2.heap.baggage = state.heap.baggage ++ [fields]
  baggageFields : made.2.tracing.baggageFields = state.tracing.baggageFields
  tracked : ∀ entry ∈ made.2.tracing.registry.tracked,
    entry ∈ state.tracing.registry.tracked ∨ entry.1.spanId = taken.1

theorem register_frame (alive : Nat → Bool) (parent : Option ContextInstance)
    (context : TraceContext BaggageRef) (state : TracerState) :
    (register alive parent context state).2.tracing.ids = state.tracing.ids ∧
      (register alive parent context state).2.heap.baggage = state.heap.baggage ∧
      (register alive parent context state).2.tracing.baggageFields =
        state.tracing.baggageFields := by
  rw [register_eq]
  split
  . exact ⟨rfl, rfl, rfl⟩
  . exact ⟨rfl, rfl, rfl⟩

theorem registry_register (alive : Nat → Bool) (parent : Option ContextInstance)
    (context : TraceContext BaggageRef) (state : TracerState) :
    let source := (state.heap.instantiate context).1
    let made := state.tracing.registry.getOrCreate alive (parent.map state.heap.view) source
      (state.heap.view source) false
    (register alive parent context state).2.tracing.registry =
      if keepsNothing state.tracing context then state.tracing.registry else made.2.1 := by
  intro source made
  rw [register_eq]
  split
  . rfl
  . rfl

theorem tracked_register (alive : Nat → Bool) (parent : Option ContextInstance)
    (context : TraceContext BaggageRef) (state : TracerState) {entry : SpanKey × Nat}
    (hentry : entry ∈ (register alive parent context state).2.tracing.registry.tracked) :
    entry ∈ state.tracing.registry.tracked ∨ entry.1 = context.key := by
  rw [registry_register] at hentry
  split at hentry
  . exact .inl hentry
  . exact Registry.key_of_mem_tracked_getOrCreate _ _ _ _ _ _ hentry

theorem Bears.plants {taken : SpanId × IdSource} {fields : BaggageFields} {state : TracerState}
    {m : Tracer (TraceContext BaggageRef)} (h : Bears taken fields state (m state))
    (untracked : ∀ entry ∈ state.tracing.registry.tracked, entry.1.spanId ≠ taken.1)
    (alive : Nat → Bool) (parent : Option ContextInstance) :
    Plants taken fields state ((m >>= register alive parent) state) := by
  rw [bind_apply]
  obtain ⟨hids, hheap, hfields⟩ := register_frame alive parent (m state).1 (m state).2
  obtain ⟨context, rfl, hsource⟩ :=
    handles_register (P := (· = (m state).1)) rfl alive parent (m state).2
  refine ⟨hids.trans h.ids, ?_, hheap.trans h.heap, hfields.trans h.baggageFields, ?_⟩
  . cases hsource with
    | inl hnew => rw [hnew, h.extra]
    | inr hold =>
      -- An older span would be handed out under the same identity, but the span ID is a new one.
      obtain ⟨entry, hentry, hkey, _⟩ := hold
      rw [h.registry] at hentry
      exact absurd (by rw [hkey]; exact h.spanId) (untracked entry hentry)
  . intro entry hentry
    cases tracked_register alive parent (m state).1 (m state).2 hentry with
    | inl hold =>
      rw [h.registry] at hold
      exact .inl hold
    | inr hnew =>
      rw [hnew]
      exact .inr h.spanId

theorem plants_newTrace {state : TracerState} (h : state.tracing.baggageFields ≠ [])
    (untracked : ∀ entry ∈ state.tracing.registry.tracked,
      entry.1.spanId ≠ state.tracing.ids.takeTraceId.2.takeSpanId.1) (alive : Nat → Bool) :
    Plants state.tracing.ids.takeTraceId.2.takeSpanId (.ofFields state.tracing.baggageFields)
      state (newTrace alive state) :=
  (bears_rootContext h .empty).plants untracked alive none

theorem plants_newChild {parent : ContextInstance} {ref : BaggageRef}
    (h : parent.context.extra = [.baggage ref]) {state : TracerState}
    (untracked : ∀ entry ∈ state.tracing.registry.tracked,
      entry.1.spanId ≠ state.tracing.ids.takeSpanId.1) (alive : Nat → Bool) :
    Plants state.tracing.ids.takeSpanId (state.heap.get ref) state (newChild alive parent state) :=
  (bears_childContext h state).plants untracked alive (some parent)

end Tracer

inductive ForestAction where
  | newTrace (alive : Nat → Bool)
  | newChild (alive : Nat → Bool) (parent : Nat)
  | update (context : Nat) (field : BaggageField) (value : Option String)

structure Forest where
  state : TracerState
  contexts : List ContextInstance
  drawn : List SpanId

namespace Forest

def plant (state : TracerState) : Forest :=
  ⟨state, [], []⟩

def add (forest : Forest) (id : SpanId) (made : SpanHandle × TracerState) : Forest :=
  ⟨made.2, forest.contexts ++ [made.1.source], forest.drawn ++ [id]⟩

def baggage? (forest : Forest) (context : Nat) : Option BaggageRef :=
  (forest.contexts[context]?).bind (·.context.baggage?)

def perform (forest : Forest) : ForestAction → Forest
  | .newTrace alive =>
    forest.add forest.state.tracing.ids.takeTraceId.2.takeSpanId.1
      (Tracer.newTrace alive forest.state)
  | .newChild alive parent =>
    match forest.contexts[parent]? with
    | none => forest
    | some source =>
      forest.add forest.state.tracing.ids.takeSpanId.1 (Tracer.newChild alive source forest.state)
  | .update context field value =>
    match forest.baggage? context with
    | none => forest
    | some ref =>
      { forest with
        state := { forest.state with heap := (forest.state.heap.update ref field value).2 } }

def after (forest : Forest) (actions : List ForestAction) : Forest :=
  actions.foldl perform forest

def getValue (forest : Forest) (context : Nat) (field : BaggageField) : Option String :=
  (forest.baggage? context).bind fun ref => (forest.state.heap.get ref).get? field

end Forest

namespace ForestAction

/--
What an action does where every context owns a map: a root starts with an empty one, and a child
with a copy of that of its parent.
-/
def performOwned (maps : List (String → Option String)) :
    ForestAction → List (String → Option String)
  | newTrace _ => maps.concat fun _ => none
  | newChild _ parent => maps ++ (maps[parent]?).toList
  | update context field value =>
    maps.modify context fun map => Function.update map field.key value

def ownedMaps (actions : List ForestAction) : List (String → Option String) :=
  actions.foldl performOwned []

end ForestAction

namespace Forest

variable {known : List SpanId} {base : Nat} {forest : Forest}
  {maps : List (String → Option String)}

theorem getElem?_concat_eq_some {β : Type} {values : List β} {last value : β} {n : Nat}
    (h : (values ++ [last])[n]? = some value) :
    values[n]? = some value ∨ n = values.length ∧ last = value := by
  rw [List.getElem?_append] at h
  split at h
  . exact .inl h
  . next hle =>
    rw [List.getElem?_singleton] at h
    split at h
    . exact .inr ⟨by omega, Option.some.inj h⟩
    . simp at h

/--
Each context refers to baggage of its own, which holds the values of its map. Nothing is tracked but
what was tracked before and what the forest was given span IDs for.
-/
structure Owns (known : List SpanId) (base : Nat) (forest : Forest)
    (maps : List (String → Option String)) : Prop where
  configured : forest.state.tracing.baggageFields ≠ []
  length_eq : forest.contexts.length = maps.length
  extra : ∀ (context : Nat) (source : ContextInstance), forest.contexts[context]? = some source →
    source.context.extra = [.baggage (base + context)]
  size : forest.state.heap.baggage.length = base + maps.length
  holds : ∀ (context : Nat) (map : String → Option String), maps[context]? = some map →
    (forest.state.heap.get (base + context)).Holds map
  tracked : ∀ entry ∈ forest.state.tracing.registry.tracked,
    entry.1.spanId ∈ known ∨ entry.1.spanId ∈ forest.drawn

theorem Owns.plant {state : TracerState} (h : state.tracing.baggageFields ≠ []) :
    Owns (state.tracing.registry.tracked.map (·.1.spanId)) state.heap.baggage.length (plant state)
      [] where
  configured := h
  length_eq := rfl
  extra := by simp [Forest.plant]
  size := rfl
  holds := by simp
  tracked := fun entry hentry => .inl (List.mem_map_of_mem hentry)

theorem Owns.add {taken : SpanId × IdSource} {fields : BaggageFields}
    {map : String → Option String} {made : SpanHandle × TracerState}
    (h : Owns known base forest maps) (hmade : Tracer.Plants taken fields forest.state made)
    (hmap : fields.Holds map) :
    Owns known base (forest.add taken.1 made) (maps ++ [map]) where
  configured := by
    rw [Forest.add, hmade.baggageFields]
    exact h.configured
  length_eq := by simp [Forest.add, h.length_eq]
  extra := by
    intro context source hsource
    cases getElem?_concat_eq_some hsource with
    | inl hold => exact h.extra context source hold
    | inr hnew =>
      obtain ⟨rfl, rfl⟩ := hnew
      rw [hmade.extra, h.size, h.length_eq]
  size := by simp [Forest.add, hmade.heap, h.size, Nat.add_assoc]
  -- new baggage comes after all that there is, so nothing old changes its place
  holds := by
    intro context own hown
    unfold Heap.get Forest.add
    rw [hmade.heap]
    cases getElem?_concat_eq_some hown with
    | inl hold =>
      have hlt := (List.getElem?_eq_some_iff.1 hold).1
      rw [List.getD_append _ _ _ _ (by rw [h.size]; omega)]
      exact h.holds context own hold
    | inr hnew =>
      obtain ⟨rfl, rfl⟩ := hnew
      rw [List.getD_append_right _ _ _ _ (by rw [h.size]), h.size, Nat.sub_self]
      exact hmap
  tracked := by
    intro entry hentry
    rw [Forest.add, List.mem_append, List.mem_singleton]
    cases hmade.tracked entry hentry with
    | inl hold =>
      cases h.tracked entry hold with
      | inl hknown => exact .inl hknown
      | inr hdrawn => exact .inr (.inl hdrawn)
    | inr hnew => exact .inr (.inr hnew)

theorem Owns.baggage?_eq (h : Owns known base forest maps) {context : Nat}
    (hlt : context < maps.length) : forest.baggage? context = some (base + context) := by
  rw [← h.length_eq] at hlt
  have hextra := h.extra context _ (List.getElem?_eq_getElem hlt)
  unfold baggage? TraceContext.baggage?
  rw [List.getElem?_eq_getElem hlt, Option.bind_some, hextra]
  rfl

theorem Owns.update (h : Owns known base forest maps) (context : Nat) (field : BaggageField)
    (value : Option String) :
    Owns known base (forest.perform (.update context field value))
      (maps.modify context fun map => Function.update map field.key value) := by
  by_cases hlt : context < maps.length
  . unfold perform
    dsimp only
    rw [h.baggage?_eq hlt]
    refine ⟨h.configured, ?_, h.extra, ?_, ?_, h.tracked⟩
    . rw [List.length_modify]
      exact h.length_eq
    . simp [Heap.update, h.size]
    . intro other map hmap
      dsimp only
      rw [Heap.get_update (by rw [h.size]; exact Nat.add_lt_add_left hlt base)]
      by_cases hother : context = other
      . subst hother
        rw [List.getElem?_modify_eq] at hmap
        obtain ⟨own, hown, rfl⟩ := Option.map_eq_some_iff.1 hmap
        rw [if_pos rfl]
        exact (h.holds context own hown).update field value
      . -- No other context refers to the place that was written.
        rw [List.getElem?_modify_ne _ _ hother] at hmap
        rw [if_neg fun heq => hother (Nat.add_left_cancel heq).symm]
        exact h.holds other map hmap
  . have hbaggage : forest.baggage? context = none := by
      unfold baggage?
      rw [List.getElem?_eq_none (by rw [h.length_eq]; omega)]
      rfl
    unfold perform
    dsimp only
    rw [hbaggage, List.modify_eq_self (by omega)]
    exact h

theorem perform_update (forest : Forest) (context : Nat) (field : BaggageField)
    (value : Option String) :
    ∃ heap, forest.perform (.update context field value) =
      { forest with state := { forest.state with heap } } := by
  unfold perform
  dsimp only
  split
  . exact ⟨forest.state.heap, rfl⟩
  . exact ⟨_, rfl⟩

theorem drawn_perform (forest : Forest) (action : ForestAction) :
    forest.drawn <+: (forest.perform action).drawn := by
  cases action with
  | newTrace alive => exact List.prefix_append ..
  | newChild alive parent =>
    unfold perform
    dsimp only
    split
    . exact List.prefix_refl _
    . exact List.prefix_append ..
  | update context field value =>
    obtain ⟨heap, hperform⟩ := forest.perform_update context field value
    rw [hperform]

theorem drawn_after (forest : Forest) (actions : List ForestAction) :
    forest.drawn <+: (forest.after actions).drawn := by
  induction actions generalizing forest with
  | nil => exact List.prefix_refl _
  | cons action actions ih => exact (forest.drawn_perform action).trans (ih (forest.perform action))

theorem Owns.untracked (h : Owns known base forest maps) {id : SpanId}
    (unrepeated : (forest.drawn ++ [id]).Nodup) (unknown : id ∉ known) :
    ∀ entry ∈ forest.state.tracing.registry.tracked, entry.1.spanId ≠ id := by
  intro entry hentry heq
  cases h.tracked entry hentry with
  | inl hknown => exact unknown (heq ▸ hknown)
  | inr hdrawn =>
    rw [heq] at hdrawn
    exact List.disjoint_of_nodup_append unrepeated hdrawn (List.mem_singleton_self id)

theorem Owns.perform (h : Owns known base forest maps) (action : ForestAction)
    (unrepeated : (forest.perform action).drawn.Nodup)
    (unknown : ∀ id ∈ (forest.perform action).drawn, id ∉ known) :
    Owns known base (forest.perform action) (action.performOwned maps) := by
  cases action with
  | newTrace alive =>
    have untracked := h.untracked unrepeated
      (unknown _ (List.mem_append_right _ (List.mem_singleton_self _)))
    have hadd := h.add (Tracer.plants_newTrace h.configured untracked alive)
      (BaggageFields.holds_ofFields _)
    rwa [← List.concat_eq_append] at hadd
  | newChild alive parent =>
    by_cases hlt : parent < forest.contexts.length
    -- a child of a context that is not there is not created, and nothing else changes
    . unfold Forest.perform at *
      dsimp only [ForestAction.performOwned] at *
      rw [List.getElem?_eq_getElem hlt] at *
      have untracked := h.untracked unrepeated
        (unknown _ (List.mem_append_right _ (List.mem_singleton_self _)))
      have hextra := h.extra parent _ (List.getElem?_eq_getElem hlt)
      rw [h.length_eq] at hlt
      have hmap := List.getElem?_eq_getElem hlt
      rw [hmap]
      exact h.add (Tracer.plants_newChild hextra untracked alive) (h.holds parent _ hmap)
    . unfold Forest.perform
      dsimp only [ForestAction.performOwned]
      rw [List.getElem?_eq_none (by omega), List.getElem?_eq_none (by rw [← h.length_eq]; omega),
        Option.toList_none, List.append_nil]
      exact h
  | update context field value => exact h.update context field value

theorem Owns.after (h : Owns known base forest maps) (actions : List ForestAction)
    (unrepeated : (forest.after actions).drawn.Nodup)
    (unknown : ∀ id ∈ (forest.after actions).drawn, id ∉ known) :
    Owns known base (forest.after actions) (actions.foldl ForestAction.performOwned maps) := by
  induction actions generalizing forest maps with
  | nil => exact h
  | cons action actions ih =>
    -- The span IDs of a run are those of its first action and more, so that none of these repeats.
    have hbegins := (forest.perform action).drawn_after actions
    refine ih (h.perform action ?_ ?_) unrepeated unknown
    . exact unrepeated.sublist hbegins.sublist
    . exact fun id hid => unknown id (hbegins.subset hid)

/--
Every context of a forest reads as if it owned a map that starts as a copy of that of its parent and
that only updates through the context change.
-/
theorem getValue_eq_owned (first : TracerState) (configured : first.tracing.baggageFields ≠ [])
    (actions : List ForestAction) (unrepeated : ((plant first).after actions).drawn.Nodup)
    (untracked : ∀ entry ∈ first.tracing.registry.tracked,
      entry.1.spanId ∉ ((plant first).after actions).drawn) :
    ((plant first).after actions).contexts.length = (ForestAction.ownedMaps actions).length ∧
      ∀ (context : Nat) (map : String → Option String),
        (ForestAction.ownedMaps actions)[context]? = some map →
        ∀ field, ((plant first).after actions).getValue context field = map field.key := by
  have unknown : ∀ id ∈ ((plant first).after actions).drawn,
      id ∉ first.tracing.registry.tracked.map (·.1.spanId) := by
    intro id hid hknown
    obtain ⟨entry, hentry, rfl⟩ := List.mem_map.1 hknown
    exact untracked entry hentry hid
  have owns := (Owns.plant configured).after actions unrepeated unknown
  refine ⟨owns.length_eq, ?_⟩
  intro context map hmap field
  unfold getValue
  rw [owns.baggage?_eq (List.getElem?_eq_some_iff.1 hmap).1]
  exact owns.holds context map hmap field

theorem getValue_eq_owned_child :
    let alive := fun _ : Nat => true
    let field : BaggageField := ⟨"userId"⟩
    let first : TracerState :=
      ⟨⟨"service", .always, .counting, .shared, true, [field], .ofHandlers .empty [] (.fixed 1)⟩,
        .empty, []⟩
    let forest := (plant first).after
      [.newTrace alive, .update 0 field (some "before"), .newChild alive 0,
        .update 0 field (some "after")]
    first.tracing.baggageFields ≠ [] ∧ forest.drawn.Nodup ∧
      (∀ entry ∈ first.tracing.registry.tracked, entry.1.spanId ∉ forest.drawn) ∧
      forest.getValue 0 field = some "after" ∧ forest.getValue 1 field = some "before" := by
  intro alive field first forest
  have configured : first.tracing.baggageFields ≠ [] := List.cons_ne_nil field []
  have idle : first.tracing.registry.tracked = [] := rfl
  have hroot : IdSource.counting.takeTraceId.2.takeSpanId =
      (SpanId.ofNat 2, { IdSource.counting with traces := 1, spans := 1 }) := by
    rw [IdSource.takeTraceId_of_usable (by decide), IdSource.takeSpanId_of_usable (by decide)]
    rfl
  have hchild : ({ IdSource.counting with traces := 1, spans := 1 } : IdSource).takeSpanId.1 =
      SpanId.ofNat 3 := by
    rw [IdSource.takeSpanId_of_usable (by decide)]
    rfl
  have hids : (Tracer.newTrace alive first).2.tracing.ids =
      { IdSource.counting with traces := 1, spans := 1 } := by
    rw [(Tracer.plants_newTrace configured (by simp [idle]) alive).ids]
    exact congrArg Prod.snd hroot
  have hdrawn : forest.drawn = [SpanId.ofNat 2, SpanId.ofNat 3] := by
    let grown := (plant first).after [.newTrace alive, .update 0 field (some "before")]
    obtain ⟨before, hbefore⟩ := ((plant first).perform (.newTrace alive)).perform_update 0 field
      (some "before")
    obtain ⟨after, hafter⟩ := (grown.perform (.newChild alive 0)).perform_update 0 field
      (some "after")
    have hforest : forest = _ := hafter
    have hgrown : grown = _ := hbefore
    rw [hforest, hgrown]
    simp only [perform, add, plant, List.nil_append, List.getElem?_cons_zero, hids, hchild]
    exact congrArg (fun taken => [taken.1, SpanId.ofNat 3]) hroot
  have unrepeated : forest.drawn.Nodup := by
    rw [hdrawn]
    decide
  have untracked : ∀ entry ∈ first.tracing.registry.tracked, entry.1.spanId ∉ forest.drawn := by
    simp [idle]
  have h := (getValue_eq_owned first configured _ unrepeated untracked).2
  refine ⟨configured, unrepeated, untracked, ?_, ?_⟩
  . rw [h 0 _ rfl]
    simp
  . rw [h 1 _ rfl]
    simp

end Forest

end RequestTracing
