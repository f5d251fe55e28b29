import Mathlib
import RequestTracing.Proofs.Trace.Heap
import RequestTracing.Proofs.Tracer.Creation

/-!
This module contains where the baggage of new spans comes from. Main statement: a span that
continues what was read from a carrier without a context reads the values that were read, unless
there is baggage in the current context or configured for the tracer, in which case it reads that.
-/

namespace RequestTracing

namespace Tracer

/--
What becomes of extra state when a context is completed: baggage is added where it has none and some
is configured.
-/
inductive Equips (extra : List (Extra BaggageRef)) (heap : Heap) (fields : List BaggageField)
    (made : TraceContext BaggageRef × TracerState) : Prop where
  | keeps (hextra : made.1.extra = extra) (hheap : made.2.heap = heap)
      (henough : fields = [] ∨ (extra.findSome? Extra.baggage?).isSome)
  | adds (hextra : made.1.extra = extra ++ [.baggage heap.baggage.length])
      (hheap : made.2.heap = (heap.allocate (.ofFields fields)).2)
      (hlacks : ¬(fields = [] ∨ (extra.findSome? Extra.baggage?).isSome))

theorem equips_equip (context : TraceContext BaggageRef) (state : TracerState) :
    Equips context.extra state.heap state.tracing.baggageFields (equip context state) := by
  have henough : (state.tracing.baggageFields.isEmpty || context.baggage?.isSome) = true ↔
      state.tracing.baggageFields = [] ∨
        (context.extra.findSome? Extra.baggage?).isSome := by
    rw [Bool.or_eq_true, List.isEmpty_iff]
    rfl
  unfold equip
  split
  . next h => exact .keeps rfl rfl (henough.1 h)
  . next h => exact .adds rfl rfl (mt henough.2 h)

theorem equips_complete (builder : ContextBuilder BaggageRef) (flags : SamplingFlags)
    (state : TracerState) :
    Equips builder.extra state.heap state.tracing.baggageFields (complete builder flags state) := by
  obtain ⟨settled, sampler, hcomplete, _⟩ := complete_eq builder flags state
  rw [hcomplete]
  exact equips_equip { builder.toContext with flags := settled } (state.withSampler sampler)

namespace Equips

variable {extra : List (Extra BaggageRef)} {heap : Heap} {fields : List BaggageField}
  {made : TraceContext BaggageRef × TracerState}

theorem grown (h : Equips extra heap fields made) : heap.baggage <+: made.2.heap.baggage := by
  cases h with
  | keeps hextra hheap henough =>
    rw [hheap]
  | adds hextra hheap hlacks =>
    rw [hheap]
    exact heap.grown_allocate _

theorem fresh_or_mem (h : Equips extra heap fields made) {ref : BaggageRef}
    (href : ref ∈ made.1.baggage?) :
    Heap.Fresh heap made.2.heap ref ∨ ref ∈ extra.findSome? Extra.baggage? := by
  unfold TraceContext.baggage? at href
  cases h with
  | keeps hextra hheap henough =>
    rw [hextra] at href
    exact .inr href
  | adds hextra hheap hlacks =>
    rw [not_or, Option.not_isSome_iff_eq_none] at hlacks
    rw [hextra, List.findSome?_append, hlacks.2] at href
    rw [hheap, ← Option.some.inj href]
    exact .inl (heap.fresh_allocate _)

theorem valueIn_eq (h : Equips extra heap fields made) (field : BaggageField) :
    made.2.heap.valueIn made.1.extra field = heap.valueIn extra field := by
  cases h with
  | keeps hextra hheap henough => rw [hextra, hheap]
  | adds hextra hheap hlacks =>
    rw [not_or, Option.not_isSome_iff_eq_none] at hlacks
    rw [hextra, hheap]
    unfold Heap.valueIn
    rw [List.findSome?_append, hlacks.2]
    exact (congrArg (·.get? field) (heap.get_allocate _)).trans
      (BaggageFields.get?_ofFields fields field)

theorem isSome_baggage?_iff (h : Equips extra heap fields made) :
    made.1.baggage?.isSome ↔ fields ≠ [] ∨ (extra.findSome? Extra.baggage?).isSome := by
  unfold TraceContext.baggage?
  cases h with
  | keeps hextra hheap henough =>
    rw [hextra]
    exact ⟨.inr, fun hor => hor.elim henough.resolve_left id⟩
  | adds hextra hheap hlacks =>
    rw [not_or] at hlacks
    rw [hextra, List.findSome?_append, Option.isSome_or]
    exact ⟨fun _ => .inl hlacks.1, fun _ => by simp [Extra.baggage?]⟩

end Equips

theorem valueIn_childContext (parent : TraceContext BaggageRef) (state : TracerState)
    (field : BaggageField) :
    (childContext parent state).2.heap.valueIn (childContext parent state).1.extra field =
      state.heap.valueIn parent.extra field := by
  unfold childContext
  rw [bind_apply, bind_apply, (equips_complete _ parent.flags _).valueIn_eq]
  exact state.heap.valueIn_forkAll parent.extra field

theorem grown_childContext (parent : TraceContext BaggageRef) (state : TracerState) :
    state.heap.baggage <+: (childContext parent state).2.heap.baggage := by
  have hfork := state.heap.grown_forkAll parent.extra
  unfold childContext
  rw [bind_apply, bind_apply]
  refine hfork.trans ?_
  exact (equips_complete _ parent.flags (fork parent.extra (freshSpanId state).2).2).grown

theorem fresh_childContext (parent : TraceContext BaggageRef) (state : TracerState)
    {ref : BaggageRef} (href : ref ∈ (childContext parent state).1.baggage?) :
    Heap.Fresh state.heap (childContext parent state).2.heap ref := by
  unfold childContext at href ⊢
  rw [bind_apply, bind_apply] at href ⊢
  have hequips := equips_complete
    { traceId := parent.traceId, spanId := (freshSpanId state).1, parentId := some parent.spanId,
      localRootId := some (parent.localRootId.getD (freshSpanId state).1),
      extra := (fork parent.extra (freshSpanId state).2).1 }
    parent.flags (fork parent.extra (freshSpanId state).2).2
  cases hequips.fresh_or_mem href with
  | inl hadded => exact hadded.of_grown (state.heap.grown_forkAll parent.extra)
  | inr hforked => exact (state.heap.fresh_forkAll parent.extra ref hforked).grow hequips.grown

theorem isSome_baggage?_childContext_iff (parent : TraceContext BaggageRef) (state : TracerState) :
    (childContext parent state).1.baggage?.isSome ↔
      state.tracing.baggageFields ≠ [] ∨ parent.baggage?.isSome := by
  have hfork : ((fork parent.extra (freshSpanId state).2).1.findSome? Extra.baggage?).isSome =
      parent.baggage?.isSome := state.heap.isSome_forkAll parent.extra
  unfold childContext
  rw [bind_apply, bind_apply, (equips_complete _ parent.flags _).isSome_baggage?_iff, hfork]
  rfl

theorem grown_rootContext (flags : SamplingFlags) (extra : List (Extra BaggageRef))
    (state : TracerState) :
    state.heap.baggage <+: (rootContext flags extra state).2.heap.baggage := by
  unfold rootContext
  rw [bind_apply, bind_apply]
  exact (equips_complete _ flags (freshSpanId (freshTraceId state).2).2).grown

theorem fresh_or_mem_rootContext (flags : SamplingFlags) (extra : List (Extra BaggageRef))
    (state : TracerState) {ref : BaggageRef} (href : ref ∈ (rootContext flags extra state).1.baggage?) :
    Heap.Fresh state.heap (rootContext flags extra state).2.heap ref ∨
      ref ∈ extra.findSome? Extra.baggage? := by
  unfold rootContext at href ⊢
  rw [bind_apply, bind_apply] at href ⊢
  exact (equips_complete
    { traceId := (freshTraceId state).1, spanId := (freshSpanId (freshTraceId state).2).1,
      localRootId := some (freshSpanId (freshTraceId state).2).1, extra }
    flags (freshSpanId (freshTraceId state).2).2).fresh_or_mem href

theorem valueIn_rootContext (flags : SamplingFlags) (extra : List (Extra BaggageRef))
    (state : TracerState) (field : BaggageField) :
    (rootContext flags extra state).2.heap.valueIn (rootContext flags extra state).1.extra field =
      state.heap.valueIn extra field := by
  unfold rootContext
  rw [bind_apply, bind_apply, (equips_complete _ flags _).valueIn_eq]
  rfl

end Tracer

namespace Creation

open Tracer

theorem baggage_run (creation : Creation) (alive : Nat → Bool) (state : TracerState) :
    (creation.run alive state).2.heap.baggage = (creation.context state).2.heap.baggage := by
  rw [creation.run_eq, bind_apply]
  dsimp only
  rw [TracerState.heap_recordAll]
  exact (register_frame alive creation.parent? _ _).2.1

theorem handles_run (creation : Creation) (alive : Nat → Bool) (state : TracerState) :
    Handles (· = (creation.context state).1) state.tracing.registry
      (creation.run alive state).1 := by
  rw [creation.run_eq, bind_apply, ← (creation.context_frame state).1]
  exact handles_register (P := (· = (creation.context state).1)) rfl alive creation.parent?
    (creation.context state).2

theorem context_run_of_untracked {creation : Creation} {state : TracerState}
    (h : ∀ entry ∈ state.tracing.registry.tracked,
      entry.1.spanId ≠ (creation.context state).1.spanId) (alive : Nat → Bool) :
    (creation.run alive state).1.source.context = (creation.context state).1 := by
  obtain ⟨context, rfl, hnew | ⟨entry, hentry, hkey, _⟩⟩ := creation.handles_run alive state
  . exact hnew
  . exact absurd (congrArg SpanKey.spanId hkey) (h entry hentry)

theorem valueIn_run (creation : Creation) {state : TracerState}
    (h : ∀ entry ∈ state.tracing.registry.tracked,
      entry.1.spanId ≠ (creation.context state).1.spanId) (alive : Nat → Bool)
    (field : BaggageField) :
    (creation.run alive state).2.heap.valueIn (creation.run alive state).1.source.context.extra
        field =
      (creation.context state).2.heap.valueIn (creation.context state).1.extra field := by
  rw [context_run_of_untracked h, Heap.valueIn_congr (creation.baggage_run alive state)]

/--
Where the baggage comes from that the context of a new span refers to: it is new, that of a context
of the same span ID, or what was read from a carrier.
-/
inductive Stems (creation : Creation) (state : TracerState)
    (made : TraceContext BaggageRef × TracerState) (ref : BaggageRef) : Prop where
  | fresh (h : Heap.Fresh state.heap made.2.heap ref)
  | kept (source : ContextInstance) (hsource : source ∈ creation.sources)
      (hspanId : source.context.spanId = made.1.spanId) (href : ref ∈ source.context.baggage?)
  | inherited (reading : HeldExtraction) (hreading : reading ∈ creation.reading?)
      (href : ref ∈ reading.extra.findSome? Extra.baggage?)

theorem stems (creation : Creation) (state : TracerState) {ref : BaggageRef}
    (href : ref ∈ (creation.context state).1.baggage?) :
    creation.Stems state (creation.context state) ref := by
  have hmakes := creation.makes state
  -- the state has to be general before the cases, since the ways to make a context fix it
  generalize creation.context state = made at hmakes href ⊢
  cases hmakes with
  | root flags extra hextra =>
    cases fresh_or_mem_rootContext flags extra state href with
    | inl hfresh => exact .fresh hfresh
    | inr hmem =>
      rcases hextra with rfl | ⟨reading, hreading, rfl⟩
      . cases hmem
      . exact .inherited reading hreading hmem
  | child parent => exact .fresh (fresh_childContext parent state href)
  | extended parent reading hreading =>
    unfold TraceContext.baggage? at href
    rw [List.findSome?_append, Option.mem_def, Option.or_eq_some_iff] at href
    cases href with
    | inl hown => exact .fresh (fresh_childContext parent state hown)
    | inr hread => exact .inherited reading hreading hread.2
  | completed source builder flags hsource hspanId hextra =>
    cases (equips_complete builder flags state).fresh_or_mem href with
    | inl hfresh => exact .fresh hfresh
    | inr hmem =>
      obtain ⟨settled, extra, hmade, _⟩ := complete_made builder flags state
      rw [hextra] at hmem
      refine .kept source hsource ?_ hmem
      rw [hmade]
      exact hspanId.symm

theorem grown_context (creation : Creation) (state : TracerState) :
    state.heap.baggage <+: (creation.context state).2.heap.baggage := by
  have hmakes := creation.makes state
  generalize creation.context state = made at hmakes ⊢
  cases hmakes with
  | root flags extra hextra => exact grown_rootContext flags extra state
  | child parent => exact grown_childContext parent state
  | extended parent reading hreading => exact grown_childContext parent state
  | completed source builder flags hsource hspanId hextra =>
    exact (equips_complete builder flags state).grown

end Creation

namespace TracerState

/--
A span that continues flags and baggage that were read from a carrier reads a value that was read,
if there is no current context, or neither that nor the tracer has baggage. Otherwise it reads what
the current context has, be it a value or none.
-/
theorem valueIn_nextSpanWith {extraction : HeldExtraction} {flags : SamplingFlags}
    (hfound : extraction.found = .flags flags) {state : TracerState}
    {current : Option ContextInstance}
    (unused : ∀ entry ∈ state.tracing.registry.tracked,
      entry.1.spanId ≠ (state.tracing.ids.takeForSpan current.isSome).1)
    {field : BaggageField} {value : String}
    (hvalue : state.heap.valueIn extraction.extra field = some value) (alive : Nat → Bool) :
    let made := Tracer.nextSpanWith alive current extraction state
    made.2.heap.valueIn made.1.source.context.extra field =
      match current with
      | none => some value
      -- the baggage of the child comes first, and hides what was read with the flags
      | some parent =>
        if parent.context.baggage?.isSome ∨ state.tracing.baggageFields ≠ [] then
          state.heap.valueIn parent.context.extra field
        else
          some value := by
  cases current with
  | none =>
    have hcontext := Creation.context_nextSpanWith_none hfound state
    have hspanId := (Tracer.begets_rootContext flags extraction.extra state).spanId
    refine (Creation.valueIn_run (.nextSpanWith none extraction) ?_ alive field).trans ?_
    . rw [hcontext, hspanId]
      exact unused
    . rw [hcontext, Tracer.valueIn_rootContext]
      exact hvalue
  | some parent =>
    have hcontext := Creation.context_nextSpanWith_some hfound parent state
    have hspanId := (Tracer.begets_childContext parent.context state).spanId
    have hsome := Tracer.isSome_baggage?_childContext_iff parent.context state
    refine (Creation.valueIn_run (.nextSpanWith (some parent) extraction) ?_ alive field).trans ?_
    . rw [hcontext]
      dsimp only
      rw [hspanId]
      exact unused
    . rw [hcontext]
      dsimp only
      rw [Heap.valueIn_append, Tracer.valueIn_childContext,
        Heap.valueIn_of_grown (Tracer.grown_childContext parent.context state) hvalue]
      exact if_congr (hsome.trans or_comm) rfl rfl

theorem valueIn_nextSpanWith_bare :
    let alive := fun _ : Nat => true
    let field : BaggageField := ⟨"userId"⟩
    let state : TracerState :=
      ⟨⟨"service", .always, .counting, .shared, true, [], .ofHandlers .empty [] (.fixed 1)⟩,
        ⟨1, [⟨[(field, some "romeo")]⟩]⟩, []⟩
    let current : ContextInstance := ⟨0, ⟨⟨1⟩, ⟨1⟩, none, none, .sampledYes, false, []⟩⟩
    let extraction : HeldExtraction := ⟨.flags .sampledYes, [.baggage 0]⟩
    let made := Tracer.nextSpanWith alive (some current) extraction state
    (∀ entry ∈ state.tracing.registry.tracked,
      entry.1.spanId ≠ (state.tracing.ids.takeForSpan true).1) ∧
      state.heap.valueIn extraction.extra field = some "romeo" ∧
      made.2.heap.valueIn made.1.source.context.extra field = some "romeo" := by
  intro alive field state current extraction made
  have unused : ∀ entry ∈ state.tracing.registry.tracked,
      entry.1.spanId ≠ (state.tracing.ids.takeForSpan true).1 := by
    intro entry hentry
    cases hentry
  have hvalue : state.heap.valueIn extraction.extra field = some "romeo" := by decide +kernel
  have hfound : extraction.found = .flags .sampledYes := rfl
  exact ⟨unused, hvalue, valueIn_nextSpanWith hfound unused hvalue alive⟩

/--
A value that was read from a carrier is not to be found behind baggage of the current context that
has none.
-/
theorem extracted_value_out_of_sight :
    let alive := fun _ : Nat => true
    let field : BaggageField := ⟨"userId"⟩
    let state : TracerState :=
      ⟨⟨"service", .always, .counting, .shared, true, [field], .ofHandlers .empty [] (.fixed 1)⟩,
        ⟨1, [⟨[(field, some "romeo")]⟩, ⟨[(field, none)]⟩]⟩, []⟩
    let current : ContextInstance := ⟨0, ⟨⟨1⟩, ⟨1⟩, none, none, .sampledYes, false, [.baggage 1]⟩⟩
    let extraction : HeldExtraction := ⟨.flags .sampledYes, [.baggage 0]⟩
    let made := Tracer.nextSpanWith alive (some current) extraction state
    state.heap.valueIn extraction.extra field = some "romeo" ∧
      state.heap.valueIn current.context.extra field = none ∧
      made.1.source.context.extra = [.baggage 2, .baggage 0] ∧
      made.2.heap.valueIn made.1.source.context.extra field = none := by
  intro alive field state current extraction made
  decide +kernel

end TracerState

end RequestTracing
