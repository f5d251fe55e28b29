import Mathlib
import RequestTracing.Proofs.Tracer.Faithful
import RequestTracing.Proofs.Tracer.Lasting

/-!
This module contains chains of contexts across tracers and processes: each one is the context of a
span that was created from the one before, or it was read from headers that the one before was
written to. Main statement: the contexts of a chain have the trace ID and the debug flag of the
first and no sampler takes part after it; they have its decision as well, but that headers carry
debug alone, which is read as sampled.
-/

namespace RequestTracing

def TracerState.Reached (state : TracerState) : Prop :=
  ∃ config tracing heap steps, Tracing.ofConfig config = .ok tracing ∧
    state = (TracerState.mk tracing heap []).after steps

theorem TracerState.Reached.faithful {state : TracerState} (h : state.Reached) :
    state.tracing.registry.Faithful := by
  obtain ⟨config, tracing, heap, steps, hconfig, rfl⟩ := h
  exact lasts_after Registry.lasting_faithful (Tracing.faithful_of_ofConfig hconfig) steps

def Registry.TracksOnly (registry : Registry) (traceId : TraceId) (links : List ContextInstance) :
    Prop :=
  ∀ entry ∈ registry.tracked, ∀ pending, registry.pendings[entry.2]? = some pending →
    pending.source.context.traceId = traceId → pending.source ∈ links

/--
The contexts of a chain, the last one first, with the number of times that headers carried one. Each
hop may meet another tracer, as long as that tracks no span of the trace from elsewhere.
-/
inductive HopChain (first : ContextInstance) : Nat → List ContextInstance → Prop where
  | start : HopChain first 0 [first]
  | hop {carries last links} (hop : Hop) (alive : Nat → Bool) (state : TracerState) :
      HopChain first carries (last :: links) → state.Reached →
      state.tracing.registry.TracksOnly first.context.traceId (last :: links) →
      HopChain first carries ((hop.run alive last state).1.source :: last :: links)
  | carry {carries last links} (encoding reader : B3.Encoding) (sender receiver : Heap)
      {source : ContextInstance} : HopChain first carries (last :: links) →
      (carried encoding reader sender receiver last).found = .context source →
      HopChain first (carries + 1) (source :: last :: links)

namespace TraceContext

structure Relays (context last : TraceContext BaggageRef) : Prop where
  traceId : context.traceId = last.traceId
  debug : context.debug = last.debug
  sampled : context.sampled = if last.debug then some true else last.sampled

theorem Decided.received {context : TraceContext BaggageRef} (h : context.Decided)
    (withParent : Bool) :
    (B3.received context withParent).Decided ∧ (B3.received context withParent).Relays context := by
  have hsampled := B3.sampled_wireFlags context
  refine ⟨⟨⟨h.traceId, h.spanId, ?_⟩, ?_⟩, rfl, B3.debug_wireFlags context, hsampled⟩
  . unfold B3.received
    dsimp only
    split
    . exact h.parentId
    . simp
  . show (B3.wireFlags context).sampled.isSome
    rw [hsampled]
    split
    . rfl
    . exact h.sampled

/--
Holds for contexts of one trace with the same debug flag. The decision is the same too, but that
debug may have been carried without the decision against sampling that it came with.
-/
structure Keeps (carries : Nat) (context first : TraceContext BaggageRef) : Prop where
  traceId : context.traceId = first.traceId
  debug : context.debug = first.debug
  sampled : context.sampled = first.sampled ∨
    0 < carries ∧ first.debug ∧ first.sampled = some false ∧ context.sampled = some true

namespace Keeps

variable {carries : Nat} {context last first : TraceContext BaggageRef}

theorem refl (context : TraceContext BaggageRef) : context.Keeps 0 context :=
  ⟨rfl, rfl, .inl rfl⟩

theorem of_agrees (h : last.Keeps carries first) (hagrees : context.Agrees last) :
    context.Keeps carries first where
  traceId := hagrees.traceId.trans h.traceId
  debug := hagrees.debug.trans h.debug
  sampled := by
    rw [hagrees.sampled]
    exact h.sampled

theorem succ (h : context.Keeps carries first) : context.Keeps (carries + 1) first where
  traceId := h.traceId
  debug := h.debug
  sampled := h.sampled.imp_right fun ⟨_, hdebug, hfirst, hsampled⟩ =>
    ⟨Nat.succ_pos carries, hdebug, hfirst, hsampled⟩

theorem of_relays (h : last.Keeps carries first) (hfirst : first.sampled.isSome)
    (hrelays : context.Relays last) : context.Keeps (carries + 1) first where
  traceId := hrelays.traceId.trans h.traceId
  debug := hrelays.debug.trans h.debug
  sampled := by
    rw [hrelays.sampled, h.debug]
    -- debug is read as sampled, so it matters what the first had decided with it
    cases hdebug : first.debug with
    | true =>
      obtain ⟨decision, hdecision⟩ := Option.isSome_iff_exists.1 hfirst
      rw [hdecision]
      cases decision with
      | true => exact .inl rfl
      | false => exact .inr ⟨Nat.succ_pos carries, rfl, rfl, rfl⟩
    | false =>
      rcases h.sampled with hsame | ⟨_, hforced, _⟩
      . exact .inl hsame
      . rw [hdebug] at hforced
        cases hforced

end Keeps

end TraceContext

namespace Tracer

theorem creates_nextSpan {current : Option ContextInstance}
    (h : ∀ parent ∈ current, parent.context.Valid) (alive : Nat → Bool) :
    Creates TraceContext.Decided (nextSpan alive current) := by
  cases current with
  | none => exact creates_newTrace alive
  | some parent => exact (creates_newChild (h parent rfl) alive).mono fun _ h => h.toDecided

theorem creates_run {creation : Creation} (h : ∀ source ∈ creation.sources, source.context.Valid)
    (alive : Nat → Bool) : Creates TraceContext.Decided (creation.run alive) := by
  have hchild : ∀ parent ∈ creation.sources,
      Creates TraceContext.Decided (newChild alive parent) := fun parent hparent =>
    (creates_newChild (h parent hparent) alive).mono fun _ h => h.toDecided
  cases creation with
  | newTrace => exact creates_newTrace alive
  | newChild parent => exact hchild parent (List.mem_singleton_self _)
  | joinSpan client =>
    exact (creates_joinSpan (h client (List.mem_singleton_self _)) alive).mono fun _ h =>
      h.toDecided
  | nextSpan current =>
    exact creates_nextSpan (fun parent hparent => h parent (Option.mem_toList.2 hparent)) alive
  | nextSpanWith current extraction =>
    unfold Creation.run nextSpanWith
    dsimp only
    cases hfound : extraction.found with
    | context parent =>
      exact hchild parent (by simp [Creation.sources, Extraction.context?, hfound])
    | flags flags =>
      cases current with
      | none =>
        exact (gives_rootContext flags extraction.extra).creates (fun _ h => h.toDecided) alive none
      | some parent =>
        have hparent := h parent (by simp [Creation.sources])
        apply (gives_childContext hparent).creates
        intro child hchild
        exact ⟨⟨hchild.traceId, hchild.spanId, hchild.parentId⟩, hchild.sampled⟩
  | nextSpanFor current function request draws =>
    cases current with
    | none => exact (gives_rootContext _ []).creates (fun _ h => h.toDecided) alive none
    | some parent => exact hchild parent (List.mem_singleton_self _)
  | toSpan source =>
    exact (creates_toSpan (h source (List.mem_singleton_self _)) alive).mono fun _ h => h.toDecided
  | startNamed current name =>
    exact creates_nextSpan (fun parent hparent => h parent (Option.mem_toList.2 hparent)) alive

variable {P : TraceContext BaggageRef → Prop} {registry : Registry} {span : SpanHandle}

theorem Handles.of_none (h : Handles P registry span)
    (only : registry.TracksOnly span.source.context.traceId []) : P span.source.context := by
  obtain ⟨context, hcontext, hsource | ⟨entry, hentry, _, pending, hpending, hsource⟩⟩ := h
  . rwa [hsource]
  . have hmem := only entry hentry pending hpending (by rw [hsource])
    simp at hmem

theorem Handles.of_links {traceId : TraceId} {links : List ContextInstance}
    (h : Handles P registry span) (hregistry : registry.Faithful)
    (only : registry.TracksOnly traceId links) (hP : ∀ context, P context → context.traceId = traceId)
    (hlinks : ∀ link ∈ links, P link.context) : P span.source.context := by
  obtain ⟨context, hcontext, hsource | ⟨entry, hentry, hkey, pending, hpending, hsource⟩⟩ := h
  . rwa [hsource]
  . have hsame : pending.source.context.key = context.key :=
      (hregistry.source_key_eq hentry hpending).trans hkey
    have htrace := (congrArg SpanKey.traceId hsame).trans (hP context hcontext)
    rw [hsource]
    exact hlinks _ (only entry hentry pending hpending htrace)

end Tracer

namespace HopChain

variable {first : ContextInstance} {carries : Nat} {links : List ContextInstance}

theorem keeps (chain : HopChain first carries links) (hfirst : first.context.Decided) :
    ∀ link ∈ links, link.context.Decided ∧ link.context.Keeps carries first.context := by
  -- for all links at once, since a hop may hand out the span of any earlier one
  induction chain with
  | start => exact List.forall_mem_singleton.2 ⟨hfirst, .refl _⟩
  | @hop carries last links hop alive state _ reached only ih =>
    have hlast := ih last (List.mem_cons_self ..)
    have hcreates : Tracer.Creates
        (fun context => context.Decided ∧ context.Keeps carries first.context)
        (hop.run alive last) :=
      (Tracer.creates_hop hlast.1 hop alive).mono fun _ h => ⟨h.1, hlast.2.of_agrees h.2⟩
    have hsource := (hcreates state).of_links reached.faithful only (fun _ h => h.2.traceId) ih
    exact List.forall_mem_cons.2 ⟨hsource, ih⟩
  | @carry carries last links encoding reader sender receiver source _ hfound ih =>
    have hlast := ih last (List.mem_cons_self ..)
    obtain ⟨read, hread, hcontext⟩ :=
      exists_carried hlast.1.toValid encoding reader sender receiver
    have hsource : source = read := Extracted.context.inj (hfound.symm.trans hread)
    obtain ⟨hdecided, hrelays⟩ := hlast.1.received encoding.writesParent
    rw [← hcontext, ← hsource] at hdecided hrelays
    refine List.forall_mem_cons.2 ⟨⟨hdecided, hlast.2.of_relays hfirst.sampled hrelays⟩, ?_⟩
    exact fun link hlink => ⟨(ih link hlink).1, (ih link hlink).2.succ⟩

/--
Whatever tracers and encodings a chain passes through, its contexts have the trace ID and the debug
flag of the first, which a tracer has decided, and its decision as well, unless headers carried
debug without a decision against sampling. What is written to a carrier is always read as a context
again, sampled where debug is set and as decided elsewhere; and no step from any context of the
chain depends on the sampler of the tracer that takes it, or changes it.
-/
theorem one_decision (creation : Creation)
    (valid : ∀ source ∈ creation.sources, source.context.Valid) (alive : Nat → Bool)
    (state : TracerState)
    (only : state.tracing.registry.TracksOnly
      (creation.run alive state).1.source.context.traceId []) :
    let first := (creation.run alive state).1.source
    first.context.sampled.isSome ∧ ∀ carries links, HopChain first carries links →
      ∀ link ∈ links, link.context.Keeps carries first.context ∧
        (∀ encoding reader sender receiver, ∃ source,
          (carried encoding reader sender receiver link).found = .context source ∧
          source.context.Relays link.context) ∧
        ∀ (hop : Hop) (alive : Nat → Bool) (state : TracerState) (sampler : Sampler),
          hop.run alive link (state.withSampler sampler) =
            ((hop.run alive link state).1, (hop.run alive link state).2.withSampler sampler) := by
  intro first
  have hfirst : first.context.Decided := (Tracer.creates_run valid alive state).of_none only
  refine ⟨hfirst.sampled, ?_⟩
  intro carries links chain link hlink
  obtain ⟨hdecided, hkeeps⟩ := chain.keeps hfirst link hlink
  refine ⟨hkeeps, ?_, fun hop alive => Tracer.unconsulted_hop hdecided.sampled hop alive⟩
  intro encoding reader sender receiver
  obtain ⟨source, hfound, hcontext⟩ :=
    exists_carried hdecided.toValid encoding reader sender receiver
  refine ⟨source, hfound, ?_⟩
  rw [hcontext]
  exact (hdecided.received encoding.writesParent).2

theorem one_decision_joined :
    let alive := fun _ : Nat => true
    let config (sampler : Sampler) : TracerConfig :=
      ⟨"service", none, 0, sampler, .counting, true, false, .fixed 1, .shared, [], []⟩
    let tracer (sampler : Sampler) : TracerState :=
      ⟨⟨"service", sampler, .counting, .shared, true, [], .ofHandlers
        (Tracing.template (config sampler)) (Tracing.handlers (config sampler)) (.fixed 1)⟩,
        .empty, []⟩
    let first := (Creation.newTrace.run alive (tracer .never)).1.source
    (tracer .never).tracing.registry.TracksOnly first.context.traceId [] ∧
      first.context.sampled.isSome ∧
      ∃ read, (carried .singleNoParent .multi .empty .empty first).found = .context read ∧
        read.context.Relays first.context ∧
        let joined := (Hop.joinSpan.run alive read (tracer .always)).1.source
        HopChain first 1 [joined, read, first] ∧ joined.context.Keeps 1 first.context := by
  intro alive config tracer first
  have named : Text.trim "service" ≠ "" := by decide +kernel
  have reached : ∀ sampler, (tracer sampler).Reached := fun sampler =>
    ⟨config sampler, (tracer sampler).tracing, .empty, [], if_neg named, rfl⟩
  have only : ∀ sampler traceId links,
      (tracer sampler).tracing.registry.TracksOnly traceId links :=
    fun _ _ _ entry hentry => nomatch hentry
  obtain ⟨hsampled, hchain⟩ :=
    one_decision .newTrace (List.forall_mem_nil _) alive (tracer .never) (only _ _ _)
  have hfirst : HopChain first 0 [first] := .start
  obtain ⟨_, hcarried, _⟩ := hchain _ _ hfirst first (List.mem_singleton_self _)
  obtain ⟨read, hread, hrelays⟩ := hcarried .singleNoParent .multi .empty .empty
  have hjoined := (hfirst.carry _ _ _ _ hread).hop .joinSpan alive (tracer .always)
    (reached .always) (only _ _ _)
  exact ⟨only _ _ _, hsampled, read, hread, hrelays, hjoined,
    (hchain _ _ hjoined _ (List.mem_cons_self ..)).1⟩

/--
Flags that are put together bit by bit may hold debug with a decision against sampling. A child
keeps both, headers carry debug alone, and what is read from them is sampled.
-/
theorem unsampled_debug_turns_sampled :
    let alive := fun _ : Nat => true
    let config : TracerConfig :=
      ⟨"service", none, 0, .always, .counting, true, false, .fixed 1, .shared, [], []⟩
    let tracer : TracerState :=
      ⟨⟨"service", .always, .counting, .shared, true, [], .ofHandlers (Tracing.template config)
        (Tracing.handlers config) (.fixed 1)⟩, .empty, []⟩
    let flags := (SamplingFlags.forced.and SamplingFlags.sampledYes.not).or .sampledNo
    let parent : ContextInstance := ⟨0, ⟨⟨1⟩, ⟨2⟩, none, none, flags, false, []⟩⟩
    let first := ((Creation.newChild parent).run alive tracer).1.source
    tracer.Reached ∧ (ContextBuilder.setAll {} [.traceId ⟨1⟩, .spanId ⟨2⟩,
        .samplingFlags flags]).build = .ok parent.context ∧
      tracer.tracing.registry.TracksOnly first.context.traceId [] ∧
      ∃ read, HopChain first 1 [read, first] ∧
        first.context.sampled = some false ∧ read.context.sampled = some true := by
  intro alive config tracer flags parent first
  have reached : tracer.Reached :=
    ⟨config, tracer.tracing, .empty, [], if_neg (by decide +kernel), rfl⟩
  have only : ∀ traceId, tracer.tracing.registry.TracksOnly traceId [] :=
    fun _ entry hentry => nomatch hentry
  have hbuild : (ContextBuilder.setAll {} [.traceId ⟨1⟩, .spanId ⟨2⟩,
      .samplingFlags flags]).build = .ok parent.context := by decide +kernel
  have valid : parent.context.Valid := ContextBuilder.valid_of_build (by simp) hbuild
  have hfirst : Tracer.Continues parent.context first.context :=
    (Tracer.creates_newChild valid alive tracer).of_none (only _)
  have hagrees := hfirst.agrees (by decide)
  obtain ⟨read, hread, hcontext⟩ :=
    exists_carried hfirst.toValid .multi .multi .empty .empty
  have hrelays := (hfirst.toDecided.received B3.Encoding.multi.writesParent).2
  rw [← hcontext] at hrelays
  refine ⟨reached, hbuild, only _, read, .carry _ _ _ _ .start hread, ?_, ?_⟩
  . rw [hagrees.sampled]
    decide
  . rw [hrelays.sampled, hagrees.debug]
    decide

end HopChain

end RequestTracing
