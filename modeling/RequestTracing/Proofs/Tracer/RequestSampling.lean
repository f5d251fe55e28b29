import Mathlib
import RequestTracing.Proofs.Sampling.Rule
import RequestTracing.Proofs.Tracer.Hops
import RequestTracing.Proofs.Tracer.Start

/-!
This module contains traces that are sampled by what is known about a request. Main statement: a
function decides about a new trace, and the sampler does exactly where the function leaves that
open; in a trace with a decision neither is asked.
-/

namespace RequestTracing

namespace Tracer

variable (state : TracerState)

theorem decide_ofDecision (decision : Option Bool) (traceId : TraceId) :
    let answer := state.tracing.sampler.sample samplingTime traceId
    let decided := decide traceId (.ofDecision decision) state
    decided.1.sampled = some (decision.getD answer.1) ∧
      decided.2.tracing.sampler =
        if decision.isSome then state.tracing.sampler else answer.2 := by
  intro answer decided
  have hdecision := SamplingFlags.sampled_ofDecision decision
  dsimp only [decided]
  unfold decide
  cases decision with
  | none =>
    refine ⟨?_, rfl⟩
    exact SamplingFlags.sampled_withSampled (.ofDecision none) (some answer.1)
  | some sampled =>
    rw [hdecision]
    exact ⟨hdecision, rfl⟩

theorem tracing_equip (context : TraceContext BaggageRef) :
    (equip context state).2.tracing = state.tracing := by
  unfold equip
  split
  . rfl
  . rfl

theorem complete_decide (builder : ContextBuilder BaggageRef) (flags : SamplingFlags) :
    let decided := decide builder.traceId flags state
    (complete builder flags state).1.sampled = decided.1.sampled ∧
      (complete builder flags state).2.tracing.sampler = decided.2.tracing.sampler := by
  intro decided
  refine ⟨?_, ?_⟩
  . unfold TraceContext.sampled
    rw [flags_complete]
    split
    . exact SamplingFlags.sampled_withSampledLocal decided.1 true
    . rfl
  . unfold complete
    rw [bind_apply, bind_apply, markLocal_eq]
    dsimp only
    rw [tracing_equip]

structure Starts (decision : Option Bool) (state : TracerState)
    (made : TraceContext BaggageRef × TracerState) : Prop where
  traceId : made.1.traceId = state.tracing.ids.takeTraceId.1
  root : made.1.Descends none
  sampled : made.1.sampled = some (decision.getD
    (state.tracing.sampler.sample samplingTime state.tracing.ids.takeTraceId.1).1)
  sampler : made.2.tracing.sampler =
    if decision.isSome then state.tracing.sampler
    else (state.tracing.sampler.sample samplingTime state.tracing.ids.takeTraceId.1).2
  registry : made.2.tracing.registry = state.tracing.registry

theorem starts_rootContext (decision : Option Bool) (extra : List (Extra BaggageRef)) :
    Starts decision state (rootContext (.ofDecision decision) extra state) := by
  have hbegets := begets_rootContext (.ofDecision decision) extra state
  have hroot : rootContext (.ofDecision decision) extra state =
      complete
        { traceId := (freshTraceId state).1, spanId := (freshSpanId (freshTraceId state).2).1,
          localRootId := some (freshSpanId (freshTraceId state).2).1, extra }
        (.ofDecision decision) (freshSpanId (freshTraceId state).2).2 := rfl
  refine ⟨?_, hbegets.descends, ?_, ?_, hbegets.registry⟩
  all_goals rw [hroot]
  . obtain ⟨settled, own, hmade, _⟩ := complete_made _ _ _
    rw [hmade]
    rfl
  . rw [(complete_decide ..).1, (decide_ofDecision ..).1]
    rfl
  . rw [(complete_decide ..).2, (decide_ofDecision ..).2]
    rfl

theorem sampler_register (alive : Nat → Bool) (parent : Option ContextInstance)
    (context : TraceContext BaggageRef) :
    (register alive parent context state).2.tracing.sampler = state.tracing.sampler := by
  show (if _ then _ else _ : SpanHandle × TracerState).2.tracing.sampler = _
  split
  . rfl
  . rfl

theorem starts_nextSpanFor (alive : Nat → Bool) (function : SamplerFunction) (request : Request)
    (draws : Draws) :
    let verdict := function.trySample samplingTime request draws
    let asked := nextSpanFor alive none function request draws state
    asked.1.2 = some verdict ∧ ∃ made, Starts verdict.decision state made ∧
      Handles (made.1 = ·) state.tracing.registry asked.1.1 ∧
      asked.2.tracing.sampler = made.2.tracing.sampler := by
  intro verdict asked
  let made := rootContext (.ofDecision verdict.decision) [] state
  have hasked : asked = (((register alive none made.1 made.2).1, some verdict),
      (register alive none made.1 made.2).2) := by
    dsimp only [asked]
    unfold nextSpanFor
    dsimp only
    rw [bind_apply, bind_apply]
    rfl
  have hstarts : Starts verdict.decision state made :=
    starts_rootContext state verdict.decision []
  rw [hasked]
  refine ⟨rfl, made, hstarts, ?_, sampler_register ..⟩
  rw [← hstarts.registry]
  exact handles_register (P := (made.1 = ·)) rfl ..

end Tracer

open Tracer SamplerFunction in
/--
One rule sampler with the rules of two answers requests as the two do in order: with the same
decisions, calls and random numbers, and with the same samplers left, whatever others that share
them do in between. Only the sampler of the first rule that accepts a request is asked, and matchers
are evaluated no further than needed. A function decides about the trace of a span where nothing is
current, and the sampler exactly where it leaves that open; where a context is current, the function
is not asked, and the sampler only for a context without a decision.
-/
theorem rules_decide_in_order (own others : List Rule) :
    (∀ draws arrivals, List.Forall₂ SameVerdict
      ((rules (own ++ others)).answer draws arrivals)
      ((first [rules own, rules others]).answer draws arrivals)) ∧
    (∀ now request draws known,
      Rule.Consulted now request draws known (Rule.trySample now request draws known)) ∧
    (∀ request matchers,
      (Matcher.all matchers).accepts request =
        (!matchers.isEmpty && matchers.all (·.accepted request),
          (matchers.take (matchers.findIdx (fun m => !m.accepted request) + 1)).flatMap
            (·.called request)) ∧
      (Matcher.any matchers).accepts request =
        (matchers.any (·.accepted request),
          (matchers.take (matchers.findIdx (·.accepted request) + 1)).flatMap
            (·.called request))) ∧
    ∀ alive function request draws state,
      (let verdict := function.trySample samplingTime request draws
        let asked := nextSpanFor alive none function request draws state
        let answer := state.tracing.sampler.sample samplingTime state.tracing.ids.takeTraceId.1
        asked.1.2 = some verdict ∧
        Handles (fun context => context.Descends none ∧
            context.traceId = state.tracing.ids.takeTraceId.1 ∧
            context.sampled = some (verdict.decision.getD answer.1))
          state.tracing.registry asked.1.1 ∧
        asked.2.tracing.sampler =
          if verdict.decision.isSome then state.tracing.sampler else answer.2) ∧
      ∀ parent : ContextInstance,
        let child := newChild alive parent state
        nextSpanFor alive (some parent) function request draws state = ((child.1, none), child.2) ∧
        (parent.context.sampled.isSome → ∀ sampler,
          newChild alive parent (state.withSampler sampler) =
            (child.1, child.2.withSampler sampler)) := by
  refine ⟨?_, Rule.consulted_trySample, ?_, ?_⟩
  . intro draws arrivals
    apply Joins.answer
    exact ⟨own, others, rfl, rfl⟩
  . intro request matchers
    exact ⟨Matcher.accepts_all request matchers, Matcher.accepts_any request matchers⟩
  . intro alive function request draws state
    refine ⟨?_, ?_⟩
    . intro verdict asked answer
      obtain ⟨hverdict, made, hstarts, ⟨_, rfl, hhandle⟩, hsampler⟩ :=
        starts_nextSpanFor state alive function request draws
      refine ⟨hverdict, ?_, hsampler.trans hstarts.sampler⟩
      exact ⟨made.1, ⟨hstarts.root, hstarts.traceId, hstarts.sampled⟩, hhandle⟩
    . intro parent child
      exact ⟨rfl, fun hdecided => unconsulted_newChild hdecided alive state⟩

open SamplerFunction in
theorem rules_decide_in_order_limited :
    let reads : Rule := ⟨.supplied 1 (·.httpMethod == "GET"), .ofLimit 1⟩
    let closed : Rule := ⟨.all [.supplied 2 (·.httpMethod == "POST"), .httpPathStart "/private"], .never⟩
    let rest : Rule := ⟨.any [.supplied 3 fun _ => true, .supplied 4 fun _ => false], .always⟩
    let arrivals := [{ httpMethod := "GET" }, { httpMethod := "GET" },
      { httpMethod := "POST", httpPath := "/private" }, { httpMethod := "PUT" }].map
        fun request => (⟨0, request, id, id⟩ : Arrival)
    let verdicts := (rules ([reads] ++ [closed, rest])).answer default arrivals
    let parent : ContextInstance := ⟨0, { (default : TraceContext BaggageRef) with
      flags := .ofDecision (some false) }⟩
    List.Forall₂ SameVerdict verdicts
        ((first [rules [reads], rules [closed, rest]]).answer default arrivals) ∧
      verdicts.map (fun verdict => (verdict.decision, verdict.calls)) =
        [(some true, [1]), (some false, [1]), (some false, [1, 2]), (some true, [1, 2, 3])] ∧
      parent.context.sampled.isSome ∧
      ∀ alive state sampler, Tracer.newChild alive parent (TracerState.withSampler state sampler) =
        ((Tracer.newChild alive parent state).1,
          (Tracer.newChild alive parent state).2.withSampler sampler) := by
  intro reads closed rest arrivals verdicts parent
  obtain ⟨hanswer, _, _, hspans⟩ := rules_decide_in_order [reads] [closed, rest]
  have hdecided : parent.context.sampled.isSome := by decide
  refine ⟨hanswer default arrivals, by decide +kernel, hdecided, ?_⟩
  intro alive state
  exact ((hspans alive .defer {} default state).2 parent).2 hdecided

end RequestTracing
