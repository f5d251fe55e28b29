import Mathlib
import RequestTracing.Sampling.Rule

/-!
This module contains which matchers and samplers take part in a decision on a request. Main
statement: only the sampler of the first rule that accepts a request is asked, and rules in one list
decide as two functions do that are asked in order, with the same calls and the same samplers left.
-/

namespace RequestTracing

namespace Matcher

def called (request : Request) (matcher : Matcher) : List Nat :=
  (matcher.accepts request).2

def accepted (request : Request) (matcher : Matcher) : Bool :=
  (matcher.accepts request).1

variable (request : Request) (matchers : List Matcher)

theorem allAccept_eq :
    allAccept request matchers =
      (matchers.all (accepted request),
        (matchers.take (matchers.findIdx (fun m => !m.accepted request) + 1)).flatMap
          (called request)) := by
  induction matchers with
  | nil => rfl
  | cons matcher matchers ih =>
    rw [allAccept, List.all_cons, List.findIdx_cons]
    unfold accepted called at ih ⊢
    cases haccepts : matcher.accepts request with
    | mk result calls =>
      cases result with
      | false => simp [haccepts]
      | true => simp [haccepts, ih]

theorem anyAccepts_eq :
    anyAccepts request matchers =
      (matchers.any (accepted request),
        (matchers.take (matchers.findIdx (accepted request) + 1)).flatMap (called request)) := by
  induction matchers with
  | nil => rfl
  | cons matcher matchers ih =>
    rw [anyAccepts, List.any_cons, List.findIdx_cons]
    unfold accepted called at ih ⊢
    cases haccepts : matcher.accepts request with
    | mk result calls =>
      cases result with
      | false => simp [haccepts, ih]
      | true => simp [haccepts]

theorem accepts_all :
    (all matchers).accepts request =
      (!matchers.isEmpty && matchers.all (accepted request),
        (matchers.take (matchers.findIdx (fun m => !m.accepted request) + 1)).flatMap
          (called request)) := by
  cases matchers with
  | nil => rfl
  | cons matcher matchers => exact allAccept_eq request (matcher :: matchers)

theorem accepts_any :
    (any matchers).accepts request =
      (matchers.any (accepted request),
        (matchers.take (matchers.findIdx (accepted request) + 1)).flatMap (called request)) :=
  anyAccepts_eq request matchers

end Matcher

namespace Rule

variable {now : UInt64} {request : Request} {draws : Draws}

/--
The verdicts of rules: either none accepts the request, or the sampler of the first that does is
asked, and nothing else is. The calls are those of the matchers up to that one.
-/
inductive Consulted (now : UInt64) (request : Request) (draws : Draws) :
    List Rule → Verdict (List Rule) → Prop where
  | none {rules} (hrules : ∀ rule ∈ rules, rule.matcher.accepted request = false) :
      Consulted now request draws rules
        ⟨.none, rules, rules.flatMap fun rule => rule.matcher.called request, draws⟩
  | first {before after} {rule : Rule} {sampled : Bool} {sampler : Sampler} {left : Draws}
      (hbefore : ∀ other ∈ before, other.matcher.accepted request = false)
      (hrule : rule.matcher.accepted request = true)
      (hsampler : rule.sampler.sampleUntraced now draws = (sampled, sampler, left)) :
      Consulted now request draws (before ++ rule :: after)
        ⟨some sampled, before ++ { rule with sampler } :: after,
          (before ++ [rule]).flatMap fun rule => rule.matcher.called request, left⟩

theorem Consulted.after {rules : List Rule} {rule : Rule} {verdict : Verdict (List Rule)}
    (h : Consulted now request draws rules verdict)
    (hrule : rule.matcher.accepted request = false) :
    Consulted now request draws (rule :: rules)
      (verdict.after (rule.matcher.called request) (rule :: ·)) := by
  cases h with
  | none hrules => exact .none (List.forall_mem_cons.2 ⟨hrule, hrules⟩)
  | first hbefore haccepts hsampler =>
    exact .first (List.forall_mem_cons.2 ⟨hrule, hbefore⟩) haccepts hsampler

theorem consulted_trySample (now : UInt64) (request : Request) (draws : Draws)
    (rules : List Rule) :
    Consulted now request draws rules (trySample now request draws rules) := by
  induction rules with
  | nil => exact .none fun rule hrule => nomatch hrule
  | cons rule rules ih =>
    rw [trySample]
    split
    . next calls haccepts =>
      have hcalled : calls = [rule].flatMap fun rule => rule.matcher.called request := by
        simp [Matcher.called, haccepts]
      rw [hcalled]
      have hnone : ∀ other ∈ ([] : List Rule), other.matcher.accepted request = false :=
        List.forall_mem_nil _
      apply Consulted.first hnone _ rfl
      exact congrArg Prod.fst haccepts
    . next calls haccepts =>
      have hcalled : calls = rule.matcher.called request := (congrArg Prod.snd haccepts).symm
      rw [hcalled]
      apply ih.after
      exact congrArg Prod.fst haccepts

theorem trySample_append (now : UInt64) (request : Request) (draws : Draws)
    (rules others : List Rule) :
    trySample now request draws (rules ++ others) =
      let verdict := trySample now request draws rules
      match verdict.decision with
      | some _ => verdict.after [] (· ++ others)
      | none => (trySample now request verdict.draws others).after verdict.calls
          (verdict.state ++ ·) := by
  induction rules with
  | nil => rfl
  | cons rule rules ih =>
    rw [List.cons_append, trySample, trySample]
    rcases rule.matcher.accepts request with ⟨_ | _, calls⟩
    . dsimp only
      rw [ih]
      dsimp only [Verdict.after]
      split
      . rfl
      . simp
    . rfl

end Rule

namespace SamplerFunction

mutual

def allRules : SamplerFunction → List Rule
  | .defer => []
  | .never => []
  | .supplied _ _ => []
  | .rules own => own
  | .first functions => allRulesOf functions

def allRulesOf : List SamplerFunction → List Rule
  | [] => []
  | function :: functions => allRules function ++ allRulesOf functions

end

mutual

def withRules (known : List Rule) : SamplerFunction → SamplerFunction
  | .defer => .defer
  | .never => .never
  | .supplied label decide => .supplied label decide
  | .rules own => .rules (known.take own.length)
  | .first functions => .first (withRulesAll known functions)

def withRulesAll (known : List Rule) : List SamplerFunction → List SamplerFunction
  | [] => []
  | function :: functions =>
    withRules known function :: withRulesAll (known.drop (allRules function).length) functions

end

structure Arrival where
  now : UInt64
  request : Request
  rules : List Rule → List Rule
  draws : Draws → Draws

def answer (draws : Draws) (function : SamplerFunction) :
    List Arrival → List (Verdict SamplerFunction)
  | [] => []
  | arrival :: arrivals =>
    let found := function.withRules (arrival.rules function.allRules)
    let verdict := found.trySample arrival.now arrival.request (arrival.draws draws)
    verdict :: answer verdict.draws verdict.state arrivals

def Joins (joined composed : SamplerFunction) : Prop :=
  ∃ rules others, joined = .rules (rules ++ others) ∧
    composed = .first [.rules rules, .rules others]

structure SameVerdict (verdict other : Verdict SamplerFunction) : Prop where
  decision : other.decision = verdict.decision
  calls : other.calls = verdict.calls
  rules : other.state.allRules = verdict.state.allRules
  draws : other.draws = verdict.draws

variable {joined composed : SamplerFunction}

theorem Joins.allRules (h : Joins joined composed) : composed.allRules = joined.allRules := by
  obtain ⟨own, others, rfl, rfl⟩ := h
  simp [SamplerFunction.allRules, allRulesOf]

theorem Joins.withRules (h : Joins joined composed) (known : List Rule) :
    Joins (joined.withRules known) (composed.withRules known) := by
  obtain ⟨own, others, rfl, rfl⟩ := h
  refine ⟨known.take own.length, (known.drop own.length).take others.length, ?_, ?_⟩
  . rw [SamplerFunction.withRules, List.length_append, List.take_add]
  . simp [SamplerFunction.withRules, withRulesAll, SamplerFunction.allRules]

theorem tryFirst_rules (now : UInt64) (request : Request) (draws : Draws) (own : List Rule) :
    tryFirst now request draws [.rules own] =
      (Rule.trySample now request draws own).after [] fun own => [.rules own] := by
  rw [tryFirst, SamplerFunction.trySample, tryFirst]
  generalize Rule.trySample now request draws own = found
  obtain ⟨decision, state, calls, left⟩ := found
  cases decision with
  | some sampled => rfl
  | none => simp [Verdict.after]

theorem Joins.trySample (h : Joins joined composed) (now : UInt64) (request : Request)
    (draws : Draws) :
    let verdict := joined.trySample now request draws
    let other := composed.trySample now request draws
    other.decision = verdict.decision ∧ other.calls = verdict.calls ∧
      other.draws = verdict.draws ∧ Joins verdict.state other.state := by
  obtain ⟨own, others, rfl, rfl⟩ := h
  intro verdict other
  dsimp only [verdict, other]
  rw [SamplerFunction.trySample, SamplerFunction.trySample, Rule.trySample_append, tryFirst,
    SamplerFunction.trySample]
  generalize Rule.trySample now request draws own = found
  obtain ⟨decision, state, calls, left⟩ := found
  cases decision with
  | some sampled => exact ⟨rfl, rfl, rfl, state, others, rfl, rfl⟩
  | none =>
    rw [tryFirst_rules]
    refine ⟨rfl, ?_, rfl, state, _, rfl, rfl⟩
    simp [Verdict.after]

/--
Whatever others do to the samplers in between, a list of rules decides as two functions with the
rules of its parts do.
-/
theorem Joins.answer (h : Joins joined composed) (draws : Draws) (arrivals : List Arrival) :
    List.Forall₂ SameVerdict (joined.answer draws arrivals) (composed.answer draws arrivals) := by
  induction arrivals generalizing joined composed draws with
  | nil => exact .nil
  | cons arrival arrivals ih =>
    rw [SamplerFunction.answer, SamplerFunction.answer]
    rw [h.allRules]
    obtain ⟨hdecision, hcalls, hdraws, hstate⟩ :=
      (h.withRules (arrival.rules joined.allRules)).trySample arrival.now arrival.request
        (arrival.draws draws)
    rw [hdraws]
    -- what is left of the two joins again, so the next request finds them as this one did
    exact .cons ⟨hdecision, hcalls, hstate.allRules, hdraws⟩ (ih hstate _)

end SamplerFunction

end RequestTracing
