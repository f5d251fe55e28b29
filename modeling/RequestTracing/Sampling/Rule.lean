import RequestTracing.Sampling.Sampler

/-!
This module contains decisions that are based on the request which starts a trace: predicates over
requests, rules that pick a sampler, and functions that decide or leave the decision open.
Predicates and decisions that callers supply carry a label, and every evaluation lists the labels of
those it called, in order.
-/

namespace RequestTracing

structure Request where
  httpMethod : String := ""
  httpPath : String := ""
  operation : String := ""
  channelKind : Option String := none
  channelName : Option String := none
  rpcMethod : Option String := none
  rpcService : Option String := none
  deriving DecidableEq

inductive Matcher where
  | always
  | never
  | httpMethod (method : String)
  | httpPathStart (start : String)
  | operation (operation : String)
  | channelKind (kind : String)
  | channelName (name : String)
  | rpcMethod (method : String)
  | rpcService (service : String)
  | all (matchers : List Matcher)
  | any (matchers : List Matcher)
  | supplied (label : Nat) (accepts : Request → Bool)
  deriving Inhabited

namespace Matcher

mutual

def accepts (request : Request) : Matcher → Bool × List Nat
  | .always => (true, [])
  | .never => (false, [])
  | .httpMethod method => (request.httpMethod == method, [])
  | .httpPathStart start => (start.toList.isPrefixOf request.httpPath.toList, [])
  | .operation name => (request.operation == name, [])
  | .channelKind kind => (request.channelKind == some kind, [])
  | .channelName name => (request.channelName == some name, [])
  | .rpcMethod method => (request.rpcMethod == some method, [])
  | .rpcService service => (request.rpcService == some service, [])
  | .all [] => (false, [])
  | .all (m :: ms) => allAccept request (m :: ms)
  | .any ms => anyAccepts request ms
  | .supplied label f => (f request, [label])

def allAccept (request : Request) : List Matcher → Bool × List Nat
  | [] => (true, [])
  | m :: ms =>
    match accepts request m with
    | (false, calls) => (false, calls)
    | (true, calls) =>
      let (result, more) := allAccept request ms
      (result, calls ++ more)

def anyAccepts (request : Request) : List Matcher → Bool × List Nat
  | [] => (false, [])
  | m :: ms =>
    match accepts request m with
    | (true, calls) => (true, calls)
    | (false, calls) =>
      let (result, more) := anyAccepts request ms
      (result, calls ++ more)

end

def describeAll (matchers : List Matcher) : String :=
  Description.tagged "And" [toString matchers.length]

def describeAny (matchers : List Matcher) : String :=
  Description.tagged "Or" [toString matchers.length]

end Matcher

structure Rule where
  matcher : Matcher
  sampler : Sampler

namespace Rule

def describe (rule : Rule) : String :=
  Description.openRecord "Rule" [("sampler", rule.sampler.describe)]

def describeAll (rules : List Rule) : String :=
  Description.record "RuleSampler" [("rules", Description.list (rules.map describe))]

end Rule

/--
The outcome of asking for a decision: the decision, `none` when it is left open, what is left of the
one asked, the supplied functions called, and the random numbers that are left.
-/
structure Verdict (σ : Type) where
  decision : Option Bool
  state : σ
  calls : List Nat
  draws : Draws

namespace Verdict

variable {σ τ : Type}

def after (calls : List Nat) (f : σ → τ) (verdict : Verdict σ) : Verdict τ :=
  ⟨verdict.decision, f verdict.state, calls ++ verdict.calls, verdict.draws⟩

end Verdict

namespace Rule

/--
Asks the sampler of the first rule that accepts the request. Where none does, the decision is left
open.
-/
def trySample (now : UInt64) (request : Request) (draws : Draws) : List Rule → Verdict (List Rule)
  | [] => ⟨none, [], [], draws⟩
  | rule :: rules =>
    match rule.matcher.accepts request with
    | (true, calls) =>
      let (sampled, sampler, draws) := rule.sampler.sampleUntraced now draws
      ⟨some sampled, { rule with sampler } :: rules, calls, draws⟩
    | (false, calls) => (trySample now request draws rules).after calls (rule :: ·)

end Rule

inductive SamplerFunction where
  | defer
  | never
  | supplied (label : Nat) (decide : Request → Option Bool)
  | rules (rules : List Rule)
  | first (functions : List SamplerFunction)

namespace SamplerFunction

mutual

def trySample (now : UInt64) (request : Request) (draws : Draws) :
    SamplerFunction → Verdict SamplerFunction
  | .defer => ⟨none, .defer, [], draws⟩
  | .never => ⟨some false, .never, [], draws⟩
  | .supplied label f => ⟨f request, .supplied label f, [label], draws⟩
  | .rules rs => (Rule.trySample now request draws rs).after [] SamplerFunction.rules
  | .first fs => (tryFirst now request draws fs).after [] SamplerFunction.first

def tryFirst (now : UInt64) (request : Request) (draws : Draws) :
    List SamplerFunction → Verdict (List SamplerFunction)
  | [] => ⟨none, [], [], draws⟩
  | f :: fs =>
    let verdict := trySample now request draws f
    match verdict.decision with
    | some _ => verdict.after [] (· :: fs)
    | none => (tryFirst now request verdict.draws fs).after verdict.calls (verdict.state :: ·)

end

def describeFirst (functions : List SamplerFunction) : String :=
  Description.record "FirstDecision" [("len", toString functions.length)]

end SamplerFunction

end RequestTracing
