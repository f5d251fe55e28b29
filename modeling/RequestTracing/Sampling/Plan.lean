import RequestTracing.Sampling.Rule

/-!
This module contains the construction of rules and of functions that decide on requests from plans,
in which samplers are described rather than given.
-/

namespace RequestTracing

structure RulePlan where
  matcher : Matcher
  sampler : SamplerSpec

namespace RulePlan

def makeAll (draws : Draws) : List RulePlan → Except TraceError (List Rule × Draws)
  | [] => .ok ([], draws)
  | plan :: plans => do
    let (sampler, draws) ← plan.sampler.build draws
    let (rules, draws) ← makeAll draws plans
    return (⟨plan.matcher, sampler⟩ :: rules, draws)

end RulePlan

inductive SamplerFunctionPlan where
  | defer
  | never
  | constant (answer : Option Bool)
  | rules (plans : List RulePlan)
  | first (plans : List SamplerFunctionPlan)
  deriving Inhabited

namespace SamplerFunctionPlan

mutual

def make (draws : Draws) : SamplerFunctionPlan → Except TraceError (SamplerFunction × Draws)
  | .defer => .ok (.defer, draws)
  | .never => .ok (.never, draws)
  | .constant answer => .ok (.supplied 0 fun _ => answer, draws)
  | .rules plans => do
    let (made, draws) ← RulePlan.makeAll draws plans
    return (.rules made, draws)
  | .first plans => do
    let (made, draws) ← makeAll draws plans
    return (.first made, draws)

def makeAll (draws : Draws) :
    List SamplerFunctionPlan → Except TraceError (List SamplerFunction × Draws)
  | [] => .ok ([], draws)
  | plan :: plans => do
    let (made, draws) ← make draws plan
    let (others, draws) ← makeAll draws plans
    return (made :: others, draws)

end

end SamplerFunctionPlan

namespace Rule

def answerAll (now : UInt64) (draws : Draws) (rules : List Rule) :
    List Request → List (Option Bool × List Nat)
  | [] => []
  | request :: requests =>
    let verdict := trySample now request draws rules
    (verdict.decision, verdict.calls) :: answerAll now verdict.draws verdict.state requests

end Rule

namespace SamplerFunction

/--
Answers requests in order by functions that are asked up to the first that decides.
-/
def answerAll (now : UInt64) (draws : Draws) (functions : List SamplerFunction) :
    List Request → List (Option Bool × List Nat)
  | [] => []
  | request :: requests =>
    let verdict := tryFirst now request draws functions
    (verdict.decision, verdict.calls) :: answerAll now verdict.draws verdict.state requests

end SamplerFunction

end RequestTracing
