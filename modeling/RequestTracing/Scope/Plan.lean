import RequestTracing.Scope.Current

/-!
This module contains the construction of correlation fields and decorators from plans, in which
fields are named rather than given.
-/

namespace RequestTracing

inductive CorrelationSourcePlan where
  | traceId
  | spanId
  | baggage (name : String)
  deriving DecidableEq

structure CorrelationFieldPlan where
  source : CorrelationSourcePlan
  name : Option String
  dirty : Bool
  deriving DecidableEq

namespace CorrelationFieldPlan

def makeSource : CorrelationSourcePlan → Except TraceError CorrelationSource
  | .traceId => .ok .traceId
  | .spanId => .ok .spanId
  | .baggage name => do return .baggage (← BaggageField.create name)

def make (plan : CorrelationFieldPlan) : Except TraceError CorrelationField := do
  let field := CorrelationField.ofSource (← makeSource plan.source)
  let field ←
    match plan.name with
    | some name => field.withName name
    | none => pure field
  return if plan.dirty then field.asDirty else field

/--
The fields of a decorator: those given, after the ones that are copied unless others are chosen. A
name that cannot be made ends the list early.
-/
def makeAll (known : List CorrelationField) :
    List CorrelationFieldPlan → Logged (Except TraceError (List CorrelationField))
  | [] => pure (.ok known)
  | plan :: plans =>
    match plan.make with
    | .error e => pure (.error e)
    | .ok field => do makeAll (← CorrelationField.addTo known field) plans

end CorrelationFieldPlan

end RequestTracing
