import RequestTracing.Session.Reply
import RequestTracing.Session.State

/-!
This module contains the commands on values of any kind: giving a value a second name, dropping it,
forgetting it and describing it.
-/

namespace RequestTracing

inductive GeneralCommand where
  | clone (name result : String)
  | drop (name : String)
  | forget (name : String)
  | describe (name : String)
  deriving DecidableEq

namespace Registry

def describePending (pending : PendingSpan) : String :=
  Description.record "PendingSpan"
    [("context", pending.context.describe), ("span", pending.span.describe)]

def describe (registry : Registry) : String :=
  Description.record "PendingSpans"
    [("len", toString registry.size),
     ("handlers", Description.list (registry.chain.handlers.map SpanHandler.describe))]

end Registry

namespace SessionM

open CurrentContext

def closeScope (scope : Scope) : SessionM (Option OutOfOrderClose) :=
  inAmbient fun _ ambient => CurrentContext.closeScope scope ambient

def dropValue : Named → SessionM (Option OutOfOrderClose)
  | .scope scope => closeScope scope
  | .scopes scopes => inAmbient fun _ ambient => closeAll ambient scopes
  | .scopedSpan _ scopedSpan => closeScope scopedSpan.scope
  | .decoration decoration => inAmbient fun _ ambient => (none, ambient.undo decoration)
  | _ => pure none

def drop (name : String) : SessionM Unit := do
  let value ← lookup name
  undefine name
  noFault (← dropValue value)

def describe : Named → SessionM String
  | .context source => return (← view source).describe
  | .weak _ => return Description.record "WeakTraceContext" [("inner", "(Weak)")]
  | .extraction e => return ((← get).heap.viewExtraction e).describe
  | .baggageField field => return field.describe
  | .correlationField field => return field.describe
  | .current current => return current.describe
  | .scope scope => return scope.describe
  | .scopes scopes => return Description.list (scopes.map Scope.describe)
  | .decoration decoration =>
    return Description.record "DecoratedScope" [("noop", Description.bool decoration.isNoop)]
  | .task _ _ => return "Task"
  | .registry place => return (← registryAt place).describe
  | .pending place index => do
    match (← registryAt place).pendings[index]? with
    | some pending => return Registry.describePending pending
    | none => fail (.misnamed (toString index))
  | .tracing place => return (← tracingAt place).describe
  | .span _ span => return span.describe (← get).heap
  | .scopedSpan _ scopedSpan => return scopedSpan.describe (← get).heap
  | .customizer _ customizer => return customizer.describe

end SessionM

namespace GeneralCommand

open SessionM

def run : GeneralCommand → SessionM Reply
  | clone name result => do
    define result (← lookup name)
    return .done
  | drop name => do
    SessionM.drop name
    return .done
  | forget name => do
    let value ← lookup name
    undefine name
    modify fun session => { session with leaked := value :: session.leaked }
    return .done
  | describe name => return .text (some (← SessionM.describe (← lookup name)))

end GeneralCommand

end RequestTracing
