import RequestTracing.Log
import RequestTracing.Propagation.Carrier
import RequestTracing.Text.Split
import RequestTracing.Trace.Extraction

/-!
This module contains what it takes to move a context across a process boundary: the calls that write
it to a carrier, the reader that finds it there, and the names of the fields in use.
-/

namespace RequestTracing

structure Propagator where
  fields : List String
  inject : Snapshot → List (String × String)
  extract : (String → Option String) → Logged Reading

namespace Propagator

def paired (key : String) : Propagator where
  fields := [key]
  inject context := [(key, context.traceId.toText ++ "-" ++ context.spanId.toText)]
  extract get :=
    let context? := do
      let value ← get key
      let (trace, span) ← Text.splitOnce? '-' value.toList
      let builder : ContextBuilder BaggageFields :=
        { traceId := ← TraceId.ofHex? trace, spanId := ← SpanId.ofHex? span }
      builder.build.toOption
    match context? with
    | some context => pure (.ofContext context)
    | none => pure .empty

end Propagator

structure Injection where
  calls : List (String × String)
  carrier : Carrier
  fields : List String
  extracted : Reading

namespace Propagator

def roundTrip (propagator : Propagator) (context : Snapshot) : Logged Injection := do
  let calls := propagator.inject context
  let carrier := Carrier.empty.setAll calls
  let extracted ← propagator.extract carrier.get?
  return ⟨calls, carrier, propagator.fields, extracted⟩

end Propagator

end RequestTracing
