import RequestTracing.Scope.Correlation

/-!
This module contains what may accompany the scopes of an instance: work that is done when a scope
opens and undone when it closes.
-/

namespace RequestTracing

inductive ScopeDecorator where
  /--
  Reports each opening and closing under a label, with what is then current in a slot.
  -/
  | report (label : String) (observed : Option Nat)
  | correlation (fields : List CorrelationField)
  | loggingSpan (baggage : List BaggageField)
  deriving DecidableEq

inductive Decoration where
  | noop
  | report (label : String) (observed : Option Nat)
  | correlation (kept : List (String × Option String))
  | loggingSpan
  deriving DecidableEq

namespace Decoration

def isNoop (decoration : Decoration) : Bool :=
  decoration = noop

end Decoration

namespace ScopeDecorator

def ofBaggage (fields : List BaggageField) : ScopeDecorator :=
  .loggingSpan <| fields.foldl
    (fun known field => if known.any (·.same field) then known else known ++ [field]) []

def assignments (fields : List BaggageField) (context : Snapshot) : String :=
  String.intercalate "," <| fields.filterMap fun field =>
    (context.baggage?.bind fun baggage => baggage.get? field).map fun value =>
      field.name ++ "=" ++ value

def enterNotes (fields : List BaggageField) (context : Snapshot) : List LogRecord :=
  [.spanNew .info "trace_scope"
    [("trace_id", context.traceId.toText), ("span_id", context.spanId.toText),
     ("baggage", assignments fields context)],
   .spanEnter]

def describe : ScopeDecorator → String
  | report label _ =>
    Description.tagged "AnyDecorator" [Description.tagged "RecordingDecorator" [label]]
  | correlation fields =>
    Description.tagged "AnyDecorator"
      [Description.record "CorrelationScopeDecorator"
        [("correlation", "ThreadLocalCorrelationContext"),
         ("fields", Description.list (fields.map CorrelationField.describe))]]
  | loggingSpan baggage =>
    Description.tagged "AnyDecorator"
      [Description.record "TracingScopeDecorator"
        [("baggage", Description.list (baggage.map BaggageField.describe))]]

end ScopeDecorator

end RequestTracing
