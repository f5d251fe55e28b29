/-!
This module contains the causes for which an operation is refused, their kinds and their messages.
-/

namespace RequestTracing

inductive IdentifierRole where
  | trace
  | localRoot
  | parent
  | span
  deriving DecidableEq

namespace IdentifierRole

def label : IdentifierRole → String
  | trace => "trace ID"
  | localRoot => "local root ID"
  | parent => "parent ID"
  | span => "span ID"

def maxDigits : IdentifierRole → Nat
  | trace => 32
  | _ => 16

end IdentifierRole

inductive TraceError where
  | zeroTraceId
  | zeroSpanId
  | emptyFieldName
  | emptyCorrelationName
  | emptyServiceName
  | malformedIdentifier (role : IdentifierRole) (given : String)
  | ratioOutOfRange (given : String)
  | rateOutOfRange (given : String)
  | leakedScopes (labels : List String)
  | other (text : String)
  deriving DecidableEq

inductive ErrorKind where
  | invalidArgument
  | illegalState
  | other
  deriving DecidableEq

def ErrorKind.label : ErrorKind → String
  | invalidArgument => "InvalidArgument"
  | illegalState => "IllegalState"
  | other => "Other"

namespace TraceError

def kind : TraceError → ErrorKind
  | leakedScopes _ => .illegalState
  | other _ => .other
  | _ => .invalidArgument

def detail : TraceError → String
  | zeroTraceId => "trace_id == 0"
  | zeroSpanId => "span_id == 0"
  | emptyFieldName => "baggage field name is empty"
  | emptyCorrelationName => "correlation name is empty"
  | emptyServiceName => "local_service_name is empty"
  | malformedIdentifier role given =>
    role.label ++ " should be 1 to " ++ toString role.maxDigits ++
      " lower-hex characters and not all zeros: " ++ given
  | ratioOutOfRange given => "ratio should be between 0 and 1: was " ++ given
  | rateOutOfRange given => "rate should be between 0.01 and 1: was " ++ given
  | leakedScopes labels =>
    toString labels.length ++ " scope(s) were never closed: " ++ String.intercalate ", " labels
  | other text => text

def message (e : TraceError) : String :=
  match e.kind with
  | .invalidArgument => "invalid argument: " ++ e.detail
  | .illegalState => "illegal state: " ++ e.detail
  | .other => e.detail

def poisonedLock : TraceError :=
  other "poisoned lock: another task failed inside"

end TraceError

end RequestTracing
