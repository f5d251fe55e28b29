import RequestTracing.Trace.Baggage
import RequestTracing.Trace.Flags
import RequestTracing.Trace.Identifier

/-!
This module contains the context of a span: the identifiers and flags that identify it to every
component that takes part in recording or propagating it, with the extra state that travels along.

Where baggage is shared between contexts and changes over time, a context refers to it; `β` is the
type of such references, or `BaggageFields` where a context holds its baggage itself.
-/

namespace RequestTracing

inductive Extra (β : Type) where
  | marker (number forks : Nat)
  | baggage (fields : β)
  deriving DecidableEq

namespace Extra

variable {β γ : Type}

def baggage? : Extra β → Option β
  | marker _ _ => none
  | baggage fields => some fields

def marker? : Extra β → Option (Nat × Nat)
  | marker number forks => some (number, forks)
  | baggage _ => none

def map (f : β → γ) : Extra β → Extra γ
  | marker number forks => .marker number forks
  | baggage fields => .baggage (f fields)

def describe : Extra BaggageFields → String
  | marker number forks => Description.tagged "Marker" [toString number, toString forks]
  | baggage fields => fields.describe

end Extra

structure TraceContext (β : Type) where
  traceId : TraceId
  spanId : SpanId
  parentId : Option SpanId
  localRootId : Option SpanId
  flags : SamplingFlags
  shared : Bool
  extra : List (Extra β)
  deriving DecidableEq

/--
What equality of contexts and the look-up of recorded spans go by.
-/
structure SpanKey where
  traceId : TraceId
  spanId : SpanId
  shared : Bool
  deriving DecidableEq

namespace SpanKey

def toText (key : SpanKey) : String :=
  key.traceId.toText ++ "/" ++ key.spanId.toText ++ if key.shared then "/shared" else ""

end SpanKey

namespace TraceContext

variable {β γ : Type}

instance : Inhabited (TraceContext β) :=
  ⟨⟨default, default, none, none, default, false, []⟩⟩

def key (context : TraceContext β) : SpanKey :=
  ⟨context.traceId, context.spanId, context.shared⟩

def same (a : TraceContext β) (b : TraceContext γ) : Bool :=
  a.key == b.key

def isLocalRoot (context : TraceContext β) : Bool :=
  context.localRootId == some context.spanId

def sampled (context : TraceContext β) : Option Bool :=
  context.flags.sampled

def sampledLocal (context : TraceContext β) : Bool :=
  context.flags.sampledLocal

def debug (context : TraceContext β) : Bool :=
  context.flags.debug

def baggage? (context : TraceContext β) : Option β :=
  context.extra.findSome? Extra.baggage?

def map (f : β → γ) (context : TraceContext β) : TraceContext γ :=
  { context with extra := context.extra.map (Extra.map f) }

def withExtra (context : TraceContext β) (extra : Extra β) : TraceContext β :=
  { context with extra := context.extra ++ [extra] }

def withoutExtra (context : TraceContext β) : TraceContext γ :=
  { context with extra := [] }

def toText (context : TraceContext β) : String :=
  context.traceId.toText ++ "/" ++ context.spanId.toText

def describe (context : TraceContext BaggageFields) : String :=
  Description.record "TraceContext"
    [("trace_id", context.traceId.toText),
     ("parent_id", Description.option (context.parentId.map SpanId.toText)),
     ("span_id", context.spanId.toText),
     ("local_root_id", Description.option (context.localRootId.map SpanId.toText)),
     ("flags", context.flags.describe),
     ("shared", Description.bool context.shared),
     ("extra", Description.list (context.extra.map Extra.describe))]

end TraceContext

structure ContextBuilder (β : Type) where
  traceId : TraceId := .invalid
  spanId : SpanId := .invalid
  parentId : Option SpanId := none
  localRootId : Option SpanId := none
  flags : SamplingFlags := .empty
  shared : Bool := false
  extra : List (Extra β) := []
  deriving DecidableEq

inductive ContextSetting (β : Type) where
  | traceId (id : TraceId)
  | spanId (id : SpanId)
  | parentId (id : Option SpanId)
  | localRootId (id : Option SpanId)
  | sampled (decision : Option Bool)
  | sampledLocal (value : Bool)
  | debug (value : Bool)
  | samplingFlags (flags : SamplingFlags)
  | shared (value : Bool)
  | addExtra (extra : Extra β)
  | clearExtra
  deriving DecidableEq

namespace ContextBuilder

variable {β : Type}

def ofContext (context : TraceContext β) : ContextBuilder β where
  traceId := context.traceId
  spanId := context.spanId
  parentId := context.parentId
  localRootId := context.localRootId
  flags := context.flags
  shared := context.shared
  extra := context.extra

def set (builder : ContextBuilder β) : ContextSetting β → ContextBuilder β
  | .traceId id => { builder with traceId := id }
  | .spanId id => { builder with spanId := id }
  | .parentId id => { builder with parentId := SpanId.present id }
  | .localRootId id => { builder with localRootId := SpanId.present id }
  | .sampled decision => { builder with flags := builder.flags.withSampled decision }
  | .sampledLocal value => { builder with flags := builder.flags.withSampledLocal value }
  | .debug value => { builder with flags := builder.flags.withDebug value }
  | .samplingFlags flags => { builder with flags }
  | .shared value => { builder with shared := value }
  | .addExtra extra => { builder with extra := builder.extra ++ [extra] }
  | .clearExtra => { builder with extra := [] }

def setAll (builder : ContextBuilder β) (settings : List (ContextSetting β)) : ContextBuilder β :=
  settings.foldl set builder

def toContext (builder : ContextBuilder β) : TraceContext β where
  traceId := builder.traceId
  spanId := builder.spanId
  parentId := builder.parentId
  localRootId := builder.localRootId
  flags := builder.flags
  shared := builder.shared
  extra := builder.extra

def build (builder : ContextBuilder β) : Except TraceError (TraceContext β) :=
  if builder.traceId = .invalid then
    .error .zeroTraceId
  else if builder.spanId = .invalid then
    .error .zeroSpanId
  else
    .ok builder.toContext

end ContextBuilder

end RequestTracing
