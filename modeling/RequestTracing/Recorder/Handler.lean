import RequestTracing.Log
import RequestTracing.Recorder.Clock
import RequestTracing.Span.Encoder
import RequestTracing.Trace.Extraction

/-!
This module contains the handlers that recorded spans are reported to. A handler is called when a
span begins and when it ends; both times it may change the span, and it says whether the handlers
after it are called as well.
-/

namespace RequestTracing

inductive Cause where
  | finished
  | flushed
  | abandoned
  | orphaned
  deriving DecidableEq

namespace Cause

def label : Cause → String
  | finished => "Finished"
  | flushed => "Flushed"
  | abandoned => "Abandoned"
  | orphaned => "Orphaned"

end Cause

/--
How a handler of the caller behaves. The answers say whether the next handler is called.
-/
structure HandlerBehaviour where
  onBegin : Snapshot → Option Snapshot → SpanData → Bool × SpanData
  onEnd : Snapshot → Cause → SpanData → Bool × SpanData
  handlesAbandoned : Bool
  alwaysSampleLocal : Bool

namespace HandlerBehaviour

def tagged (tag : Option (String × String)) (span : SpanData) : SpanData :=
  match tag with
  | some (key, value) => span.tag key value
  | none => span

def constant (atBegin atEnd : Bool) (beginTag endTag : Option (String × String))
    (handlesAbandoned alwaysSampleLocal : Bool) : HandlerBehaviour where
  onBegin _ _ span := (atBegin, tagged beginTag span)
  onEnd _ _ span := (atEnd, tagged endTag span)
  handlesAbandoned
  alwaysSampleLocal

end HandlerBehaviour

inductive FlushClock where
  | platform
  | fixed (time : UInt64)
  deriving DecidableEq

inductive SpanHandler where
  | supplied (name : String) (behaviour : HandlerBehaviour)
  | memory (name : String) (alwaysSampleLocal handlesAbandoned : Bool)
      (spans : List (SpanData × Cause))
  | encoding (name : String) (encoder : SpanEncoder) (alwaysReport : Bool)
  | orphanTracker (template : SpanData) (clock : FlushClock) (logs : Bool)

inductive Occasion where
  | beginning (parent : Option Snapshot)
  | ending (cause : Cause)
  deriving DecidableEq

/--
A call of a handler at its place in the chain, with the span as the handler found it.
-/
structure HandlerCall where
  place : Nat
  handler : SpanHandler
  occasion : Occasion
  context : Snapshot
  span : SpanData

/--
What becomes known while spans are recorded.
-/
inductive SpanNotice where
  | log (record : LogRecord)
  | call (call : HandlerCall)

structure HandlerOutcome where
  continues : Bool
  handler : SpanHandler
  span : SpanData
  clock : PlatformClock
  logs : List LogRecord

namespace SpanHandler

def name : SpanHandler → String
  | supplied name _ => name
  | memory name _ _ _ => name
  | encoding name _ _ => name
  | orphanTracker _ _ _ => ""

def alwaysSampleLocal : SpanHandler → Bool
  | supplied _ behaviour => behaviour.alwaysSampleLocal
  | memory _ always _ _ => always
  | encoding _ _ _ => false
  | orphanTracker _ _ _ => false

def handlesAbandoned : SpanHandler → Bool
  | supplied _ behaviour => behaviour.handlesAbandoned
  | memory _ _ handles _ => handles
  | encoding _ _ _ => false
  | orphanTracker _ _ _ => false

def begin (context : Snapshot) (parent : Option Snapshot) (span : SpanData) :
    SpanHandler → Bool × SpanData
  | supplied _ behaviour => behaviour.onBegin context parent span
  | memory _ _ _ _ => (true, span)
  | encoding _ _ _ => (true, span)
  | orphanTracker _ _ _ => (true, span)

def reports (alwaysReport : Bool) (context : Snapshot) (cause : Cause) : Bool :=
  cause ≠ .abandoned && (alwaysReport || context.sampled = some true)

def flushNote : String :=
  "brave.flush"

def orphanNote (context : Snapshot) : LogRecord :=
  .event .warn LogRecord.recorderTarget "OrphanTracker.SpanOrphaned"
    [("trace_id", context.traceId.toText), ("span_id", context.spanId.toText),
     ("message", "Span was allocated but never finished or abandoned; " ++
       "it was flushed with what it recorded")]

def flushTime (platform : PlatformClock) : FlushClock → UInt64 × PlatformClock
  | .platform => platform.read
  | .fixed time => (time, platform)

def finish (context : Snapshot) (cause : Cause) (span : SpanData) (clock : PlatformClock) :
    SpanHandler → HandlerOutcome
  | supplied name behaviour =>
    let (continues, changed) := behaviour.onEnd context cause span
    ⟨continues, supplied name behaviour, changed, clock, []⟩
  | memory name always handles spans =>
    ⟨true, memory name always handles (spans ++ [(span, cause)]), span, clock, []⟩
  | encoding name encoder always => ⟨true, encoding name encoder always, span, clock, []⟩
  | orphanTracker template source logs =>
    if cause ≠ .orphaned || span.same (.ofContext context template) then
      ⟨true, orphanTracker template source logs, span, clock, []⟩
    else
      let (time, clock) := flushTime clock source
      ⟨true, orphanTracker template source logs, span.annotate time flushNote, clock,
        if logs then [orphanNote context] else []⟩

def describeEnded (ended : SpanData × Cause) : String :=
  Description.pair ended.1.describe ended.2.label

def describe : SpanHandler → String
  | supplied name _ => Description.tagged "Recording" [Text.quoted name]
  | memory _ always handles spans =>
    Description.record "InMemorySpanHandler"
      [("spans", Description.openRecord "Mutex"
        [("data", Description.list (spans.map describeEnded)),
          ("poisoned", Description.bool false)]),
       ("always_sample_local", Description.bool always),
       ("handles_abandoned", Description.bool handles)]
  | encoding _ encoder always =>
    Description.record "EncodingSpanHandler"
      [("encoder", encoder.describe), ("always_report_spans", Description.bool always)]
  | orphanTracker template _ logs =>
    Description.record "OrphanTracker"
      [("default_span", template.describe), ("clock", "VirtualClock"),
       ("log_orphans", Description.bool logs)]

end SpanHandler

namespace HandlerCall

def encoded (call : HandlerCall) : List String :=
  match call.handler, call.occasion with
  | .encoding _ encoder always, .ending cause =>
    if SpanHandler.reports always call.context cause then [encoder.encode call.span] else []
  | _, _ => []

end HandlerCall

end RequestTracing
