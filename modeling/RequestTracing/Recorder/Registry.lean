import RequestTracing.Recorder.Chain
import RequestTracing.Trace.Heap

/-!
This module contains the registry of spans that record and have not been reported. An entry is found
by the identity of its context. It does not keep the instance of the context alive: when nothing
else does, the next operation on the registry reports the span as an orphan.
-/

namespace RequestTracing

structure PendingSpan where
  source : ContextInstance
  context : Snapshot
  span : SpanData
  clock : TickClock

structure Registry where
  template : SpanData
  chain : HandlerChain
  pendings : List PendingSpan
  tracked : List (SpanKey × Nat)

namespace Registry

def ofHandlers (template : SpanData) (handlers : List SpanHandler) (clock : PlatformClock) :
    Registry :=
  ⟨template, ⟨handlers, false, clock⟩, [], []⟩

def size (registry : Registry) : Nat :=
  registry.tracked.length

def find? (registry : Registry) (key : SpanKey) : Option Nat :=
  registry.tracked.lookup key

def edit (registry : Registry) (place : Nat) (f : SpanData → SpanData) : Registry :=
  { registry with
    pendings := registry.pendings.modify place fun pending =>
      { pending with span := f pending.span } }

def now (registry : Registry) (place : Nat) : UInt64 :=
  match registry.pendings[place]? with
  | some pending => pending.clock.now
  | none => 0

def untrack (registry : Registry) (key : SpanKey) : Registry :=
  { registry with tracked := registry.tracked.filter fun entry => entry.1 ≠ key }

def report (registry : Registry) (place : Nat) (context : Snapshot) (cause : Cause) :
    Registry × List SpanNotice :=
  match registry.pendings[place]? with
  | none => (registry, [])
  | some pending =>
    let (span, chain, notices) := registry.chain.finish context cause pending.span
    ({ registry with chain }.edit place fun _ => span, notices)

def orphanNote (context : Snapshot) : LogRecord :=
  .event .debug LogRecord.recorderTarget "PendingSpans.Orphaned"
    [("trace_id", context.traceId.toText), ("span_id", context.spanId.toText)]

def reportOrphan (registry : Registry) (place : Nat) : Registry × List SpanNotice :=
  match registry.pendings[place]? with
  | none => (registry, [])
  | some pending =>
    if registry.chain.noop then
      (registry, [])
    else
      let (registry, notices) := registry.report place pending.context .orphaned
      (registry, .log (orphanNote pending.context) :: notices)

def reportOrphans (registry : Registry) : List Nat → Registry × List SpanNotice
  | [] => (registry, [])
  | place :: places =>
    let (registry, notices) := registry.reportOrphan place
    let (registry, later) := registry.reportOrphans places
    (registry, notices ++ later)

def isLive (alive : Nat → Bool) (registry : Registry) (place : Nat) : Bool :=
  match registry.pendings[place]? with
  | some pending => alive pending.source.number
  | none => false

def stale (alive : Nat → Bool) (registry : Registry) : List (SpanKey × Nat) :=
  (registry.tracked.filter fun entry => !registry.isLive alive entry.2).mergeSort
    fun a b => decide (a.1.toText ≤ b.1.toText)

def sweep (alive : Nat → Bool) (registry : Registry) : Registry × List SpanNotice :=
  let tracked := registry.tracked.filter fun entry => registry.isLive alive entry.2
  let live : Registry := { registry with tracked }
  live.reportOrphans ((registry.stale alive).map (·.2))

/--
The clock of a tracked parent, or that of a tracked span with the same trace and local root.
-/
def sharedClock? (registry : Registry) (parent : Option Snapshot) (context : Snapshot) :
    Option TickClock :=
  let ofParent := do
    let place ← registry.find? (← parent).key
    return (← registry.pendings[place]?).clock
  let ofRoot := do
    let root ← context.localRootId
    registry.tracked.findSome? fun (key, place) => do
      let pending ← registry.pendings[place]?
      if key.traceId = context.traceId ∧ pending.context.localRootId = some root then
        some pending.clock
      else
        none
  ofParent <|> ofRoot

def clockFor (registry : Registry) (parent : Option Snapshot) (context : Snapshot) :
    TickClock × Registry :=
  match registry.sharedClock? parent context with
  | some clock => (clock, registry)
  | none =>
    let (clock, platform) := TickClock.anchored registry.chain.clock
    (clock, { registry with chain := { registry.chain with clock := platform } })

def track (registry : Registry) (parent : Option Snapshot) (source : ContextInstance)
    (context : Snapshot) (start : Bool) : Nat × Registry × List SpanNotice :=
  let (clock, registry) := registry.clockFor parent context
  let span := SpanData.ofContext context registry.template
  let span := if start then { span with start := clock.now } else span
  let (span, notices) := registry.chain.begin context parent span
  let place := registry.pendings.length
  (place,
    { registry with
      pendings := registry.pendings ++ [⟨source, context.withoutExtra, span, clock⟩]
      tracked := registry.tracked ++ [(context.key, place)] },
    notices)

def getOrCreate (alive : Nat → Bool) (registry : Registry) (parent : Option Snapshot)
    (source : ContextInstance) (context : Snapshot) (start : Bool) :
    Nat × Registry × List SpanNotice :=
  let (registry, orphans) := registry.sweep alive
  match registry.find? context.key with
  | some place => (place, registry, orphans)
  | none =>
    let (place, registry, notices) := registry.track parent source context start
    (place, registry, orphans ++ notices)

def get (alive : Nat → Bool) (registry : Registry) (key : SpanKey) :
    Option Nat × Registry × List SpanNotice :=
  let (registry, orphans) := registry.sweep alive
  (registry.find? key, registry, orphans)

def remove (alive : Nat → Bool) (registry : Registry) (key : SpanKey) :
    Option Nat × Registry × List SpanNotice :=
  let (place?, registry, orphans) := registry.get alive key
  (place?, registry.untrack key, orphans)

def depart (alive : Nat → Bool) (registry : Registry) (context : Snapshot) (cause : Cause)
    (prepare : Registry → Nat → Registry) : Registry × List SpanNotice :=
  match registry.remove alive context.key with
  | (none, registry, orphans) => (registry, orphans)
  | (some place, registry, orphans) =>
    let (registry, notices) := (prepare registry place).report place context cause
    (registry, orphans ++ notices)

/--
Sets the finish time: the given one, or the time of the clock where none or zero is given.
-/
def stamp (timestamp : Option UInt64) (registry : Registry) (place : Nat) : Registry :=
  let time := (timestamp.filter (· ≠ 0)).getD (registry.now place)
  registry.edit place fun span => { span with finish := time }

def finish (alive : Nat → Bool) (registry : Registry) (context : Snapshot)
    (timestamp : Option UInt64) : Registry × List SpanNotice :=
  registry.depart alive context .finished (stamp timestamp)

def flush (alive : Nat → Bool) (registry : Registry) (context : Snapshot) :
    Registry × List SpanNotice :=
  registry.depart alive context .flushed fun registry _ => registry

def abandon (alive : Nat → Bool) (registry : Registry) (context : Snapshot) :
    Registry × List SpanNotice :=
  if registry.chain.handlesAbandoned then
    registry.depart alive context .abandoned fun registry _ => registry
  else
    (registry.remove alive context.key).2

def setNoop (registry : Registry) (noop : Bool) : Registry :=
  { registry with chain := { registry.chain with noop } }

def isNoop (registry : Registry) : Bool :=
  registry.chain.noop

end Registry

end RequestTracing
