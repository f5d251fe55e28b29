import RequestTracing.Propagation.Propagator
import RequestTracing.Session.Journal

/-!
This module contains what the commands of a session answer.
-/

namespace RequestTracing

/--
What a poll of a computation saw: the context that was current, by its identifiers, and the one that
was current after the poll.
-/
structure PollReport where
  seen : Option String
  outside : Option String
  deriving DecidableEq

structure ChainReport where
  length : Nat
  noop : Bool
  alwaysSampleLocal : Bool
  handlesAbandoned : Bool
  deriving DecidableEq

namespace ChainReport

def ofChain (chain : HandlerChain) : ChainReport :=
  ⟨chain.handlers.length, chain.noop, chain.alwaysSampleLocal, chain.handlesAbandoned⟩

end ChainReport

structure RegistryReport where
  size : Nat
  readings : Nat
  noop : Bool
  deriving DecidableEq

namespace RegistryReport

def ofRegistry (registry : Registry) : RegistryReport :=
  ⟨registry.size, registry.chain.clock.taken, registry.isNoop⟩

end RegistryReport

structure PendingReport where
  context : Option String
  span : SpanData
  clock : UInt64
  deriving DecidableEq

namespace PendingReport

def ofPending (alive : Nat → Bool) (pending : PendingSpan) : PendingReport where
  context := if alive pending.source.number then some pending.context.toText else none
  span := pending.span
  clock := pending.clock.anchor

end PendingReport

inductive Reply where
  | done
  | verdict (value : Bool)
  | text (value : Option String)
  | context (context : Option Snapshot)
  | extraction (reading : Reading)
  | contextEquality (equal same : Bool)
  | fieldEquality (equal : Bool)
  | weakState (context : Option String)
  | extra (extra : Option (Extra BaggageFields))
  | baggageField (field : BaggageField)
  | correlationField (field : CorrelationField)
  | access (strict : Bool)
  | globalAccess (strict : Bool) (current : Option String)
  | noop (value : Bool)
  | span (noop : Bool) (context : Snapshot)
  | future (attached : Option String) (polls : List PollReport)
  /--
  A stream with the context it carries and the number of items it promised, read to its end.
  -/
  | stream (attached : Option String) (promised : Nat) (items : List PollReport)
  | unwrapped (attached : Option String) (left : Nat)
  | values (values : List (String × String))
  | chain (report : ChainReport)
  | registry (report : RegistryReport)
  | created (clock : UInt64) (report : RegistryReport) (same : Bool)
  | found (report : Option PendingReport)
  | pending (report : PendingReport)
  | edits (answers : List EditAnswer)
  | pendingEquality (same sameClock : Bool)
  | ended (spans : List (SpanData × Cause))
  /--
  What is current for a tracing, for its tracer and for code without other access.
  -/
  | currents (tracing tracer global : Option String)
  | injection (injection : Injection)

end RequestTracing
