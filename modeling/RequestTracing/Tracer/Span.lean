import RequestTracing.Tracer.Tracing

/-!
This module contains handles of spans and the state that handles and their creation work on.
-/

namespace RequestTracing

/--
The handle of a span: its context and, unless nothing is kept, the place of what it records.
-/
structure SpanHandle where
  source : ContextInstance
  place : Option Nat
  deriving DecidableEq

namespace SpanHandle

def isNoop (span : SpanHandle) : Bool :=
  span.place.isNone

def describe (heap : Heap) (span : SpanHandle) : String :=
  Description.tagged (if span.isNoop then "NoopSpan" else "RealSpan")
    [(heap.view span.source).describe]

end SpanHandle

structure SpanCustomizer where
  place : Option Nat
  deriving DecidableEq

namespace SpanCustomizer

def noop : SpanCustomizer :=
  ⟨none⟩

def ofSpan (span : SpanHandle) : SpanCustomizer :=
  ⟨span.place⟩

def isNoop (customizer : SpanCustomizer) : Bool :=
  customizer.place.isNone

def describe (customizer : SpanCustomizer) : String :=
  if customizer.isNoop then "NoopSpanCustomizer" else "SpanCustomizer"

end SpanCustomizer

structure ScopedSpan where
  span : SpanHandle
  scope : Scope
  deriving DecidableEq

namespace ScopedSpan

def describe (heap : Heap) (scopedSpan : ScopedSpan) : String :=
  Description.record "ScopedSpan"
    [("span", scopedSpan.span.describe heap), ("scope", scopedSpan.scope.describe)]

end ScopedSpan

structure TracerState where
  tracing : Tracing
  heap : Heap
  notices : List SpanNotice

inductive SpanEnding where
  | finish (timestamp : Option UInt64)
  | abandon
  | flush
  deriving DecidableEq

namespace Registry

def endSpan (alive : Nat → Bool) (registry : Registry) (context : Snapshot) :
    SpanEnding → Registry × List SpanNotice
  | .finish timestamp => registry.finish alive context timestamp
  | .abandon => registry.abandon alive context
  | .flush => registry.flush alive context

end Registry

namespace TracerState

def endSpan (alive : Nat → Bool) (state : TracerState) (span : SpanHandle) (ending : SpanEnding) :
    TracerState :=
  match span.place with
  | none => state
  | some _ =>
    let (registry, notices) :=
      state.tracing.registry.endSpan alive (state.heap.view span.source) ending
    { state with
      tracing := { state.tracing with registry }
      notices := state.notices ++ notices }

def record (state : TracerState) (place : Option Nat) (entry : SpanRecord) (absent : EditAnswer) :
    EditAnswer × TracerState :=
  let (answer, registry) := state.tracing.registry.record place entry absent
  (answer, { state with tracing := { state.tracing with registry } })

end TracerState

end RequestTracing
