import RequestTracing.Recorder.Handler

/-!
This module contains the chain of handlers that a registry reports to. Handlers are called in order
until one of them answers that the others are not to be called. While the chain is switched off no
handler is called at all.
-/

namespace RequestTracing

/--
Handlers in the order in which they are called, the switch that turns all of them off, and the clock
they read.
-/
structure HandlerChain where
  handlers : List SpanHandler
  noop : Bool
  clock : PlatformClock

structure ChainOutcome where
  handlers : List SpanHandler
  span : SpanData
  clock : PlatformClock
  notices : List SpanNotice

namespace HandlerChain

def alwaysSampleLocal (chain : HandlerChain) : Bool :=
  chain.handlers.any SpanHandler.alwaysSampleLocal

def handlesAbandoned (chain : HandlerChain) : Bool :=
  chain.handlers.any SpanHandler.handlesAbandoned

def beginFrom (context : Snapshot) (parent : Option Snapshot) (place : Nat) (span : SpanData) :
    List SpanHandler → SpanData × List SpanNotice
  | [] => (span, [])
  | handler :: rest =>
    let call := SpanNotice.call ⟨place, handler, .beginning parent, context, span⟩
    match handler.begin context parent span with
    | (false, span) => (span, [call])
    | (true, span) =>
      let (span, notices) := beginFrom context parent (place + 1) span rest
      (span, call :: notices)

def begin (chain : HandlerChain) (context : Snapshot) (parent : Option Snapshot) (span : SpanData) :
    SpanData × List SpanNotice :=
  if chain.noop then (span, []) else beginFrom context parent 0 span chain.handlers

/--
Calls handlers from a place on at the end of a span. A handler that did not ask for abandoned spans
is passed over when one is.
-/
def finishFrom (context : Snapshot) (cause : Cause) (place : Nat) (span : SpanData)
    (clock : PlatformClock) : List SpanHandler → ChainOutcome
  | [] => ⟨[], span, clock, []⟩
  | handler :: rest =>
    if cause = .abandoned ∧ ¬handler.handlesAbandoned then
      let outcome := finishFrom context cause (place + 1) span clock rest
      { outcome with handlers := handler :: outcome.handlers }
    else
      let call := SpanNotice.call ⟨place, handler, .ending cause, context, span⟩
      let left := handler.finish context cause span clock
      let notices := call :: left.logs.map SpanNotice.log
      if left.continues then
        let outcome := finishFrom context cause (place + 1) left.span left.clock rest
        { outcome with
          handlers := left.handler :: outcome.handlers
          notices := notices ++ outcome.notices }
      else
        ⟨left.handler :: rest, left.span, left.clock, notices⟩

def finish (chain : HandlerChain) (context : Snapshot) (cause : Cause) (span : SpanData) :
    SpanData × HandlerChain × List SpanNotice :=
  if chain.noop then
    (span, chain, [])
  else
    let outcome := finishFrom context cause 0 span chain.clock chain.handlers
    (outcome.span, { chain with handlers := outcome.handlers, clock := outcome.clock },
      outcome.notices)

def remembered? (chain : HandlerChain) (name : String) : Option (List (SpanData × Cause)) :=
  chain.handlers.findSome? fun handler =>
    match handler with
    | .memory known _ _ spans => if known = name then some spans else none
    | _ => none

def forgetAll (chain : HandlerChain) (name : String) : HandlerChain :=
  { chain with
    handlers := chain.handlers.map fun handler =>
      match handler with
      | .memory known always handles spans =>
        .memory known always handles (if known = name then [] else spans)
      | other => other }

end HandlerChain

end RequestTracing
