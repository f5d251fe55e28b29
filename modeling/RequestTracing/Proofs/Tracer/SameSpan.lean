import Mathlib
import RequestTracing.Proofs.Tracer.SpanLife
import RequestTracing.Proofs.Tracer.Validity

/-!
This module contains further handles of a span that is recorded already. Main statement: as long as
code holds on to the span and nobody ends it, whoever asks for a span of the same identity gets the
very handle that there is, and what is recorded through any of them is in the one report.
-/

namespace RequestTracing

namespace Tracer

variable {state : TracerState} {place : Nat} {source : ContextInstance}

end Tracer

namespace TracingMoment

variable {moment : TracingMoment} {place : Nat} {source : ContextInstance}

end TracingMoment

namespace TracerState

variable {place : Nat} {source : ContextInstance}

end TracerState

namespace SpanLife

variable {life : SpanLife} {place : Nat}

theorem pass_finish {pending : PendingSpan} (hplace : life.span.place = some place)
    (h : life.last.tracing.registry.Carries place life.span.source)
    (hheld : life.aliveThen life.span.source.number) (hended : life.last.tracing.isNoop = false)
    (hpending : life.last.tracing.registry.pendings[place]? = some pending) :
    Pass 0 ((Tracing.handlers life.config).map SpanHandler.role)
      (life.last.heap.view life.span.source) .finished (Registry.stamped life.timestamp pending)
      (callsAbout life.context.key life.finish.notices) := by
  let context := life.last.heap.view life.span.source
  have hnotices : life.finish.notices =
      (life.last.tracing.registry.finish life.aliveThen context life.timestamp).2 := by
    rw [← life.finish.notices_asked]
    unfold RegistryStep.notices
    rw [action_asked_finish hplace]
    rfl
  rw [hnotices, ← life.roles_last]
  exact life.faithful_last.toSound.pass_finish h.tracked (h.isLive hheld) hended hpending rfl
    life.timestamp

end SpanLife

end RequestTracing
