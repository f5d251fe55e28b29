import Mathlib
import RequestTracing.Proofs.Tracer.ScopedSpan
import RequestTracing.Session.Tracings

/-!
This module contains the commands that start and finish a span that is current in between. Main
statements: they do to the tracing, the heap and the thread of a session what a program of such
spans does to its state.
-/

namespace RequestTracing

namespace SessionM

variable {α β : Type} {session between later : Session} {m : SessionM α} {f : α → SessionM β}
  {a : α} {b : β} {name : String} {value : Named} {place : Nat} {tracing : Tracing}

def Answers (m : SessionM α) (session : Session) (a : α) (later : Session) : Prop :=
  m.run.run session = (.ok a, later)

theorem Answers.bind (h : Answers m session a between) (hf : Answers (f a) between b later) :
    Answers (m >>= f) session b later := by
  unfold Answers at *
  rw [ExceptT.run_bind, StateT.run_bind, h]
  exact hf

theorem answers_pure (a : α) (session : Session) : Answers (pure a) session a session :=
  rfl

theorem answers_get (session : Session) : Answers get session session session :=
  rfl

theorem answers_lookup (hname : session.names.lookup name = some value) :
    Answers (lookup name) session value session := by
  unfold lookup
  apply (answers_get session).bind
  rw [hname]
  exact answers_pure _ _

theorem answers_find {view : Named → Option α} (hname : session.names.lookup name = some value)
    (hview : view value = some a) : Answers (find name view) session a session := by
  unfold find
  apply (answers_lookup hname).bind
  rw [hview]
  exact answers_pure _ _

theorem answers_tracingAt (htracing : session.tracings[place]? = some tracing) :
    Answers (tracingAt place) session tracing session := by
  unfold tracingAt
  apply (answers_get session).bind
  rw [htracing]
  exact answers_pure _ _

theorem answers_inTracing [Inhabited β] (htracing : session.tracings[place]? = some tracing)
    (f : (Nat → Bool) → Tracer β) :
    let made := f session.alive ⟨tracing, session.heap, []⟩
    Answers (inTracing place f) session made.1
      { session with
        heap := made.2.heap
        tracings := session.tracings.set place made.2.tracing
        journal := (made.2.notices.map ofSpanNotice).reverse ++ session.journal } := by
  have h : Answers (inTracing place f) session _ _ := rfl
  rw [htracing] at h
  exact h

theorem answers_endSpan (htracing : session.tracings[place]? = some tracing) (span : SpanHandle)
    (ending : SpanEnding) :
    let last := TracerState.endSpan session.alive ⟨tracing, session.heap, []⟩ span ending
    Answers (endSpan place span ending) session ()
      { session with
        heap := last.heap
        tracings := session.tracings.set place last.tracing
        journal := (last.notices.map ofSpanNotice).reverse ++ session.journal } :=
  answers_inTracing htracing fun alive state => ((), state.endSpan alive span ending)

end SessionM

namespace Session

open SessionM (Answers ofScopeNotice ofSpanNotice)

variable {session : Session} {place : Nat} {tracing : Tracing} {name : String}

theorem run_startScoped (hname : session.names.lookup name = some (.tracing place))
    (htracing : session.tracings[place]? = some tracing) (spanName result : String) :
    let first : ScopedState := ⟨⟨tracing, session.heap, []⟩, session.ambient, []⟩
    let started := first.start session.alive spanName
    let state := started.2
    Answers (TracerCommand.startScoped name spanName result).run session
      (.span started.1.span.isNoop (state.tracer.heap.view started.1.span.source))
      { session with
        heap := state.tracer.heap
        tracings := session.tracings.set place state.tracer.tracing
        ambient := { state.ambient with notices := [] }
        names := (result, .scopedSpan place started.1) :: session.names
        journal := state.ambient.notices.map ofScopeNotice ++
          ((state.tracer.notices.map ofSpanNotice).reverse ++ session.journal) } := by
  intro first started state
  have hnamed : Answers (SessionM.tracing name) session place session :=
    SessionM.answers_find hname rfl
  have hcurrent : Answers (SessionM.currentIn tracing.current) session first.current session := rfl
  have hmade := SessionM.answers_inTracing htracing fun alive =>
    Tracer.startNamed alive first.current spanName
  unfold TracerCommand.run
  dsimp only
  apply hnamed.bind
  apply (SessionM.answers_tracingAt htracing).bind
  apply hcurrent.bind
  apply hmade.bind
  rfl

theorem run_finishScoped {scopedSpan : ScopedSpan}
    (hname : session.names.lookup name = some (.scopedSpan place scopedSpan))
    (htracing : session.tracings[place]? = some tracing)
    (hcloses : (CurrentContext.closeScope scopedSpan.scope session.ambient).1 = none) :
    let first : ScopedState := ⟨⟨tracing, session.heap, []⟩, session.ambient, []⟩
    let ambient := (CurrentContext.closeScope scopedSpan.scope session.ambient).2
    let state := first.finish { session with ambient }.alive scopedSpan
    Answers (SpanCommand.finishScoped name).run session .done
      { session with
        heap := state.tracer.heap
        tracings := session.tracings.set place state.tracer.tracing
        ambient := { state.ambient with notices := [] }
        names := session.names.filter fun entry => entry.1 ≠ name
        journal := (state.tracer.notices.map ofSpanNotice).reverse ++
          (state.ambient.notices.map ofScopeNotice ++ session.journal) } := by
  intro first ambient state
  let alive := { session with ambient }.alive
  have hclose : CurrentContext.closeScope scopedSpan.scope session.ambient = (none, ambient) :=
    Prod.ext hcloses rfl
  have hstate : state =
      ⟨first.tracer.endSpan alive scopedSpan.span (.finish none), ambient, []⟩ := by
    show first.finish alive scopedSpan = _
    unfold ScopedState.finish
    rw [hclose]
  have hnamed : Answers (SessionM.scopedSpanNamed name) session (place, scopedSpan) session :=
    SessionM.answers_find hname rfl
  have hscope : Answers (SessionM.closeScope scopedSpan.scope) session none
      { session with
        ambient := { ambient with notices := [] }
        journal := ambient.notices.map ofScopeNotice ++ session.journal } := by
    rw [← hcloses]
    rfl
  -- the command is a bind of three steps, each with its answer and the session it leaves
  rw [hstate]
  unfold SpanCommand.run
  dsimp only
  apply hnamed.bind
  apply hscope.bind
  apply (SessionM.answers_endSpan (by exact htracing) scopedSpan.span (.finish none)).bind
  rfl

end Session

end RequestTracing
