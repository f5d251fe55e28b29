import Mathlib
import RequestTracing.Proofs.Recorder.Ends
import RequestTracing.Proofs.Span.Identity

/-!
This module contains the identities that spans are reported under. Main statement: with handlers
that leave them alone, every span of a registry keeps the identity of the context that it was
created for, whatever is recorded and reported.
-/

namespace RequestTracing

theorem TraceContext.reportedIdentity_withoutExtra {β : Type} (context : TraceContext β) :
    (context.withoutExtra : Snapshot).reportedIdentity = context.reportedIdentity :=
  rfl

namespace SpanHandler

structure KeepsIdentity (handler : SpanHandler) : Prop where
  begin : ∀ context parent span,
    (handler.begin context parent span).2.reportedIdentity = span.reportedIdentity
  finish : ∀ context cause span clock,
    (handler.finish context cause span clock).span.reportedIdentity = span.reportedIdentity

theorem keepsIdentity_encoding (name : String) (encoder : SpanEncoder) (always : Bool) :
    (encoding name encoder always).KeepsIdentity :=
  ⟨fun _ _ _ => rfl, fun _ _ _ _ => rfl⟩

theorem keepsIdentity_orphanTracker (template : SpanData) (source : FlushClock) (logs : Bool) :
    (orphanTracker template source logs).KeepsIdentity where
  begin _ _ _ := rfl
  finish context cause span clock := by
    rw [SpanHandler.finish]
    split
    . rfl
    . exact span.reportedIdentity_annotate _ _

theorem KeepsIdentity.of_role {handler other : SpanHandler} (h : handler.KeepsIdentity)
    (hrole : other.role = handler.role) : other.KeepsIdentity where
  begin context parent span := by
    have hbegin : ∀ handler : SpanHandler,
        handler.role.begin context parent span = handler.begin context parent span := by
      intro handler
      cases handler <;> rfl
    rw [← hbegin other, hrole, hbegin]
    exact h.begin context parent span
  finish context cause span clock := by
    rw [← (other.finish_role context cause span clock).1, hrole,
      (handler.finish_role context cause span clock).1]
    exact h.finish context cause span clock

theorem KeepsIdentity.of_roles {handlers changed : List SpanHandler}
    (h : ∀ handler ∈ handlers, handler.KeepsIdentity)
    (hroles : changed.map role = handlers.map role) :
    ∀ handler ∈ changed, handler.KeepsIdentity := by
  intro handler hhandler
  have hmem := List.mem_map_of_mem (f := role) hhandler
  rw [hroles] at hmem
  obtain ⟨known, hknown, hrole⟩ := List.mem_map.1 hmem
  exact (h known hknown).of_role hrole.symm

end SpanHandler

open SpanHandler (KeepsIdentity)

theorem reportedIdentity_handed {handlers : List SpanHandler}
    (h : ∀ handler ∈ handlers, handler.KeepsIdentity) (context : Snapshot) (cause : Cause)
    (span : SpanData) (clock : PlatformClock) :
    (handed context cause span clock handlers).reportedIdentity = span.reportedIdentity := by
  induction handlers generalizing span clock with
  | nil => rfl
  | cons handler rest ih =>
    rw [List.forall_mem_cons] at h
    exact (ih h.2 _ _).trans (h.1.finish context cause span clock)

namespace HandlerChain

theorem reportedIdentity_beginFrom {handlers : List SpanHandler}
    (h : ∀ handler ∈ handlers, handler.KeepsIdentity) (context : Snapshot)
    (parent : Option Snapshot) (place : Nat) (span : SpanData) :
    (beginFrom context parent place span handlers).1.reportedIdentity = span.reportedIdentity := by
  induction handlers generalizing place span with
  | nil => rfl
  | cons handler rest ih =>
    rw [List.forall_mem_cons] at h
    have hbegin := h.1.begin context parent span
    unfold beginFrom
    dsimp only
    split
    . next changed hchanged =>
      rw [hchanged] at hbegin
      exact hbegin
    . next changed hchanged =>
      rw [hchanged] at hbegin
      exact (ih h.2 (place + 1) changed).trans hbegin

theorem reportedIdentity_begin {chain : HandlerChain}
    (h : ∀ handler ∈ chain.handlers, handler.KeepsIdentity) (context : Snapshot)
    (parent : Option Snapshot) (span : SpanData) :
    (chain.begin context parent span).1.reportedIdentity = span.reportedIdentity := by
  unfold begin
  split
  . rfl
  . exact reportedIdentity_beginFrom h context parent 0 span

theorem reportedIdentity_finishFrom {handlers : List SpanHandler}
    (h : ∀ handler ∈ handlers, handler.KeepsIdentity) (context : Snapshot) (cause : Cause)
    (place : Nat) (span : SpanData) (clock : PlatformClock) :
    (finishFrom context cause place span clock handlers).span.reportedIdentity =
      span.reportedIdentity := by
  induction handlers generalizing place span clock with
  | nil => rfl
  | cons handler rest ih =>
    rw [List.forall_mem_cons] at h
    have hfinish := h.1.finish context cause span clock
    unfold finishFrom
    dsimp only
    split
    . exact ih h.2 (place + 1) span clock
    . split
      . exact (ih h.2 (place + 1) _ _).trans hfinish
      . exact hfinish

theorem reportedIdentity_finish {chain : HandlerChain}
    (h : ∀ handler ∈ chain.handlers, handler.KeepsIdentity) (context : Snapshot) (cause : Cause)
    (span : SpanData) :
    (chain.finish context cause span).1.reportedIdentity = span.reportedIdentity := by
  unfold finish
  split
  . rfl
  . exact reportedIdentity_finishFrom h context cause 0 span chain.clock

end HandlerChain

namespace Registry

/--
The invariant of registries whose handlers leave identities alone: each span is reported under that
of the context it was created for.
-/
structure Identified (registry : Registry) : Prop where
  handlers : ∀ handler ∈ registry.chain.handlers, handler.KeepsIdentity
  spans : ∀ pending ∈ registry.pendings,
    pending.span.reportedIdentity = pending.source.context.reportedIdentity

namespace Identified

variable {registry : Registry}

theorem getElem? (h : registry.Identified) {place : Nat} {pending : PendingSpan}
    (hpending : registry.pendings[place]? = some pending) :
    pending.span.reportedIdentity = pending.source.context.reportedIdentity :=
  h.spans pending (List.mem_of_getElem? hpending)

theorem edit (h : registry.Identified) {place : Nat} {f : SpanData → SpanData}
    (hf : ∀ pending, registry.pendings[place]? = some pending →
      (f pending.span).reportedIdentity = pending.span.reportedIdentity) :
    (registry.edit place f).Identified where
  handlers := h.handlers
  spans := by
    intro pending hpending
    obtain ⟨other, hother⟩ := List.getElem?_of_mem hpending
    unfold Registry.edit at hother
    rw [List.getElem?_modify] at hother
    obtain ⟨known, hknown, rfl⟩ := Option.map_eq_some_iff.1 hother
    by_cases hplace : place = other
    . rw [if_pos hplace]
      exact (hf known (hplace ▸ hknown)).trans (h.getElem? hknown)
    . rw [if_neg hplace]
      exact h.getElem? hknown

theorem report (h : registry.Identified) (place : Nat) (context : Snapshot) (cause : Cause) :
    (registry.report place context cause).1.Identified := by
  unfold Registry.report
  split
  . exact h
  . next pending hpending =>
    have hchain : Identified
        { registry with chain := (registry.chain.finish context cause pending.span).2.1 } :=
      ⟨KeepsIdentity.of_roles h.handlers (registry.chain.roles_finish context cause pending.span),
        h.spans⟩
    dsimp only
    apply hchain.edit
    intro known hknown
    have hsame : known = pending := Option.some.inj (hknown.symm.trans hpending)
    rw [hsame]
    exact HandlerChain.reportedIdentity_finish h.handlers context cause pending.span

theorem reportOrphan (h : registry.Identified) (place : Nat) :
    (registry.reportOrphan place).1.Identified := by
  unfold Registry.reportOrphan
  split
  . exact h
  . next pending _ =>
    split
    . exact h
    . exact h.report place pending.context .orphaned

theorem reportOrphans (h : registry.Identified) (places : List Nat) :
    (registry.reportOrphans places).1.Identified := by
  induction places generalizing registry with
  | nil => exact h
  | cons place places ih => exact ih (h.reportOrphan place)

theorem sweep (h : registry.Identified) (alive : Nat → Bool) :
    (registry.sweep alive).1.Identified := by
  have hlive : Identified { registry with
      tracked := registry.tracked.filter fun entry => registry.isLive alive entry.2 } :=
    ⟨h.handlers, h.spans⟩
  exact hlive.reportOrphans _

theorem untrack (h : registry.Identified) (key : SpanKey) : (registry.untrack key).Identified :=
  ⟨h.handlers, h.spans⟩

theorem depart (h : registry.Identified) (alive : Nat → Bool) (context : Snapshot) (cause : Cause)
    {prepare : Registry → Nat → Registry}
    (hprepare : ∀ registry place, registry.Identified → (prepare registry place).Identified) :
    (registry.depart alive context cause prepare).1.Identified := by
  unfold Registry.depart
  rw [remove_eq]
  cases (registry.sweep alive).1.find? context.key with
  | none => exact (h.sweep alive).untrack context.key
  | some place =>
    exact (hprepare _ place ((h.sweep alive).untrack context.key)).report place context cause

theorem abandon (h : registry.Identified) (alive : Nat → Bool) (context : Snapshot) :
    (registry.abandon alive context).1.Identified := by
  unfold Registry.abandon
  split
  . exact h.depart alive context .abandoned fun _ _ h => h
  . exact (h.sweep alive).untrack context.key

theorem track (h : registry.Identified) (parent : Option Snapshot) {source : ContextInstance}
    {context : Snapshot}
    (hcontext : context.reportedIdentity = source.context.reportedIdentity) (start : Bool) :
    (registry.track parent source context start).2.1.Identified := by
  let timed := (registry.clockFor parent context).2
  have halike := registry.alike_clockFor parent context
  have hhandlers : ∀ handler ∈ timed.chain.handlers, handler.KeepsIdentity :=
    KeepsIdentity.of_roles h.handlers halike.roles
  have hpendings : timed.pendings = registry.pendings := by
    show (registry.clockFor parent context).2.pendings = _
    unfold clockFor
    split
    . rfl
    . rfl
  refine ⟨hhandlers, ?_⟩
  unfold Registry.track
  dsimp only
  rw [List.forall_mem_append, List.forall_mem_singleton]
  constructor
  . intro pending hpending
    exact h.spans pending (hpendings ▸ hpending)
  . refine (HandlerChain.reportedIdentity_begin hhandlers context parent _).trans ?_
    rw [← hcontext]
    split
    . rfl
    . rfl

theorem getOrCreate (h : registry.Identified) (alive : Nat → Bool) (parent : Option Snapshot)
    {source : ContextInstance} {context : Snapshot}
    (hcontext : context.reportedIdentity = source.context.reportedIdentity) (start : Bool) :
    (registry.getOrCreate alive parent source context start).2.1.Identified := by
  unfold Registry.getOrCreate
  dsimp only
  split
  . exact h.sweep alive
  . exact (h.sweep alive).track parent hcontext start

theorem record (h : registry.Identified) (place : Option Nat) (entry : SpanRecord)
    (absent : EditAnswer) : (registry.record place entry absent).2.Identified := by
  unfold Registry.record Registry.perform
  cases place with
  | none => exact h
  | some place =>
    dsimp only
    split
    . exact h
    . next pending hpending =>
      dsimp only
      apply h.edit
      intro known hknown
      have hsame : known = pending := Option.some.inj (hknown.symm.trans hpending)
      rw [hsame]
      exact SpanRecord.reportedIdentity_toEdit _ entry pending.span

end Identified

end Registry

def RegistryAction.rewrites : RegistryAction → Bool
  | record _ _ => true
  | _ => false

theorem RegistryState.identified_step {state : RegistryState} (h : state.registry.Identified)
    {action : RegistryAction} (hfits : action.Fits) (hrewrites : action.rewrites = false) :
    (state.step action).1.registry.Identified := by
  cases action with
  | getOrCreate parent source context start =>
    refine h.getOrCreate state.alive parent ?_ start
    have hstripped : (context.withoutExtra : Snapshot) = source.context.withoutExtra := hfits
    rw [← context.reportedIdentity_withoutExtra, hstripped]
    exact source.context.reportedIdentity_withoutExtra
  | get key => exact h.sweep state.alive
  | remove key => exact (h.sweep state.alive).untrack key
  | finish context timestamp =>
    refine h.depart state.alive context .finished fun registry place h => ?_
    unfold Registry.stamp
    exact h.edit fun _ _ => rfl
  | flush context => exact h.depart state.alive context .flushed fun _ _ h => h
  | abandon context => exact h.abandon state.alive context
  | sweep => exact h.sweep state.alive
  | record place f => cases hrewrites
  | setNoop value => exact ⟨h.handlers, h.spans⟩
  | hold alive => exact h

end RequestTracing
