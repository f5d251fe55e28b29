import Mathlib
import RequestTracing.Recorder.Chain

/-!
This module contains what the end of a span means to a chain of handlers. Main statement: it is one
pass of them, in which each one that asks for the cause is called, in order, until one answers that
the others are not to be called; and it leaves the chain as it was, but for what handlers keep.
-/

namespace RequestTracing

namespace SpanHandler

def role : SpanHandler → SpanHandler
  | memory name always handles _ => memory name always handles []
  | other => other

theorem handlesAbandoned_role (handler : SpanHandler) :
    handler.role.handlesAbandoned = handler.handlesAbandoned := by
  cases handler <;> rfl

theorem finish_role (context : Snapshot) (cause : Cause) (span : SpanData) (clock : PlatformClock)
    (handler : SpanHandler) :
    (handler.role.finish context cause span clock).span =
        (handler.finish context cause span clock).span ∧
      (handler.role.finish context cause span clock).clock =
        (handler.finish context cause span clock).clock ∧
      (handler.role.finish context cause span clock).continues =
        (handler.finish context cause span clock).continues := by
  cases handler <;> exact ⟨rfl, rfl, rfl⟩

theorem role_finish (context : Snapshot) (cause : Cause) (span : SpanData) (clock : PlatformClock)
    (handler : SpanHandler) :
    (handler.finish context cause span clock).handler.role = handler.role := by
  cases handler with
  | orphanTracker template source logs =>
    rw [finish]
    split
    . rfl
    . rfl
  | _ => rfl

def asks (cause : Cause) (handler : SpanHandler) : Bool :=
  cause ≠ .abandoned || handler.handlesAbandoned

theorem asks_role (cause : Cause) (handler : SpanHandler) :
    handler.role.asks cause = handler.asks cause := by
  unfold asks
  rw [handlesAbandoned_role]

theorem asks_eq_false_iff {cause : Cause} {handler : SpanHandler} :
    handler.asks cause = false ↔ cause = .abandoned ∧ ¬handler.handlesAbandoned := by
  simp [asks]

/--
What a handler answers at the end of a span: only one of the caller may keep it from those after it.
-/
def passesOn (context : Snapshot) (cause : Cause) (span : SpanData) : SpanHandler → Bool
  | supplied _ behaviour => (behaviour.onEnd context cause span).1
  | _ => true

theorem continues_finish (context : Snapshot) (cause : Cause) (span : SpanData)
    (clock : PlatformClock) (handler : SpanHandler) :
    (handler.finish context cause span clock).continues = handler.passesOn context cause span := by
  cases handler with
  | orphanTracker template source logs =>
    rw [finish]
    split
    . rfl
    . rfl
  | _ => rfl

end SpanHandler

/--
Holds for calls of handlers with the given roles, the first of which has the given place in its
chain.
-/
def HandlerCall.Among (first : Nat) (roles : List SpanHandler) (call : HandlerCall) : Prop :=
  ∃ i, call.place = first + i ∧ roles[i]? = some call.handler.role

namespace HandlerCall.Among

variable {first : Nat} {roles : List SpanHandler} {call : HandlerCall}

theorem head (hplace : call.place = first) : call.Among first (call.handler.role :: roles) :=
  ⟨0, hplace, rfl⟩

theorem cons (h : call.Among (first + 1) roles) (role : SpanHandler) :
    call.Among first (role :: roles) := by
  obtain ⟨i, hplace, hrole⟩ := h
  exact ⟨i + 1, by omega, hrole⟩

theorem le (h : call.Among first roles) : first ≤ call.place := by
  obtain ⟨i, hplace, _⟩ := h
  omega

theorem lt (h : call.Among first roles) : call.place < first + roles.length := by
  obtain ⟨i, hplace, hrole⟩ := h
  have hlt := (List.getElem?_eq_some_iff.1 hrole).1
  omega

theorem role_eq (h : call.Among first roles) {other : HandlerCall} (hother : other.Among first roles)
    (hplace : other.place = call.place) : other.handler.role = call.handler.role := by
  obtain ⟨i, hi, hrole⟩ := h
  obtain ⟨j, hj, hsame⟩ := hother
  have heq : i = j := by omega
  rw [heq, hsame] at hrole
  exact Option.some.inj hrole

end HandlerCall.Among

namespace SpanNotice

def ending? : SpanNotice → Option HandlerCall
  | log _ => none
  | call made =>
    match made.occasion with
    | .beginning _ => none
    | .ending _ => some made

def endings (notices : List SpanNotice) : List HandlerCall :=
  notices.filterMap ending?

theorem endings_append (notices others : List SpanNotice) :
    endings (notices ++ others) = endings notices ++ endings others :=
  List.filterMap_append

theorem mem_of_mem_endings {notices : List SpanNotice} {made : HandlerCall}
    (h : made ∈ endings notices) : call made ∈ notices := by
  unfold endings at h
  rw [List.mem_filterMap] at h
  rcases h with ⟨notice, hmem, hnotice⟩
  cases notice with
  | log record => cases hnotice
  | call other =>
    unfold ending? at hnotice
    dsimp only at hnotice
    split at hnotice
    . cases hnotice
    . rwa [← Option.some.inj hnotice]

theorem endings_logs (records : List LogRecord) : endings (records.map log) = [] := by
  unfold endings
  rw [List.filterMap_map, List.filterMap_eq_nil_iff]
  exact fun _ _ => rfl

theorem endings_call {made : HandlerCall} {cause : Cause} (h : made.occasion = .ending cause)
    (notices : List SpanNotice) : endings (call made :: notices) = made :: endings notices := by
  apply List.filterMap_cons_some
  unfold ending?
  dsimp only
  rw [h]

end SpanNotice

/--
Holds for the calls of one pass of handlers with the given roles at the end of a span. Those that
ask for the cause are called, each once and in order, until one of them answers that the others are
not to be called. The first is handed the span as it is given, the others as the one before left it.
-/
structure Pass (first : Nat) (roles : List SpanHandler) (context : Snapshot) (cause : Cause)
    (span : SpanData) (calls : List HandlerCall) : Prop where
  told : ∀ call ∈ calls, call.context = context ∧ call.occasion = .ending cause
  among : ∀ call ∈ calls, call.Among first roles
  order : calls.Pairwise fun call later => call.place < later.place
  called : ∀ i role, roles[i]? = some role →
    ((∃ call ∈ calls, call.place = first + i) ↔ role.asks cause ∧
      ∀ call ∈ calls, call.place < first + i → call.handler.passesOn context cause call.span)
  handed : ∀ call ∈ calls.head?, call.span = span
  left : calls.IsChain fun call next =>
    ∃ clock, (call.handler.finish context cause call.span clock).span = next.span

namespace Pass

variable {first : Nat} {roles : List SpanHandler} {role : SpanHandler} {context : Snapshot}
  {cause : Cause} {span : SpanData} {call : HandlerCall} {calls : List HandlerCall}

theorem nil (first : Nat) (context : Snapshot) (cause : Cause) (span : SpanData) :
    Pass first [] context cause span [] where
  told := by simp
  among := by simp
  order := .nil
  called := by simp
  handed := by simp
  left := .nil

theorem skip (h : Pass (first + 1) roles context cause span calls) (hasks : role.asks cause = false) :
    Pass first (role :: roles) context cause span calls where
  told := h.told
  among := fun call hcall => (h.among call hcall).cons role
  order := h.order
  called := by
    intro i other hother
    cases i with
    | zero =>
      -- the handler is not called, nor does it ask to be
      rw [List.getElem?_cons_zero, Option.some.injEq] at hother
      rw [← hother, hasks]
      constructor
      . rintro ⟨call, hcall, hplace⟩
        have hlater := (h.among call hcall).le
        omega
      . simp
    | succ i =>
      have hplace : first + (i + 1) = first + 1 + i := by omega
      rw [hplace]
      exact h.called i other hother
  handed := h.handed
  left := h.left

theorem singleton (hplace : call.place = first) (hoccasion : call.occasion = .ending cause)
    (hasks : call.handler.asks cause)
    (hstops : call.handler.passesOn call.context cause call.span = false) (roles : List SpanHandler) :
    Pass first (call.handler.role :: roles) call.context cause call.span [call] where
  told := List.forall_mem_singleton.2 ⟨rfl, hoccasion⟩
  among := List.forall_mem_singleton.2 (.head hplace)
  order := List.pairwise_singleton _ call
  called := by
    intro i other hother
    cases i with
    | zero =>
      rw [List.getElem?_cons_zero, Option.some.injEq] at hother
      rw [← hother, SpanHandler.asks_role]
      simp [hplace, hasks]
    | succ i => simp [hplace, hstops]
  handed := by simp
  left := .singleton call

theorem cons {left : SpanData} (h : Pass (first + 1) roles call.context cause left calls)
    (hplace : call.place = first) (hoccasion : call.occasion = .ending cause)
    (hasks : call.handler.asks cause)
    (hpasses : call.handler.passesOn call.context cause call.span)
    (hleft : ∃ clock, (call.handler.finish call.context cause call.span clock).span = left) :
    Pass first (call.handler.role :: roles) call.context cause call.span (call :: calls) where
  told := List.forall_mem_cons.2 ⟨⟨rfl, hoccasion⟩, h.told⟩
  among := List.forall_mem_cons.2 ⟨.head hplace, fun other hother => (h.among other hother).cons _⟩
  order := by
    refine List.pairwise_cons.2 ⟨?_, h.order⟩
    intro other hother
    have hlater := (h.among other hother).le
    omega
  called := by
    intro i other hother
    cases i with
    | zero =>
      rw [List.getElem?_cons_zero, Option.some.injEq] at hother
      rw [← hother, SpanHandler.asks_role, List.exists_mem_cons_iff, List.forall_mem_cons]
      refine ⟨fun _ => ⟨hasks, fun _ => hpasses, ?_⟩, fun _ => .inl hplace⟩
      intro other hother hbefore
      have hlater := (h.among other hother).le
      omega
    | succ i =>
      -- the call itself lets the handlers further on know
      have hfurther : first + (i + 1) = first + 1 + i := by omega
      rw [hfurther, List.exists_mem_cons_iff, List.forall_mem_cons, or_iff_right (by omega),
        h.called i other hother]
      simp [hpasses]
  handed := by simp
  left := by
    refine List.isChain_cons.2 ⟨?_, h.left⟩
    intro next hnext
    rw [h.handed next hnext]
    exact hleft

end Pass

namespace HandlerChain

open SpanNotice (endings)

theorem handlesAbandoned_of_roles {chain other : HandlerChain}
    (h : chain.handlers.map SpanHandler.role = other.handlers.map SpanHandler.role) :
    chain.handlesAbandoned = other.handlesAbandoned := by
  have hany : ∀ handlers : List SpanHandler, handlers.any SpanHandler.handlesAbandoned =
      (handlers.map SpanHandler.role).any SpanHandler.handlesAbandoned := by
    intro handlers
    rw [List.any_map]
    exact congrArg handlers.any (funext fun handler => handler.handlesAbandoned_role.symm)
  unfold handlesAbandoned
  rw [hany, h, ← hany]

theorem endings_beginFrom (context : Snapshot) (parent : Option Snapshot) (place : Nat)
    (span : SpanData) (handlers : List SpanHandler) :
    endings (beginFrom context parent place span handlers).2 = [] := by
  induction handlers generalizing place span with
  | nil => rfl
  | cons handler rest ih =>
    unfold beginFrom
    dsimp only
    split
    . rfl
    . next changed _ => exact ih (place + 1) changed

theorem endings_begin (chain : HandlerChain) (context : Snapshot) (parent : Option Snapshot)
    (span : SpanData) : endings (chain.begin context parent span).2 = [] := by
  unfold begin
  split
  . rfl
  . exact endings_beginFrom context parent 0 span chain.handlers

theorem roles_finishFrom (context : Snapshot) (cause : Cause) (place : Nat) (span : SpanData)
    (clock : PlatformClock) (handlers : List SpanHandler) :
    (finishFrom context cause place span clock handlers).handlers.map SpanHandler.role =
      handlers.map SpanHandler.role := by
  induction handlers generalizing place span clock with
  | nil => rfl
  | cons handler rest ih =>
    unfold finishFrom
    dsimp only
    split
    . rw [List.map_cons, ih, List.map_cons]
    . split
      . rw [List.map_cons, ih, SpanHandler.role_finish, List.map_cons]
      . rw [List.map_cons, SpanHandler.role_finish, List.map_cons]

theorem roles_finish (chain : HandlerChain) (context : Snapshot) (cause : Cause)
    (span : SpanData) :
    (chain.finish context cause span).2.1.handlers.map SpanHandler.role =
      chain.handlers.map SpanHandler.role := by
  unfold finish
  split
  . rfl
  . exact roles_finishFrom context cause 0 span chain.clock chain.handlers

theorem noop_finish (chain : HandlerChain) (context : Snapshot) (cause : Cause) (span : SpanData) :
    (chain.finish context cause span).2.1.noop = chain.noop := by
  unfold finish
  split
  . rfl
  . rfl

theorem pass_finishFrom (context : Snapshot) (cause : Cause) (place : Nat) (span : SpanData)
    (clock : PlatformClock) (handlers : List SpanHandler) :
    Pass place (handlers.map SpanHandler.role) context cause span
      (endings (finishFrom context cause place span clock handlers).notices) := by
  induction handlers generalizing place span clock with
  | nil => exact .nil place context cause span
  | cons handler rest ih =>
    let call : HandlerCall := ⟨place, handler, .ending cause, context, span⟩
    have hplace : call.place = place := rfl
    have hoccasion : call.occasion = .ending cause := rfl
    unfold finishFrom
    dsimp only
    split
    . next hpassed =>
      have hasks : handler.role.asks cause = false := by
        rw [SpanHandler.asks_role]
        exact SpanHandler.asks_eq_false_iff.2 hpassed
      exact (ih (place + 1) span clock).skip hasks
    . next hcalled =>
      have hasks : handler.asks cause := by
        rw [← Bool.not_eq_false, SpanHandler.asks_eq_false_iff]
        exact hcalled
      rw [SpanHandler.continues_finish]
      split
      . next hpasses =>
        rw [List.cons_append, SpanNotice.endings_call hoccasion, SpanNotice.endings_append,
          SpanNotice.endings_logs, List.nil_append]
        exact (ih (place + 1) _ _).cons hplace hoccasion hasks hpasses ⟨clock, rfl⟩
      . next hstops =>
        rw [SpanNotice.endings_call hoccasion, SpanNotice.endings_logs]
        exact .singleton hplace hoccasion hasks (Bool.eq_false_iff.2 hstops) _

/--
The end of a span is one pass of the handlers, unless they are switched off.
-/
theorem pass_finish {chain : HandlerChain} (h : chain.noop = false) (context : Snapshot)
    (cause : Cause) (span : SpanData) :
    Pass 0 (chain.handlers.map SpanHandler.role) context cause span
      (endings (chain.finish context cause span).2.2) := by
  unfold finish
  rw [if_neg (Bool.eq_false_iff.1 h)]
  exact pass_finishFrom context cause 0 span chain.clock chain.handlers

theorem told_of_mem_finishFrom {context : Snapshot} {cause : Cause} {place : Nat}
    {span : SpanData} {clock : PlatformClock} {handlers : List SpanHandler} {call : HandlerCall}
    (h : .call call ∈ (finishFrom context cause place span clock handlers).notices) :
    call.context = context ∧ call.occasion = .ending cause := by
  induction handlers generalizing place span clock with
  | nil => simp [finishFrom] at h
  | cons handler rest ih =>
    unfold finishFrom at h
    dsimp only at h
    split at h
    . exact ih h
    . split at h
      . rw [List.cons_append, List.mem_cons, List.mem_append, List.mem_map] at h
        rcases h with heq | ⟨record, _, heq⟩ | hmem
        . rw [SpanNotice.call.inj heq]
          exact ⟨rfl, rfl⟩
        . cases heq
        . exact ih hmem
      . rw [List.mem_cons, List.mem_map] at h
        rcases h with heq | ⟨record, _, heq⟩
        . rw [SpanNotice.call.inj heq]
          exact ⟨rfl, rfl⟩
        . cases heq

theorem told_of_mem_finish {chain : HandlerChain} {context : Snapshot} {cause : Cause}
    {span : SpanData} {call : HandlerCall} (h : .call call ∈ (chain.finish context cause span).2.2) :
    call.context = context ∧ call.occasion = .ending cause := by
  unfold finish at h
  split at h
  . simp at h
  . exact told_of_mem_finishFrom h

theorem told_of_mem_endings_finish {chain : HandlerChain} {context : Snapshot} {cause : Cause}
    {span : SpanData} {call : HandlerCall}
    (h : call ∈ endings (chain.finish context cause span).2.2) :
    call.context = context ∧ call.occasion = .ending cause :=
  told_of_mem_finish (SpanNotice.mem_of_mem_endings h)

end HandlerChain

end RequestTracing
