import Mathlib
import RequestTracing.Proofs.Recorder.Faithful

/-!
This module contains the beginnings of spans as the handlers of a registry are told of them. Main
statement: when a span begins, each handler is called once, unless one before it kept the span from
those after it; apart from that handlers are told of ends alone, and of nothing while they are
switched off.
-/

namespace RequestTracing

namespace SpanNotice

def beginning? : SpanNotice → Option HandlerCall
  | log _ => none
  | call made =>
    match made.occasion with
    | .beginning _ => some made
    | .ending _ => none

def beginnings (notices : List SpanNotice) : List HandlerCall :=
  notices.filterMap beginning?

theorem beginnings_append (notices others : List SpanNotice) :
    beginnings (notices ++ others) = beginnings notices ++ beginnings others :=
  List.filterMap_append

end SpanNotice

open SpanNotice (beginnings endings)

def HandlerCall.refuses (call : HandlerCall) : Bool :=
  match call.occasion with
  | .beginning parent => !(call.handler.begin call.context parent call.span).1
  | .ending _ => false

/--
Holds for the calls of handlers with the given roles at the beginning of a span of the given key:
each one is called once, unless one before it refuses the span.
-/
structure Heralds (first : Nat) (roles : List SpanHandler) (key : SpanKey)
    (calls : List HandlerCall) : Prop where
  key : ∀ call ∈ calls, call.context.key = key
  among : ∀ call ∈ calls, call.Among first roles
  once : ∀ place, first ≤ place → place < first + roles.length →
    (calls.countP fun call => call.place = place) =
      if calls.any fun call => call.refuses && call.place < place then 0 else 1

namespace Heralds

variable {first : Nat} {roles : List SpanHandler} {call : HandlerCall} {calls : List HandlerCall}

theorem nil (first : Nat) (key : SpanKey) : Heralds first [] key [] where
  key := by simp
  among := by simp
  once := by
    intro place hle hlt
    rw [List.length_nil] at hlt
    omega

theorem singleton (hplace : call.place = first) (hrefuses : call.refuses) :
    Heralds first (call.handler.role :: roles) call.context.key [call] where
  key := by simp
  among := by
    rw [List.forall_mem_singleton]
    exact .head hplace
  once := by
    intro place hle _
    by_cases hfirst : first = place
    . simp [hplace, hfirst]
    . have hbefore : first < place := by omega
      simp [hplace, hrefuses, hfirst, hbefore]

theorem cons (h : Heralds (first + 1) roles call.context.key calls) (hplace : call.place = first)
    (hrefuses : call.refuses = false) :
    Heralds first (call.handler.role :: roles) call.context.key (call :: calls) where
  key := List.forall_mem_cons.2 ⟨rfl, h.key⟩
  among := List.forall_mem_cons.2 ⟨.head hplace, fun other hother => (h.among other hother).cons _⟩
  once := by
    intro place hle hlt
    rw [List.length_cons] at hlt
    rw [List.countP_cons, List.any_cons, hrefuses, Bool.false_and, Bool.false_or, hplace]
    by_cases hfirst : first = place
    . -- the handlers further on are no matter to this one
      have hcount : (calls.countP fun call => call.place = place) = 0 := by
        rw [List.countP_eq_zero]
        intro other hother
        have hlater := (h.among other hother).le
        simp only [decide_eq_true_eq]
        omega
      have hany : (calls.any fun call => call.refuses && call.place < place) = false := by
        rw [List.any_eq_false]
        intro other hother
        have hlater := (h.among other hother).le
        simp only [Bool.and_eq_true, decide_eq_true_eq]
        omega
      rw [hcount, hany]
      simp [hfirst]
    . rw [h.once place (by omega) (by omega)]
      simp [hfirst]

end Heralds

namespace HandlerChain

theorem heralds_beginFrom (context : Snapshot) (parent : Option Snapshot) (place : Nat)
    (span : SpanData) (handlers : List SpanHandler) :
    Heralds place (handlers.map SpanHandler.role) context.key
      (beginnings (beginFrom context parent place span handlers).2) := by
  induction handlers generalizing place span with
  | nil => exact .nil place context.key
  | cons handler rest ih =>
    let call : HandlerCall := ⟨place, handler, .beginning parent, context, span⟩
    unfold beginFrom
    dsimp only
    split
    . next changed hbegin =>
      have hrefuses : call.refuses := congrArg (fun answer : Bool × SpanData => !answer.1) hbegin
      have hplace : call.place = place := rfl
      exact .singleton hplace hrefuses
    . next changed hbegin =>
      have hrefuses : call.refuses = false :=
        congrArg (fun answer : Bool × SpanData => !answer.1) hbegin
      have hplace : call.place = place := rfl
      exact .cons (ih (place + 1) changed) hplace hrefuses

theorem heralds_begin {chain : HandlerChain} (h : chain.noop = false) (context : Snapshot)
    (parent : Option Snapshot) (span : SpanData) :
    Heralds 0 (chain.handlers.map SpanHandler.role) context.key
      (beginnings (chain.begin context parent span).2) := by
  unfold begin
  rw [if_neg (Bool.eq_false_iff.1 h)]
  exact heralds_beginFrom context parent 0 span chain.handlers

theorem begin_of_noop {chain : HandlerChain} (h : chain.noop) (context : Snapshot)
    (parent : Option Snapshot) (span : SpanData) : (chain.begin context parent span).2 = [] := by
  unfold begin
  rw [if_pos h]

/--
Holds for notices such as reports of a chain are: its handlers are told of ends, and of nothing
while they are switched off.
-/
def Reports (chain : HandlerChain) (notices : List SpanNotice) : Prop :=
  ∀ notice ∈ notices, chain.noop = false ∧ notice.beginning? = none ∧
    ∀ call ∈ notice.ending?, call.Among 0 (chain.handlers.map SpanHandler.role)

namespace Reports

variable {chain other : HandlerChain} {notices others : List SpanNotice}

theorem nil (chain : HandlerChain) : Reports chain [] := by
  simp [Reports]

theorem append (h : Reports chain notices) (hothers : Reports chain others) :
    Reports chain (notices ++ others) :=
  List.forall_mem_append.2 ⟨h, hothers⟩

theorem of_roles (h : Reports chain notices) (hnoop : other.noop = chain.noop)
    (hroles : other.handlers.map SpanHandler.role = chain.handlers.map SpanHandler.role) :
    Reports other notices := by
  unfold Reports
  rw [hnoop, hroles]
  exact h

theorem eq_nil (h : Reports chain notices) (hnoop : chain.noop) : notices = [] := by
  rw [List.eq_nil_iff_forall_not_mem]
  intro notice hnotice
  rw [(h notice hnotice).1] at hnoop
  cases hnoop

theorem beginnings_eq_nil (h : Reports chain notices) : beginnings notices = [] :=
  List.filterMap_eq_nil_iff.2 fun notice hnotice => (h notice hnotice).2.1

theorem among (h : Reports chain notices) {call : HandlerCall} (hcall : call ∈ endings notices) :
    call.Among 0 (chain.handlers.map SpanHandler.role) := by
  obtain ⟨notice, hnotice, hending⟩ := List.mem_filterMap.1 hcall
  exact (h notice hnotice).2.2 call hending

end Reports

theorem reports_finishFrom (context : Snapshot) (cause : Cause) (place : Nat) (span : SpanData)
    (clock : PlatformClock) (handlers : List SpanHandler) :
    ∀ notice ∈ (finishFrom context cause place span clock handlers).notices,
      notice.beginning? = none ∧
        ∀ call ∈ notice.ending?, call.Among place (handlers.map SpanHandler.role) := by
  induction handlers generalizing place span clock with
  | nil => simp [finishFrom]
  | cons handler rest ih =>
    rw [List.map_cons]
    have hlater : ∀ span clock, ∀ notice ∈
        (finishFrom context cause (place + 1) span clock rest).notices, notice.beginning? = none ∧
          ∀ call ∈ notice.ending?,
            call.Among place (handler.role :: rest.map SpanHandler.role) := by
      intro span clock notice hnotice
      obtain ⟨hnone, hamong⟩ := ih (place + 1) span clock notice hnotice
      exact ⟨hnone, fun call hcall => (hamong call hcall).cons handler.role⟩
    have hcalled : ∀ logs : List LogRecord,
        ∀ notice ∈ .call ⟨place, handler, .ending cause, context, span⟩ :: logs.map SpanNotice.log,
          notice.beginning? = none ∧ ∀ call ∈ notice.ending?,
            call.Among place (handler.role :: rest.map SpanHandler.role) := by
      intro logs
      rw [List.forall_mem_cons, List.forall_mem_map]
      refine ⟨⟨rfl, ?_⟩, ?_⟩
      . rintro _ ⟨⟩
        exact .head rfl
      . intro record _
        exact ⟨rfl, by simp [SpanNotice.ending?]⟩
    -- the handler is passed over, or it is called and those after it are called or not
    unfold finishFrom
    dsimp only
    split
    . exact hlater span clock
    . split
      . exact List.forall_mem_append.2 ⟨hcalled _, hlater _ _⟩
      . exact hcalled _

theorem reports_finish (chain : HandlerChain) (context : Snapshot) (cause : Cause)
    (span : SpanData) : Reports chain (chain.finish context cause span).2.2 := by
  unfold finish
  split
  . exact .nil chain
  . next hactive =>
    intro notice hnotice
    have htold := reports_finishFrom context cause 0 span chain.clock chain.handlers notice hnotice
    exact ⟨Bool.eq_false_iff.2 hactive, htold⟩

end HandlerChain

namespace Registry

open HandlerChain (Reports)

variable {registry other : Registry}

theorem Alike.reports (h : Alike other registry) {notices : List SpanNotice}
    (hreports : Reports other.chain notices) : Reports registry.chain notices :=
  hreports.of_roles h.noop.symm h.roles.symm

theorem reports_report (registry : Registry) (place : Nat) (context : Snapshot) (cause : Cause) :
    Reports registry.chain (registry.report place context cause).2 := by
  unfold report
  split
  . exact .nil registry.chain
  . next pending _ => exact registry.chain.reports_finish context cause pending.span

theorem reports_reportOrphan (registry : Registry) (place : Nat) :
    Reports registry.chain (registry.reportOrphan place).2 := by
  unfold reportOrphan
  split
  . exact .nil registry.chain
  . next pending _ =>
    split
    . exact .nil registry.chain
    . next hactive =>
      refine List.forall_mem_cons.2 ⟨⟨Bool.eq_false_iff.2 hactive, rfl, ?_⟩, ?_⟩
      . simp [SpanNotice.ending?]
      . exact registry.reports_report place pending.context .orphaned

theorem reports_reportOrphans (registry : Registry) (places : List Nat) :
    Reports registry.chain (registry.reportOrphans places).2 := by
  induction places generalizing registry with
  | nil => exact .nil registry.chain
  | cons place places ih =>
    have hlater := (registry.alike_reportOrphan place).reports (ih (registry.reportOrphan place).1)
    exact (registry.reports_reportOrphan place).append hlater

theorem reports_sweep (alive : Nat → Bool) (registry : Registry) :
    Reports registry.chain (registry.sweep alive).2 := by
  unfold sweep
  exact reports_reportOrphans _ _

theorem reports_depart (alive : Nat → Bool) (registry : Registry) (context : Snapshot)
    (cause : Cause) {prepare : Registry → Nat → Registry}
    (hprepare : ∀ registry place, Alike (prepare registry place) registry) :
    Reports registry.chain (registry.depart alive context cause prepare).2 := by
  have halike := alike_untrack_sweep alive registry context.key
  unfold depart
  rw [remove_eq]
  cases (registry.sweep alive).1.find? context.key with
  | none => exact registry.reports_sweep alive
  | some place =>
    apply (registry.reports_sweep alive).append
    exact ((hprepare _ place).trans halike).reports (reports_report _ place context cause)

theorem reports_abandon (alive : Nat → Bool) (registry : Registry) (context : Snapshot) :
    Reports registry.chain (registry.abandon alive context).2 := by
  unfold abandon
  split
  . exact reports_depart alive registry context .abandoned fun registry _ => Alike.refl registry
  . exact registry.reports_sweep alive

end Registry

def RegistryAction.switch? : RegistryAction → Option Bool
  | setNoop value => some value
  | _ => none

namespace RegistryStep

open HandlerChain (Reports)

theorem noop_after (step : RegistryStep) :
    step.after.registry.chain.noop =
      step.action.switch?.getD step.before.registry.chain.noop := by
  obtain ⟨⟨registry, alive⟩, action⟩ := step
  -- spans come and go without touching the switch
  cases action with
  | getOrCreate parent source context start =>
    have hsweep := registry.alike_sweep alive
    show (registry.getOrCreate alive parent source context start).2.1.chain.noop = _
    unfold Registry.getOrCreate
    dsimp only
    split
    . exact hsweep.noop
    . exact ((Registry.alike_clockFor (registry.sweep alive).1 parent context).trans hsweep).noop
  | get key => exact (registry.alike_sweep alive).noop
  | remove key => exact (registry.alike_untrack_sweep alive key).noop
  | finish context timestamp =>
    exact (registry.alike_depart alive context .finished (Registry.alike_stamp timestamp)).noop
  | flush context =>
    exact (registry.alike_depart alive context .flushed
      fun registry _ => Registry.Alike.refl registry).noop
  | abandon context => exact (registry.alike_abandon alive context).noop
  | sweep => exact (registry.alike_sweep alive).noop
  | record place f => rfl
  | setNoop value => rfl
  | hold alive => rfl

inductive Tells (step : RegistryStep) : Prop where
  | ends (hspans : step.after.registry.pendings.map PendingSpan.identity =
        step.before.registry.pendings.map PendingSpan.identity)
      (hreports : Reports step.before.registry.chain step.notices)
  | begins (chain : HandlerChain) (source : ContextInstance) (parent : Option Snapshot)
      (context : Snapshot) (span : SpanData) (reports : List SpanNotice)
      (hspans : step.after.registry.pendings.map PendingSpan.identity =
        step.before.registry.pendings.map PendingSpan.identity ++ [(source, context.withoutExtra)])
      (hnoop : chain.noop = step.before.registry.chain.noop)
      (hroles : chain.handlers.map SpanHandler.role =
        step.before.registry.chain.handlers.map SpanHandler.role)
      (hreports : Reports step.before.registry.chain reports)
      (hnotices : step.notices = reports ++ (chain.begin context parent span).2)

theorem tells (step : RegistryStep) : step.Tells := by
  obtain ⟨⟨registry, alive⟩, action⟩ := step
  cases action with
  | getOrCreate parent source context start =>
    let step : RegistryStep := ⟨⟨registry, alive⟩, .getOrCreate parent source context start⟩
    let swept := (registry.sweep alive).1
    have hsweep := registry.alike_sweep alive
    cases hfind : swept.find? context.key with
    | some place =>
      have hmade := Registry.getOrCreate_eq_sweep hfind parent source start
      have hafter : step.after.registry = swept := congrArg (·.2.1) hmade
      have hnotices : step.notices = (registry.sweep alive).2 := congrArg (·.2.2) hmade
      apply Tells.ends
      . exact (congrArg (·.pendings.map PendingSpan.identity) hafter).trans hsweep.spans
      . exact hnotices ▸ registry.reports_sweep alive
    | none =>
      have hmade := Registry.getOrCreate_eq_track hfind parent source start
      have halike := (Registry.alike_clockFor swept parent context).trans hsweep
      have hafter := congrArg (·.2.1.pendings.map PendingSpan.identity) hmade
      refine .begins (swept.clockFor parent context).2.chain source parent context _
        (registry.sweep alive).2 (hafter.trans ?_) halike.noop halike.roles
        (registry.reports_sweep alive) (congrArg (·.2.2) hmade)
      unfold Registry.track
      dsimp only
      rw [List.map_append, halike.spans]
      rfl
  -- the other actions sweep at most, and none of them adds a span
  | get key => exact .ends (registry.alike_sweep alive).spans (registry.reports_sweep alive)
  | remove key =>
    exact .ends (registry.alike_untrack_sweep alive key).spans (registry.reports_sweep alive)
  | finish context timestamp =>
    exact .ends (registry.alike_depart alive context .finished (Registry.alike_stamp timestamp)).spans
      (registry.reports_depart alive context .finished (Registry.alike_stamp timestamp))
  | flush context =>
    have hprepare := fun (registry : Registry) (_ : Nat) => Registry.Alike.refl registry
    exact .ends (registry.alike_depart alive context .flushed hprepare).spans
      (registry.reports_depart alive context .flushed hprepare)
  | abandon context =>
    exact .ends (registry.alike_abandon alive context).spans (registry.reports_abandon alive context)
  | sweep => exact .ends (registry.alike_sweep alive).spans (registry.reports_sweep alive)
  | record place f => exact .ends (registry.alike_edit place f).spans (.nil _)
  | setNoop value => exact .ends rfl (.nil _)
  | hold alive => exact .ends rfl (.nil _)

theorem notices_of_noop {step : RegistryStep} (h : step.before.registry.chain.noop) :
    step.notices = [] := by
  cases step.tells with
  | ends hspans hreports => exact hreports.eq_nil h
  | begins chain source parent context span reports hspans hnoop hroles hreports hnotices =>
    rw [hnotices, hreports.eq_nil h, HandlerChain.begin_of_noop (hnoop.trans h)]
    rfl

theorem among {step : RegistryStep} {call : HandlerCall} (hcall : call ∈ endings step.notices) :
    call.Among 0 (step.before.registry.chain.handlers.map SpanHandler.role) := by
  cases step.tells with
  | ends hspans hreports => exact hreports.among hcall
  | begins chain source parent context span reports hspans hnoop hroles hreports hnotices =>
    rw [hnotices, SpanNotice.endings_append, HandlerChain.endings_begin, List.append_nil] at hcall
    exact hreports.among hcall

end RegistryStep

/--
The invariant of registries: for each span that was ever created, the handlers were told of its
beginning.
-/
structure Registry.Begun (roles : List SpanHandler) (began : Nat → List HandlerCall)
    (registry : Registry) : Prop where
  sound : registry.Sound
  same : registry.chain.handlers.map SpanHandler.role = roles
  begun : ∀ place pending, registry.pendings[place]? = some pending →
    Heralds 0 roles pending.context.key (began place)
  unborn : ∀ place, registry.pendings.length ≤ place → began place = []

structure Registry.Heralded (roles : List SpanHandler) (began : Nat → List HandlerCall)
    (registry : Registry) : Prop extends registry.Begun roles began where
  active : registry.chain.noop = false

theorem Registry.Begun.of_alike {roles : List SpanHandler} {began : Nat → List HandlerCall}
    {registry other : Registry} (h : registry.Begun roles began)
    (halike : Registry.Alike other registry) (htracked : other.tracked = registry.tracked) :
    other.Begun roles began where
  sound := h.sound.of_sublist halike.spans (by rw [htracked])
  same := halike.roles.trans h.same
  begun := by
    intro place pending hpending
    obtain ⟨p, hp, hcontext⟩ := halike.symm.exists_pending hpending
    rw [← hcontext]
    exact h.begun place p hp
  unborn := by
    rw [halike.length_eq]
    exact h.unborn

theorem Registry.Heralded.of_alike {roles : List SpanHandler} {began : Nat → List HandlerCall}
    {registry other : Registry} (h : registry.Heralded roles began)
    (halike : Registry.Alike other registry) (htracked : other.tracked = registry.tracked) :
    other.Heralded roles began :=
  ⟨h.toBegun.of_alike halike htracked, halike.noop.trans h.active⟩

namespace RegistryStep

def beginningsFor (step : RegistryStep) (place : Nat) : List HandlerCall :=
  if place = step.before.registry.pendings.length then beginnings step.notices else []

theorem beginningsFor_of_length_le {step : RegistryStep} {place : Nat}
    (h : step.after.registry.pendings.length ≤ place) : step.beginningsFor place = [] := by
  unfold beginningsFor
  cases step.tells with
  | ends hspans hreports => rw [hreports.beginnings_eq_nil, ite_self]
  | begins chain source parent context span reports hspans hnoop hroles hreports hnotices =>
    have hgrown := Registry.length_of_spans_eq_append hspans
    rw [if_neg (by omega)]

theorem begun_after {step : RegistryStep} {roles : List SpanHandler}
    {began : Nat → List HandlerCall} (h : step.before.registry.Begun roles began)
    (hoff : step.before.registry.chain.noop →
      step.after.registry.pendings.map PendingSpan.identity =
        step.before.registry.pendings.map PendingSpan.identity) :
    step.after.registry.Begun roles fun place => began place ++ step.beginningsFor place := by
  refine ⟨sound_after h.sound, (roles_after h.sound).trans h.same, ?_, ?_⟩
  . intro place pending hpending
    unfold beginningsFor
    cases step.tells with
    | ends hspans hreports =>
      obtain ⟨p, hp, hcontext⟩ := Registry.exists_pending_of_spans hspans.symm hpending
      rw [hreports.beginnings_eq_nil, ite_self, List.append_nil, ← hcontext]
      exact h.begun place p hp
    | begins chain source parent context span reports hspans hnoop hroles hreports hnotices =>
      have hgrown := Registry.length_of_spans_eq_append hspans
      rcases Registry.pending_of_spans_eq_append hspans hpending with
        ⟨p, hp, hcontext⟩ | ⟨heq, hcontext⟩
      . have hlt := (List.getElem?_eq_some_iff.1 hp).1
        rw [if_neg hlt.ne, List.append_nil, ← hcontext]
        exact h.begun place p hp
      . -- this is the span that the step adds, of which nothing was told before
        have hactive : step.before.registry.chain.noop = false := by
          rw [Bool.eq_false_iff]
          intro hoffnow
          have hlength := congrArg List.length (hoff hoffnow)
          rw [List.length_map, List.length_map] at hlength
          omega
        have hbegin := HandlerChain.heralds_begin (hnoop.trans hactive) context parent span
        rw [hroles, h.same] at hbegin
        rw [if_pos heq, h.unborn place heq.ge, List.nil_append, hnotices,
          SpanNotice.beginnings_append, hreports.beginnings_eq_nil, List.nil_append, hcontext]
        exact hbegin
  . intro place hplace
    rw [h.unborn place ((length_le h.sound).trans hplace), beginningsFor_of_length_le hplace]
    rfl

theorem heralded_after {step : RegistryStep} {roles : List SpanHandler}
    {began : Nat → List HandlerCall} (h : step.before.registry.Heralded roles began)
    (hon : step.action.switch? ≠ some true) :
    step.after.registry.Heralded roles fun place => began place ++ step.beginningsFor place where
  toBegun := by
    apply begun_after h.toBegun
    intro hoff
    rw [h.active] at hoff
    cases hoff
  active := by
    rw [noop_after, h.active]
    cases hswitch : step.action.switch? with
    | none => rfl
    | some value => simpa [hswitch] using hon

end RegistryStep

end RequestTracing
