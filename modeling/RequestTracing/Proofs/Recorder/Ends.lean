import Mathlib
import RequestTracing.Proofs.Recorder.Beginnings
import RequestTracing.Proofs.Recorder.Orphans

/-!
This module contains the ends of spans as a registry makes them, and what a handler that encodes the
sampled ones gives out. Main statement: in each step it gives out the encodings of the spans that
end then, are sampled and are not abandoned, one for each and in order.
-/

namespace RequestTracing

open SpanNotice (endings)
open PlatformClock (Later)

structure SpanEnd where
  place : Nat
  context : Snapshot
  cause : Cause
  recorded : SpanData

def SpanEnd.isReported (always : Bool) (ended : SpanEnd) : Bool :=
  SpanHandler.reports always ended.context ended.cause

namespace Registry

def live? (alive : Nat → Bool) (registry : Registry) (key : SpanKey) : Option Nat :=
  (registry.tracked.filter fun entry => registry.isLive alive entry.2).lookup key

def orphanEnd? (registry : Registry) (place : Nat) : Option SpanEnd :=
  registry.pendings[place]?.map fun pending => ⟨place, pending.context, .orphaned, pending.span⟩

def orphanEnds (alive : Nat → Bool) (registry : Registry) : List SpanEnd :=
  ((registry.stale alive).map (·.2)).filterMap registry.orphanEnd?

def ownEnd? (alive : Nat → Bool) (registry : Registry) (context : Snapshot) (cause : Cause)
    (f : PendingSpan → SpanData) : Option SpanEnd := do
  let place ← registry.live? alive context.key
  let pending ← registry.pendings[place]?
  return ⟨place, context, cause, f pending⟩

def stamped (timestamp : Option UInt64) (pending : PendingSpan) : SpanData :=
  { pending.span with finish := (timestamp.filter (· ≠ 0)).getD pending.clock.now }

end Registry

def RegistryState.ends (state : RegistryState) : RegistryAction → List SpanEnd
  | .finish context timestamp =>
    state.registry.orphanEnds state.alive ++
      (state.registry.ownEnd? state.alive context .finished (Registry.stamped timestamp)).toList
  | .flush context =>
    state.registry.orphanEnds state.alive ++
      (state.registry.ownEnd? state.alive context .flushed PendingSpan.span).toList
  | .abandon context =>
    state.registry.orphanEnds state.alive ++
      (state.registry.ownEnd? state.alive context .abandoned PendingSpan.span).toList
  | .getOrCreate _ _ _ _ | .get _ | .remove _ | .sweep => state.registry.orphanEnds state.alive
  | .record _ _ | .setNoop _ | .hold _ => []

def RegistryAction.subject? : RegistryAction → Option Snapshot
  | finish context _ => some context
  | flush context => some context
  | abandon context => some context
  | _ => none

def RegistryStep.ends (step : RegistryStep) : List SpanEnd :=
  if step.before.registry.chain.noop then [] else step.before.ends step.action

def sunk (place : Nat) (notices : List SpanNotice) : List String :=
  (endings notices).flatMap fun call => if call.place = place then call.encoded else []

theorem sunk_append (place : Nat) (notices others : List SpanNotice) :
    sunk place (notices ++ others) = sunk place notices ++ sunk place others := by
  unfold sunk
  rw [SpanNotice.endings_append, List.flatMap_append]

theorem sunk_log (place : Nat) (record : LogRecord) (notices : List SpanNotice) :
    sunk place (.log record :: notices) = sunk place notices :=
  rfl

theorem sunk_logs (place : Nat) (records : List LogRecord) :
    sunk place (records.map SpanNotice.log) = [] := by
  induction records with
  | nil => rfl
  | cons record records ih => exact ih

theorem sunk_eq_nil {notices : List SpanNotice} (h : endings notices = []) (place : Nat) :
    sunk place notices = [] := by
  unfold sunk
  rw [h]
  rfl

theorem sunk_call_of_ne {place : Nat} {call : HandlerCall} (h : call.place ≠ place)
    (notices : List SpanNotice) : sunk place (.call call :: notices) = sunk place notices := by
  have hcall : sunk place [.call call] = [] := by
    unfold sunk
    rw [List.flatMap_eq_nil_iff]
    intro made hmade
    have hsame : made = call :=
      SpanNotice.call.inj (List.mem_singleton.1 (SpanNotice.mem_of_mem_endings hmade))
    rw [hsame, if_neg h]
  rw [← List.singleton_append, sunk_append, hcall]
  rfl

namespace SpanHandler

def Continues (handler : SpanHandler) : Prop :=
  ∀ context cause span clock, (handler.finish context cause span clock).continues = true

theorem continues_orphanTracker (template : SpanData) (source : FlushClock) (logs : Bool) :
    (orphanTracker template source logs).Continues := by
  intro context cause span clock
  rw [finish]
  split
  . rfl
  . rfl

theorem Continues.of_role {handler other : SpanHandler} (h : handler.Continues)
    (hrole : other.role = handler.role) : other.Continues := by
  intro context cause span clock
  rw [← (other.finish_role context cause span clock).2.2, hrole,
    (handler.finish_role context cause span clock).2.2]
  exact h context cause span clock

end SpanHandler

def handed (context : Snapshot) (cause : Cause) (span : SpanData) (clock : PlatformClock) :
    List SpanHandler → SpanData
  | [] => span
  | handler :: rest =>
    let left := handler.finish context cause span clock
    handed context cause left.span left.clock rest

/--
Holds for handlers of which one encodes, always or what is sampled, behind given others that let it
know of every end.
-/
structure Encodes (encoder : SpanEncoder) (always : Bool) (others handlers : List SpanHandler) :
    Prop where
  roles : ∃ name rest, handlers.map SpanHandler.role =
    (others ++ SpanHandler.encoding name encoder always :: rest).map SpanHandler.role
  continues : ∀ handler ∈ others, handler.Continues

theorem Encodes.of_roles {encoder : SpanEncoder} {always : Bool}
    {others handlers changed : List SpanHandler} (h : Encodes encoder always others handlers)
    (hroles : changed.map SpanHandler.role = handlers.map SpanHandler.role) :
    Encodes encoder always others changed where
  roles := by
    rw [hroles]
    exact h.roles
  continues := h.continues

namespace HandlerChain

variable {encoder : SpanEncoder} {always : Bool} {others : List SpanHandler} {context : Snapshot}
  {cause : Cause}

theorem sunk_finishFrom_of_lt {place first : Nat} (h : place < first) (span : SpanData)
    (clock : PlatformClock) (handlers : List SpanHandler) :
    sunk place (finishFrom context cause first span clock handlers).notices = [] := by
  unfold sunk
  rw [List.flatMap_eq_nil_iff]
  intro call hcall
  obtain ⟨notice, hnotice, hending⟩ := List.mem_filterMap.1 hcall
  have hreports := reports_finishFrom context cause first span clock handlers notice hnotice
  have hle := (hreports.2 call hending).le
  rw [if_neg (by omega)]

theorem notices_finishFrom_of_skipped {handler : SpanHandler}
    (h : cause = .abandoned ∧ ¬handler.handlesAbandoned) (place : Nat) (span : SpanData)
    (clock : PlatformClock) (rest : List SpanHandler) :
    (finishFrom context cause place span clock (handler :: rest)).notices =
      (finishFrom context cause (place + 1) span clock rest).notices := by
  rw [finishFrom, if_pos h]

theorem notices_finishFrom_of_called {handler : SpanHandler}
    (h : ¬(cause = .abandoned ∧ ¬handler.handlesAbandoned)) (hcontinues : handler.Continues)
    (place : Nat) (span : SpanData) (clock : PlatformClock) (rest : List SpanHandler) :
    let left := handler.finish context cause span clock
    (finishFrom context cause place span clock (handler :: rest)).notices =
      .call ⟨place, handler, .ending cause, context, span⟩ ::
        (left.logs.map .log ++
          (finishFrom context cause (place + 1) left.span left.clock rest).notices) := by
  intro left
  rw [finishFrom, if_neg h]
  dsimp only
  rw [if_pos (hcontinues context cause span clock)]
  rfl

theorem sunk_finishFrom_encoding (context : Snapshot) (cause : Cause) (name : String)
    (place : Nat) (span : SpanData) (clock : PlatformClock) (rest : List SpanHandler) :
    sunk place (finishFrom context cause place span clock
        (.encoding name encoder always :: rest)).notices =
      if SpanHandler.reports always context cause then [encoder.encode span] else [] := by
  have hlater : sunk place (finishFrom context cause (place + 1) span clock rest).notices = [] :=
    sunk_finishFrom_of_lt (Nat.lt_succ_self place) span clock rest
  by_cases hskipped : cause = .abandoned ∧
      ¬(SpanHandler.encoding name encoder always).handlesAbandoned
  . rw [notices_finishFrom_of_skipped hskipped, hlater, SpanHandler.reports, hskipped.1]
    rfl
  . have hcontinues : (SpanHandler.encoding name encoder always).Continues := fun _ _ _ _ => rfl
    let call : HandlerCall :=
      ⟨place, .encoding name encoder always, .ending cause, context, span⟩
    have hcall : sunk place [.call call] = call.encoded := by
      simp [sunk, endings, SpanNotice.ending?, call]
    rw [notices_finishFrom_of_called hskipped hcontinues, ← List.singleton_append, sunk_append,
      sunk_append, hcall, sunk_logs, List.nil_append]
    have hsame : (SpanHandler.encoding name encoder always).finish context cause span clock =
        ⟨true, .encoding name encoder always, span, clock, []⟩ := rfl
    rw [hsame, hlater, List.append_nil]
    rfl

theorem sunk_finishFrom {name : String} {handlers rest : List SpanHandler}
    (hcontinues : ∀ handler ∈ others, handler.Continues)
    (hroles : handlers.map SpanHandler.role =
      (others ++ SpanHandler.encoding name encoder always :: rest).map SpanHandler.role)
    (context : Snapshot) (cause : Cause) (first : Nat) (span : SpanData) (clock : PlatformClock) :
    sunk (first + others.length) (finishFrom context cause first span clock handlers).notices =
      if SpanHandler.reports always context cause then
        [encoder.encode (handed context cause span clock others)]
      else [] := by
  -- by induction on the handlers before the encoding one, each of which hands on what it made
  induction others generalizing handlers first span clock with
  | nil =>
    rw [List.nil_append, List.map_cons] at hroles
    obtain ⟨handler, later, rfl, hrole, _⟩ := List.map_eq_cons_iff.1 hroles
    have hencoding : handler = .encoding name encoder always := by
      cases handler with
      | encoding known used always => exact hrole
      | _ => cases hrole
    rw [hencoding]
    exact sunk_finishFrom_encoding context cause name first span clock later
  | cons other others ih =>
    rw [List.cons_append, List.map_cons] at hroles
    obtain ⟨handler, later, rfl, hrole, hlater⟩ := List.map_eq_cons_iff.1 hroles
    rw [List.forall_mem_cons] at hcontinues
    have hplace : first + (other :: others).length = first + 1 + others.length := by
      rw [List.length_cons]
      omega
    rw [hplace]
    -- handlers are passed over for abandoned spans only, and the encoding one reports none of those
    by_cases hskipped : cause = .abandoned ∧ ¬handler.handlesAbandoned
    . have hreports : SpanHandler.reports always context cause = false := by
        rw [SpanHandler.reports, hskipped.1]
        rfl
      have hrest := ih hcontinues.2 hlater (first + 1) span clock
      rw [hreports, if_neg Bool.false_ne_true] at hrest ⊢
      rw [notices_finishFrom_of_skipped hskipped, hrest]
    . let call : HandlerCall := ⟨first, handler, .ending cause, context, span⟩
      have hne : call.place ≠ first + 1 + others.length := by
        show first ≠ _
        omega
      obtain ⟨hspan, hclock, _⟩ := handler.finish_role context cause span clock
      obtain ⟨hspan', hclock', _⟩ := other.finish_role context cause span clock
      rw [notices_finishFrom_of_called hskipped (hcontinues.1.of_role hrole), sunk_call_of_ne hne,
        sunk_append, sunk_logs, List.nil_append, ih hcontinues.2 hlater, handed, ← hspan', ← hclock',
        ← hrole, hspan, hclock]

theorem sunk_finish {chain : HandlerChain} (h : Encodes encoder always others chain.handlers)
    (hon : chain.noop = false) (span : SpanData) :
    sunk others.length (chain.finish context cause span).2.2 =
      if SpanHandler.reports always context cause then
        [encoder.encode (handed context cause span chain.clock others)]
      else [] := by
  obtain ⟨⟨name, rest, hroles⟩, hcontinues⟩ := h
  have hsunk := sunk_finishFrom hcontinues hroles context cause 0 span chain.clock
  rw [Nat.zero_add] at hsunk
  unfold finish
  rw [hon]
  exact hsunk

theorem later_finish (chain : HandlerChain) (context : Snapshot) (cause : Cause) (span : SpanData) :
    Later (chain.finish context cause span).2.1.clock chain.clock := by
  unfold finish
  split
  . exact .refl chain.clock
  . exact later_finishFrom context cause 0 span chain.clock chain.handlers

end HandlerChain

/--
Holds for texts that encode the ends which are to be reported, one each and in order, as the given
handlers hand them on with a clock of the given readings.
-/
def Receives (encoder : SpanEncoder) (always : Bool) (others : List SpanHandler)
    (reading : Nat → UInt64) (ends : List SpanEnd) (texts : List String) : Prop :=
  List.Forall₂ (fun ended text => ∃ taken, text =
      encoder.encode (handed ended.context ended.cause ended.recorded ⟨reading, taken⟩ others))
    (ends.filter (SpanEnd.isReported always)) texts

namespace Receives

variable {encoder : SpanEncoder} {always : Bool} {others : List SpanHandler}
  {reading : Nat → UInt64} {ends later : List SpanEnd} {texts more : List String}

theorem nil (encoder : SpanEncoder) (always : Bool) (others : List SpanHandler)
    (reading : Nat → UInt64) : Receives encoder always others reading [] [] :=
  List.Forall₂.nil

theorem append (h : Receives encoder always others reading ends texts)
    (hmore : Receives encoder always others reading later more) :
    Receives encoder always others reading (ends ++ later) (texts ++ more) := by
  unfold Receives
  rw [List.filter_append]
  exact List.rel_append h hmore

theorem single {ended : SpanEnd} {clock : PlatformClock} (hclock : clock.reading = reading)
    (htexts : texts = if SpanHandler.reports always ended.context ended.cause then
      [encoder.encode (handed ended.context ended.cause ended.recorded clock others)] else []) :
    Receives encoder always others reading [ended] texts := by
  unfold Receives SpanEnd.isReported
  rw [htexts, List.filter_singleton, ← hclock]
  cases SpanHandler.reports always ended.context ended.cause with
  | false => exact .nil
  | true => exact .cons ⟨clock.taken, rfl⟩ .nil

theorem of_abandoned (encoder : SpanEncoder) (always : Bool) (others : List SpanHandler)
    (reading : Nat → UInt64) (h : ∀ ended ∈ ends, ended.cause = .abandoned) :
    Receives encoder always others reading ends [] := by
  have hnone : ends.filter (SpanEnd.isReported always) = [] := by
    rw [List.filter_eq_nil_iff]
    intro ended hended
    unfold SpanEnd.isReported SpanHandler.reports
    simp [h ended hended]
  unfold Receives
  rw [hnone]
  exact .nil

end Receives

structure Registry.Feeds (encoder : SpanEncoder) (always : Bool) (others : List SpanHandler)
    (reading : Nat → UInt64) (registry : Registry) : Prop where
  encodes : Encodes encoder always others registry.chain.handlers
  reading : registry.chain.clock.reading = reading

namespace Registry

variable {encoder : SpanEncoder} {always : Bool} {others : List SpanHandler}
  {reading : Nat → UInt64} {registry other : Registry} {alive : Nat → Bool}

theorem Feeds.of_later (h : registry.Feeds encoder always others reading)
    (hroles : other.chain.handlers.map SpanHandler.role =
      registry.chain.handlers.map SpanHandler.role)
    (hlater : Later other.chain.clock registry.chain.clock) :
    other.Feeds encoder always others reading :=
  ⟨h.encodes.of_roles hroles, hlater.reading.trans h.reading⟩

theorem later_report (registry : Registry) (place : Nat) (context : Snapshot) (cause : Cause) :
    Later (registry.report place context cause).1.chain.clock registry.chain.clock := by
  unfold report
  split
  . exact .refl _
  . next pending _ => exact registry.chain.later_finish context cause pending.span

theorem later_reportOrphan (registry : Registry) (place : Nat) :
    Later (registry.reportOrphan place).1.chain.clock registry.chain.clock := by
  unfold reportOrphan
  split
  . exact .refl _
  . next pending _ =>
    split
    . exact .refl _
    . exact registry.later_report place pending.context .orphaned

theorem later_reportOrphans (registry : Registry) (places : List Nat) :
    Later (registry.reportOrphans places).1.chain.clock registry.chain.clock := by
  induction places generalizing registry with
  | nil => exact .refl _
  | cons place places ih => exact (ih _).trans (registry.later_reportOrphan place)

theorem later_sweep (alive : Nat → Bool) (registry : Registry) :
    Later (registry.sweep alive).1.chain.clock registry.chain.clock := by
  unfold sweep
  exact later_reportOrphans _ _

theorem later_depart (alive : Nat → Bool) (registry : Registry) (context : Snapshot)
    (cause : Cause) {prepare : Registry → Nat → Registry}
    (hchain : ∀ registry place, (prepare registry place).chain = registry.chain) :
    Later (registry.depart alive context cause prepare).1.chain.clock registry.chain.clock := by
  unfold depart
  rw [remove_eq]
  cases (registry.sweep alive).1.find? context.key with
  | none => exact registry.later_sweep alive
  | some place =>
    have hreport := later_report (prepare ((registry.sweep alive).1.untrack context.key) place)
      place context cause
    rw [hchain] at hreport
    exact hreport.trans (registry.later_sweep alive)

theorem later_abandon (alive : Nat → Bool) (registry : Registry) (context : Snapshot) :
    Later (registry.abandon alive context).1.chain.clock registry.chain.clock := by
  unfold abandon
  split
  . exact later_depart alive registry context .abandoned fun _ _ => rfl
  . exact registry.later_sweep alive

theorem later_getOrCreate (alive : Nat → Bool) (registry : Registry) (parent : Option Snapshot)
    (source : ContextInstance) (context : Snapshot) (start : Bool) :
    Later (registry.getOrCreate alive parent source context start).2.1.chain.clock
      registry.chain.clock := by
  have hsweep := registry.later_sweep alive
  cases hfind : (registry.sweep alive).1.find? context.key with
  | some place =>
    rw [getOrCreate_eq_sweep hfind]
    exact hsweep
  | none =>
    have hmade := getOrCreate_eq_track hfind parent source start
    dsimp only at hmade
    rw [hmade]
    show Later ((registry.sweep alive).1.clockFor parent context).2.chain.clock _
    unfold clockFor
    split
    . exact hsweep
    . exact (PlatformClock.later_read _).trans hsweep

theorem receives_report (h : registry.Feeds encoder always others reading)
    (hon : registry.chain.noop = false) {place : Nat} {pending : PendingSpan}
    (hpending : registry.pendings[place]? = some pending) (context : Snapshot) (cause : Cause) :
    Receives encoder always others reading [⟨place, context, cause, pending.span⟩]
      (sunk others.length (registry.report place context cause).2) := by
  apply Receives.single h.reading
  unfold report
  rw [hpending]
  exact HandlerChain.sunk_finish h.encodes hon pending.span

theorem receives_reportOrphan (h : registry.Feeds encoder always others reading)
    (hon : registry.chain.noop = false) (place : Nat) :
    Receives encoder always others reading (registry.orphanEnd? place).toList
      (sunk others.length (registry.reportOrphan place).2) := by
  unfold orphanEnd? reportOrphan
  cases hpending : registry.pendings[place]? with
  | none => exact .nil ..
  | some pending =>
    dsimp only
    rw [if_neg (Bool.eq_false_iff.1 hon), sunk_log]
    exact receives_report h hon hpending pending.context .orphaned

theorem receives_reportOrphans (h : registry.Feeds encoder always others reading)
    (hon : registry.chain.noop = false) {places : List Nat} (hnodup : places.Nodup) :
    Receives encoder always others reading (places.filterMap registry.orphanEnd?)
      (sunk others.length (registry.reportOrphans places).2) := by
  induction places generalizing registry with
  | nil => exact .nil ..
  | cons place places ih =>
    rw [List.nodup_cons] at hnodup
    have halike := registry.alike_reportOrphan place
    have hfed := h.of_later halike.roles (registry.later_reportOrphan place)
    have hlater := ih hfed (halike.noop.trans hon) hnodup.2
    -- the report on this place leaves the spans at the other ones as they were
    have hsame : places.filterMap (registry.reportOrphan place).1.orphanEnd? =
        places.filterMap registry.orphanEnd? := by
      apply List.filterMap_congr
      intro other hother
      have hne : other ≠ place := by
        rintro rfl
        exact hnodup.1 hother
      unfold orphanEnd?
      rw [pendings_reportOrphan_of_ne hne]
    have hcons : (place :: places).filterMap registry.orphanEnd? =
        (registry.orphanEnd? place).toList ++ places.filterMap registry.orphanEnd? := by
      rw [List.filterMap_cons]
      cases registry.orphanEnd? place with
      | none => rfl
      | some ended => rfl
    rw [hsame] at hlater
    unfold reportOrphans
    dsimp only
    rw [hcons, sunk_append]
    exact (receives_reportOrphan h hon place).append hlater

theorem receives_sweep (h : registry.Feeds encoder always others reading)
    (hon : registry.chain.noop = false) (hsound : registry.Sound) (alive : Nat → Bool) :
    Receives encoder always others reading (registry.orphanEnds alive)
      (sunk others.length (registry.sweep alive).2) := by
  let live : Registry :=
    { registry with tracked := registry.tracked.filter fun entry => registry.isLive alive entry.2 }
  have hlive : live.Feeds encoder always others reading := ⟨h.encodes, h.reading⟩
  exact receives_reportOrphans hlive hon (hsound.nodup_stale alive)

theorem receives_getOrCreate (h : registry.Feeds encoder always others reading)
    (hon : registry.chain.noop = false) (hsound : registry.Sound) (alive : Nat → Bool)
    (parent : Option Snapshot) (source : ContextInstance) (context : Snapshot) (start : Bool) :
    Receives encoder always others reading (registry.orphanEnds alive)
      (sunk others.length (registry.getOrCreate alive parent source context start).2.2) := by
  cases hfind : (registry.sweep alive).1.find? context.key with
  | some place =>
    rw [getOrCreate_eq_sweep hfind parent source start]
    exact receives_sweep h hon hsound alive
  | none =>
    have hsilent : sunk others.length
        ((registry.sweep alive).1.track parent source context start).2.2 = [] :=
      sunk_eq_nil (HandlerChain.endings_begin _ _ _ _) others.length
    rw [getOrCreate_eq_track hfind parent source start]
    dsimp only
    rw [sunk_append, hsilent, List.append_nil]
    exact receives_sweep h hon hsound alive

theorem pendings_sweep_of_isLive {place : Nat} (h : registry.isLive alive place) :
    (registry.sweep alive).1.pendings[place]? = registry.pendings[place]? := by
  have hnot : place ∉ (registry.stale alive).map (·.2) := by
    intro hmem
    obtain ⟨entry, hentry, rfl⟩ := List.mem_map.1 hmem
    exact (mem_stale.1 hentry).2 h
  unfold sweep
  exact pendings_reportOrphans_of_not_mem hnot

theorem find?_sweep (alive : Nat → Bool) (registry : Registry) (key : SpanKey) :
    (registry.sweep alive).1.find? key = registry.live? alive key := by
  unfold find? live?
  rw [tracked_sweep]

theorem eq_of_mem_ownEnd? {context : Snapshot} {cause : Cause} {f : PendingSpan → SpanData}
    {ended : SpanEnd} (h : registry.ownEnd? alive context cause f = some ended) :
    ended.context = context ∧ ended.cause = cause := by
  unfold ownEnd? at h
  obtain ⟨place, _, h⟩ := Option.bind_eq_some_iff.1 h
  obtain ⟨pending, _, h⟩ := Option.bind_eq_some_iff.1 h
  rw [← Option.some.inj h]
  exact ⟨rfl, rfl⟩

theorem pendings_map_span (registry : Registry) (place : Nat) :
    registry.pendings[place]? =
      registry.pendings[place]?.map fun pending => { pending with span := pending.span } := by
  cases registry.pendings[place]? with
  | none => rfl
  | some pending => rfl

theorem pendings_stamp (timestamp : Option UInt64) (registry : Registry) (place : Nat) :
    (registry.stamp timestamp place).pendings[place]? =
      registry.pendings[place]?.map fun pending =>
        { pending with span := stamped timestamp pending } := by
  unfold stamp edit now
  cases hpending : registry.pendings[place]? with
  | none => simp [hpending]
  | some pending => simp [hpending, stamped]

theorem receives_depart (h : registry.Feeds encoder always others reading)
    (hon : registry.chain.noop = false) (hsound : registry.Sound) (alive : Nat → Bool)
    (context : Snapshot) (cause : Cause) {prepare : Registry → Nat → Registry}
    {f : PendingSpan → SpanData}
    (hchain : ∀ registry place, (prepare registry place).chain = registry.chain)
    (hspan : ∀ registry place, (prepare registry place).pendings[place]? =
      registry.pendings[place]?.map fun pending => { pending with span := f pending }) :
    Receives encoder always others reading
      (registry.orphanEnds alive ++ (registry.ownEnd? alive context cause f).toList)
      (sunk others.length (registry.depart alive context cause prepare).2) := by
  have hsweep := receives_sweep h hon hsound alive
  unfold depart ownEnd?
  rw [remove_eq, find?_sweep]
  cases hfind : registry.live? alive context.key with
  | none =>
    dsimp only [Option.bind_eq_bind, Option.bind_none, Option.toList_none]
    rw [List.append_nil]
    exact hsweep
  | some place =>
    let prepared := prepare ((registry.sweep alive).1.untrack context.key) place
    have hentry := Lookup.mem_of_lookup_eq_some hfind
    obtain ⟨hmem, hlive⟩ := List.mem_filter.1 hentry
    obtain ⟨pending, hpending, _⟩ := hsound.pending _ hmem
    -- the sweep has left a live span as it was
    have hprepared : prepared.pendings[place]? = some { pending with span := f pending } := by
      have hswept : ((registry.sweep alive).1.untrack context.key).pendings[place]? = some pending :=
        (pendings_sweep_of_isLive hlive).trans hpending
      rw [hspan, hswept]
      rfl
    have halike := registry.alike_sweep alive
    have hfed : prepared.Feeds encoder always others reading := by
      apply h.of_later
      . rw [hchain]
        exact halike.roles
      . rw [hchain]
        exact registry.later_sweep alive
    have hpreparedon : prepared.chain.noop = false := by
      rw [hchain]
      exact halike.noop.trans hon
    dsimp only at hpending
    dsimp only [Option.bind_eq_bind, Option.bind_some]
    rw [hpending, sunk_append]
    exact hsweep.append (receives_report hfed hpreparedon hprepared context cause)

theorem receives_abandon (h : registry.Feeds encoder always others reading)
    (hon : registry.chain.noop = false) (hsound : registry.Sound) (alive : Nat → Bool)
    (context : Snapshot) :
    Receives encoder always others reading
      (registry.orphanEnds alive ++
        (registry.ownEnd? alive context .abandoned PendingSpan.span).toList)
      (sunk others.length (registry.abandon alive context).2) := by
  unfold abandon
  split
  . exact receives_depart h hon hsound alive context .abandoned (fun _ _ => rfl) pendings_map_span
  . have hown : ∀ ended ∈ (registry.ownEnd? alive context .abandoned PendingSpan.span).toList,
        ended.cause = .abandoned := by
      intro ended hended
      exact (eq_of_mem_ownEnd? (Option.mem_toList.1 hended)).2
    rw [← List.append_nil (sunk _ _)]
    exact (receives_sweep h hon hsound alive).append
      (.of_abandoned encoder always others reading hown)

end Registry

namespace RegistryStep

variable {encoder : SpanEncoder} {always : Bool} {others : List SpanHandler}
  {reading : Nat → UInt64}

theorem later_after (step : RegistryStep) :
    Later step.after.registry.chain.clock step.before.registry.chain.clock := by
  obtain ⟨⟨registry, alive⟩, action⟩ := step
  cases action with
  | getOrCreate parent source context start =>
    exact registry.later_getOrCreate alive parent source context start
  | get key => exact registry.later_sweep alive
  | remove key => exact registry.later_sweep alive
  | finish context timestamp =>
    exact registry.later_depart alive context .finished fun _ _ => rfl
  | flush context => exact registry.later_depart alive context .flushed fun _ _ => rfl
  | abandon context => exact registry.later_abandon alive context
  | sweep => exact registry.later_sweep alive
  | record place f => exact .refl _
  | setNoop value => exact .refl _
  | hold alive => exact .refl _

theorem feeds_after {step : RegistryStep}
    (h : step.before.registry.Feeds encoder always others reading)
    (hsound : step.before.registry.Sound) :
    step.after.registry.Feeds encoder always others reading :=
  h.of_later (roles_after hsound) step.later_after

theorem context_of_mem_ends {step : RegistryStep} {ended : SpanEnd} (h : ended ∈ step.ends) :
    (∃ pending ∈ step.before.registry.pendings, ended.context = pending.context) ∨
      step.action.subject? = some ended.context := by
  obtain ⟨⟨registry, alive⟩, action⟩ := step
  have horphan : ended ∈ registry.orphanEnds alive →
      ∃ pending ∈ registry.pendings, ended.context = pending.context := by
    intro horphan
    obtain ⟨place, _, hended⟩ := List.mem_filterMap.1 horphan
    obtain ⟨pending, hpending, rfl⟩ := Option.map_eq_some_iff.1 hended
    exact ⟨pending, List.mem_of_getElem? hpending, rfl⟩
  have hown : ∀ context cause f, ended ∈ (registry.ownEnd? alive context cause f).toList →
      some context = some ended.context := by
    intro context cause f hended
    rw [(Registry.eq_of_mem_ownEnd? (Option.mem_toList.1 hended)).1]
  unfold ends at h
  split at h
  . cases h
  . cases action with
    | finish context timestamp => exact (List.mem_append.1 h).imp horphan (hown context _ _)
    | flush context => exact (List.mem_append.1 h).imp horphan (hown context _ _)
    | abandon context => exact (List.mem_append.1 h).imp horphan (hown context _ _)
    | record place f => cases h
    | setNoop value => cases h
    | hold alive => cases h
    | _ => exact .inl (horphan h)

theorem receives {step : RegistryStep}
    (h : step.before.registry.Feeds encoder always others reading)
    (hsound : step.before.registry.Sound) :
    Receives encoder always others reading step.ends (sunk others.length step.notices) := by
  unfold ends
  by_cases hoff : step.before.registry.chain.noop
  . rw [if_pos hoff, notices_of_noop hoff]
    exact .nil ..
  rw [if_neg hoff]
  obtain ⟨⟨registry, alive⟩, action⟩ := step
  have hon : registry.chain.noop = false := Bool.eq_false_iff.2 hoff
  have hsweep := Registry.receives_sweep h hon hsound alive
  -- whatever is not an end gives out the orphans of its sweep, if it sweeps at all
  cases action with
  | getOrCreate parent source context start =>
    exact Registry.receives_getOrCreate h hon hsound alive parent source context start
  | get key => exact hsweep
  | remove key => exact hsweep
  | finish context timestamp =>
    exact Registry.receives_depart h hon hsound alive context .finished (fun _ _ => rfl)
      (Registry.pendings_stamp timestamp)
  | flush context =>
    exact Registry.receives_depart h hon hsound alive context .flushed (fun _ _ => rfl)
      Registry.pendings_map_span
  | abandon context =>
    exact Registry.receives_abandon h hon hsound alive context
  | sweep => exact hsweep
  | record place f => exact .nil ..
  | setNoop value => exact .nil ..
  | hold alive => exact .nil ..

end RegistryStep

end RequestTracing
