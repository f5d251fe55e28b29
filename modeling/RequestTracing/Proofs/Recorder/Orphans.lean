import Mathlib
import RequestTracing.Proofs.Recorder.Faithful

/-!
This module contains what the operations of a registry do about orphans, where the first handler is
the one that marks them. Main statement: an operation first reports each tracked span whose instance
is gone, under the context that the span was created for but without extra state, and marks it where
it differs from the defaults of that context; then it does what it would do if there were none.
-/

namespace RequestTracing

open SpanNotice (endings)

namespace PlatformClock

structure Later (later clock : PlatformClock) : Prop where
  reading : later.reading = clock.reading
  taken : clock.taken ≤ later.taken

variable {clock later last : PlatformClock}

namespace Later

theorem refl (clock : PlatformClock) : Later clock clock :=
  ⟨rfl, Nat.le_refl _⟩

theorem trans (h : Later last later) (h' : Later later clock) : Later last clock :=
  ⟨h.reading.trans h'.reading, Nat.le_trans h'.taken h.taken⟩

end Later

theorem later_read (clock : PlatformClock) : Later clock.read.2 clock :=
  ⟨rfl, Nat.le_succ _⟩

end PlatformClock

open PlatformClock (Later)

def FlushClock.Shows (platform : PlatformClock) (time : UInt64) : FlushClock → Prop
  | .platform => ∃ n, platform.taken ≤ n ∧ time = platform.reading n
  | .fixed known => time = known

/--
What a tracker of orphans makes of a span: one that differs from the defaults of its context gains
an annotation, if it is not for a time of zero, and any other stays as it is.
-/
structure Marked (template : SpanData) (context : Snapshot) (time : UInt64)
    (span marked : SpanData) : Prop where
  same : span.same (.ofContext context template) → marked = span
  differs : ¬span.same (.ofContext context template) → time ≠ 0 →
    marked = { span with annotations := span.annotations ++ [(time, "brave.flush")] }

def orphanRecords (template : SpanData) (logs : Bool) (context : Snapshot) (span : SpanData) :
    List LogRecord :=
  if logs && !span.same (.ofContext context template) then [SpanHandler.orphanNote context] else []

/--
Holds for the notices about the orphan at a place: the handlers are told under its context without
extra state, the tracker about the span as it was recorded, and those after it about the marked one.
-/
def OrphanPass (source : FlushClock) (logs : Bool) (rest : List SpanHandler)
    (before after : Registry) (place : Nat) (notices : List SpanNotice) : Prop :=
  ∃ (pending : PendingSpan) (time : UInt64) (marked : SpanData) (clock : PlatformClock)
      (others : List SpanHandler),
    let context : Snapshot := pending.source.context.withoutExtra
    let records := orphanRecords before.template logs context pending.span
    let outcome := HandlerChain.finishFrom context .orphaned 1 marked clock others
    before.pendings[place]? = some pending ∧
    source.Shows before.chain.clock time ∧
    Marked before.template context time pending.span marked ∧
    others.map SpanHandler.role = rest.map SpanHandler.role ∧
    notices = .log (Registry.orphanNote context) ::
      .call ⟨0, .orphanTracker before.template source logs, .ending .orphaned, context,
        pending.span⟩ :: (records.map .log ++ outcome.notices) ∧
    after.pendings[place]? = some { pending with span := outcome.span }

theorem FlushClock.Shows.of_later {source : FlushClock} {clock later : PlatformClock}
    {time : UInt64} (h : source.Shows later time) (hlater : Later later clock) :
    source.Shows clock time := by
  cases source with
  | platform =>
    obtain ⟨n, hn, htime⟩ := h
    exact ⟨n, Nat.le_trans hlater.taken hn, by rw [htime, hlater.reading]⟩
  | fixed known => exact h

theorem FlushClock.shows_flushTime (platform : PlatformClock) (source : FlushClock) :
    source.Shows platform (SpanHandler.flushTime platform source).1 := by
  cases source with
  | platform => exact ⟨platform.taken, Nat.le_refl _, rfl⟩
  | fixed time => rfl

namespace OrphanPass

variable {source : FlushClock} {logs : Bool} {rest others : List SpanHandler}
  {before after registry : Registry} {place : Nat} {notices : List SpanNotice}

theorem of_after (h : OrphanPass source logs rest before after place notices)
    (hpending : registry.pendings[place]? = after.pendings[place]?) :
    OrphanPass source logs rest before registry place notices := by
  unfold OrphanPass
  rw [hpending]
  exact h

theorem of_before (h : OrphanPass source logs others before after place notices)
    (hpending : before.pendings[place]? = registry.pendings[place]?)
    (htemplate : before.template = registry.template)
    (hlater : Later before.chain.clock registry.chain.clock)
    (hroles : others.map SpanHandler.role = rest.map SpanHandler.role) :
    OrphanPass source logs rest registry after place notices := by
  obtain ⟨pending, time, marked, clock, chained, hplace, hshows, hmarked, hsame, hnotices,
    hafter⟩ := h
  rw [htemplate] at hmarked hnotices
  exact ⟨pending, time, marked, clock, chained, hpending ▸ hplace, hshows.of_later hlater, hmarked,
    hsame.trans hroles, hnotices, hafter⟩

end OrphanPass

namespace SpanHandler

theorem later_finish (context : Snapshot) (cause : Cause) (span : SpanData) (clock : PlatformClock)
    (handler : SpanHandler) : Later (handler.finish context cause span clock).clock clock := by
  cases handler with
  | orphanTracker template source logs =>
    rw [finish]
    split
    . exact .refl clock
    . cases source with
      | platform => exact clock.later_read
      | fixed time => exact .refl clock
  | _ => exact .refl clock

theorem finish_orphanTracker (context : Snapshot) (span : SpanData) (clock : PlatformClock)
    (template : SpanData) (source : FlushClock) (logs : Bool) :
    ∃ marked later,
      (orphanTracker template source logs).finish context .orphaned span clock =
        ⟨true, orphanTracker template source logs, marked, later,
          orphanRecords template logs context span⟩ ∧
      Marked template context (flushTime clock source).1 span marked := by
  rw [finish, orphanRecords]
  by_cases hsame : span.same (.ofContext context template)
  . exact ⟨span, clock, by simp [hsame], fun _ => rfl, fun hdiffers => absurd hsame hdiffers⟩
  . refine ⟨span.annotate (flushTime clock source).1 flushNote, (flushTime clock source).2,
      by simp [hsame], fun h => absurd h hsame, ?_⟩
    intro _ htime
    simp [SpanData.annotate, htime, flushNote]

end SpanHandler

namespace HandlerChain

theorem later_finishFrom (context : Snapshot) (cause : Cause) (place : Nat) (span : SpanData)
    (clock : PlatformClock) (handlers : List SpanHandler) :
    Later (finishFrom context cause place span clock handlers).clock clock := by
  induction handlers generalizing place span clock with
  | nil => exact .refl clock
  | cons handler rest ih =>
    have hfinish := handler.later_finish context cause span clock
    unfold finishFrom
    dsimp only
    split
    . exact ih _ _ _
    . split
      . exact (ih _ _ _).trans hfinish
      . exact hfinish

theorem finishFrom_of_continues {context : Snapshot} {cause : Cause} {span marked : SpanData}
    {clock later : PlatformClock} {handler left : SpanHandler} {records : List LogRecord}
    (hfinish : handler.finish context cause span clock = ⟨true, left, marked, later, records⟩)
    (hcause : cause ≠ .abandoned) (place : Nat) (rest : List SpanHandler) :
    let outcome := finishFrom context cause (place + 1) marked later rest
    finishFrom context cause place span clock (handler :: rest) =
      ⟨left :: outcome.handlers, outcome.span, outcome.clock,
        .call ⟨place, handler, .ending cause, context, span⟩ ::
          (records.map .log ++ outcome.notices)⟩ := by
  rw [finishFrom, if_neg (fun h => hcause h.1)]
  simp only [hfinish, if_true]
  rfl

end HandlerChain

namespace Registry

/--
Holds for registries that report, with the tracker of orphans as the first handler, which knows what
the spans of the registry start with.
-/
structure Headed (registry : Registry) (source : FlushClock) (logs : Bool)
    (rest : List SpanHandler) : Prop where
  on : registry.chain.noop = false
  handlers : registry.chain.handlers = .orphanTracker registry.template source logs :: rest

variable {registry : Registry} {source : FlushClock} {logs : Bool} {rest : List SpanHandler}

theorem reportOrphan_eq {place : Nat} {pending : PendingSpan}
    (hpending : registry.pendings[place]? = some pending) (hon : registry.chain.noop = false) :
    let told := HandlerChain.finishFrom pending.context .orphaned 0 pending.span
      registry.chain.clock registry.chain.handlers
    registry.reportOrphan place =
      (Registry.edit { registry with chain := ⟨told.handlers, registry.chain.noop, told.clock⟩ }
          place fun _ => told.span,
        .log (orphanNote pending.context) :: told.notices) := by
  unfold reportOrphan report HandlerChain.finish
  simp only [hpending, hon]
  rfl

theorem Headed.reportOrphan (h : Headed registry source logs rest) {place : Nat}
    {pending : PendingSpan} (hpending : registry.pendings[place]? = some pending)
    (hcontext : pending.context = pending.source.context.withoutExtra) :
    let after := (registry.reportOrphan place).1
    OrphanPass source logs rest registry after place (registry.reportOrphan place).2 ∧
      (∃ others, others.map SpanHandler.role = rest.map SpanHandler.role ∧
        Headed after source logs others) ∧
      after.template = registry.template ∧ Later after.chain.clock registry.chain.clock := by
  obtain ⟨marked, later, hfinish, hmarked⟩ := SpanHandler.finish_orphanTracker
    pending.context pending.span registry.chain.clock registry.template source logs
  have htold := HandlerChain.finishFrom_of_continues hfinish (by simp) 0 rest
  have hlater := HandlerChain.later_finishFrom pending.context .orphaned 0 pending.span
    registry.chain.clock registry.chain.handlers
  rw [reportOrphan_eq hpending h.on]
  rw [h.handlers, htold] at hlater ⊢
  have hroles := HandlerChain.roles_finishFrom pending.context .orphaned 1 marked later rest
  have hshows := source.shows_flushTime registry.chain.clock
  refine ⟨⟨pending, _, marked, later, rest, hpending, hshows, ?_, rfl, ?_, ?_⟩,
    ⟨_, hroles, h.on, rfl⟩, rfl, hlater⟩
  . rwa [← hcontext]
  . rw [← hcontext]
  . unfold edit
    simp [hpending, hcontext]

theorem pendings_reportOrphan_of_ne {place other : Nat} (h : other ≠ place) :
    (registry.reportOrphan place).1.pendings[other]? = registry.pendings[other]? := by
  unfold reportOrphan
  split
  . rfl
  . next pending hpending =>
    split
    . rfl
    . unfold report edit
      simp [hpending, h.symm]

theorem pendings_reportOrphans_of_not_mem {places : List Nat} {other : Nat} (h : other ∉ places) :
    (registry.reportOrphans places).1.pendings[other]? = registry.pendings[other]? := by
  induction places generalizing registry with
  | nil => rfl
  | cons place places ih =>
    rw [List.mem_cons, not_or] at h
    exact (ih h.2).trans (pendings_reportOrphan_of_ne h.1)

theorem Headed.reportOrphans (h : Headed registry source logs rest) {places : List Nat}
    (hnodup : places.Nodup)
    (hcontexts : ∀ place ∈ places, ∃ pending, registry.pendings[place]? = some pending ∧
      pending.context = pending.source.context.withoutExtra) :
    ∃ passes, (registry.reportOrphans places).2 = passes.flatten ∧
      List.Forall₂ (OrphanPass source logs rest registry (registry.reportOrphans places).1) places
        passes := by
  induction places generalizing registry rest with
  | nil => exact ⟨[], rfl, .nil⟩
  | cons place places ih =>
    have ⟨hnot, hnodup⟩ := List.nodup_cons.1 hnodup
    have ⟨pending, hpending, hcontext⟩ := hcontexts place (List.mem_cons_self ..)
    have ⟨hpass, ⟨others, hroles, hheaded⟩, htemplate, hlater⟩ := h.reportOrphan hpending hcontext
    have hsame : ∀ other ∈ places, (registry.reportOrphan place).1.pendings[other]? =
        registry.pendings[other]? := by
      intro other hother
      apply pendings_reportOrphan_of_ne
      rintro rfl
      exact hnot hother
    -- the later passes find other handlers and another clock, but the spans of this registry
    have ⟨passes, hnotices, hpasses⟩ := ih hheaded hnodup (by
      intro other hother
      rw [hsame other hother]
      exact hcontexts other (List.mem_cons_of_mem place hother))
    refine ⟨(registry.reportOrphan place).2 :: passes, ?_, .cons ?_ ?_⟩
    . rw [List.flatten_cons, ← hnotices]
      rfl
    . exact hpass.of_after (pendings_reportOrphans_of_not_mem hnot)
    . apply ((List.forall₂_and_left _ _).2 ⟨hsame, hpasses⟩).imp
      intro other notices hpass
      exact hpass.2.of_before hpass.1 htemplate hlater hroles

/--
What becomes of the orphans of a registry, which are reported in some order, and of its other
entries.
-/
structure Reclaims (alive : Nat → Bool) (source : FlushClock) (logs : Bool)
    (rest : List SpanHandler) (registry swept : Registry) (orphans : List (SpanKey × Nat))
    (passes : List (List SpanNotice)) : Prop where
  gone : orphans.Perm (registry.tracked.filter fun entry => !registry.isLive alive entry.2)
  reported : List.Forall₂ (fun entry => OrphanPass source logs rest registry swept entry.2) orphans
    passes
  tracked : swept.tracked = registry.tracked.filter fun entry => registry.isLive alive entry.2
  untouched : ∀ entry ∈ swept.tracked, swept.pendings[entry.2]? = registry.pendings[entry.2]?

theorem Faithful.reclaims (h : Faithful registry) (hheaded : Headed registry source logs rest)
    (alive : Nat → Bool) :
    ∃ orphans passes,
      Reclaims alive source logs rest registry (registry.sweep alive).1 orphans passes ∧
      (registry.sweep alive).2 = passes.flatten := by
  -- orphans are reported to a registry from which they were all taken before
  let live : Registry :=
    { registry with tracked := registry.tracked.filter fun entry => registry.isLive alive entry.2 }
  have hlive : Headed live source logs rest := ⟨hheaded.on, hheaded.handlers⟩
  have hcontexts : ∀ place ∈ (registry.stale alive).map (·.2), ∃ pending,
      live.pendings[place]? = some pending ∧
      pending.context = pending.source.context.withoutExtra := by
    intro place hplace
    obtain ⟨entry, hentry, rfl⟩ := List.mem_map.1 hplace
    have ⟨pending, hpending, _⟩ := h.pending entry (mem_stale.1 hentry).1
    exact ⟨pending, hpending, h.context_eq hpending⟩
  have ⟨passes, hnotices, hpasses⟩ := hlive.reportOrphans (h.nodup_stale alive) hcontexts
  refine ⟨registry.stale alive, passes, ⟨?_, ?_, tracked_sweep alive registry, ?_⟩, hnotices⟩
  . exact List.mergeSort_perm _ _
  . rwa [List.forall₂_map_left_iff] at hpasses
  . intro entry hentry
    rw [tracked_sweep] at hentry
    have hstays := (List.mem_filter.1 hentry).2
    have hnot : entry.2 ∉ (registry.stale alive).map (·.2) := by
      intro hmem
      obtain ⟨orphan, horphan, hplace⟩ := List.mem_map.1 hmem
      rw [← hplace] at hstays
      exact (mem_stale.1 horphan).2 hstays
    show (live.reportOrphans _).1.pendings[entry.2]? = live.pendings[entry.2]?
    exact pendings_reportOrphans_of_not_mem hnot

theorem Alike.isLive_eq {other : Registry} (h : Alike registry other) (alive : Nat → Bool)
    (place : Nat) : registry.isLive alive place = other.isLive alive place := by
  have hlive : ∀ registry : Registry, registry.isLive alive place =
      (registry.pendings[place]?.map PendingSpan.identity).elim false
        fun identity => alive identity.1.number := by
    intro registry
    unfold isLive
    cases registry.pendings[place]? with
    | none => rfl
    | some pending => rfl
  rw [hlive, hlive, h.identity_eq]

def Settled (alive : Nat → Bool) (registry : Registry) : Prop :=
  registry.sweep alive = (registry, [])

theorem settled_of_isLive {alive : Nat → Bool}
    (h : ∀ entry ∈ registry.tracked, registry.isLive alive entry.2) :
    Settled alive registry := by
  have htracked : registry.tracked.filter (fun entry => registry.isLive alive entry.2) =
      registry.tracked := List.filter_eq_self.2 h
  have hstale : registry.stale alive = [] := by
    rw [List.eq_nil_iff_forall_not_mem]
    intro entry hentry
    have ⟨hmem, hgone⟩ := mem_stale.1 hentry
    exact hgone (h entry hmem)
  unfold Settled sweep
  rw [htracked, hstale]
  rfl

theorem settled_sweep (alive : Nat → Bool) (registry : Registry) :
    Settled alive (registry.sweep alive).1 := by
  apply settled_of_isLive
  intro entry hentry
  rw [tracked_sweep] at hentry
  rw [(alike_sweep alive registry).isLive_eq]
  exact (List.mem_filter.1 hentry).2

theorem depart_eq_of_sweep (alive : Nat → Bool) (registry : Registry) (context : Snapshot)
    (cause : Cause) (prepare : Registry → Nat → Registry) :
    let own := (registry.sweep alive).1.depart alive context cause prepare
    registry.depart alive context cause prepare = (own.1, (registry.sweep alive).2 ++ own.2) := by
  have hsettled : (registry.sweep alive).1.sweep alive = ((registry.sweep alive).1, []) :=
    registry.settled_sweep alive
  unfold depart
  rw [remove_eq, remove_eq, hsettled]
  cases (registry.sweep alive).1.find? context.key with
  | none => simp
  | some place => simp

namespace Settled

variable {alive : Nat → Bool} {call : HandlerCall}

theorem occasion_depart (h : Settled alive registry) {context : Snapshot} {cause : Cause}
    {prepare : Registry → Nat → Registry}
    (hcall : call ∈ endings (registry.depart alive context cause prepare).2) :
    call.occasion = .ending cause := by
  unfold depart at hcall
  rw [remove_eq, h] at hcall
  cases hfind : registry.find? context.key with
  | none =>
    rw [hfind] at hcall
    simp [endings] at hcall
  | some place =>
    rw [hfind] at hcall
    exact (told_of_mem_endings_report hcall).2

theorem endings_getOrCreate (h : Settled alive registry) (parent : Option Snapshot)
    (origin : ContextInstance) (context : Snapshot) (start : Bool) :
    endings (registry.getOrCreate alive parent origin context start).2.2 = [] := by
  unfold getOrCreate
  rw [h]
  dsimp only
  split
  . rfl
  . exact HandlerChain.endings_begin _ _ _ _

end Settled

end Registry

def RegistryAction.Operates : RegistryAction → Prop
  | record _ _ => False
  | setNoop _ => False
  | hold _ => False
  | _ => True

namespace RegistryState

variable {registry : Registry} {alive : Nat → Bool} {action : RegistryAction}

theorem step_eq_of_sweep (h : action.Operates) :
    let own := (RegistryState.mk (registry.sweep alive).1 alive).step action
    (RegistryState.mk registry alive).step action = (own.1, (registry.sweep alive).2 ++ own.2) := by
  -- both sides sweep first, and a second sweep finds nothing
  have hsettled : (registry.sweep alive).1.sweep alive = ((registry.sweep alive).1, []) :=
    registry.settled_sweep alive
  cases action with
  | getOrCreate parent source context start =>
    simp only [step, Registry.getOrCreate, hsettled]
    cases (registry.sweep alive).1.find? context.key with
    | none => simp
    | some place => simp
  | get key => simp [step, Registry.get, hsettled]
  | remove key => simp [step, Registry.remove_eq, hsettled]
  | finish context timestamp =>
    simp only [step, Registry.finish]
    rw [registry.depart_eq_of_sweep]
  | flush context =>
    simp only [step, Registry.flush]
    rw [registry.depart_eq_of_sweep]
  | abandon context =>
    have hoptedIn := HandlerChain.handlesAbandoned_of_roles (registry.alike_sweep alive).roles
    simp only [step, Registry.abandon, hoptedIn]
    split
    . rw [registry.depart_eq_of_sweep]
    . simp [Registry.remove_eq, hsettled]
  | sweep => simp [step, hsettled]
  | _ => exact h.elim

theorem occasion_of_settled (h : registry.Settled alive) {call : HandlerCall}
    (hcall : call ∈ endings ((RegistryState.mk registry alive).step action).2) :
    call.occasion ≠ .ending .orphaned := by
  -- the sweep that each operation begins with finds nothing to reclaim
  cases action with
  | getOrCreate parent source context start =>
    have hnone := h.endings_getOrCreate parent source context start
    rw [step, hnone] at hcall
    simp at hcall
  | finish context timestamp => simp [h.occasion_depart hcall]
  | flush context => simp [h.occasion_depart hcall]
  | abandon context =>
    simp only [step, Registry.abandon] at hcall
    split at hcall
    . simp [h.occasion_depart hcall]
    . rw [Registry.remove_eq, h] at hcall
      simp [endings] at hcall
  | get key =>
    simp only [step, Registry.get] at hcall
    rw [h] at hcall
    simp [endings] at hcall
  | remove key =>
    simp only [step, Registry.remove_eq] at hcall
    rw [h] at hcall
    simp [endings] at hcall
  | sweep =>
    simp only [step] at hcall
    rw [h] at hcall
    simp [endings] at hcall
  | _ => simp [step, endings] at hcall

end RegistryState

end RequestTracing
