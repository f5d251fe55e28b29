import Mathlib
import RequestTracing.Proofs.Recorder.Faithful

/-!
This module contains the clocks of spans. Main statement: as long as children stay in the local
trace of a tracked parent or open one of their own, the tracked spans of one local trace have one
clock, and the order in which a registry is searched for it does not matter.
-/

namespace RequestTracing

structure TraceContext.SharesRoot (a b : Snapshot) : Prop where
  traceId : a.traceId = b.traceId
  localRootId : a.localRootId = b.localRootId
  isSome : a.localRootId.isSome

namespace TraceContext.SharesRoot

variable {a b c : Snapshot}

theorem symm (h : SharesRoot a b) : SharesRoot b a :=
  ⟨h.traceId.symm, h.localRootId.symm, by rw [← h.localRootId]; apply h.isSome⟩

theorem trans (h : SharesRoot a b) (h' : SharesRoot b c) : SharesRoot a c :=
  ⟨h.traceId.trans h'.traceId, h.localRootId.trans h'.localRootId, h.isSome⟩

end TraceContext.SharesRoot

open TraceContext (SharesRoot)

instance (a b : Snapshot) : Decidable (SharesRoot a b) :=
  decidable_of_iff (a.traceId = b.traceId ∧ a.localRootId = b.localRootId ∧ a.localRootId.isSome)
    ⟨fun h => ⟨h.1, h.2.1, h.2.2⟩, fun h => ⟨h.traceId, h.localRootId, h.isSome⟩⟩

namespace Registry

variable {registry other : Registry} {alive : Nat → Bool}

def timings (registry : Registry) : List (Snapshot × TickClock) :=
  registry.pendings.map fun pending => (pending.context, pending.clock)

def Synchronous (registry : Registry) : Prop :=
  ∀ entry ∈ registry.tracked, ∀ other ∈ registry.tracked, ∀ p q,
    registry.pendings[entry.2]? = some p → registry.pendings[other.2]? = some q →
    SharesRoot p.context q.context → p.clock = q.clock

theorem getElem?_timings_eq_some {place : Nat} {context : Snapshot} {clock : TickClock} :
    registry.timings[place]? = some (context, clock) ↔
      ∃ pending, registry.pendings[place]? = some pending ∧ pending.context = context ∧
        pending.clock = clock := by
  unfold timings
  simp [List.getElem?_map, Option.map_eq_some_iff]

theorem exists_timed (h : registry.timings = other.timings) {place : Nat} {pending : PendingSpan}
    (hpending : registry.pendings[place]? = some pending) :
    ∃ p, other.pendings[place]? = some p ∧ p.context = pending.context ∧
      p.clock = pending.clock := by
  apply getElem?_timings_eq_some.1
  rw [← h]
  apply getElem?_timings_eq_some.2
  exact ⟨pending, hpending, rfl, rfl⟩

theorem Synchronous.of_timings (h : registry.Synchronous) (htimings : other.timings = registry.timings)
    (htracked : other.tracked ⊆ registry.tracked) : other.Synchronous := by
  intro entry hentry entry' hentry' p q hp hq hroot
  apply (exists_timed htimings hp).elim
  intro p' ⟨hp', hcontextP, hclockP⟩
  apply (exists_timed htimings hq).elim
  intro q' ⟨hq', hcontextQ, hclockQ⟩
  rw [← hclockP, ← hclockQ]
  apply h entry (htracked hentry) entry' (htracked hentry') p' q' hp' hq'
  rwa [hcontextP, hcontextQ]

theorem timings_edit (registry : Registry) (place : Nat) (f : SpanData → SpanData) :
    (registry.edit place f).timings = registry.timings := by
  apply map_pendings_edit
  intro _ _
  rfl

theorem timings_report (registry : Registry) (place : Nat) (context : Snapshot) (cause : Cause) :
    (registry.report place context cause).1.timings = registry.timings := by
  unfold report
  split
  . rfl
  . dsimp only
    rw [timings_edit]
    rfl

theorem timings_reportOrphan (registry : Registry) (place : Nat) :
    (registry.reportOrphan place).1.timings = registry.timings := by
  unfold reportOrphan
  split
  . rfl
  . split
    . rfl
    . apply timings_report

theorem timings_reportOrphans (registry : Registry) (places : List Nat) :
    (registry.reportOrphans places).1.timings = registry.timings := by
  induction places generalizing registry with
  | nil => rfl
  | cons place places ih =>
    apply (ih _).trans
    apply timings_reportOrphan

theorem timings_sweep (alive : Nat → Bool) (registry : Registry) :
    (registry.sweep alive).1.timings = registry.timings := by
  unfold sweep
  apply timings_reportOrphans

theorem timings_depart (alive : Nat → Bool) (registry : Registry) (context : Snapshot)
    (cause : Cause) {prepare : Registry → Nat → Registry}
    (hprepare : ∀ registry place, (prepare registry place).timings = registry.timings) :
    (registry.depart alive context cause prepare).1.timings = registry.timings := by
  unfold depart
  rw [remove_eq]
  cases (registry.sweep alive).1.find? context.key with
  | none => apply timings_sweep
  | some place =>
    dsimp only
    rw [timings_report, hprepare]
    apply timings_sweep

theorem timings_abandon (alive : Nat → Bool) (registry : Registry) (context : Snapshot) :
    (registry.abandon alive context).1.timings = registry.timings := by
  unfold abandon
  split
  . apply timings_depart
    intro _ _
    rfl
  . apply timings_sweep

def parentSpan? (registry : Registry) (parent : Option Snapshot) : Option PendingSpan := do
  let place ← registry.find? (← parent).key
  registry.pendings[place]?

def entryClock? (registry : Registry) (context : Snapshot) (entry : SpanKey × Nat) :
    Option TickClock := do
  let root ← context.localRootId
  let pending ← registry.pendings[entry.2]?
  if entry.1.traceId = context.traceId ∧ pending.context.localRootId = some root then
    some pending.clock
  else
    none

theorem sharedClock?_eq (registry : Registry) (parent : Option Snapshot) (context : Snapshot) :
    registry.sharedClock? parent context =
      ((registry.parentSpan? parent).map PendingSpan.clock <|>
        registry.tracked.findSome? (registry.entryClock? context)) := by
  unfold sharedClock? parentSpan? entryClock?
  dsimp only
  congr 1
  . cases parent with
    | none => rfl
    | some known =>
      dsimp only [Option.bind_eq_bind, Option.bind_some]
      cases registry.find? known.key with
      | none => rfl
      | some place =>
        rw [Option.bind_some, Option.bind_some]
        cases registry.pendings[place]? <;> rfl
  . funext _
    cases context.localRootId with
    | none =>
      dsimp only [Option.bind_eq_bind, Option.bind_none]
      rw [List.findSome?_eq_none_iff.2 fun _ _ => rfl]
    | some root => rfl

theorem Sound.parentSpan?_eq_some (h : registry.Sound) {parent : Option Snapshot}
    {pending : PendingSpan} (hparent : registry.parentSpan? parent = some pending) :
    ∃ entry ∈ registry.tracked, registry.pendings[entry.2]? = some pending := by
  unfold parentSpan? at hparent
  rw [Option.bind_eq_bind, Option.bind_eq_some_iff] at hparent
  rcases hparent with ⟨known, _, hparent⟩
  rw [Option.bind_eq_bind, Option.bind_eq_some_iff] at hparent
  rcases hparent with ⟨place, hfind, hpending⟩
  exact ⟨(known.key, place), h.find?_eq_some_iff.1 hfind, hpending⟩

theorem entryClock?_eq_some_iff (h : registry.Sound) {context : Snapshot} {clock : TickClock}
    {entry : SpanKey × Nat} (hentry : entry ∈ registry.tracked) :
    registry.entryClock? context entry = some clock ↔
      ∃ pending, registry.pendings[entry.2]? = some pending ∧
        SharesRoot pending.context context ∧ pending.clock = clock := by
  unfold entryClock?
  constructor
  . intro hclock
    rw [Option.bind_eq_bind, Option.bind_eq_some_iff] at hclock
    rcases hclock with ⟨root, hroot, hclock⟩
    rw [Option.bind_eq_bind, Option.bind_eq_some_iff] at hclock
    rcases hclock with ⟨pending, hpending, hclock⟩
    split at hclock
    . next hsame =>
      have htrace := congrArg SpanKey.traceId (h.key_eq hentry hpending)
      refine ⟨pending, hpending, ⟨htrace.trans hsame.1, hsame.2.trans hroot.symm, ?_⟩,
        Option.some.inj hclock⟩
      rw [hsame.2]
      rfl
    . cases hclock
  -- that the roots agree includes that there is one
  . rintro ⟨pending, hpending, hshares, hclock⟩
    have htrace := congrArg SpanKey.traceId (h.key_eq hentry hpending)
    have hpresent := hshares.symm.isSome
    rw [Option.isSome_iff_exists] at hpresent
    rcases hpresent with ⟨root, hroot⟩
    have hsame : entry.1.traceId = context.traceId ∧ pending.context.localRootId = some root :=
      ⟨htrace.symm.trans hshares.traceId, hshares.localRootId.trans hroot⟩
    rw [hroot, hpending]
    dsimp only [Option.bind_eq_bind, Option.bind_some]
    rw [if_pos hsame, hclock]

theorem findSome?_entryClock?_eq_some_iff (h : registry.Sound) (hsync : registry.Synchronous)
    {context : Snapshot} {clock : TickClock} :
    registry.tracked.findSome? (registry.entryClock? context) = some clock ↔
      ∃ entry ∈ registry.tracked, ∃ pending, registry.pendings[entry.2]? = some pending ∧
        SharesRoot pending.context context ∧ pending.clock = clock := by
  constructor
  . intro hfind
    rcases List.exists_of_findSome?_eq_some hfind with ⟨entry, hentry, hclock⟩
    exact ⟨entry, hentry, (entryClock?_eq_some_iff h hentry).1 hclock⟩
  . rintro ⟨entry, hentry, hpending⟩
    have hclock := (entryClock?_eq_some_iff h hentry).2 hpending
    cases hfind : registry.tracked.findSome? (registry.entryClock? context) with
    | none =>
      rw [List.findSome?_eq_none_iff] at hfind
      rw [hfind entry hentry] at hclock
      cases hclock
    | some found =>
      -- the search may stop at another span of the local trace, which has the same clock
      rcases List.exists_of_findSome?_eq_some hfind with ⟨other, hother, hfound⟩
      rcases (entryClock?_eq_some_iff h hother).1 hfound with ⟨q, hq, hsharesQ, hclockQ⟩
      rcases hpending with ⟨p, hp, hsharesP, hclockP⟩
      have hsame := hsync entry hentry other hother p q hp hq (hsharesP.trans hsharesQ.symm)
      rw [← hclockP, hsame, hclockQ]

theorem Sound.reorder (h : registry.Sound) {order : List (SpanKey × Nat)}
    (horder : order.Perm registry.tracked) : Sound { registry with tracked := order } where
  keys := (horder.map _).nodup_iff.2 h.keys
  places := (horder.map _).nodup_iff.2 h.places
  pending entry hentry := h.pending entry (horder.subset hentry)

theorem clockFor_reorder (h : registry.Sound) (hsync : registry.Synchronous)
    {order : List (SpanKey × Nat)} (horder : order.Perm registry.tracked)
    (parent : Option Snapshot) (context : Snapshot) :
    (clockFor { registry with tracked := order } parent context).1 =
      (registry.clockFor parent context).1 := by
  have hsound := h.reorder horder
  have hsyncOrder : Synchronous { registry with tracked := order } :=
    hsync.of_timings rfl horder.subset
  -- keys are unique, so a look-up by key gives the same entry in any order
  have hfind : ∀ key, find? { registry with tracked := order } key = registry.find? key := by
    intro key
    apply Option.ext
    intro place
    rw [hsound.find?_eq_some_iff, h.find?_eq_some_iff]
    exact horder.mem_iff
  have hparent : parentSpan? { registry with tracked := order } parent =
      registry.parentSpan? parent := by
    unfold parentSpan?
    simp only [hfind]
  have hroot : order.findSome? (entryClock? { registry with tracked := order } context) =
      registry.tracked.findSome? (registry.entryClock? context) := by
    apply Option.ext
    intro clock
    rw [findSome?_entryClock?_eq_some_iff h hsync]
    apply (findSome?_entryClock?_eq_some_iff hsound hsyncOrder).trans
    simp only [horder.mem_iff]
  have hshared : sharedClock? { registry with tracked := order } parent context =
      registry.sharedClock? parent context := by
    rw [sharedClock?_eq, sharedClock?_eq, hparent, hroot]
  unfold clockFor
  rw [hshared]
  cases registry.sharedClock? parent context with
  | none => rfl
  | some clock => rfl

def Joins (registry : Registry) (context : Snapshot) : Prop :=
  ∃ entry ∈ registry.tracked, ∃ pending ∈ registry.pendings[entry.2]?,
    SharesRoot pending.context context

/--
Holds for the context of a new span that is in the local trace of its parent, should that be
tracked, or else in one that no tracked span is in.
-/
def Coordinated (registry : Registry) (parent : Option Snapshot) (context : Snapshot) : Prop :=
  ∀ pending ∈ registry.parentSpan? parent,
    (context.traceId = pending.context.traceId ∧
      context.localRootId = pending.context.localRootId) ∨ ¬registry.Joins context

instance (registry : Registry) (context : Snapshot) : Decidable (registry.Joins context) :=
  inferInstanceAs (Decidable (∃ entry ∈ registry.tracked,
    ∃ pending ∈ registry.pendings[entry.2]?, SharesRoot pending.context context))

instance (registry : Registry) (parent : Option Snapshot) (context : Snapshot) :
    Decidable (registry.Coordinated parent context) :=
  inferInstanceAs (Decidable (∀ pending ∈ registry.parentSpan? parent,
    (context.traceId = pending.context.traceId ∧
      context.localRootId = pending.context.localRootId) ∨ ¬registry.Joins context))

theorem fst_clockFor (h : registry.Sound) (hsync : registry.Synchronous) {parent : Option Snapshot}
    {context : Snapshot} (hcoordinated : registry.Coordinated parent context)
    {entry : SpanKey × Nat} (hentry : entry ∈ registry.tracked) {pending : PendingSpan}
    (hpending : registry.pendings[entry.2]? = some pending)
    (hshares : SharesRoot pending.context context) :
    (registry.clockFor parent context).1 = pending.clock := by
  have hshared : registry.sharedClock? parent context = some pending.clock := by
    rw [sharedClock?_eq]
    cases hparent : registry.parentSpan? parent with
    | none =>
      apply (findSome?_entryClock?_eq_some_iff h hsync).2
      exact ⟨entry, hentry, pending, hpending, hshares, rfl⟩
    | some p =>
      rcases h.parentSpan?_eq_some hparent with ⟨known, hknown, hp⟩
      -- the clock comes from the parent, which is in the local trace, or nothing else is in it
      cases hcoordinated p hparent with
      | inl hsame =>
        have hroot : SharesRoot p.context pending.context :=
          SharesRoot.symm ⟨hshares.traceId.trans hsame.1, hshares.localRootId.trans hsame.2,
            hshares.isSome⟩
        have hclock := hsync known hknown entry hentry p pending hp hpending hroot
        rw [← hclock]
        rfl
      | inr hnew => exact absurd ⟨entry, hentry, pending, hpending, hshares⟩ hnew
  unfold clockFor
  rw [hshared]

theorem timings_clockFor (registry : Registry) (parent : Option Snapshot) (context : Snapshot) :
    (registry.clockFor parent context).2.timings = registry.timings := by
  unfold clockFor
  split
  . rfl
  . rfl

theorem length_timings (registry : Registry) :
    registry.timings.length = registry.pendings.length := by
  unfold timings
  apply List.length_map

theorem timings_getOrCreate_of_none (parent : Option Snapshot) (source : ContextInstance)
    {context : Snapshot} (start : Bool)
    (hfind : (registry.sweep alive).1.find? context.key = none) :
    let swept := (registry.sweep alive).1
    let after := (registry.getOrCreate alive parent source context start).2.1
    after.timings =
        registry.timings ++ [(context.withoutExtra, (swept.clockFor parent context).1)] ∧
      after.tracked = swept.tracked ++ [(context.key, registry.pendings.length)] := by
  have htimings := (timings_clockFor (registry.sweep alive).1 parent context).trans
    (timings_sweep alive registry)
  have hlength := congrArg List.length htimings
  rw [length_timings, length_timings] at hlength
  rw [getOrCreate_eq_track hfind]
  unfold track
  dsimp only
  rw [tracked_clockFor, hlength]
  refine ⟨?_, rfl⟩
  rw [← htimings]
  unfold timings
  dsimp only
  rw [List.map_append]
  rfl

theorem Sound.sweep (h : registry.Sound) (alive : Nat → Bool) :
    Sound (registry.sweep alive).1 :=
  h.of_effect (h.effect_sweep alive)

theorem Synchronous.sweep (hsync : registry.Synchronous) (alive : Nat → Bool) :
    Synchronous (registry.sweep alive).1 := by
  apply hsync.of_timings (timings_sweep alive registry)
  rw [tracked_sweep]
  apply List.filter_subset_self

theorem timed_getOrCreate_of_none (h : registry.Sound) {parent : Option Snapshot}
    {source : ContextInstance} {context : Snapshot} {start : Bool}
    (hfind : (registry.sweep alive).1.find? context.key = none) {entry : SpanKey × Nat}
    (hentry : entry ∈
      (registry.getOrCreate alive parent source context start).2.1.tracked) {pending : PendingSpan}
    (hpending : (registry.getOrCreate alive parent source context start).2.1.pendings[entry.2]? =
      some pending) :
    (entry ∈ (registry.sweep alive).1.tracked ∧
      ∃ p, (registry.sweep alive).1.pendings[entry.2]? = some p ∧ p.context = pending.context ∧
        p.clock = pending.clock) ∨
    (pending.context = context.withoutExtra ∧
      pending.clock = ((registry.sweep alive).1.clockFor parent context).1) := by
  have ⟨htimings, htracked⟩ := timings_getOrCreate_of_none parent source start hfind
  have htimed := getElem?_timings_eq_some.2 ⟨pending, hpending, rfl, rfl⟩
  rw [htimings] at htimed
  rw [htracked, List.mem_append, List.mem_singleton] at hentry
  cases hentry with
  | inl hmem =>
    have hlt := (h.sweep alive).place_lt hmem
    rw [(alike_sweep alive registry).length_eq, ← length_timings] at hlt
    rw [List.getElem?_append_left hlt, ← timings_sweep alive registry] at htimed
    exact .inl ⟨hmem, getElem?_timings_eq_some.1 htimed⟩
  | inr heq =>
    right
    rw [heq, ← length_timings, List.getElem?_concat_length] at htimed
    have hnew := Option.some.inj htimed
    exact ⟨(congrArg Prod.fst hnew).symm, (congrArg Prod.snd hnew).symm⟩

theorem Synchronous.getOrCreate (hsync : registry.Synchronous) (h : registry.Sound)
    {parent : Option Snapshot} {source : ContextInstance} {context : Snapshot} {start : Bool}
    (hcoordinated : (registry.sweep alive).1.Coordinated parent context) :
    (registry.getOrCreate alive parent source context start).2.1.Synchronous := by
  have hswept := hsync.sweep alive
  have hsound := h.sweep alive
  cases hfind : (registry.sweep alive).1.find? context.key with
  | some place =>
    rw [getOrCreate_eq_sweep hfind]
    exact hswept
  | none =>
    intro entry hentry other hother p q hp hq hshares
    -- two old spans, a new one and an old one either way, or the new span twice
    rcases timed_getOrCreate_of_none h hfind hentry hp with
      ⟨hmemP, p', hp', hcontextP, hclockP⟩ | ⟨hcontextP, hclockP⟩
    . rcases timed_getOrCreate_of_none h hfind hother hq with
        ⟨hmemQ, q', hq', hcontextQ, hclockQ⟩ | ⟨hcontextQ, hclockQ⟩
      . rw [← hclockP, ← hclockQ]
        apply hswept entry hmemP other hmemQ p' q' hp' hq'
        rwa [hcontextP, hcontextQ]
      . rw [← hclockP, hclockQ]
        symm
        apply fst_clockFor hsound hswept hcoordinated hmemP hp'
        rw [hcontextP]
        rw [hcontextQ] at hshares
        exact ⟨hshares.traceId, hshares.localRootId, hshares.isSome⟩
    . rcases timed_getOrCreate_of_none h hfind hother hq with
        ⟨hmemQ, q', hq', hcontextQ, hclockQ⟩ | ⟨hcontextQ, hclockQ⟩
      . rw [hclockP, ← hclockQ]
        apply fst_clockFor hsound hswept hcoordinated hmemQ hq'
        rw [hcontextQ]
        rw [hcontextP] at hshares
        have hroot := hshares.symm
        exact ⟨hroot.traceId, hroot.localRootId, hroot.isSome⟩
      . rw [hclockP, hclockQ]

end Registry

def RegistryStep.Coordinated (step : RegistryStep) : Prop :=
  match step.action with
  | .getOrCreate parent _ context _ =>
    (step.before.registry.sweep step.before.alive).1.Coordinated parent context
  | _ => True

instance (step : RegistryStep) : Decidable step.Coordinated := by
  unfold RegistryStep.Coordinated
  split <;> infer_instance

namespace RegistryState

theorem synchronous_step (state : RegistryState) (action : RegistryAction)
    (h : state.registry.Sound) (hsync : state.registry.Synchronous)
    (hcoordinated : RegistryStep.Coordinated ⟨state, action⟩) :
    (state.step action).1.registry.Synchronous := by
  rcases state with ⟨registry, alive⟩
  -- whatever ends a span does so after the sweep, and only takes out what has its key
  have hdeparted : ∀ key (other : Registry), other.timings = registry.timings →
      other.tracked = ((registry.sweep alive).1.untrack key).tracked → other.Synchronous := by
    intro key other htimings htracked
    apply (Registry.Synchronous.sweep hsync alive).of_timings
    . rw [htimings, Registry.timings_sweep]
    . rw [htracked]
      apply List.filter_subset_self
  cases action with
  | getOrCreate parent source context start => exact hsync.getOrCreate h hcoordinated
  | get key => exact hsync.sweep alive
  | remove key => exact hdeparted key _ (Registry.timings_sweep alive registry) rfl
  | finish context timestamp =>
    apply hdeparted context.key
    . apply Registry.timings_depart
      intro registry place
      apply Registry.timings_edit
    . apply Registry.tracked_depart
      intro _ _
      rfl
  | flush context =>
    apply hdeparted context.key
    . apply Registry.timings_depart
      intro _ _
      rfl
    . apply Registry.tracked_depart
      intro _ _
      rfl
  | abandon context =>
    apply hdeparted context.key
    . apply Registry.timings_abandon
    . apply Registry.tracked_abandon
  | sweep => exact hsync.sweep alive
  | record place f =>
    apply hsync.of_timings (registry.timings_edit place f)
    apply List.Subset.refl
  | setNoop value => exact hsync
  | hold alive => exact hsync

theorem synchronous_after {state : RegistryState} (h : state.registry.Sound)
    (hsync : state.registry.Synchronous) {actions : List RegistryAction}
    (hcoordinated : ∀ step ∈ state.history actions, step.Coordinated) :
    (state.after actions).registry.Synchronous := by
  induction actions generalizing state with
  | nil => exact hsync
  | cons action actions ih =>
    have hfirst := hcoordinated ⟨state, action⟩ (List.mem_cons_self ..)
    have hsound : (RegistryStep.mk state action).before.registry.Sound := h
    apply ih
    . apply RegistryStep.sound_after hsound
    . apply state.synchronous_step action h hsync hfirst
    . intro step hstep
      exact hcoordinated step (List.mem_cons_of_mem _ hstep)

/--
As long as every child is in the local trace of its tracked parent, or in one that no tracked span
is in, the tracked spans of one local trace have one clock. The clock that the next span gets is
then the same for any order in which the map of the registry is gone through.
-/
theorem synchronous_run (template : SpanData) (handlers : List SpanHandler) (clock : PlatformClock)
    (alive : Nat → Bool) (actions : List RegistryAction)
    (hcoordinated : ∀ step ∈
      RegistryState.history ⟨.ofHandlers template handlers clock, alive⟩ actions,
      step.Coordinated) :
    let last := RegistryState.after ⟨.ofHandlers template handlers clock, alive⟩ actions
    last.registry.Synchronous ∧
    ∀ parent source context start,
      let swept := (last.registry.sweep last.alive).1
      swept.find? context.key = none → ∀ order, order.Perm swept.tracked →
        ∃ pending,
          (last.step (.getOrCreate parent source context start)).1.registry.pendings[
            last.registry.pendings.length]? = some pending ∧
          pending.context = context.withoutExtra ∧
          pending.clock = (Registry.clockFor { swept with tracked := order } parent context).1 := by
  intro last
  have hempty := (Registry.faithful_ofHandlers template handlers clock).toSound
  have hnone : (Registry.ofHandlers template handlers clock).Synchronous := by
    intro entry hentry
    cases hentry
  have hsound : last.registry.Sound := sound_after hempty actions
  have hsync : last.registry.Synchronous := synchronous_after hempty hnone hcoordinated
  refine ⟨hsync, ?_⟩
  intro parent source context start swept hfind order horder
  have hclock := Registry.clockFor_reorder (hsound.sweep last.alive) (hsync.sweep last.alive)
    horder parent context
  have ⟨htimings, _⟩ := Registry.timings_getOrCreate_of_none parent source start hfind
  have hplace := congrArg (fun timings => timings[last.registry.pendings.length]?) htimings
  rw [← Registry.length_timings, List.getElem?_concat_length, Registry.length_timings] at hplace
  rw [hclock]
  exact Registry.getElem?_timings_eq_some.1 hplace

theorem synchronous_run_three_spans :
    let context : SpanId → Snapshot := fun spanId =>
      { traceId := ⟨1⟩, spanId, parentId := none, localRootId := some ⟨2⟩, flags := .empty,
        shared := false, extra := [] }
    let create : Nat → Option Snapshot → SpanId → RegistryAction := fun number parent spanId =>
      .getOrCreate parent ⟨number, (context spanId).withoutExtra⟩ (context spanId) true
    let actions : List RegistryAction :=
      [create 0 none ⟨2⟩, create 1 (some (context ⟨2⟩)) ⟨3⟩, .hold fun number => number ≠ 0,
        create 2 (some (context ⟨2⟩)) ⟨4⟩]
    let start : RegistryState := ⟨.ofHandlers .empty [] (.stepping 0 1), fun _ => true⟩
    (∀ step ∈ start.history actions, step.Coordinated) ∧
      (start.after actions).registry.tracked.map (·.2) = [1, 2] ∧
      ∀ p q, (start.after actions).registry.pendings[1]? = some p →
        (start.after actions).registry.pendings[2]? = some q → p.clock = q.clock := by
  intro context create actions start
  have hcoordinated : ∀ step ∈ start.history actions, step.Coordinated := by decide +kernel
  have htracked : (start.after actions).registry.tracked =
      [((context ⟨3⟩).key, 1), ((context ⟨4⟩).key, 2)] := by
    decide +kernel
  have hsync := (synchronous_run .empty [] (.stepping 0 1) (fun _ => true) actions hcoordinated).1
  have hshares : ∀ p ∈ (start.after actions).registry.pendings[1]?,
      ∀ q ∈ (start.after actions).registry.pendings[2]?, SharesRoot p.context q.context := by
    decide +kernel
  refine ⟨hcoordinated, by rw [htracked]; rfl, ?_⟩
  intro p q hp hq
  apply hsync ((context ⟨3⟩).key, 1) _ ((context ⟨4⟩).key, 2) _ p q hp hq (hshares p hp q hq)
  . rw [htracked]
    apply List.mem_cons_self
  . rw [htracked]
    apply List.mem_cons_of_mem
    apply List.mem_cons_self

end RegistryState

end RequestTracing
