import Mathlib
import RequestTracing.Proofs.Lookup
import RequestTracing.Proofs.Recorder.Report

/-!
This module contains what the operations of a registry do. Each of them first lets the orphans go,
then it may let the span of one key go, and it may track a new one; the handlers are told about
those that went and about no other.
-/

namespace RequestTracing.Registry

open SpanNotice (endings)

/--
The invariant of registries: keys and places are tracked once, each place under the key of its span.
-/
structure Sound (registry : Registry) : Prop where
  keys : (registry.tracked.map (·.1)).Nodup
  places : (registry.tracked.map (·.2)).Nodup
  pending : ∀ entry ∈ registry.tracked, ∃ pending,
    registry.pendings[entry.2]? = some pending ∧ pending.context.key = entry.1

/--
How an operation lets a tracked entry go, none where it does not. A live one goes the way that the
operation has for its key.
-/
def fate? (alive : Nat → Bool) (way : SpanKey → Option Fate) (registry : Registry)
    (entry : SpanKey × Nat) : Option Fate :=
  if registry.isLive alive entry.2 then way entry.1 else some .orphaned

def remaining (alive : Nat → Bool) (way : SpanKey → Option Fate) (registry : Registry) :
    List (SpanKey × Nat) :=
  registry.tracked.filter fun entry => (registry.fate? alive way entry).isNone

def stay : SpanKey → Option Fate :=
  fun _ => none

def leave (key : SpanKey) (fate : Fate) : SpanKey → Option Fate :=
  fun other => if other = key then some fate else none

structure Announced (alive : Nat → Bool) (way : SpanKey → Option Fate) (registry : Registry)
    (notices : List SpanNotice) : Prop where
  told : ∀ entry ∈ registry.tracked, ∀ fate, registry.fate? alive way entry = some fate →
    Told registry.chain.handlers entry.1 (.ofChain registry.chain fate)
      (callsAbout entry.1 notices)
  silent : ∀ key, (∀ entry ∈ registry.tracked, entry.1 = key →
    registry.fate? alive way entry = none) → callsAbout key notices = []

variable {alive : Nat → Bool} {registry other : Registry}

theorem Sound.eq_of_key_eq (h : Sound registry) {entry entry' : SpanKey × Nat}
    (hentry : entry ∈ registry.tracked) (hentry' : entry' ∈ registry.tracked)
    (hkey : entry.1 = entry'.1) : entry = entry' :=
  List.inj_on_of_nodup_map h.keys hentry hentry' hkey

theorem Sound.key_eq (h : Sound registry) {entry : SpanKey × Nat}
    (hentry : entry ∈ registry.tracked) {pending : PendingSpan}
    (hpending : registry.pendings[entry.2]? = some pending) : pending.context.key = entry.1 := by
  have ⟨p, hp, hkey⟩ := h.pending entry hentry
  rw [hpending, Option.some.injEq] at hp
  rw [hp, hkey]

theorem fate?_of_live {entry : SpanKey × Nat} (h : registry.isLive alive entry.2)
    (way : SpanKey → Option Fate) : registry.fate? alive way entry = way entry.1 :=
  if_pos h

theorem fate?_of_not_live {entry : SpanKey × Nat} (h : ¬registry.isLive alive entry.2)
    (way : SpanKey → Option Fate) : registry.fate? alive way entry = some .orphaned :=
  if_neg h

theorem fate?_stay_eq_none_iff {entry : SpanKey × Nat} :
    registry.fate? alive stay entry = none ↔ registry.isLive alive entry.2 := by
  unfold fate? stay
  split
  . next h => simp [h]
  . next h => simp [h]

theorem mem_stale {entry : SpanKey × Nat} :
    entry ∈ registry.stale alive ↔ entry ∈ registry.tracked ∧ ¬registry.isLive alive entry.2 := by
  unfold stale
  rw [List.mem_mergeSort, List.mem_filter, Bool.not_eq_true', Bool.not_eq_true]

theorem Sound.nodup_stale (h : Sound registry) (alive : Nat → Bool) :
    ((registry.stale alive).map (·.2)).Nodup := by
  have hperm : ((registry.stale alive).map (·.2)).Perm
      ((registry.tracked.filter fun entry => !registry.isLive alive entry.2).map (·.2)) :=
    (List.mergeSort_perm _ _).map _
  rw [hperm.nodup_iff]
  exact h.places.sublist ((List.filter_sublist).map _)

theorem alike_sweep (alive : Nat → Bool) (registry : Registry) :
    Alike (registry.sweep alive).1 registry := by
  unfold sweep
  exact (alike_reportOrphans _ _).trans ⟨rfl, rfl, rfl⟩

theorem tracked_sweep (alive : Nat → Bool) (registry : Registry) :
    (registry.sweep alive).1.tracked =
      registry.tracked.filter fun entry => registry.isLive alive entry.2 := by
  unfold sweep
  exact tracked_reportOrphans _ _

theorem Sound.announced_sweep (h : Sound registry) (alive : Nat → Bool) :
    Announced alive stay registry (registry.sweep alive).2 := by
  constructor
  . intro entry hentry fate hfate
    have hstale : ¬registry.isLive alive entry.2 := by
      intro hlive
      rw [fate?_stay_eq_none_iff.2 hlive] at hfate
      simp at hfate
    rw [fate?_of_not_live hstale, Option.some.injEq] at hfate
    have ⟨pending, hpending, hkey⟩ := h.pending entry hentry
    have hmem : entry.2 ∈ (registry.stale alive).map (·.2) :=
      List.mem_map_of_mem (mem_stale.2 ⟨hentry, hstale⟩)
    -- keys are tracked once, so none of the other orphans is taken for this one
    have hunique : ∀ place ∈ (registry.stale alive).map (·.2), ∀ p,
        registry.pendings[place]? = some p → p.context.key = entry.1 → place = entry.2 := by
      intro place hplace p hp hkeyp
      obtain ⟨entry', hentry', rfl⟩ := List.mem_map.1 hplace
      have hkey' := h.key_eq (mem_stale.1 hentry').1 hp
      rw [h.eq_of_key_eq (mem_stale.1 hentry').1 hentry (hkey'.symm.trans hkeyp)]
    let live : Registry :=
      { registry with
        tracked := registry.tracked.filter fun entry => registry.isLive alive entry.2 }
    have hlive : live.pendings[entry.2]? = some pending := hpending
    rw [← hfate]
    exact told_reportOrphans (h.nodup_stale alive) hmem hlive hkey hunique
  . intro key hkey
    unfold sweep
    apply callsAbout_reportOrphans_of_ne
    intro place hplace p hp hkeyp
    obtain ⟨entry, hmem, rfl⟩ := List.mem_map.1 hplace
    have ⟨hentry, hstale⟩ := mem_stale.1 hmem
    have hlive := hkey entry hentry ((h.key_eq hentry hp).symm.trans hkeyp)
    exact hstale (fate?_stay_eq_none_iff.1 hlive)

theorem find?_sweep_eq_some {key : SpanKey} {place : Nat}
    (hfind : (registry.sweep alive).1.find? key = some place) :
    (key, place) ∈ registry.tracked ∧ registry.isLive alive place := by
  unfold find? at hfind
  rw [tracked_sweep] at hfind
  exact List.mem_filter.1 (Lookup.mem_of_lookup_eq_some hfind)

theorem find?_sweep_eq_none {key : SpanKey}
    (hfind : (registry.sweep alive).1.find? key = none) {entry : SpanKey × Nat}
    (hentry : entry ∈ registry.tracked) (hkey : entry.1 = key) :
    ¬registry.isLive alive entry.2 := by
  intro hlive
  unfold find? at hfind
  rw [tracked_sweep, List.lookup_eq_none_iff] at hfind
  have hne := hfind entry (List.mem_filter.2 ⟨hentry, hlive⟩)
  simp [hkey] at hne

theorem fate?_leave_eq_some {key : SpanKey} {fate fate' : Fate} {entry : SpanKey × Nat}
    (hlive : registry.isLive alive entry.2)
    (h : registry.fate? alive (leave key fate) entry = some fate') :
    entry.1 = key ∧ fate' = fate := by
  rw [fate?_of_live hlive] at h
  unfold leave at h
  split at h
  . next hkey => exact ⟨hkey, (Option.some.inj h).symm⟩
  . simp at h

theorem isLive_of_fate?_eq_none {way : SpanKey → Option Fate} {entry : SpanKey × Nat}
    (h : registry.fate? alive way entry = none) : registry.isLive alive entry.2 := by
  by_contra hstale
  rw [fate?_of_not_live hstale] at h
  simp at h

theorem find?_sweep_eq_none_of_stale {key : SpanKey}
    (h : ∀ entry ∈ registry.tracked, entry.1 = key → ¬registry.isLive alive entry.2) :
    (registry.sweep alive).1.find? key = none := by
  rw [Option.eq_none_iff_forall_ne_some]
  intro place hfind
  have ⟨hmem, hlive⟩ := find?_sweep_eq_some hfind
  exact h _ hmem rfl hlive

theorem Sound.callsAbout_sweep_eq_nil (h : Sound registry) {key : SpanKey}
    (hlive : ∀ entry ∈ registry.tracked, entry.1 = key → registry.isLive alive entry.2) :
    callsAbout key (registry.sweep alive).2 = [] := by
  apply (h.announced_sweep alive).silent
  intro entry hentry hkey
  exact fate?_stay_eq_none_iff.2 (hlive entry hentry hkey)

theorem Sound.announced_leave (h : Sound registry) {key : SpanKey} {fate : Fate}
    {notices : List SpanNotice} (hne : ∀ other, other ≠ key → callsAbout other notices = [])
    (hnone : (registry.sweep alive).1.find? key = none → callsAbout key notices = [])
    (hsome : ∀ place, (registry.sweep alive).1.find? key = some place →
      Told registry.chain.handlers key (.ofChain registry.chain fate) (callsAbout key notices)) :
    Announced alive (leave key fate) registry ((registry.sweep alive).2 ++ notices) := by
  -- the notices after the sweep are about the key alone, and only where it has a live entry
  have hnotices : ∀ other, (∀ entry ∈ registry.tracked, entry.1 = key → entry.1 = other →
      ¬registry.isLive alive entry.2) → callsAbout other notices = [] := by
    intro other hstale
    by_cases hkey : other = key
    . rw [hkey] at hstale ⊢
      exact hnone (find?_sweep_eq_none_of_stale fun entry hentry hsame =>
        hstale entry hentry hsame hsame)
    . exact hne other hkey
  constructor
  . intro entry hentry fate' hfate
    rw [callsAbout_append]
    by_cases hlive : registry.isLive alive entry.2
    . have ⟨hkey, heq⟩ := fate?_leave_eq_some hlive hfate
      have horphans : callsAbout entry.1 (registry.sweep alive).2 = [] := by
        apply h.callsAbout_sweep_eq_nil
        intro entry' hentry' hsame
        rwa [h.eq_of_key_eq hentry' hentry hsame]
      rw [horphans, List.nil_append, hkey, heq]
      cases hfind : (registry.sweep alive).1.find? key with
      | none => exact absurd hlive (find?_sweep_eq_none hfind hentry hkey)
      | some place => exact hsome place hfind
    . have hsilent : callsAbout entry.1 notices = [] := by
        apply hnotices
        intro entry' hentry' _ hsame
        rwa [h.eq_of_key_eq hentry' hentry hsame]
      rw [fate?_of_not_live hlive] at hfate
      rw [hsilent, List.append_nil]
      exact (h.announced_sweep alive).told entry hentry fate' (by rw [fate?_of_not_live hlive, hfate])
  . intro other hother
    have horphans : callsAbout other (registry.sweep alive).2 = [] := by
      apply h.callsAbout_sweep_eq_nil
      intro entry hentry hkey
      exact isLive_of_fate?_eq_none (hother entry hentry hkey)
    rw [callsAbout_append, horphans, List.nil_append]
    apply hnotices
    -- a live entry of the key would leave
    intro entry hentry hkey hsame hlive
    have hstay := hother entry hentry hsame
    rw [fate?_of_live hlive, hkey] at hstay
    simp [leave] at hstay

structure Effect (alive : Nat → Bool) (way : SpanKey → Option Fate) (before after : Registry)
    (notices : List SpanNotice) : Prop where
  announced : Announced alive way before notices
  noop : after.chain.noop = before.chain.noop
  roles : after.chain.handlers.map SpanHandler.role = before.chain.handlers.map SpanHandler.role
  grown :
    (after.pendings.map PendingSpan.identity = before.pendings.map PendingSpan.identity ∧
      after.tracked = before.remaining alive way) ∨
    ∃ source context,
      after.pendings.map PendingSpan.identity =
        before.pendings.map PendingSpan.identity ++ [(source, context)] ∧
      after.tracked = before.remaining alive way ++ [(context.key, before.pendings.length)] ∧
      ∀ entry ∈ before.remaining alive way, entry.1 ≠ context.key

theorem Effect.of_alike {way : SpanKey → Option Fate} {notices : List SpanNotice}
    (hannounced : Announced alive way registry notices) (halike : Alike other registry)
    (htracked : other.tracked = registry.remaining alive way) :
    Effect alive way registry other notices :=
  ⟨hannounced, halike.noop, halike.roles, .inl ⟨halike.spans, htracked⟩⟩

theorem remaining_stay (alive : Nat → Bool) (registry : Registry) :
    registry.remaining alive stay =
      registry.tracked.filter fun entry => registry.isLive alive entry.2 := by
  unfold remaining
  apply List.filter_congr
  intro entry _
  rw [Bool.eq_iff_iff, Option.isNone_iff_eq_none]
  exact fate?_stay_eq_none_iff

theorem remaining_leave (alive : Nat → Bool) (registry : Registry) (key : SpanKey) (fate : Fate) :
    registry.remaining alive (leave key fate) =
      (registry.remaining alive stay).filter fun entry => entry.1 ≠ key := by
  rw [remaining_stay, List.filter_filter]
  unfold remaining
  apply List.filter_congr
  intro entry _
  unfold fate? leave
  by_cases hlive : registry.isLive alive entry.2
  . by_cases hkey : entry.1 = key
    . simp [hlive, hkey]
    . simp [hlive, hkey]
  . simp [hlive]

theorem Sound.effect_sweep (h : Sound registry) (alive : Nat → Bool) :
    Effect alive stay registry (registry.sweep alive).1 (registry.sweep alive).2 := by
  apply Effect.of_alike (h.announced_sweep alive) (alike_sweep alive registry)
  rw [tracked_sweep, remaining_stay]

theorem remove_eq (alive : Nat → Bool) (registry : Registry) (key : SpanKey) :
    registry.remove alive key =
      ((registry.sweep alive).1.find? key, (registry.sweep alive).1.untrack key,
        (registry.sweep alive).2) :=
  rfl

theorem tracked_untrack_sweep (alive : Nat → Bool) (registry : Registry) (key : SpanKey)
    (fate : Fate) : ((registry.sweep alive).1.untrack key).tracked =
      registry.remaining alive (leave key fate) := by
  rw [remaining_leave, remaining_stay, ← tracked_sweep]
  rfl

theorem alike_untrack_sweep (alive : Nat → Bool) (registry : Registry) (key : SpanKey) :
    Alike ((registry.sweep alive).1.untrack key) registry :=
  ⟨(alike_sweep alive registry).spans, (alike_sweep alive registry).noop,
    (alike_sweep alive registry).roles⟩

theorem Sound.effect_remove (h : Sound registry) (alive : Nat → Bool) (key : SpanKey) {fate : Fate}
    (hsilent : (Departure.ofChain registry.chain fate).cause? = none) :
    Effect alive (leave key fate) registry (registry.remove alive key).2.1
      (registry.remove alive key).2.2 := by
  rw [remove_eq]
  apply Effect.of_alike _ (alike_untrack_sweep alive registry key)
    (tracked_untrack_sweep alive registry key fate)
  rw [← List.append_nil (registry.sweep alive).2]
  apply h.announced_leave
  . intro other _
    rfl
  . intro _
    rfl
  . intro place _
    unfold Told
    rw [hsilent]
    rfl

theorem Sound.effect_depart (h : Sound registry) (alive : Nat → Bool) (context : Snapshot)
    (cause : Cause) {prepare : Registry → Nat → Registry}
    (hprepare : ∀ registry place, Alike (prepare registry place) registry)
    (htracked : ∀ registry place, (prepare registry place).tracked = registry.tracked)
    (hoptedIn : cause = .abandoned → registry.chain.handlesAbandoned) :
    Effect alive (leave context.key cause.fate) registry
      (registry.depart alive context cause prepare).1
      (registry.depart alive context cause prepare).2 := by
  have halike := alike_untrack_sweep alive registry context.key
  have huntrack := tracked_untrack_sweep alive registry context.key cause.fate
  unfold depart
  rw [remove_eq]
  -- where no live span has the key, the operation comes to its sweep
  cases hfind : (registry.sweep alive).1.find? context.key with
  | none =>
    apply Effect.of_alike _ halike huntrack
    rw [← List.append_nil (registry.sweep alive).2]
    apply h.announced_leave
    . intro other _
      rfl
    . intro _
      rfl
    . intro place hplace
      rw [hfind] at hplace
      simp at hplace
  | some place =>
    have hprepared := (hprepare ((registry.sweep alive).1.untrack context.key) place).trans halike
    dsimp only
    apply Effect.of_alike _ ((alike_report _ place context cause).trans hprepared)
    . rw [tracked_report, htracked, huntrack]
    . apply h.announced_leave
      . intro other hother
        exact callsAbout_report_of_ne (Ne.symm hother)
      . intro hnone
        rw [hfind] at hnone
        simp at hnone
      . intro place' hplace'
        have ⟨pending, hpending, _⟩ := h.pending _ (find?_sweep_eq_some hfind).1
        have ⟨p, hp, _⟩ := hprepared.exists_pending hpending
        have htold := told_report hp context cause (by
          intro hcause
          rw [HandlerChain.handlesAbandoned_of_roles hprepared.roles]
          exact hoptedIn hcause)
        rw [hprepared.departure_eq] at htold
        exact told_of_roles hprepared.roles htold

theorem alike_clockFor (registry : Registry) (parent : Option Snapshot) (context : Snapshot) :
    Alike (registry.clockFor parent context).2 registry := by
  unfold clockFor
  split
  . exact Alike.refl registry
  . exact ⟨rfl, rfl, rfl⟩

theorem tracked_clockFor (registry : Registry) (parent : Option Snapshot) (context : Snapshot) :
    (registry.clockFor parent context).2.tracked = registry.tracked := by
  unfold clockFor
  split
  . rfl
  . rfl

theorem Announced.append {way : SpanKey → Option Fate} {notices others : List SpanNotice}
    (h : Announced alive way registry notices) (hothers : endings others = []) :
    Announced alive way registry (notices ++ others) := by
  have hsame : ∀ key, callsAbout key (notices ++ others) = callsAbout key notices := by
    intro key
    rw [callsAbout_append, callsAbout_of_endings_eq_nil hothers, List.append_nil]
  constructor
  . intro entry hentry fate hfate
    rw [hsame]
    exact h.told entry hentry fate hfate
  . intro key hkey
    rw [hsame]
    exact h.silent key hkey

theorem getOrCreate_eq_sweep {alive : Nat → Bool} {context : Snapshot} {place : Nat}
    (hfind : (registry.sweep alive).1.find? context.key = some place) (parent : Option Snapshot)
    (source : ContextInstance) (start : Bool) :
    registry.getOrCreate alive parent source context start = (place, registry.sweep alive) := by
  unfold getOrCreate
  dsimp only
  rw [hfind]

theorem getOrCreate_eq_track {alive : Nat → Bool} {context : Snapshot}
    (hfind : (registry.sweep alive).1.find? context.key = none) (parent : Option Snapshot)
    (source : ContextInstance) (start : Bool) :
    let swept := registry.sweep alive
    let made := swept.1.track parent source context start
    registry.getOrCreate alive parent source context start =
      (made.1, made.2.1, swept.2 ++ made.2.2) := by
  unfold getOrCreate
  dsimp only
  rw [hfind]

theorem Sound.effect_getOrCreate (h : Sound registry) (alive : Nat → Bool)
    (parent : Option Snapshot) (source : ContextInstance) (context : Snapshot) (start : Bool) :
    Effect alive stay registry (registry.getOrCreate alive parent source context start).2.1
      (registry.getOrCreate alive parent source context start).2.2 := by
  -- a span that is found is only swept past; otherwise the new one comes after those that remain
  cases hfind : (registry.sweep alive).1.find? context.key with
  | some place =>
    rw [getOrCreate_eq_sweep hfind]
    exact h.effect_sweep alive
  | none =>
    rw [getOrCreate_eq_track hfind]
    have halike := (alike_clockFor (registry.sweep alive).1 parent context).trans
      (alike_sweep alive registry)
    have htracked := tracked_clockFor (registry.sweep alive).1 parent context
    rw [tracked_sweep, ← remaining_stay] at htracked
    unfold track
    refine ⟨(h.announced_sweep alive).append (HandlerChain.endings_begin _ _ _ _), halike.noop,
      halike.roles, .inr ⟨source, context.withoutExtra, ?_, ?_, ?_⟩⟩
    . dsimp only
      rw [List.map_append, halike.spans]
      rfl
    . dsimp only
      rw [htracked, halike.length_eq]
      rfl
    . intro entry hentry hkey
      rw [remaining_stay] at hentry
      have ⟨hmem, hlive⟩ := List.mem_filter.1 hentry
      exact find?_sweep_eq_none hfind hmem hkey hlive

theorem source_getOrCreate (alive : Nat → Bool) (registry : Registry)
    (parent : Option Snapshot) (source : ContextInstance) (context : Snapshot) (start : Bool)
    {pending : PendingSpan}
    (hpending : (registry.getOrCreate alive parent source context start).2.1.pendings[
      (registry.getOrCreate alive parent source context start).1]? = some pending) :
    pending.source = source ∨ ∃ entry ∈ registry.tracked, entry.1 = context.key ∧
      ∃ p, registry.pendings[entry.2]? = some p ∧ pending.source = p.source := by
  have halike := registry.alike_sweep alive
  cases hfind : (registry.sweep alive).1.find? context.key with
  | some place =>
    rw [getOrCreate_eq_sweep hfind] at hpending
    exact .inr ⟨(context.key, place), (find?_sweep_eq_some hfind).1, rfl,
      halike.exists_source hpending⟩
  | none =>
    rw [getOrCreate_eq_track hfind] at hpending
    unfold track at hpending
    dsimp only at hpending
    rw [List.getElem?_concat_length] at hpending
    rw [← Option.some.inj hpending]
    exact .inl rfl

theorem key_of_mem_tracked_getOrCreate (alive : Nat → Bool) (registry : Registry)
    (parent : Option Snapshot) (source : ContextInstance) (context : Snapshot) (start : Bool)
    {entry : SpanKey × Nat}
    (hentry : entry ∈ (registry.getOrCreate alive parent source context start).2.1.tracked) :
    entry ∈ registry.tracked ∨ entry.1 = context.key := by
  have hsweep : ∀ entry ∈ (registry.sweep alive).1.tracked, entry ∈ registry.tracked := by
    intro entry hentry
    rw [tracked_sweep] at hentry
    exact List.mem_of_mem_filter hentry
  cases hfind : (registry.sweep alive).1.find? context.key with
  | some place =>
    rw [getOrCreate_eq_sweep hfind] at hentry
    exact .inl (hsweep entry hentry)
  | none =>
    rw [getOrCreate_eq_track hfind] at hentry
    unfold track at hentry
    dsimp only at hentry
    rw [tracked_clockFor, List.mem_append, List.mem_singleton] at hentry
    cases hentry with
    | inl hold => exact .inl (hsweep entry hold)
    | inr hnew =>
      rw [hnew]
      exact .inr rfl

theorem alike_stamp (timestamp : Option UInt64) (registry : Registry) (place : Nat) :
    Alike (registry.stamp timestamp place) registry := by
  unfold stamp
  exact alike_edit registry place _

theorem Sound.effect_abandon (h : Sound registry) (alive : Nat → Bool) (context : Snapshot) :
    Effect alive (leave context.key .abandoned) registry (registry.abandon alive context).1
      (registry.abandon alive context).2 := by
  unfold abandon
  split
  . next hoptedIn =>
    exact h.effect_depart alive context .abandoned (fun registry _ => Alike.refl registry)
      (fun _ _ => rfl) (fun _ => hoptedIn)
  . next hoptedIn =>
    exact h.effect_remove alive context.key
      (Departure.cause?_abandoned (Bool.eq_false_iff.2 hoptedIn))

theorem Sound.place_lt (h : Sound registry) {entry : SpanKey × Nat}
    (hentry : entry ∈ registry.tracked) : entry.2 < registry.pendings.length := by
  have ⟨pending, hpending, _⟩ := h.pending entry hentry
  exact (List.getElem?_eq_some_iff.1 hpending).1

theorem Sound.of_sublist (h : Sound registry)
    (hspans : other.pendings.map PendingSpan.identity =
      registry.pendings.map PendingSpan.identity)
    (hsublist : other.tracked.Sublist registry.tracked) : Sound other := by
  refine ⟨h.keys.sublist (hsublist.map _), h.places.sublist (hsublist.map _), ?_⟩
  intro entry hentry
  have ⟨pending, hpending, hkey⟩ := h.pending entry (hsublist.subset hentry)
  have ⟨p, hp, hcontext⟩ := exists_pending_of_spans hspans hpending
  exact ⟨p, hp, by rw [hcontext, hkey]⟩

theorem exists_pending_of_identity {place : Nat} {source : ContextInstance} {context : Snapshot}
    (h : (registry.pendings.map PendingSpan.identity)[place]? = some (source, context)) :
    ∃ pending, registry.pendings[place]? = some pending ∧ pending.context = context := by
  rw [List.getElem?_map] at h
  obtain ⟨pending, hpending, hidentity⟩ := Option.map_eq_some_iff.1 h
  exact ⟨pending, hpending, congrArg Prod.snd hidentity⟩

theorem length_of_spans_eq_append {identity : ContextInstance × Snapshot}
    (h : other.pendings.map PendingSpan.identity =
      registry.pendings.map PendingSpan.identity ++ [identity]) :
    other.pendings.length = registry.pendings.length + 1 := by
  have hlength := congrArg List.length h
  rwa [List.length_append, List.length_map, List.length_map] at hlength

theorem pending_of_spans_eq_append {source : ContextInstance} {context : Snapshot}
    (h : other.pendings.map PendingSpan.identity =
      registry.pendings.map PendingSpan.identity ++ [(source, context)])
    {place : Nat} {pending : PendingSpan} (hpending : other.pendings[place]? = some pending) :
    (∃ p, registry.pendings[place]? = some p ∧ p.context = pending.context) ∨
      place = registry.pendings.length ∧ pending.context = context := by
  have hidentity := congrArg (fun identities => identities[place]?) h
  rw [List.getElem?_map, hpending, Option.map_some] at hidentity
  by_cases hlt : place < registry.pendings.length
  . rw [List.getElem?_append_left (by rwa [List.length_map])] at hidentity
    exact .inl (exists_pending_of_identity hidentity.symm)
  . have hplace := (List.getElem?_eq_some_iff.1 hpending).1
    rw [length_of_spans_eq_append h] at hplace
    have heq : place = registry.pendings.length := by omega
    rw [heq, ← List.length_map PendingSpan.identity, List.getElem?_concat_length] at hidentity
    exact .inr ⟨heq, congrArg Prod.snd (Option.some.inj hidentity)⟩

theorem Sound.of_effect (h : Sound registry) {way : SpanKey → Option Fate}
    {notices : List SpanNotice} (heffect : Effect alive way registry other notices) :
    Sound other := by
  have hsublist : (registry.remaining alive way).Sublist registry.tracked := List.filter_sublist
  rcases heffect.grown with ⟨hspans, htracked⟩ | ⟨source, context, hspans, htracked, hfresh⟩
  . apply h.of_sublist hspans
    rwa [htracked]
  -- no remaining entry has the key of the new span, and its place lies past all others
  . refine ⟨?_, ?_, ?_⟩
    . rw [htracked, List.map_append, List.map_singleton, ← List.concat_eq_append]
      apply List.Nodup.concat _ (h.keys.sublist (hsublist.map _))
      intro hkey
      obtain ⟨entry, hentry, heq⟩ := List.mem_map.1 hkey
      exact hfresh entry hentry heq
    . rw [htracked, List.map_append, List.map_singleton, ← List.concat_eq_append]
      apply List.Nodup.concat _ (h.places.sublist (hsublist.map _))
      intro hplace
      obtain ⟨entry, hentry, heq⟩ := List.mem_map.1 hplace
      have hlt := h.place_lt (hsublist.subset hentry)
      rw [heq] at hlt
      exact Nat.lt_irrefl _ hlt
    . intro entry hentry
      rw [htracked, List.mem_append, List.mem_singleton] at hentry
      cases hentry with
      | inl hmem =>
        have ⟨pending, hpending, hkey⟩ := h.pending entry (hsublist.subset hmem)
        have hidentity : (other.pendings.map PendingSpan.identity)[entry.2]? =
            some (pending.source, pending.context) := by
          have hlt := h.place_lt (hsublist.subset hmem)
          rw [hspans, List.getElem?_append_left (by rwa [List.length_map]), List.getElem?_map,
            hpending]
          rfl
        have ⟨p, hp, hcontext⟩ := exists_pending_of_identity hidentity
        exact ⟨p, hp, by rw [hcontext, hkey]⟩
      | inr heq =>
        have hidentity : (other.pendings.map PendingSpan.identity)[entry.2]? =
            some (source, context) := by
          rw [heq, hspans, List.getElem?_append_right (by rw [List.length_map]), List.length_map,
            Nat.sub_self]
          rfl
        have ⟨p, hp, hcontext⟩ := exists_pending_of_identity hidentity
        exact ⟨p, hp, by rw [hcontext, heq]⟩

end RequestTracing.Registry
