import Mathlib
import RequestTracing.Proofs.Tracer.Ending

/-!
This module contains the spans that code has open on a registry that may track others as well. Main
statement: as long as the code holds on to its spans, beginning one more tells handlers nothing
about any of them, and finishing one tells handlers of that one, once.
-/

namespace RequestTracing

open SpanNotice (endings)

def SpanHandle.key (span : SpanHandle) : SpanKey :=
  span.source.context.key

def callsBeyond (known : List SpanKey) (notices : List SpanNotice) : List HandlerCall :=
  (endings notices).filter fun call => call.context.key ∉ known

theorem callsBeyond_append (known : List SpanKey) (notices others : List SpanNotice) :
    callsBeyond known (notices ++ others) =
      callsBeyond known notices ++ callsBeyond known others := by
  unfold callsBeyond
  rw [SpanNotice.endings_append, List.filter_append]

/--
Holds for notices that tell the handlers that the given spans finished, once and in order, and
nothing else but about spans of known keys.
-/
def FinishedInTurn (known : List SpanKey) (handlers : List SpanHandler) (spans : List SpanHandle)
    (notices : List SpanNotice) : Prop :=
  ∃ passes,
    List.Forall₂ (fun span calls => Passed handlers span.key .finished calls) spans passes ∧
    callsBeyond known notices = passes.flatten

theorem FinishedInTurn.nil {known : List SpanKey} {handlers : List SpanHandler}
    {notices : List SpanNotice} (h : callsBeyond known notices = []) :
    FinishedInTurn known handlers [] notices :=
  ⟨[], .nil, h⟩

theorem FinishedInTurn.append {known : List SpanKey} {handlers : List SpanHandler}
    {spans others : List SpanHandle} {notices later : List SpanNotice}
    (h : FinishedInTurn known handlers spans notices)
    (hothers : FinishedInTurn known handlers others later) :
    FinishedInTurn known handlers (spans ++ others) (notices ++ later) := by
  obtain ⟨passes, hpasses, hcalls⟩ := h
  obtain ⟨more, hmore, hlater⟩ := hothers
  refine ⟨passes ++ more, List.rel_append hpasses hmore, ?_⟩
  rw [callsBeyond_append, hcalls, hlater, List.flatten_append]

theorem Told.passed {handlers : List SpanHandler} {chain : HandlerChain} {key : SpanKey}
    {cause : Cause} {calls : List HandlerCall}
    (h : Told handlers key (.ofChain chain cause.fate) calls) (hactive : chain.noop = false)
    (hoptedIn : cause = .abandoned → chain.handlesAbandoned) : Passed handlers key cause calls := by
  unfold Told at h
  rwa [Departure.cause?_of_not_noop hactive hoptedIn] at h

namespace SpanHandle

def entry? (span : SpanHandle) : Option (SpanKey × Nat) :=
  span.place.map fun place => (span.key, place)

theorem entry?_eq_some_iff {span : SpanHandle} {entry : SpanKey × Nat} :
    span.entry? = some entry ↔ span.key = entry.1 ∧ span.place = some entry.2 := by
  unfold entry?
  rw [Option.map_eq_some_iff]
  constructor
  . rintro ⟨place, hplace, rfl⟩
    exact ⟨rfl, hplace⟩
  . rintro ⟨hkey, hplace⟩
    exact ⟨entry.2, hplace, by rw [hkey]⟩

end SpanHandle

namespace Registry

variable {registry other : Registry} {alive : Nat → Bool} {known : List SpanKey}
  {handlers : List SpanHandler} {span : SpanHandle} {spans : List SpanHandle}

structure Hosts (known : List SpanKey) (handlers : List SpanHandler) (registry : Registry)
    (spans : List SpanHandle) : Prop where
  sound : registry.Sound
  active : registry.chain.noop = false
  roles : registry.chain.handlers.map SpanHandler.role = handlers.map SpanHandler.role
  distinct : spans.Pairwise fun span other => span.key ≠ other.key
  unknown : ∀ span ∈ spans, span.key ∉ known
  tracked : ∀ entry ∈ registry.tracked, entry.1 ∈ known ∨ ∃ span ∈ spans, span.entry? = some entry
  kept : ∀ span ∈ spans, ∀ entry ∈ span.entry?, entry ∈ registry.tracked ∧
    registry.pendings[entry.2]?.map PendingSpan.source = some span.source

theorem accounted_cons {entry : SpanKey × Nat}
    (h : entry.1 ∈ known ∨ ∃ other ∈ spans, other.entry? = some entry) (span : SpanHandle) :
    entry.1 ∈ known ∨ ∃ other ∈ span :: spans, other.entry? = some entry := by
  refine h.imp_right ?_
  rintro ⟨other, hother, heq⟩
  exact ⟨other, List.mem_cons_of_mem span hother, heq⟩

theorem accounted_of_cons {entry : SpanKey × Nat}
    (h : entry.1 ∈ known ∨ ∃ other ∈ span :: spans, other.entry? = some entry)
    (hne : span.entry? ≠ some entry) :
    entry.1 ∈ known ∨ ∃ other ∈ spans, other.entry? = some entry := by
  refine h.imp_right ?_
  rintro ⟨other, hother, heq⟩
  cases List.mem_cons.1 hother with
  | inl hspan =>
    rw [hspan] at heq
    exact absurd heq hne
  | inr hmem => exact ⟨other, hmem, heq⟩

def Held (alive : Nat → Bool) (spans : List SpanHandle) : Prop :=
  ∀ span ∈ spans, alive span.source.number

theorem isLive_eq (alive : Nat → Bool) (registry : Registry) (place : Nat) :
    registry.isLive alive place =
      (registry.pendings[place]?.map PendingSpan.source).any fun source => alive source.number := by
  unfold isLive
  cases registry.pendings[place]? <;> rfl

theorem Alike.source_eq (h : Alike other registry) (place : Nat) :
    other.pendings[place]?.map PendingSpan.source =
      registry.pendings[place]?.map PendingSpan.source := by
  have hidentity := congrArg (Option.map Prod.fst) (h.identity_eq place)
  rwa [Option.map_map, Option.map_map] at hidentity

namespace Hosts

theorem isLive (h : Hosts known handlers registry spans) (held : Held alive spans)
    (hspan : span ∈ spans) {entry : SpanKey × Nat} (hentry : span.entry? = some entry) :
    registry.isLive alive entry.2 := by
  rw [isLive_eq, (h.kept span hspan entry hentry).2]
  exact held span hspan

theorem key_of_mem_endings (h : Hosts known handlers registry spans) (held : Held alive spans)
    {way : SpanKey → Option Fate} {notices : List SpanNotice}
    (hannounced : Announced alive way registry notices) {call : HandlerCall}
    (hcall : call ∈ endings notices) :
    call.context.key ∈ known ∨ way call.context.key ≠ none := by
  by_contra hneither
  rw [not_or, not_not] at hneither
  have hsilent : callsAbout call.context.key notices = [] := by
    apply hannounced.silent
    intro entry hentry hkey
    cases h.tracked entry hentry with
    | inl hknown =>
      rw [hkey] at hknown
      exact absurd hknown hneither.1
    | inr hown =>
      obtain ⟨span, hspan, hentry⟩ := hown
      rw [fate?_of_live (h.isLive held hspan hentry), hkey]
      exact hneither.2
  unfold callsAbout at hsilent
  rw [List.filter_eq_nil_iff] at hsilent
  exact hsilent call hcall (decide_eq_true rfl)

theorem callsBeyond_of_stay (h : Hosts known handlers registry spans) (held : Held alive spans)
    {notices : List SpanNotice} (hannounced : Announced alive stay registry notices) :
    callsBeyond known notices = [] := by
  unfold callsBeyond
  rw [List.filter_eq_nil_iff]
  intro call hcall
  cases h.key_of_mem_endings held hannounced hcall with
  | inl hknown => simpa using hknown
  | inr hway => exact absurd rfl hway

theorem callsBeyond_of_leave (h : Hosts known handlers registry spans) (held : Held alive spans)
    {key : SpanKey} (hkey : key ∉ known) {fate : Fate} {notices : List SpanNotice}
    (hannounced : Announced alive (leave key fate) registry notices) :
    callsBeyond known notices = callsAbout key notices := by
  unfold callsBeyond callsAbout
  apply List.filter_congr
  intro call hcall
  rw [decide_eq_decide]
  constructor
  . intro hunknown
    cases h.key_of_mem_endings held hannounced hcall with
    | inl hknown => exact absurd hknown hunknown
    | inr hway =>
      by_contra hother
      exact hway (if_neg hother)
  . intro heq
    rwa [heq]

theorem of_alike (h : Hosts known handlers registry spans) (halike : Alike other registry)
    (htracked : other.tracked = registry.tracked) : Hosts known handlers other spans where
  sound := h.sound.of_sublist halike.spans (by rw [htracked])
  active := halike.noop.trans h.active
  roles := halike.roles.trans h.roles
  distinct := h.distinct
  unknown := h.unknown
  tracked := by
    rw [htracked]
    exact h.tracked
  kept := by
    intro span hspan entry hentry
    rw [htracked, halike.source_eq]
    exact h.kept span hspan entry hentry

theorem cons_of_unrecorded (h : Hosts known handlers registry spans) (hplace : span.place = none)
    (hkey : span.key ∉ known) (hnew : ∀ other ∈ spans, span.key ≠ other.key) :
    Hosts known handlers registry (span :: spans) where
  sound := h.sound
  active := h.active
  roles := h.roles
  distinct := List.pairwise_cons.2 ⟨hnew, h.distinct⟩
  unknown := List.forall_mem_cons.2 ⟨hkey, h.unknown⟩
  tracked := fun entry hentry => accounted_cons (h.tracked entry hentry) span
  kept := by
    rw [List.forall_mem_cons]
    refine ⟨?_, h.kept⟩
    intro entry hentry
    rw [(SpanHandle.entry?_eq_some_iff.1 hentry).2] at hplace
    cases hplace

theorem of_cons_unrecorded (h : Hosts known handlers registry (span :: spans))
    (hplace : span.place = none) : Hosts known handlers registry spans where
  sound := h.sound
  active := h.active
  roles := h.roles
  distinct := h.distinct.of_cons
  unknown := (List.forall_mem_cons.1 h.unknown).2
  tracked := by
    intro entry hentry
    apply accounted_of_cons (h.tracked entry hentry)
    intro heq
    rw [SpanHandle.entry?_eq_some_iff, hplace] at heq
    cases heq.2
  kept := (List.forall_mem_cons.1 h.kept).2

theorem find?_sweep_eq_none (h : Hosts known handlers registry spans) (alive : Nat → Bool)
    {key : SpanKey} (hkey : key ∉ known) (hnew : ∀ span ∈ spans, key ≠ span.key) :
    (registry.sweep alive).1.find? key = none := by
  unfold find?
  rw [List.lookup_eq_none_iff]
  intro entry hentry
  rw [tracked_sweep] at hentry
  rw [bne_iff_ne]
  cases h.tracked entry (List.mem_of_mem_filter hentry) with
  | inl hknown =>
    intro heq
    rw [heq] at hkey
    exact hkey hknown
  | inr hown =>
    obtain ⟨span, hspan, hentry⟩ := hown
    rw [← (SpanHandle.entry?_eq_some_iff.1 hentry).1]
    exact hnew span hspan

end Hosts

theorem getOrCreate_of_none (parent : Option Snapshot) (source : ContextInstance)
    {context : Snapshot} (start : Bool)
    (hfind : (registry.sweep alive).1.find? context.key = none) :
    let made := registry.getOrCreate alive parent source context start
    made.1 = registry.pendings.length ∧
      made.2.1.tracked =
        (registry.sweep alive).1.tracked ++ [(context.key, registry.pendings.length)] ∧
      made.2.1.pendings.map PendingSpan.source =
        registry.pendings.map PendingSpan.source ++ [source] := by
  have halike := (alike_clockFor (registry.sweep alive).1 parent context).trans
    (alike_sweep alive registry)
  have hlength := halike.length_eq
  have hsources := congrArg (List.map Prod.fst) halike.spans
  rw [List.map_map, List.map_map] at hsources
  rw [getOrCreate_eq_track hfind]
  unfold track
  dsimp only
  rw [tracked_clockFor, hlength, List.map_append]
  exact ⟨rfl, rfl, congrArg (· ++ [source]) hsources⟩

theorem source_getOrCreate_of_none (parent : Option Snapshot) (source : ContextInstance)
    {context : Snapshot} (start : Bool)
    (hfind : (registry.sweep alive).1.find? context.key = none) :
    let made := registry.getOrCreate alive parent source context start
    made.2.1.pendings[made.1]?.map PendingSpan.source = some source := by
  intro made
  obtain ⟨hplace, _, hsources⟩ := getOrCreate_of_none parent source start hfind
  rw [← List.getElem?_map, hsources, hplace, ← List.length_map PendingSpan.source,
    List.getElem?_concat_length]

theorem Hosts.begin (h : Hosts known handlers registry spans) (held : Held alive spans)
    (parent : Option Snapshot) (source : ContextInstance) (context : Snapshot) (start : Bool)
    (hsource : source.context.key = context.key) (hkey : context.key ∉ known)
    (hnew : ∀ span ∈ spans, context.key ≠ span.key) :
    let made := registry.getOrCreate alive parent source context start
    Hosts known handlers made.2.1 (⟨source, some made.1⟩ :: spans) ∧
      callsBeyond known made.2.2 = [] := by
  intro made
  have heffect := h.sound.effect_getOrCreate alive parent source context start
  have hfind := h.find?_sweep_eq_none alive hkey hnew
  obtain ⟨hplace, htracked, hsources⟩ := getOrCreate_of_none parent source start hfind
  -- nothing is tracked under the key, so the span is new and has the last place
  have hentry : SpanHandle.entry? ⟨source, some made.1⟩ =
      some (context.key, registry.pendings.length) :=
    SpanHandle.entry?_eq_some_iff.2 ⟨hsource, congrArg some hplace⟩
  have hlast : made.2.1.pendings[registry.pendings.length]?.map PendingSpan.source =
      some source := by
    rw [← hplace]
    exact source_getOrCreate_of_none parent source start hfind
  have hothers : ∀ place < registry.pendings.length,
      made.2.1.pendings[place]?.map PendingSpan.source =
        registry.pendings[place]?.map PendingSpan.source := by
    intro place hplace
    rw [← List.getElem?_map, hsources, List.getElem?_append_left (by rwa [List.length_map]),
      List.getElem?_map]
  rw [← hsource] at hnew hkey
  refine ⟨⟨h.sound.of_effect heffect, heffect.noop.trans h.active, heffect.roles.trans h.roles,
    List.pairwise_cons.2 ⟨hnew, h.distinct⟩, List.forall_mem_cons.2 ⟨hkey, h.unknown⟩, ?_, ?_⟩,
    h.callsBeyond_of_stay held heffect.announced⟩
  . intro entry hmem
    rw [htracked, List.mem_append, List.mem_singleton, tracked_sweep] at hmem
    cases hmem with
    | inl hold => exact accounted_cons (h.tracked entry (List.mem_of_mem_filter hold)) _
    | inr hadded => exact .inr ⟨_, List.mem_cons_self .., by rw [hentry, hadded]⟩
  . rw [htracked, tracked_sweep, List.forall_mem_cons]
    refine ⟨?_, ?_⟩
    . intro entry hadded
      rw [Option.some.inj (hadded.symm.trans hentry)]
      exact ⟨List.mem_append_right _ (List.mem_singleton_self _), hlast⟩
    . intro span hspan entry hentry
      obtain ⟨hmem, hpending⟩ := h.kept span hspan entry hentry
      rw [hothers entry.2 (h.sound.place_lt hmem)]
      have hlive := h.isLive held hspan hentry
      exact ⟨List.mem_append_left _ (List.mem_filter.2 ⟨hmem, hlive⟩), hpending⟩

theorem Hosts.finish (h : Hosts known handlers registry (span :: spans))
    (held : Held alive (span :: spans)) (hplace : span.place.isSome) (context : Snapshot)
    (hcontext : context.key = span.key) (timestamp : Option UInt64) :
    let ended := registry.endSpan alive context (.finish timestamp)
    Hosts known handlers ended.1 spans ∧
      Passed handlers span.key .finished (callsBeyond known ended.2) := by
  intro ended
  obtain ⟨place, hplace⟩ := Option.isSome_iff_exists.1 hplace
  have hentry : span.entry? = some (span.key, place) :=
    SpanHandle.entry?_eq_some_iff.2 ⟨rfl, hplace⟩
  have hmem := (h.kept span (List.mem_cons_self ..) _ hentry).1
  have hlive := h.isLive held (List.mem_cons_self ..) hentry
  have hunknown := h.unknown span (List.mem_cons_self ..)
  have hapart := (List.pairwise_cons.1 h.distinct).1
  have heffect : Effect alive (leave context.key .finished) registry ended.1 ended.2 :=
    h.sound.effect_depart alive context .finished (alike_stamp timestamp) (fun _ _ => rfl) (by simp)
  have halike : Alike ended.1 registry :=
    alike_depart alive registry context .finished (alike_stamp timestamp)
  -- what is left was tracked, is alive, and is not the span that ends
  have htracked : ∀ entry, entry ∈ ended.1.tracked ↔
      entry ∈ registry.tracked ∧ registry.isLive alive entry.2 ∧ entry.1 ≠ span.key := by
    intro entry
    rw [← hcontext, tracked_endSpan, mem_untrack_sweep]
  refine ⟨⟨h.sound.of_effect heffect, heffect.noop.trans h.active, heffect.roles.trans h.roles,
    h.distinct.of_cons, (List.forall_mem_cons.1 h.unknown).2, ?_, ?_⟩, ?_⟩
  . intro entry hentry
    obtain ⟨hold, _, hkey⟩ := (htracked entry).1 hentry
    apply accounted_of_cons (h.tracked entry hold)
    intro heq
    exact hkey (SpanHandle.entry?_eq_some_iff.1 heq).1.symm
  . intro other hother entry hentry
    have hin := List.mem_cons_of_mem span hother
    obtain ⟨hold, hpending⟩ := h.kept other hin entry hentry
    refine ⟨(htracked entry).2 ⟨hold, h.isLive held hin hentry, ?_⟩, ?_⟩
    . rw [← (SpanHandle.entry?_eq_some_iff.1 hentry).1]
      exact (hapart other hother).symm
    . rw [halike.source_eq]
      exact hpending
  . rw [h.callsBeyond_of_leave held (hcontext ▸ hunknown) heffect.announced, hcontext]
    have hfate : registry.fate? alive (leave context.key .finished) (span.key, place) =
        some .finished := by
      rw [fate?_of_live hlive]
      exact if_pos hcontext.symm
    have htold := heffect.announced.told _ hmem .finished hfate
    exact passed_of_roles h.roles (htold.passed h.active (by simp))

end Registry

theorem TracerState.hosts_endSpan {state : TracerState} {alive : Nat → Bool} {known : List SpanKey}
    {handlers : List SpanHandler} {span : SpanHandle} {spans : List SpanHandle}
    (h : Registry.Hosts known handlers state.tracing.registry (span :: spans))
    (held : Registry.Held alive (span :: spans)) :
    let ended := state.endSpan alive span (.finish none)
    Registry.Hosts known handlers ended.tracing.registry spans ∧
      ∃ notices, ended.notices = state.notices ++ notices ∧
        FinishedInTurn known handlers ([span].filter fun span => !span.isNoop) notices := by
  intro ended
  cases hplace : span.place with
  | none =>
    have hended : ended = state := by
      dsimp only [ended]
      unfold endSpan
      rw [hplace]
    rw [hended]
    refine ⟨h.of_cons_unrecorded hplace, [], (List.append_nil _).symm, ?_⟩
    rw [List.filter_cons_of_neg (by simp [SpanHandle.isNoop, hplace])]
    exact .nil rfl
  | some place =>
    have hreal : span.place.isSome := by rw [hplace]; rfl
    obtain ⟨hregistry, hnotices⟩ := endSpan_of_isSome hreal alive state (.finish none)
    obtain ⟨hhosts, hpassed⟩ :=
      h.finish held hreal (state.heap.view span.source) rfl none
    rw [← hregistry] at hhosts
    refine ⟨hhosts, _, hnotices, ?_⟩
    rw [List.filter_cons_of_pos (by simp [SpanHandle.isNoop, hplace])]
    exact ⟨[_], .cons hpassed .nil, (List.flatten_singleton ..).symm⟩

end RequestTracing
