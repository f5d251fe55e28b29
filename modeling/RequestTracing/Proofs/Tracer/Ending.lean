import Mathlib
import RequestTracing.Proofs.Recorder.Faithful
import RequestTracing.Proofs.Tracer.Run

/-!
This module contains what ending a span does when it was ended before. Main statement: it lets the
orphans go, as every operation does, and does no more, unless a new span came to be tracked under
the same identity in the meantime.
-/

namespace RequestTracing

namespace Registry

variable {registry other : Registry} {alive : Nat → Bool}

structure NewSince (registry : Registry) (count : Nat) (key : SpanKey) : Prop where
  le : count ≤ registry.pendings.length
  new : ∀ entry ∈ registry.tracked, entry.1 = key → count ≤ entry.2

def OrphanCall (alive : Nat → Bool) (registry : Registry) (call : HandlerCall) : Prop :=
  call.occasion = .ending .orphaned ∧ ∃ entry ∈ registry.tracked,
    ¬registry.isLive alive entry.2 ∧ ∃ pending,
      registry.pendings[entry.2]? = some pending ∧ call.context = pending.context

theorem NewSince.step {step : RegistryStep} {count : Nat} {key : SpanKey}
    (hsound : step.before.registry.Sound) (h : step.before.registry.NewSince count key) :
    step.after.registry.NewSince count key where
  le := h.le.trans (RegistryStep.length_le hsound)
  new := by
    intro entry hentry hkey
    cases RegistryStep.does hsound with
    | operation heffect =>
      rcases heffect.grown with ⟨_, htracked⟩ | ⟨source, context, _, htracked, _⟩
      . rw [htracked] at hentry
        exact h.new entry (List.mem_of_mem_filter hentry) hkey
      . rw [htracked, List.mem_append, List.mem_singleton] at hentry
        cases hentry with
        | inl hold => exact h.new entry (List.mem_of_mem_filter hold) hkey
        | inr hlast =>
          rw [hlast]
          exact h.le
    | quiet hspans hroles htracked hnotices =>
      rw [htracked] at hentry
      exact h.new entry hentry hkey

theorem NewSince.after {state : RegistryState} {count : Nat} {key : SpanKey}
    (hsound : state.registry.Sound) (h : state.registry.NewSince count key)
    (actions : List RegistryAction) : (state.after actions).registry.NewSince count key := by
  induction actions generalizing state with
  | nil => exact h
  | cons action actions ih =>
    have hbefore : (RegistryStep.mk state action).before.registry.Sound := hsound
    apply ih
    . apply RegistryStep.sound_after hbefore
    . apply NewSince.step hbefore h

theorem Leads.newSince {notices : List SpanNotice} (h : Leads registry other notices)
    (hsound : registry.Sound) {count : Nat} {key : SpanKey} (hnew : registry.NewSince count key) :
    other.NewSince count key := by
  rcases h fun _ => true with ⟨actions, hother, _⟩
  rw [← hother]
  apply NewSince.after hsound hnew

theorem mem_untrack_sweep {key : SpanKey} {entry : SpanKey × Nat} :
    entry ∈ ((registry.sweep alive).1.untrack key).tracked ↔
      entry ∈ registry.tracked ∧ registry.isLive alive entry.2 ∧ entry.1 ≠ key := by
  unfold untrack
  rw [tracked_sweep, List.mem_filter, List.mem_filter, decide_eq_true_eq, and_assoc]

theorem tracked_endSpan (alive : Nat → Bool) (registry : Registry) (context : Snapshot)
    (ending : SpanEnding) :
    (registry.endSpan alive context ending).1.tracked =
      ((registry.sweep alive).1.untrack context.key).tracked := by
  cases ending with
  | finish timestamp =>
    apply tracked_depart
    intro _ _
    rfl
  | abandon => apply tracked_abandon
  | flush =>
    apply tracked_depart
    intro _ _
    rfl

theorem newSince_endSpan (alive : Nat → Bool) (registry : Registry) (context : Snapshot)
    (ending : SpanEnding) :
    NewSince (registry.endSpan alive context ending).1
      (registry.endSpan alive context ending).1.pendings.length context.key where
  le := Nat.le_refl _
  new := by
    intro entry hentry hkey
    rw [tracked_endSpan, mem_untrack_sweep] at hentry
    exact absurd hkey hentry.2.2

theorem untrack_of_not_mem {key : SpanKey} (h : ∀ entry ∈ registry.tracked, entry.1 ≠ key) :
    registry.untrack key = registry := by
  have htracked : (registry.tracked.filter fun entry => entry.1 ≠ key) = registry.tracked := by
    rw [List.filter_eq_self]
    intro entry hentry
    rw [decide_eq_true_eq]
    exact h entry hentry
  unfold untrack
  rw [htracked]

theorem endSpan_eq_sweep {context : Snapshot}
    (h : ∀ entry ∈ registry.tracked, entry.1 ≠ context.key) (ending : SpanEnding) :
    registry.endSpan alive context ending = registry.sweep alive := by
  have hswept : ∀ entry ∈ (registry.sweep alive).1.tracked, entry.1 ≠ context.key := by
    intro entry hentry
    rw [tracked_sweep] at hentry
    exact h entry (List.mem_of_mem_filter hentry)
  have hfind : (registry.sweep alive).1.find? context.key = none := by
    unfold find?
    rw [List.lookup_eq_none_iff]
    intro entry hentry
    rw [bne_iff_ne]
    exact (hswept entry hentry).symm
  have huntrack := untrack_of_not_mem hswept
  -- flushing and finishing find no span to report, and abandoning finds none to take out
  have hdepart : ∀ cause prepare,
      registry.depart alive context cause prepare = registry.sweep alive := by
    intro cause prepare
    unfold depart
    rw [remove_eq, hfind, huntrack]
  cases ending with
  | finish timestamp => apply hdepart
  | abandon =>
    unfold endSpan abandon
    dsimp only
    split
    . apply hdepart
    . rw [remove_eq, huntrack]
  | flush => apply hdepart

theorem orphaned_of_mem_reportOrphan {place : Nat} {call : HandlerCall}
    (h : .call call ∈ (registry.reportOrphan place).2) :
    call.occasion = .ending .orphaned ∧
      ∃ pending, registry.pendings[place]? = some pending ∧ call.context = pending.context := by
  unfold reportOrphan at h
  split at h
  . cases h
  . next pending hpending =>
    split at h
    . cases h
    . cases List.mem_cons.1 h with
      | inl heq => cases heq
      | inr hmem =>
        have ⟨hcontext, hoccasion⟩ := told_of_mem_report hmem
        exact ⟨hoccasion, pending, hpending, hcontext⟩

theorem orphaned_of_mem_reportOrphans {places : List Nat} {call : HandlerCall}
    (h : .call call ∈ (registry.reportOrphans places).2) :
    call.occasion = .ending .orphaned ∧ ∃ place ∈ places, ∃ pending,
      registry.pendings[place]? = some pending ∧ call.context = pending.context := by
  induction places generalizing registry with
  | nil => cases h
  | cons place places ih =>
    cases List.mem_append.1 h with
    | inl hfirst =>
      have ⟨hoccasion, hpending⟩ := orphaned_of_mem_reportOrphan hfirst
      exact ⟨hoccasion, place, List.mem_cons_self .., hpending⟩
    | inr hlater =>
      rcases ih hlater with ⟨hoccasion, other, hother, p, hp, hcontext⟩
      -- the first report changed what was recorded, but no context
      have halike := (registry.alike_reportOrphan place).symm
      rcases halike.exists_pending hp with ⟨q, hq, hsame⟩
      exact ⟨hoccasion, other, List.mem_cons_of_mem place hother, q, hq, hcontext.trans hsame.symm⟩

theorem orphanCall_of_mem_sweep {call : HandlerCall}
    (h : .call call ∈ (registry.sweep alive).2) : OrphanCall alive registry call := by
  unfold sweep at h
  rcases orphaned_of_mem_reportOrphans h with ⟨hoccasion, place, hplace, hpending⟩
  rw [List.mem_map] at hplace
  rcases hplace with ⟨entry, hentry, heq⟩
  have ⟨htracked, hgone⟩ := mem_stale.1 hentry
  rw [← heq] at hpending
  exact ⟨hoccasion, entry, htracked, hgone, hpending⟩

theorem told_of_mem_depart {context : Snapshot} {cause : Cause}
    {prepare : Registry → Nat → Registry} {call : HandlerCall}
    (h : .call call ∈ (registry.depart alive context cause prepare).2) :
    OrphanCall alive registry call ∨ call.context = context ∧
      ∃ place, (registry.sweep alive).1.find? context.key = some place := by
  unfold depart at h
  rw [remove_eq] at h
  cases hfind : (registry.sweep alive).1.find? context.key with
  | none =>
    rw [hfind] at h
    exact .inl (orphanCall_of_mem_sweep h)
  | some place =>
    rw [hfind] at h
    cases List.mem_append.1 h with
    | inl hsweep => exact .inl (orphanCall_of_mem_sweep hsweep)
    -- the span itself is reported with the context that is given, not with the one it was made with
    | inr hreport => exact .inr ⟨(told_of_mem_report hreport).1, place, rfl⟩

theorem told_of_mem_endSpan {context : Snapshot} {ending : SpanEnding} {call : HandlerCall}
    (h : .call call ∈ (registry.endSpan alive context ending).2) :
    OrphanCall alive registry call ∨ call.context = context ∧
      ∃ place, (registry.sweep alive).1.find? context.key = some place := by
  cases ending with
  | finish timestamp => exact told_of_mem_depart h
  | abandon =>
    unfold endSpan abandon at h
    dsimp only at h
    split at h
    . exact told_of_mem_depart h
    . rw [remove_eq] at h
      exact .inl (orphanCall_of_mem_sweep h)
  | flush => exact told_of_mem_depart h

end Registry

theorem Tracing.sound_of_ofConfig {config : TracerConfig} {tracing : Tracing}
    (h : Tracing.ofConfig config = .ok tracing) : tracing.registry.Sound := by
  rw [Tracing.registry_of_ofConfig h]
  exact (Registry.faithful_ofHandlers _ _ _).toSound

namespace TracerState

theorem endSpan_of_isSome {span : SpanHandle} (h : span.place.isSome) (alive : Nat → Bool)
    (state : TracerState) (ending : SpanEnding) :
    let ended := state.tracing.registry.endSpan alive (state.heap.view span.source) ending
    (state.endSpan alive span ending).tracing.registry = ended.1 ∧
      (state.endSpan alive span ending).notices = state.notices ++ ended.2 := by
  rw [Option.isSome_iff_exists] at h
  rcases h with ⟨place, hplace⟩
  unfold endSpan
  rw [hplace]
  exact ⟨rfl, rfl⟩

/--
Once a span was ended through a handle, ending it again through that handle, of which a clone is
another copy, takes no live span out of tracking but one that came to be tracked under the same
identity since. Handlers are told about spans whose contexts are gone, as every operation tells
them, and about such a new span; where there is none, the operation is the sweep that each begins
with.
-/
theorem ended_for_good {config : TracerConfig} {tracing : Tracing}
    (hconfig : Tracing.ofConfig config = .ok tracing) (heap : Heap) (before : List TracingStep)
    {span : SpanHandle} (hreal : span.place.isSome) (ending : SpanEnding) (alive : Nat → Bool)
    (between : List TracingStep) (later : SpanEnding) (aliveLater : Nat → Bool) :
    let ended := ((TracerState.mk tracing heap []).after before).endSpan alive span ending
    let state := ended.after between
    let last := state.endSpan aliveLater span later
    let registry := state.tracing.registry
    let isNew := fun entry : SpanKey × Nat =>
      entry.1 = span.source.context.key ∧ ended.tracing.registry.pendings.length ≤ entry.2
    (∀ entry ∈ registry.tracked, registry.isLive aliveLater entry.2 → ¬isNew entry →
      entry ∈ last.tracing.registry.tracked) ∧
    (∃ notices, last.notices = state.notices ++ notices ∧ ∀ call, .call call ∈ notices →
      registry.OrphanCall aliveLater call ∨
        ∃ entry ∈ registry.tracked, isNew entry ∧ call.context.key = entry.1) ∧
    ((∀ entry ∈ registry.tracked, ¬isNew entry) →
      last.tracing.registry = (registry.sweep aliveLater).1) := by
  intro ended state last registry isNew
  have hstart : (TracerState.mk tracing heap []).tracing.registry.Sound :=
    Tracing.sound_of_ofConfig hconfig
  have ⟨_, _, hbefore⟩ := (TracerState.mk tracing heap []).leads_after before
  have ⟨_, _, hending⟩ :=
    Leads.endSpan alive ((TracerState.mk tracing heap []).after before) span ending
  have ⟨_, _, hbetween⟩ := ended.leads_after between
  have hended : ended.tracing.registry.Sound := hending.sound (hbefore.sound hstart)
  -- right after the first ending nothing is tracked under the key, so what is later came since
  have hnone : ended.tracing.registry.NewSince ended.tracing.registry.pendings.length
      span.source.context.key := by
    have hregistry := (endSpan_of_isSome hreal alive
      ((TracerState.mk tracing heap []).after before) ending).1
    dsimp only [ended]
    rw [hregistry]
    apply Registry.newSince_endSpan
  have hnew : registry.NewSince ended.tracing.registry.pendings.length span.source.context.key :=
    hbetween.newSince hended hnone
  have ⟨hregistry, hnotices⟩ := endSpan_of_isSome hreal aliveLater state later
  refine ⟨?_, ⟨_, hnotices, ?_⟩, ?_⟩
  . intro entry hentry hlive hold
    rw [hregistry, Registry.tracked_endSpan, Registry.mem_untrack_sweep]
    refine ⟨hentry, hlive, ?_⟩
    intro hkey
    exact hold ⟨hkey, hnew.new entry hentry hkey⟩
  . intro call hcall
    cases Registry.told_of_mem_endSpan hcall with
    | inl horphan => exact .inl horphan
    | inr htold =>
      rcases htold with ⟨hcontext, place, hfind⟩
      have hmem := (Registry.find?_sweep_eq_some hfind).1
      exact .inr ⟨_, hmem, ⟨rfl, hnew.new _ hmem rfl⟩, congrArg TraceContext.key hcontext⟩
  . intro hold
    have hfree : ∀ entry ∈ registry.tracked, entry.1 ≠ (state.heap.view span.source).key := by
      intro entry hentry hkey
      exact hold entry hentry ⟨hkey, hnew.new entry hentry hkey⟩
    rw [Registry.endSpan_eq_sweep hfree later] at hregistry
    exact hregistry

theorem ended_for_good_flushed :
    let alive := fun _ : Nat => true
    let config : TracerConfig :=
      ⟨"service", none, 0, .always, .counting, true, false, .fixed 1, .shared,
        [.memory "spans" false false []], []⟩
    let tracing : Tracing :=
      ⟨"service", .always, .counting, .shared, true, [],
        .ofHandlers (Tracing.template config) (Tracing.handlers config) (.fixed 1)⟩
    let create : Nat → SpanId → TracingStep := fun number spanId =>
      ⟨alive, .create (.toSpan ⟨number, ⟨⟨1⟩, spanId, none, none, .sampledYes, false, []⟩⟩)⟩
    let span : SpanHandle := ⟨⟨3, ⟨⟨1⟩, ⟨2⟩, none, some ⟨2⟩, .sampledYes, false, []⟩⟩, some 0⟩
    let before : TracerState := (TracerState.mk tracing ⟨3, []⟩ []).after [create 0 ⟨2⟩, create 1 ⟨3⟩]
    let state := (before.endSpan alive span (.finish none)).after [create 2 ⟨4⟩]
    Tracing.ofConfig config = .ok tracing ∧ span.place.isSome ∧
      state.tracing.registry.tracked.map (·.2) = [1, 2] ∧
      ∃ notices, (state.endSpan alive span .flush).notices = state.notices ++ notices ∧
        ∀ call, .call call ∉ notices := by
  intro alive config tracing create span before state
  have hconfig : Tracing.ofConfig config = .ok tracing := if_neg (by decide +kernel)
  have hreal : span.place.isSome := rfl
  have htracked : state.tracing.registry.tracked.map (·.2) = [1, 2] := by decide +kernel
  have hlive : ∀ entry ∈ state.tracing.registry.tracked,
      state.tracing.registry.isLive alive entry.2 := by
    decide +kernel
  have hold : ∀ entry ∈ state.tracing.registry.tracked, entry.1 ≠ span.source.context.key := by
    decide +kernel
  have ⟨_, ⟨notices, hnotices, hcalls⟩, _⟩ :=
    ended_for_good hconfig ⟨3, []⟩ [create 0 ⟨2⟩, create 1 ⟨3⟩] hreal (.finish none) alive
      [create 2 ⟨4⟩] .flush alive
  refine ⟨hconfig, hreal, htracked, notices, hnotices, ?_⟩
  intro call hcall
  rcases hcalls call hcall with ⟨_, entry, hentry, hgone, _⟩ | ⟨entry, hentry, hnew, _⟩
  . exact hgone (hlive entry hentry)
  . exact hold entry hentry hnew.1

/--
Two ways in which handlers are called when a span is finished for the second time: for a span that
came to be tracked under its identity after the first time, and for an orphan.
-/
theorem finish_again_calls_handlers :
    let alive := fun _ : Nat => true
    let config : TracerConfig :=
      ⟨"service", none, 0, .always, .counting, true, false, .fixed 1, .shared,
        [.memory "spans" false false []], []⟩
    let tracing : Tracing :=
      ⟨"service", .always, .counting, .shared, true, [],
        .ofHandlers (Tracing.template config) (Tracing.handlers config) (.fixed 1)⟩
    let source : Nat → SpanId → ContextInstance := fun number spanId =>
      ⟨number, ⟨⟨1⟩, spanId, none, none, .sampledYes, false, []⟩⟩
    let create : ContextInstance → TracingStep := fun source => ⟨alive, .create (.toSpan source)⟩
    let start : TracerState := ⟨tracing, ⟨2, []⟩, []⟩
    let span := (Tracer.toSpan alive (source 0 ⟨2⟩) start).1
    let finish : TracingStep := ⟨alive, .endSpan span (.finish none)⟩
    let reopened := start.after [create (source 0 ⟨2⟩), finish, create span.source]
    let reopenedLast := reopened.endSpan alive span (.finish none)
    let orphaned := start.after [create (source 0 ⟨2⟩), create (source 1 ⟨3⟩), finish]
    let orphanedLast :=
      orphaned.endSpan (fun number => number = span.source.number) span (.finish none)
    Tracing.ofConfig config = .ok tracing ∧ tracing.isNoop = false ∧ span.place = some 0 ∧
      reopened.tracing.registry.tracked.map (·.2) = [1] ∧
      reopenedLast.tracing.registry.tracked = [] ∧
      (SpanNotice.endings reopened.notices).length = 2 ∧
      (SpanNotice.endings reopenedLast.notices).length = 4 ∧
      orphaned.tracing.registry.tracked.map (·.2) = [1] ∧
      orphanedLast.tracing.registry.tracked = [] ∧
      (SpanNotice.endings orphaned.notices).length = 2 ∧
      (SpanNotice.endings orphanedLast.notices).length = 4 := by
  intro alive config tracing source create start span finish reopened reopenedLast orphaned
    orphanedLast
  have hconfig : Tracing.ofConfig config = .ok tracing := if_neg (by decide +kernel)
  refine ⟨hconfig, ?_⟩
  decide +kernel

end TracerState

end RequestTracing
