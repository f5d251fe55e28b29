import Mathlib
import RequestTracing.Proofs.Recorder.Chain
import RequestTracing.Recorder.Registry

/-!
This module contains the reports of a registry: which handlers are told when a span departs, and
that reporting changes nothing about the registry but what spans recorded and what handlers keep.
-/

namespace RequestTracing

inductive Fate where
  | removed
  | finished
  | flushed
  | abandoned
  | orphaned
  deriving DecidableEq

def Cause.fate : Cause → Fate
  | finished => .finished
  | flushed => .flushed
  | abandoned => .abandoned
  | orphaned => .orphaned

/--
The departure of a span, with what mattered then: whether handlers were switched off, and whether
one of them had asked for abandoned spans.
-/
structure Departure where
  fate : Fate
  noop : Bool
  optedIn : Bool
  deriving DecidableEq

namespace Departure

def ofChain (chain : HandlerChain) (fate : Fate) : Departure :=
  ⟨fate, chain.noop, chain.handlesAbandoned⟩

def cause? (departure : Departure) : Option Cause :=
  if departure.noop then
    none
  else
    match departure.fate with
    | .removed => none
    | .finished => some .finished
    | .flushed => some .flushed
    | .abandoned => if departure.optedIn then some .abandoned else none
    | .orphaned => some .orphaned

theorem cause?_of_noop {chain : HandlerChain} (h : chain.noop) (fate : Fate) :
    (ofChain chain fate).cause? = none :=
  if_pos h

theorem cause?_removed (chain : HandlerChain) : (ofChain chain .removed).cause? = none := by
  unfold cause?
  split
  . rfl
  . rfl

theorem cause?_abandoned {chain : HandlerChain} (h : chain.handlesAbandoned = false) :
    (ofChain chain .abandoned).cause? = none := by
  unfold cause? ofChain
  dsimp only
  rw [h]
  split
  . rfl
  . rfl

theorem cause?_of_not_noop {chain : HandlerChain} (h : chain.noop = false) {cause : Cause}
    (hoptedIn : cause = .abandoned → chain.handlesAbandoned) :
    (ofChain chain cause.fate).cause? = some cause := by
  unfold cause? ofChain
  dsimp only
  rw [if_neg (Bool.eq_false_iff.1 h)]
  cases cause with
  | abandoned => exact if_pos (hoptedIn rfl)
  | _ => rfl

end Departure

open SpanNotice (endings)

def Passed (handlers : List SpanHandler) (key : SpanKey) (cause : Cause)
    (calls : List HandlerCall) : Prop :=
  ∃ (context : Snapshot) (span : SpanData), context.key = key ∧
    Pass 0 (handlers.map SpanHandler.role) context cause span calls

/--
Holds for the calls that a departure amounts to: one pass of the handlers, or none.
-/
def Told (handlers : List SpanHandler) (key : SpanKey) (departure : Departure)
    (calls : List HandlerCall) : Prop :=
  match departure.cause? with
  | none => calls = []
  | some cause => Passed handlers key cause calls

def callsAbout (key : SpanKey) (notices : List SpanNotice) : List HandlerCall :=
  (endings notices).filter fun call => call.context.key = key

theorem callsAbout_append (key : SpanKey) (notices others : List SpanNotice) :
    callsAbout key (notices ++ others) = callsAbout key notices ++ callsAbout key others := by
  unfold callsAbout
  rw [SpanNotice.endings_append, List.filter_append]

theorem callsAbout_of_endings_eq_nil {notices : List SpanNotice} (h : endings notices = [])
    (key : SpanKey) : callsAbout key notices = [] := by
  unfold callsAbout
  rw [h]
  rfl

def PendingSpan.identity (pending : PendingSpan) : ContextInstance × Snapshot :=
  (pending.source, pending.context)

namespace Registry

theorem exists_pending_of_spans {registry other : Registry}
    (h : registry.pendings.map PendingSpan.identity = other.pendings.map PendingSpan.identity)
    {place : Nat} {pending : PendingSpan} (hplace : other.pendings[place]? = some pending) :
    ∃ p, registry.pendings[place]? = some p ∧ p.context = pending.context := by
  have heq := congrArg (fun identities => identities[place]?) h
  rw [List.getElem?_map, List.getElem?_map, hplace, Option.map_some] at heq
  obtain ⟨p, hp, hidentity⟩ := Option.map_eq_some_iff.1 heq
  exact ⟨p, hp, congrArg Prod.snd hidentity⟩

structure Alike (registry other : Registry) : Prop where
  spans : registry.pendings.map PendingSpan.identity = other.pendings.map PendingSpan.identity
  noop : registry.chain.noop = other.chain.noop
  roles : registry.chain.handlers.map SpanHandler.role =
    other.chain.handlers.map SpanHandler.role

variable {registry other third : Registry}

namespace Alike

theorem refl (registry : Registry) : Alike registry registry :=
  ⟨rfl, rfl, rfl⟩

theorem trans (h : Alike registry other) (h' : Alike other third) : Alike registry third :=
  ⟨h.spans.trans h'.spans, h.noop.trans h'.noop, h.roles.trans h'.roles⟩

theorem symm (h : Alike registry other) : Alike other registry :=
  ⟨h.spans.symm, h.noop.symm, h.roles.symm⟩

theorem length_eq (h : Alike registry other) :
    registry.pendings.length = other.pendings.length := by
  have := congrArg List.length h.spans
  rwa [List.length_map, List.length_map] at this

theorem exists_pending (h : Alike registry other) {place : Nat} {pending : PendingSpan}
    (hplace : other.pendings[place]? = some pending) :
    ∃ p, registry.pendings[place]? = some p ∧ p.context = pending.context :=
  exists_pending_of_spans h.spans hplace

theorem identity_eq (h : Alike registry other) (place : Nat) :
    registry.pendings[place]?.map PendingSpan.identity =
      other.pendings[place]?.map PendingSpan.identity := by
  rw [← List.getElem?_map, h.spans, List.getElem?_map]

theorem exists_source (h : Alike registry other) {place : Nat} {pending : PendingSpan}
    (hplace : registry.pendings[place]? = some pending) :
    ∃ p, other.pendings[place]? = some p ∧ pending.source = p.source := by
  have heq := h.identity_eq place
  rw [hplace, Option.map_some] at heq
  obtain ⟨p, hp, hidentity⟩ := Option.map_eq_some_iff.1 heq.symm
  exact ⟨p, hp, (congrArg Prod.fst hidentity).symm⟩

theorem departure_eq (h : Alike registry other) (fate : Fate) :
    Departure.ofChain registry.chain fate = Departure.ofChain other.chain fate := by
  unfold Departure.ofChain
  rw [h.noop, HandlerChain.handlesAbandoned_of_roles h.roles]

end Alike

theorem passed_of_roles {handlers others : List SpanHandler}
    (h : handlers.map SpanHandler.role = others.map SpanHandler.role) {key : SpanKey}
    {cause : Cause} {calls : List HandlerCall} (hpassed : Passed handlers key cause calls) :
    Passed others key cause calls := by
  unfold Passed at hpassed ⊢
  rwa [h] at hpassed

theorem told_of_roles {handlers others : List SpanHandler}
    (h : handlers.map SpanHandler.role = others.map SpanHandler.role) {key : SpanKey}
    {departure : Departure} {calls : List HandlerCall} (htold : Told handlers key departure calls) :
    Told others key departure calls := by
  unfold Told at htold ⊢
  split at htold
  . exact htold
  . exact passed_of_roles h htold

theorem map_pendings_edit {β : Type} {f : PendingSpan → β}
    (hf : ∀ (pending : PendingSpan) (span : SpanData), f { pending with span } = f pending)
    (registry : Registry) (place : Nat) (g : SpanData → SpanData) :
    (registry.edit place g).pendings.map f = registry.pendings.map f := by
  unfold edit
  apply List.ext_getElem?
  intro i
  rw [List.getElem?_map, List.getElem?_map, List.getElem?_modify]
  cases registry.pendings[i]? with
  | none => rfl
  | some pending =>
    by_cases h : place = i
    . simp [h, hf]
    . simp [h]

theorem alike_edit (registry : Registry) (place : Nat) (f : SpanData → SpanData) :
    Alike (registry.edit place f) registry where
  spans := map_pendings_edit (fun _ _ => rfl) registry place f
  noop := rfl
  roles := rfl

theorem alike_report (registry : Registry) (place : Nat) (context : Snapshot) (cause : Cause) :
    Alike (registry.report place context cause).1 registry := by
  unfold report
  split
  . exact Alike.refl registry
  . next pending h =>
    dsimp only
    refine (alike_edit _ place _).trans ⟨rfl, ?_, ?_⟩
    . exact registry.chain.noop_finish context cause pending.span
    . exact registry.chain.roles_finish context cause pending.span

theorem tracked_report (registry : Registry) (place : Nat) (context : Snapshot) (cause : Cause) :
    (registry.report place context cause).1.tracked = registry.tracked := by
  unfold report
  split
  . rfl
  . rfl

theorem told_of_mem_report {place : Nat} {context : Snapshot} {cause : Cause} {call : HandlerCall}
    (h : .call call ∈ (registry.report place context cause).2) :
    call.context = context ∧ call.occasion = .ending cause := by
  unfold report at h
  split at h
  . cases h
  . exact HandlerChain.told_of_mem_finish h

theorem told_of_mem_endings_report {place : Nat} {context : Snapshot} {cause : Cause}
    {call : HandlerCall} (h : call ∈ endings (registry.report place context cause).2) :
    call.context = context ∧ call.occasion = .ending cause :=
  told_of_mem_report (SpanNotice.mem_of_mem_endings h)

theorem callsAbout_report_of_ne {place : Nat} {context : Snapshot} {cause : Cause} {key : SpanKey}
    (h : context.key ≠ key) :
    callsAbout key (registry.report place context cause).2 = [] := by
  unfold callsAbout
  rw [List.filter_eq_nil_iff]
  intro call hcall
  rw [(told_of_mem_endings_report hcall).1]
  simpa using h

theorem callsAbout_report {place : Nat} {pending : PendingSpan}
    (hplace : registry.pendings[place]? = some pending) (context : Snapshot) (cause : Cause) :
    callsAbout context.key (registry.report place context cause).2 =
      endings (registry.chain.finish context cause pending.span).2.2 := by
  unfold callsAbout report
  rw [hplace]
  rw [List.filter_eq_self]
  intro call hcall
  rw [(HandlerChain.told_of_mem_endings_finish hcall).1]
  exact decide_eq_true rfl

theorem told_report {place : Nat} {pending : PendingSpan}
    (hplace : registry.pendings[place]? = some pending) (context : Snapshot) (cause : Cause)
    (hoptedIn : cause = .abandoned → registry.chain.handlesAbandoned) :
    Told registry.chain.handlers context.key (.ofChain registry.chain cause.fate)
      (callsAbout context.key (registry.report place context cause).2) := by
  rw [callsAbout_report hplace]
  unfold Told
  cases hnoop : registry.chain.noop with
  | true =>
    rw [Departure.cause?_of_noop hnoop]
    unfold HandlerChain.finish
    rw [if_pos hnoop]
    rfl
  | false =>
    rw [Departure.cause?_of_not_noop hnoop hoptedIn]
    exact ⟨context, pending.span, rfl, HandlerChain.pass_finish hnoop context cause pending.span⟩

theorem alike_reportOrphan (registry : Registry) (place : Nat) :
    Alike (registry.reportOrphan place).1 registry := by
  unfold reportOrphan
  split
  . exact Alike.refl registry
  . split
    . exact Alike.refl registry
    . next pending _ _ => exact alike_report registry place pending.context .orphaned

theorem tracked_reportOrphan (registry : Registry) (place : Nat) :
    (registry.reportOrphan place).1.tracked = registry.tracked := by
  unfold reportOrphan
  split
  . rfl
  . split
    . rfl
    . next pending _ _ => exact tracked_report registry place pending.context .orphaned

theorem callsAbout_reportOrphan_of_ne {place : Nat} {key : SpanKey}
    (h : ∀ pending, registry.pendings[place]? = some pending → pending.context.key ≠ key) :
    callsAbout key (registry.reportOrphan place).2 = [] := by
  unfold reportOrphan
  split
  . rfl
  . next pending hplace =>
    split
    . rfl
    . exact callsAbout_report_of_ne (h pending hplace)

theorem told_reportOrphan {place : Nat} {pending : PendingSpan}
    (hplace : registry.pendings[place]? = some pending) :
    Told registry.chain.handlers pending.context.key (.ofChain registry.chain .orphaned)
      (callsAbout pending.context.key (registry.reportOrphan place).2) := by
  unfold reportOrphan
  rw [hplace]
  dsimp only
  split
  . next hnoop =>
    unfold Told
    rw [Departure.cause?_of_noop hnoop]
    rfl
  . exact told_report hplace pending.context .orphaned (by simp)

theorem alike_reportOrphans (registry : Registry) (places : List Nat) :
    Alike (registry.reportOrphans places).1 registry := by
  induction places generalizing registry with
  | nil => exact Alike.refl registry
  | cons place places ih => exact (ih _).trans (alike_reportOrphan registry place)

theorem tracked_reportOrphans (registry : Registry) (places : List Nat) :
    (registry.reportOrphans places).1.tracked = registry.tracked := by
  induction places generalizing registry with
  | nil => rfl
  | cons place places ih => exact (ih _).trans (tracked_reportOrphan registry place)

theorem callsAbout_reportOrphans_of_ne {places : List Nat} {key : SpanKey}
    (h : ∀ place ∈ places, ∀ pending, registry.pendings[place]? = some pending →
      pending.context.key ≠ key) :
    callsAbout key (registry.reportOrphans places).2 = [] := by
  induction places generalizing registry with
  | nil => rfl
  | cons place places ih =>
    have hfirst := callsAbout_reportOrphan_of_ne (h place (List.mem_cons_self ..))
    have hlater : callsAbout key ((registry.reportOrphan place).1.reportOrphans places).2 = [] := by
      apply ih
      intro other hother pending hpending
      have ⟨p, hp, hcontext⟩ :=
        (alike_reportOrphan registry place).symm.exists_pending hpending
      rw [← hcontext]
      exact h other (List.mem_cons_of_mem place hother) p hp
    unfold reportOrphans
    dsimp only
    rw [callsAbout_append, hfirst, hlater]
    rfl

theorem told_reportOrphans {places : List Nat} (hnodup : places.Nodup) {key : SpanKey}
    {place : Nat} {pending : PendingSpan} (hmem : place ∈ places)
    (hplace : registry.pendings[place]? = some pending) (hkey : pending.context.key = key)
    (hunique : ∀ other ∈ places, ∀ p, registry.pendings[other]? = some p → p.context.key = key →
      other = place) :
    Told registry.chain.handlers key (.ofChain registry.chain .orphaned)
      (callsAbout key (registry.reportOrphans places).2) := by
  induction places generalizing registry pending with
  | nil => simp at hmem
  | cons first places ih =>
    rw [List.nodup_cons] at hnodup
    unfold reportOrphans
    dsimp only
    rw [callsAbout_append]
    -- no other orphan has the key, so the calls about it are those of the report on this place
    cases List.mem_cons.1 hmem with
    | inl heq =>
      have hlater : callsAbout key ((registry.reportOrphan first).1.reportOrphans places).2 = [] := by
        apply callsAbout_reportOrphans_of_ne
        intro other hother p hp hkeyp
        have ⟨q, hq, hcontext⟩ := (alike_reportOrphan registry first).symm.exists_pending hp
        have hsame := hunique other (List.mem_cons_of_mem first hother) q hq (by rw [hcontext, hkeyp])
        rw [hsame, heq] at hother
        exact hnodup.1 hother
      rw [hlater, List.append_nil, ← hkey, ← heq]
      exact told_reportOrphan hplace
    | inr hmem =>
      have hfirst : callsAbout key (registry.reportOrphan first).2 = [] := by
        apply callsAbout_reportOrphan_of_ne
        intro p hp hkeyp
        have hsame := hunique first (List.mem_cons_self ..) p hp hkeyp
        rw [hsame] at hnodup
        exact hnodup.1 hmem
      have halike := alike_reportOrphan registry first
      have ⟨q, hq, hcontext⟩ := halike.exists_pending hplace
      have htold := ih hnodup.2 hmem hq (by rw [hcontext, hkey]) (by
        intro other hother p hp hkeyp
        have ⟨r, hr, hsame⟩ := halike.symm.exists_pending hp
        exact hunique other (List.mem_cons_of_mem first hother) r hr (by rw [hsame, hkeyp]))
      rw [halike.departure_eq] at htold
      rw [hfirst, List.nil_append]
      exact told_of_roles halike.roles htold

end Registry

end RequestTracing
