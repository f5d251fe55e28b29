import Mathlib
import RequestTracing.Proofs.Scope.Ambient
import RequestTracing.Proofs.Scope.Stack

/-!
This module contains runs of a thread that opens scopes and closes them in any order. Main
statement: what is current in a slot is the context of the scope of that slot that was opened last
and is still open, and the thread keeps a stack for the slot exactly while there is such a scope.
-/

namespace RequestTracing

variable {α : Type}

structure OpenScope (α : Type) where
  scope : Scope
  context : Option α

def Scope.position? (slot : Nat) : Scope → Option Nat
  | noop => none
  | stacked own position _ _ => if own = slot then some position else none

namespace OpenScope

def Overflowed (entry : OpenScope α) : Prop :=
  ∃ slot, entry.scope.position? slot = some ContextStack.overflowPosition

def latest (slot : Nat) (opened : List (OpenScope α)) : Option α :=
  (opened.find? fun entry => (entry.scope.position? slot).isSome).bind (·.context)

def place? (slot : Nat) (entry : OpenScope α) : Option (Nat × Option α) :=
  ((entry.scope.position? slot).filter (· ≠ ContextStack.overflowPosition)).map (·, entry.context)

def inSlot (slot : Nat) (opened : List (OpenScope α)) : List (Nat × Option α) :=
  opened.filterMap (place? slot)

theorem place?_of_none {slot : Nat} {entry : OpenScope α}
    (h : entry.scope.position? slot = none) : place? slot entry = none := by
  unfold place?
  rw [h]
  rfl

theorem place?_of_some {slot position : Nat} {entry : OpenScope α}
    (h : entry.scope.position? slot = some position) :
    place? slot entry =
      if position = ContextStack.overflowPosition then none
      else some (position, entry.context) := by
  unfold place?
  rw [h, Option.filter_some]
  by_cases hposition : position = ContextStack.overflowPosition
  . simp [hposition]
  . simp [hposition]

theorem position?_stacked_of_ne {own slot : Nat} (h : slot ≠ own) (position : Nat)
    (ticket : Option (Nat × Nat)) (decorations : List Decoration) :
    (Scope.stacked own position ticket decorations).position? slot = none :=
  if_neg (Ne.symm h)

theorem position?_stacked (slot position : Nat) (ticket : Option (Nat × Nat))
    (decorations : List Decoration) :
    (Scope.stacked slot position ticket decorations).position? slot = some position :=
  if_pos rfl

theorem inSlot_append (slot : Nat) (above below : List (OpenScope α)) :
    inSlot slot (above ++ below) = inSlot slot above ++ inSlot slot below :=
  List.filterMap_append

theorem inSlot_cons (slot : Nat) (entry : OpenScope α) (opened : List (OpenScope α)) :
    inSlot slot (entry :: opened) = (place? slot entry).toList ++ inSlot slot opened := by
  unfold inSlot
  rw [List.filterMap_cons]
  cases place? slot entry <;> rfl

theorem latest_inSlot {opened : List (OpenScope α)} (h : ∀ entry ∈ opened, ¬entry.Overflowed)
    (slot : Nat) :
    ContextStack.latest (inSlot slot opened) = latest slot opened ∧
      (inSlot slot opened = [] ↔ ∀ entry ∈ opened, entry.scope.position? slot = none) := by
  -- both parts at once, since a scope of another slot is passed over in either
  induction opened with
  | nil => simp [inSlot, latest, ContextStack.latest]
  | cons entry opened ih =>
    rw [inSlot_cons]
    specialize ih fun other hother => h other (List.mem_cons_of_mem entry hother)
    cases hposition : entry.scope.position? slot with
    | none =>
      rw [place?_of_none hposition, Option.toList_none, List.nil_append]
      refine ⟨?_, ?_⟩
      . rw [ih.1]
        unfold latest
        rw [List.find?_cons_of_neg (by simp [hposition])]
      . simpa [hposition] using ih.2
    | some position =>
      have hfits : position ≠ ContextStack.overflowPosition := by
        intro heq
        rw [heq] at hposition
        exact h entry (List.mem_cons_self ..) ⟨slot, hposition⟩
      rw [place?_of_some hposition, if_neg hfits]
      refine ⟨?_, ?_⟩
      . unfold latest
        rw [List.find?_cons_of_pos (by simp [hposition])]
        rfl
      . simp [hposition]

end OpenScope

namespace ContextStack

def Tracks (stack? : Option (ContextStack α)) (opened : List (Nat × Option α)) : Prop :=
  match stack? with
  | none => opened = []
  | some stack => opened ≠ [] ∧ stack.Holds opened

theorem Holds.tracks {stack : ContextStack α} {opened : List (Nat × Option α)}
    (h : stack.Holds opened) : Tracks (if stack.isEmpty then none else some stack) opened := by
  unfold Tracks
  by_cases hempty : stack.isEmpty
  . rw [if_pos hempty]
    exact h.isEmpty_iff.1 hempty
  . rw [if_neg hempty]
    exact ⟨fun hnil => hempty (h.isEmpty_iff.2 hnil), h⟩

theorem Tracks.holds {stack? : Option (ContextStack α)} {opened : List (Nat × Option α)}
    (h : Tracks stack? opened) : (stack?.getD .empty).Holds opened := by
  cases stack? with
  | none =>
    dsimp [Tracks] at h
    rw [h]
    exact .empty
  | some stack => exact h.2

end ContextStack

def ThreadState.Follows (thread : ThreadState α) (opened : List (OpenScope α)) : Prop :=
  ∀ slot, ContextStack.Tracks (thread.stack? slot) (OpenScope.inSlot slot opened)

/--
A run of a thread: what it comes to, and the open scopes, the last one first. Any instance may open
a scope, and any open scope may be the next to close.
-/
inductive ScopeRun (view : α → Snapshot) (first : Ambient α) :
    Ambient α → List (OpenScope α) → Prop where
  | start : ScopeRun view first first []
  | opening {ambient opened} (current : CurrentContext) (context : Option α) :
      ScopeRun view first ambient opened →
      ScopeRun view first (current.openScope view context ambient).2
        (⟨(current.openScope view context ambient).1, context⟩ :: opened)
  | closing {ambient entry} (above below : List (OpenScope α)) :
      ScopeRun view first ambient (above ++ entry :: below) →
      ScopeRun view first (CurrentContext.closeScope entry.scope ambient).2 (above ++ below)

variable {view : α → Snapshot} {first ambient : Ambient α} {opened : List (OpenScope α)}

theorem ContextStack.Tracks.openScope {slot : Nat}
    (h : Tracks (ambient.thread.stack? slot) (OpenScope.inSlot slot opened))
    (current : CurrentContext) (context : Option α) :
    Tracks ((current.openScope view context ambient).2.thread.stack? slot)
      (OpenScope.inSlot slot
        (⟨(current.openScope view context ambient).1, context⟩ :: opened)) := by
  obtain ⟨ticket, decorations, hscope⟩ := current.scope_openScope view context ambient
  rw [CurrentContext.stack?_openScope, ThreadState.stack?_setStack, hscope, OpenScope.inSlot_cons]
  by_cases hslot : slot = current.slot
  . subst hslot
    rw [if_pos rfl, OpenScope.place?_of_some (OpenScope.position?_stacked _ _ _ _)]
    have hstack : (current.stack ambient.thread).Holds _ := h.holds
    have hopened := hstack.openScope context
    by_cases hposition : ((current.stack ambient.thread).openScope context).value.1 =
        ContextStack.overflowPosition
    . rw [if_pos hposition] at hopened ⊢
      exact hopened.tracks
    . rw [if_neg hposition] at hopened ⊢
      exact hopened.tracks
  . rw [if_neg hslot, OpenScope.place?_of_none (OpenScope.position?_stacked_of_ne hslot _ _ _)]
    exact h

theorem ContextStack.Tracks.closeScope {slot : Nat} {entry : OpenScope α}
    {above below : List (OpenScope α)}
    (h : Tracks (ambient.thread.stack? slot) (OpenScope.inSlot slot (above ++ entry :: below))) :
    Tracks ((CurrentContext.closeScope entry.scope ambient).2.thread.stack? slot)
      (OpenScope.inSlot slot (above ++ below)) := by
  rw [OpenScope.inSlot_append, OpenScope.inSlot_cons] at h
  rw [OpenScope.inSlot_append]
  obtain ⟨scope, context⟩ := entry
  cases scope with
  | noop => exact h
  | stacked own position ticket decorations =>
    -- a close works on the slot of its scope alone
    by_cases hown : slot = own
    . subst hown
      rw [OpenScope.place?_of_some (OpenScope.position?_stacked _ _ _ _)] at h
      cases hstack : ambient.thread.stack? slot with
      | none =>
        rw [CurrentContext.stack?_closeScope_of_none ambient hstack, hstack]
        rw [hstack] at h
        obtain ⟨habove, hrest⟩ := List.append_eq_nil_iff.1 h
        obtain ⟨_, hbelow⟩ := List.append_eq_nil_iff.1 hrest
        exact List.append_eq_nil_iff.2 ⟨habove, hbelow⟩
      | some stack =>
        rw [CurrentContext.stack?_closeScope_of_some ambient hstack, ThreadState.stack?_setStack,
          if_pos rfl]
        rw [hstack] at h
        split at h
        . next hposition =>
          rw [hposition, ContextStack.close_overflowPosition]
          exact h.2.tracks
        . exact h.2.close.tracks
    . rw [OpenScope.place?_of_none (OpenScope.position?_stacked_of_ne hown _ _ _)] at h
      cases hstack : ambient.thread.stack? own with
      | none =>
        rw [CurrentContext.stack?_closeScope_of_none ambient hstack]
        exact h
      | some stack =>
        rw [CurrentContext.stack?_closeScope_of_some ambient hstack, ThreadState.stack?_setStack,
          if_neg hown]
        exact h

theorem ThreadState.Follows.openScope (h : ambient.thread.Follows opened)
    (current : CurrentContext) (context : Option α) :
    (current.openScope view context ambient).2.thread.Follows
      (⟨(current.openScope view context ambient).1, context⟩ :: opened) :=
  fun slot => (h slot).openScope current context

theorem ThreadState.Follows.closeScope {entry : OpenScope α} {above below : List (OpenScope α)}
    (h : ambient.thread.Follows (above ++ entry :: below)) :
    (CurrentContext.closeScope entry.scope ambient).2.thread.Follows (above ++ below) :=
  fun slot => (h slot).closeScope

theorem ScopeRun.follows (run : ScopeRun view first ambient opened)
    (fresh : first.thread.slots = []) : ambient.thread.Follows opened := by
  induction run with
  | start =>
    intro slot
    unfold ThreadState.stack?
    rw [fresh]
    rfl
  | opening current context _ ih => exact ih.openScope current context
  | closing above below _ ih => exact ih.closeScope

/--
Whatever the order in which scopes are closed, the context of the last one that is open is current,
and a slot without open scopes leaves nothing behind.
-/
theorem ScopeRun.get_eq_latest (run : ScopeRun view first ambient opened)
    (fresh : first.thread.slots = []) (fits : ∀ entry ∈ opened, ¬entry.Overflowed)
    (current : CurrentContext) :
    current.get ambient.thread = OpenScope.latest current.slot opened ∧
      ((ambient.thread.stack? current.slot).isSome ↔
        ∃ entry ∈ opened, (entry.scope.position? current.slot).isSome) := by
  have htracks := run.follows fresh current.slot
  obtain ⟨hlatest, hnone⟩ := OpenScope.latest_inSlot fits current.slot
  unfold CurrentContext.get ThreadState.current
  cases hstack : ambient.thread.stack? current.slot with
  | none =>
    rw [hstack] at htracks
    dsimp [ContextStack.Tracks] at htracks
    rw [← hlatest, htracks]
    have := hnone.1 htracks
    refine ⟨rfl, ?_⟩
    simpa using this
  | some stack =>
    rw [hstack] at htracks
    refine ⟨?_, ?_⟩
    . rw [← hlatest, Option.bind_some, htracks.2.current_eq]
    . have : ∃ entry ∈ opened, entry.scope.position? current.slot ≠ none := by
        by_contra hall
        apply htracks.1
        rw [hnone]
        simpa using hall
      simpa [Option.isSome_iff_ne_none] using this

theorem ScopeRun.get_eq_latest_out_of_order :
    ∃ (ambient : Ambient Nat) (scope : Scope),
      ScopeRun (fun _ => default) (.fresh "main") ambient [⟨scope, some 3⟩] ∧
      (Ambient.fresh "main" : Ambient Nat).thread.slots = [] ∧
      (∀ entry ∈ [(⟨scope, some 3⟩ : OpenScope Nat)], ¬entry.Overflowed) ∧
      CurrentContext.shared.get ambient.thread = some 3 ∧
      (ambient.thread.stack? CurrentContext.sharedSlot).isSome := by
  have run : ScopeRun (fun _ : Nat => default) (.fresh "main") (.fresh "main") [] := .start
  have run := run.opening .shared (some 1)
  have run := run.opening .shared (some 2)
  have run := run.opening .shared (some 3)
  have run := ScopeRun.closing [_] [_] run
  have run := ScopeRun.closing [_] [] run
  have fits : ∀ entry ∈ [(⟨.stacked 0 3 none [], some 3⟩ : OpenScope Nat)],
      ¬entry.Overflowed := by
    intro entry hentry
    rw [List.mem_singleton.1 hentry]
    intro hoverflow
    obtain ⟨slot, hslot⟩ := hoverflow
    simp [Scope.position?, ContextStack.overflowPosition] at hslot
  have h := ScopeRun.get_eq_latest run rfl fits .shared
  refine ⟨_, _, run, rfl, fits, h.1, h.2.2 ?_⟩
  exact ⟨_, List.mem_singleton_self _, rfl⟩

end RequestTracing
