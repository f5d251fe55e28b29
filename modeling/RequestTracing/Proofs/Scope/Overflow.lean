import Mathlib
import RequestTracing.Proofs.Scope.Nested

/-!
This module contains what comes of scopes for which there was no room. Main statement: closing one
changes no stack and nothing that is current, whatever was closed before, and only a strict instance
may refuse it. It does so exactly when no scope that got room is left open in the slot: the thread
keeps no stack then that could tell that the scope never was on it.
-/

namespace RequestTracing

variable {α : Type} {view : α → Snapshot} {first ambient : Ambient α} {opened : List (OpenScope α)}

theorem ContextStack.inOrder_overflowPosition (stack : ContextStack α) :
    stack.inOrder overflowPosition = true := by
  simp [inOrder]

namespace CurrentContext

theorem scope_of_full (view : α → Snapshot) (current : CurrentContext) (context : Option α)
    (h : ¬(current.stack ambient.thread).hasRoom) :
    ∃ ticket decorations,
      (current.openScope view context ambient).1 =
        .stacked current.slot ContextStack.overflowPosition ticket decorations ∧
      ticket.isSome = current.isStrict := by
  unfold stack at h
  unfold openScope Ambient.push ContextStack.openScope isStrict
  rw [if_neg h]
  cases current.register with
  | none => exact ⟨none, _, rfl, rfl⟩
  | some register => exact ⟨some _, _, rfl, rfl⟩

theorem fst_closeScope_of_none {slot : Nat} (h : ambient.thread.stack? slot = none)
    (position : Nat) (ticket : Option (Nat × Nat)) (decorations : List Decoration) :
    (closeScope (.stacked slot position ticket decorations) ambient).1 =
      closeFault position ticket false := by
  have hpop : (ambient.pop slot position).1 = false := by
    unfold Ambient.pop
    rw [h]
  rw [← hpop]
  rfl

variable (slot : Nat) (ticket : Option (Nat × Nat)) (decorations : List Decoration)

theorem stack?_closeScope_overflowPosition (h : ambient.thread.Follows opened) :
    (closeScope (.stacked slot ContextStack.overflowPosition ticket decorations)
      ambient).2.thread.stack? = ambient.thread.stack? := by
  funext other
  cases hstack : ambient.thread.stack? slot with
  | none => rw [stack?_closeScope_of_none ambient hstack]
  | some stack =>
    rw [stack?_closeScope_of_some ambient hstack, ThreadState.stack?_setStack,
      ContextStack.close_overflowPosition]
    split
    . next hother =>
      -- The stack is kept, as one that is tracked is not empty.
      have htracks := h slot
      rw [hstack] at htracks
      rw [hother, hstack, if_neg]
      intro hempty
      exact htracks.1 (htracks.2.isEmpty_iff.1 hempty)
    . rfl

theorem fst_closeScope_overflowPosition (h : ambient.thread.Follows opened) :
    (closeScope (.stacked slot ContextStack.overflowPosition ticket decorations) ambient).1 =
      if ticket.isSome ∧ ∀ other ∈ opened, other.place? slot = none then
        some ⟨ContextStack.overflowPosition⟩
      else
        none := by
  have htracks := h slot
  have hseats : OpenScope.inSlot slot opened = [] ↔
      ∀ other ∈ opened, other.place? slot = none := List.filterMap_eq_nil_iff
  cases hstack : ambient.thread.stack? slot with
  | none =>
    rw [hstack] at htracks
    have hnone := hseats.1 htracks
    rw [fst_closeScope_of_none hstack]
    unfold closeFault
    rw [Bool.not_false, Bool.and_true]
    exact if_congr (and_iff_left hnone).symm rfl rfl
  | some stack =>
    rw [hstack] at htracks
    rw [fst_closeScope hstack, ContextStack.inOrder_overflowPosition,
      if_neg fun hall => htracks.1 (hseats.2 hall.2)]
    simp [closeFault]

end CurrentContext

namespace ScopeRun

theorem exists_depth (run : ScopeRun view first ambient opened) (current : CurrentContext)
    (context : Option α) (more : Nat)
    (hfree : (current.stack ambient.thread).depth + more < ContextStack.overflowPosition) :
    ∃ last lastOpened, ScopeRun view first last lastOpened ∧
      (current.stack last.thread).depth = (current.stack ambient.thread).depth + more := by
  induction more with
  | zero => exact ⟨ambient, opened, run, rfl⟩
  | succ more ih =>
    obtain ⟨last, lastOpened, hrun, hdepth⟩ := ih (by omega)
    refine ⟨_, _, hrun.opening current context, ?_⟩
    have hroom : (current.stack last.thread).hasRoom := by
      unfold ContextStack.hasRoom
      rw [decide_eq_true_iff, hdepth]
      omega
    have hpushed : current.stack (current.openScope view context last).2.thread =
        (current.stack last.thread).push context := by
      have hstack := current.stack?_openScope_self view context last
      unfold ContextStack.openScope at hstack
      rw [if_pos hroom, Logged.value_pure] at hstack
      exact congrArg (Option.getD · .empty) hstack
    rw [hpushed]
    change (current.stack last.thread).depth + 1 = _
    omega

theorem exists_alone {entry : OpenScope α} {below : List (OpenScope α)}
    (run : ScopeRun view first ambient (entry :: below)) :
    ∃ last, ScopeRun view first last [entry] := by
  induction below generalizing ambient with
  | nil => exact ⟨ambient, run⟩
  | cons other below ih => exact ih (closing [entry] below run)

theorem exists_overflowed_alone (view : α → Snapshot) (fresh : first.thread.slots = [])
    (current : CurrentContext) (context : Option α) :
    ∃ before last, ¬(current.stack before.thread).hasRoom ∧
      ScopeRun view first last [⟨(current.openScope view context before).1, context⟩] := by
  have hdepth : (current.stack first.thread).depth = 0 := by
    unfold CurrentContext.stack ThreadState.stack?
    rw [fresh]
    rfl
  have run : ScopeRun view first first [] := .start
  obtain ⟨before, opened, hrun, hfull⟩ := run.exists_depth current context 65534 (by
    rw [hdepth]
    decide)
  obtain ⟨last, hlast⟩ := (hrun.opening current context).exists_alone
  refine ⟨before, last, ?_, hlast⟩
  unfold ContextStack.hasRoom
  rw [hfull, hdepth]
  decide

/--
Whatever was closed before, closing a scope for which there was no room changes no stack and nothing
that is current. Only a strict instance may fail on it, which happens exactly when all scopes that
are left open in its slot are such ones.
-/
theorem closeScope_overflowed (run : ScopeRun view first ambient opened)
    (fresh : first.thread.slots = []) (current : CurrentContext) (context : Option α)
    {before : Ambient α} (full : ¬(current.stack before.thread).hasRoom) :
    let closed := CurrentContext.closeScope (current.openScope view context before).1 ambient
    closed.2.thread.stack? = ambient.thread.stack? ∧
    (∀ access : CurrentContext, access.get closed.2.thread = access.get ambient.thread) ∧
    closed.1 =
      if current.isStrict ∧ ∀ other ∈ opened, other.place? current.slot = none then
        some ⟨ContextStack.overflowPosition⟩
      else
        none := by
  intro closed
  have hfollows := run.follows fresh
  obtain ⟨ticket, decorations, hscope, hticket⟩ := current.scope_of_full view context full
  have hstack : closed.2.thread.stack? = ambient.thread.stack? := by
    dsimp only [closed]
    rw [hscope, CurrentContext.stack?_closeScope_overflowPosition _ _ _ hfollows]
  refine ⟨hstack, ?_, ?_⟩
  . intro access
    unfold CurrentContext.get ThreadState.current
    rw [hstack]
  . dsimp only [closed]
    rw [hscope, CurrentContext.fst_closeScope_overflowPosition _ _ _ hfollows, hticket]

theorem closeScope_overflowed_shared :
    ∃ before last : Ambient Nat,
      let scope := (CurrentContext.shared.openScope (fun _ => default) (some 1) before).1
      ¬(CurrentContext.shared.stack before.thread).hasRoom ∧
      ScopeRun (fun _ => default) (.fresh "main") last [⟨scope, some 1⟩] ∧
      (CurrentContext.closeScope scope last).2.thread.stack? = last.thread.stack? ∧
      (CurrentContext.closeScope scope last).1 = none := by
  have fresh : (Ambient.fresh "main" : Ambient Nat).thread.slots = [] := rfl
  obtain ⟨before, last, hfull, run⟩ :=
    exists_overflowed_alone (fun _ => default) fresh .shared (some 1)
  obtain ⟨hstack, _, hfault⟩ := run.closeScope_overflowed fresh .shared (some 1) hfull
  refine ⟨before, last, hfull, run, hstack, ?_⟩
  rw [hfault]
  exact if_neg fun h => Bool.false_ne_true h.1

/--
A strict instance refuses the close after all other scopes.
-/
theorem overflowed_alone_refused :
    ∃ before last : Ambient Nat,
      let scope := ((CurrentContext.strict 0).openScope (fun _ => default) (some 1) before).1
      ¬((CurrentContext.strict 0).stack before.thread).hasRoom ∧
      ScopeRun (fun _ => default) ⟨.fresh "main", [.empty], []⟩ last [⟨scope, some 1⟩] ∧
      (CurrentContext.closeScope scope last).1 = some ⟨ContextStack.overflowPosition⟩ := by
  have fresh : (⟨.fresh "main", [.empty], []⟩ : Ambient Nat).thread.slots = [] := rfl
  obtain ⟨before, last, hfull, run⟩ :=
    exists_overflowed_alone (fun _ => default) fresh (.strict 0) (some 1)
  obtain ⟨ticket, decorations, hscope, hticket⟩ :=
    CurrentContext.scope_of_full (fun _ => default) (.strict 0) (some 1) hfull
  have hfollows := run.follows fresh
  refine ⟨before, last, hfull, run, ?_⟩
  rw [hscope] at hfollows ⊢
  rw [CurrentContext.fst_closeScope_overflowPosition _ _ _ hfollows, hticket]
  apply if_pos
  refine ⟨rfl, ?_⟩
  intro other hother
  rw [List.mem_singleton.1 hother, OpenScope.place?_of_some (OpenScope.position?_stacked ..),
    if_pos rfl]

end ScopeRun

end RequestTracing
