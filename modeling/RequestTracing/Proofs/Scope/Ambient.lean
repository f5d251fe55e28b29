import Mathlib
import RequestTracing.Proofs.Lookup
import RequestTracing.Scope.Current

/-!
This module contains what opening and closing a scope does to the stacks of a thread: it replaces
the stack of its own slot and leaves all others alone, whatever decorators and registers do along
with it.
-/

namespace RequestTracing

variable {α : Type}

namespace ThreadState

theorem stack?_setStack (thread : ThreadState α) (slot other : Nat) (stack : ContextStack α) :
    (thread.setStack slot stack).stack? other =
      if other = slot then (if stack.isEmpty then none else some stack)
      else thread.stack? other := by
  unfold setStack stack?
  dsimp
  have hfilter := Lookup.lookup_filter_ne thread.slots slot other
  split
  . rw [hfilter]
  . by_cases hother : other = slot
    . simp [hother]
    . rw [Lookup.lookup_cons_ne hother, hfilter, if_neg hother, if_neg hother]

end ThreadState

namespace Ambient

@[simp]
theorem thread_note (ambient : Ambient α) (notice : ScopeNotice α) :
    (ambient.note notice).thread = ambient.thread := by
  rfl

@[simp]
theorem thread_log (ambient : Ambient α) (records : List LogRecord) :
    (ambient.log records).thread = ambient.thread := by
  unfold log
  induction records generalizing ambient with
  | nil => rfl
  | cons record records ih => rw [List.foldl_cons, ih, thread_note]

@[simp]
theorem thread_enter (ambient : Ambient α) (register : Option Nat) (label : String) :
    (ambient.enter register label).2.thread = ambient.thread := by
  cases register <;> rfl

@[simp]
theorem thread_strike (ambient : Ambient α) (register ticket : Nat) :
    (ambient.strike register ticket).thread = ambient.thread := by
  rfl

@[simp]
theorem slots_decorate (view : α → Snapshot) (context : Option α) (ambient : Ambient α)
    (decorator : ScopeDecorator) :
    (ambient.decorate view context decorator).2.thread.slots = ambient.thread.slots := by
  cases decorator with
  | report => rfl
  | correlation => rfl
  | loggingSpan =>
    cases context with
    | none => rfl
    | some => simp [decorate]

@[simp]
theorem slots_decorateAll (view : α → Snapshot) (context : Option α) (ambient : Ambient α)
    (decorators : List ScopeDecorator) :
    (ambient.decorateAll view context decorators).2.thread.slots = ambient.thread.slots := by
  induction decorators generalizing ambient with
  | nil => rfl
  | cons decorator decorators ih =>
    simp only [decorateAll]
    rw [ih, slots_decorate]

@[simp]
theorem slots_undo (ambient : Ambient α) (decoration : Decoration) :
    (ambient.undo decoration).thread.slots = ambient.thread.slots := by
  cases decoration with
  | loggingSpan => simp [undo]
  | _ => rfl

@[simp]
theorem slots_undoAll (ambient : Ambient α) (decorations : List Decoration) :
    (ambient.undoAll decorations).thread.slots = ambient.thread.slots := by
  induction decorations with
  | nil => rfl
  | cons decoration decorations ih => rw [undoAll, slots_undo, ih]

@[simp]
theorem registers_note (ambient : Ambient α) (notice : ScopeNotice α) :
    (ambient.note notice).registers = ambient.registers := by
  rfl

@[simp]
theorem registers_log (ambient : Ambient α) (records : List LogRecord) :
    (ambient.log records).registers = ambient.registers := by
  unfold log
  induction records generalizing ambient with
  | nil => rfl
  | cons record records ih => rw [List.foldl_cons, ih, registers_note]

@[simp]
theorem registers_pop (ambient : Ambient α) (slot position : Nat) :
    (ambient.pop slot position).2.registers = ambient.registers := by
  unfold pop
  split
  . rfl
  . rw [registers_log]

@[simp]
theorem registers_decorate (view : α → Snapshot) (context : Option α) (ambient : Ambient α)
    (decorator : ScopeDecorator) :
    (ambient.decorate view context decorator).2.registers = ambient.registers := by
  cases decorator with
  | report => rfl
  | correlation => rfl
  | loggingSpan =>
    cases context with
    | none => rfl
    | some => simp [decorate]

@[simp]
theorem registers_decorateAll (view : α → Snapshot) (context : Option α) (ambient : Ambient α)
    (decorators : List ScopeDecorator) :
    (ambient.decorateAll view context decorators).2.registers = ambient.registers := by
  induction decorators generalizing ambient with
  | nil => rfl
  | cons decorator decorators ih =>
    simp only [decorateAll]
    rw [ih, registers_decorate]

@[simp]
theorem registers_undo (ambient : Ambient α) (decoration : Decoration) :
    (ambient.undo decoration).registers = ambient.registers := by
  cases decoration with
  | loggingSpan => simp [undo]
  | _ => rfl

@[simp]
theorem registers_undoAll (ambient : Ambient α) (decorations : List Decoration) :
    (ambient.undoAll decorations).registers = ambient.registers := by
  induction decorations with
  | nil => rfl
  | cons decoration decorations ih => rw [undoAll, registers_undo, ih]

end Ambient

namespace CurrentContext

variable (view : α → Snapshot) (current : CurrentContext) (context : Option α) (ambient : Ambient α)

def stack (thread : ThreadState α) : ContextStack α :=
  (thread.stack? current.slot).getD .empty

theorem stack?_openScope (other : Nat) :
    (current.openScope view context ambient).2.thread.stack? other =
      (ambient.thread.setStack current.slot
        ((current.stack ambient.thread).openScope context).value.2).stack? other := by
  unfold ThreadState.stack? openScope Ambient.push stack
  simp

theorem scope_openScope :
    ∃ ticket decorations, (current.openScope view context ambient).1 =
      .stacked current.slot ((current.stack ambient.thread).openScope context).value.1 ticket
        decorations := by
  unfold openScope Ambient.push stack
  exact ⟨_, _, rfl⟩

theorem slots_closeScope (slot position : Nat) (ticket : Option (Nat × Nat))
    (decorations : List Decoration) :
    (closeScope (.stacked slot position ticket decorations) ambient).2.thread.slots =
      (ambient.pop slot position).2.thread.slots := by
  unfold closeScope
  cases ticket <;> simp

theorem stack?_closeScope_of_none {slot : Nat} (h : ambient.thread.stack? slot = none)
    (position : Nat) (ticket : Option (Nat × Nat)) (decorations : List Decoration) (other : Nat) :
    (closeScope (.stacked slot position ticket decorations) ambient).2.thread.stack? other =
      ambient.thread.stack? other := by
  unfold ThreadState.stack?
  rw [slots_closeScope]
  unfold Ambient.pop
  rw [h]

theorem stack?_closeScope_of_some {slot : Nat} {stack : ContextStack α}
    (h : ambient.thread.stack? slot = some stack) (position : Nat) (ticket : Option (Nat × Nat))
    (decorations : List Decoration) (other : Nat) :
    (closeScope (.stacked slot position ticket decorations) ambient).2.thread.stack? other =
      (ambient.thread.setStack slot (stack.close position)).stack? other := by
  unfold ThreadState.stack?
  rw [slots_closeScope]
  unfold Ambient.pop
  rw [h]
  simp

theorem fst_closeScope {slot : Nat} {stack : ContextStack α} {ambient : Ambient α}
    (h : ambient.thread.stack? slot = some stack) (position : Nat) (ticket : Option (Nat × Nat))
    (decorations : List Decoration) :
    (closeScope (.stacked slot position ticket decorations) ambient).1 =
      closeFault position ticket (stack.inOrder position) := by
  have hpop : (ambient.pop slot position).1 = stack.inOrder position := by
    unfold Ambient.pop
    rw [h]
  rw [← hpop]
  rfl

end CurrentContext

end RequestTracing
