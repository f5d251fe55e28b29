import Mathlib
import RequestTracing.Proofs.Scope.Ambient

/-!
This module contains what scopes do to the values that log lines of a thread carry. All the
decorators of an instance together copy one list of fields, and all that a scope keeps is one list
of values, in which the first entry for a name is what was found under it when the scope opened.
-/

namespace RequestTracing

variable {α : Type}

namespace CorrelationField

variable (context : Option Snapshot) (values : CorrelationValues) {name : String}

def write (field : CorrelationField) : CorrelationValues :=
  if values.get? field.name != field.target context then
    values.update field.name (field.target context)
  else
    values

def keep (field : CorrelationField) : List (String × Option String) :=
  if values.get? field.name != field.target context || field.dirty then
    [(field.name, values.get? field.name)]
  else
    []

theorem get?_write (field : CorrelationField) (name : String) :
    (write context values field).get? name =
      if name = field.name then field.target context else values.get? name := by
  unfold write
  split
  . rw [CorrelationValues.get?_update]
  . next hsame =>
    split
    . next hname =>
      rw [hname]
      simpa using hsame
    . rfl

theorem lookup_keep_of_ne {field : CorrelationField} (h : name ≠ field.name) :
    (keep context values field).lookup name = none := by
  unfold keep
  split
  . rw [Lookup.lookup_cons_ne h, List.lookup_nil]
  . rfl

theorem lookup_keep_self (field : CorrelationField) :
    (keep context values field).lookup field.name = some (values.get? field.name) ∨
      (keep context values field).lookup field.name = none ∧
        values.get? field.name = field.target context := by
  unfold keep
  split
  . exact .inl List.lookup_cons_self
  . next hsame =>
    simp only [Bool.or_eq_true, not_or, bne_iff_ne, not_not] at hsame
    exact .inr ⟨rfl, hsame.1⟩

theorem apply_cons (field : CorrelationField) (fields : List CorrelationField) :
    apply context values (field :: fields) =
      (keep context values field ++ (apply context (write context values field) fields).1,
        (apply context (write context values field) fields).2) := by
  rw [apply]
  unfold keep write
  dsimp only
  split <;> rfl

theorem apply_append (fields more : List CorrelationField) :
    apply context values (fields ++ more) =
      ((apply context values fields).1 ++
          (apply context (apply context values fields).2 more).1,
        (apply context (apply context values fields).2 more).2) := by
  induction fields generalizing values with
  | nil => rfl
  | cons field fields ih =>
    rw [List.cons_append, apply_cons, ih, apply_cons]
    dsimp only
    rw [List.append_assoc]

theorem lookup_apply (fields : List CorrelationField) (name : String) :
    (apply context values fields).1.lookup name = some (values.get? name) ∨
      (apply context values fields).1.lookup name = none ∧
        (apply context values fields).2.get? name = values.get? name := by
  induction fields generalizing values with
  | nil => exact .inr ⟨rfl, rfl⟩
  | cons field fields ih =>
    specialize ih (write context values field)
    rw [get?_write] at ih
    rw [apply_cons]
    dsimp only
    rw [List.lookup_append]
    by_cases hname : name = field.name
    . subst hname
      rw [if_pos rfl] at ih
      cases lookup_keep_self context values field with
      | inl hkept =>
        rw [hkept]
        exact .inl rfl
      | inr hkept =>
        rw [hkept.1, hkept.2, Option.none_or]
        exact ih
    . rw [if_neg hname] at ih
      rw [lookup_keep_of_ne context values hname, Option.none_or]
      exact ih

theorem restore_append (values : CorrelationValues) (kept more : List (String × Option String)) :
    restore values (kept ++ more) = restore (restore values more) kept := by
  induction kept with
  | nil => rfl
  | cons entry kept ih =>
    rw [List.cons_append, restore, ih]
    rfl

theorem get?_restore (values : CorrelationValues) (kept : List (String × Option String))
    (name : String) :
    (restore values kept).get? name = (kept.lookup name).getD (values.get? name) := by
  induction kept with
  | nil => rfl
  | cons entry kept ih =>
    obtain ⟨other, before⟩ := entry
    rw [restore, CorrelationValues.get?_update]
    by_cases h : name = other
    . rw [if_pos h, h, List.lookup_cons_self, Option.getD_some]
    . rw [if_neg h, ih, Lookup.lookup_cons_ne h]

theorem get?_restore_apply (fields : List CorrelationField) {later : CorrelationValues}
    (h : later.get? name = (apply context values fields).2.get? name) :
    (restore later (apply context values fields).1).get? name = values.get? name := by
  rw [get?_restore]
  cases lookup_apply context values fields name with
  | inl hkept => rw [hkept, Option.getD_some]
  | inr hkept => rw [hkept.1, Option.getD_none, h, hkept.2]

theorem get?_apply_of_forall {fields : List CorrelationField} {value : Option String}
    (h : ∀ field ∈ fields, field.name = name → field.target context = value)
    (hvalue : values.get? name = value) :
    (apply context values fields).2.get? name = value := by
  induction fields generalizing values with
  | nil => exact hvalue
  | cons field fields ih =>
    rw [apply_cons]
    apply ih _ fun other hother => h other (List.mem_cons_of_mem field hother)
    rw [get?_write]
    split
    . next hname => exact h field (List.mem_cons_self ..) hname.symm
    . exact hvalue

theorem get?_apply_of_mem {fields : List CorrelationField} {field : CorrelationField}
    (hmem : field ∈ fields)
    (h : ∀ other ∈ fields, other.name = field.name →
      other.target context = field.target context) :
    (apply context values fields).2.get? field.name = field.target context := by
  induction fields generalizing values with
  | nil => simp at hmem
  | cons first fields ih =>
    have hlater : ∀ other ∈ fields, other.name = field.name →
        other.target context = field.target context :=
      fun other hother => h other (List.mem_cons_of_mem first hother)
    rw [apply_cons]
    cases List.mem_cons.1 hmem with
    | inl heq =>
      apply get?_apply_of_forall context _ hlater
      rw [heq, get?_write, if_pos rfl]
    | inr hrest => exact ih _ hrest hlater

end CorrelationField

def Decoration.kept : Decoration → List (String × Option String)
  | .correlation kept => kept
  | _ => []

def ScopeDecorator.fields : ScopeDecorator → List CorrelationField
  | .correlation fields => fields
  | _ => []

namespace Ambient

@[simp]
theorem correlation_log (ambient : Ambient α) (records : List LogRecord) :
    (ambient.log records).thread.correlation = ambient.thread.correlation := by
  rw [thread_log]

@[simp]
theorem correlation_push (ambient : Ambient α) (slot : Nat) (context : Option α) :
    (ambient.push slot context).2.thread.correlation = ambient.thread.correlation := by
  unfold push
  rw [correlation_log]
  rfl

@[simp]
theorem correlation_pop (ambient : Ambient α) (slot position : Nat) :
    (ambient.pop slot position).2.thread.correlation = ambient.thread.correlation := by
  unfold pop
  split
  . rfl
  . rw [correlation_log]
    rfl

theorem decorate_correlation (view : α → Snapshot) (context : Option α) (ambient : Ambient α)
    (decorator : ScopeDecorator) :
    (ambient.decorate view context decorator).1.kept =
        (CorrelationField.apply (context.map view) ambient.thread.correlation
          decorator.fields).1 ∧
      (ambient.decorate view context decorator).2.thread.correlation =
        (CorrelationField.apply (context.map view) ambient.thread.correlation
          decorator.fields).2 := by
  cases decorator with
  | report => exact ⟨rfl, rfl⟩
  | correlation fields =>
    refine ⟨?_, rfl⟩
    unfold decorate ScopeDecorator.fields
    dsimp only
    split
    . next hnil =>
      rw [hnil]
      rfl
    . rfl
  | loggingSpan =>
    cases context with
    | none => exact ⟨rfl, rfl⟩
    | some context => exact ⟨rfl, correlation_log ..⟩

theorem decorateAll_correlation (view : α → Snapshot) (context : Option α) (ambient : Ambient α)
    (decorators : List ScopeDecorator) :
    (ambient.decorateAll view context decorators).1.flatMap Decoration.kept =
        (CorrelationField.apply (context.map view) ambient.thread.correlation
          (decorators.flatMap ScopeDecorator.fields)).1 ∧
      (ambient.decorateAll view context decorators).2.thread.correlation =
        (CorrelationField.apply (context.map view) ambient.thread.correlation
          (decorators.flatMap ScopeDecorator.fields)).2 := by
  induction decorators generalizing ambient with
  | nil => exact ⟨rfl, rfl⟩
  | cons decorator decorators ih =>
    obtain ⟨hkept, hvalues⟩ := ambient.decorate_correlation view context decorator
    obtain ⟨hrest, hlast⟩ := ih (ambient.decorate view context decorator).2
    rw [List.flatMap_cons, CorrelationField.apply_append, decorateAll]
    dsimp only
    rw [List.flatMap_cons, hkept, hrest, hlast, hvalues]
    exact ⟨rfl, rfl⟩

theorem correlation_undo (ambient : Ambient α) (decoration : Decoration) :
    (ambient.undo decoration).thread.correlation =
      CorrelationField.restore ambient.thread.correlation decoration.kept := by
  cases decoration with
  | loggingSpan => exact correlation_log ..
  | _ => rfl

theorem correlation_undoAll (ambient : Ambient α) (decorations : List Decoration) :
    (ambient.undoAll decorations).thread.correlation =
      CorrelationField.restore ambient.thread.correlation
        (decorations.flatMap Decoration.kept) := by
  induction decorations with
  | nil => rfl
  | cons decoration decorations ih =>
    rw [undoAll, correlation_undo, ih, List.flatMap_cons, CorrelationField.restore_append]

end Ambient

def Scope.kept : Scope → List (String × Option String)
  | noop => []
  | stacked _ _ _ decorations => decorations.flatMap Decoration.kept

namespace CurrentContext

def fields (current : CurrentContext) : List CorrelationField :=
  current.decorators.flatMap ScopeDecorator.fields

theorem openScope_correlation (view : α → Snapshot) (current : CurrentContext)
    (context : Option α) (ambient : Ambient α) :
    (current.openScope view context ambient).1.kept =
        (CorrelationField.apply (context.map view) ambient.thread.correlation
          current.fields).1 ∧
      (current.openScope view context ambient).2.thread.correlation =
        (CorrelationField.apply (context.map view) ambient.thread.correlation
          current.fields).2 := by
  unfold openScope Scope.kept fields
  dsimp only
  have h := Ambient.decorateAll_correlation view context
    ((ambient.push current.slot context).2.enter current.register
      (label (ambient.push current.slot context).2.thread.name (context.map view))).2
    current.decorators
  rw [Ambient.thread_enter, Ambient.correlation_push] at h
  exact h

theorem correlation_closeScope (scope : Scope) (ambient : Ambient α) :
    (closeScope scope ambient).2.thread.correlation =
      CorrelationField.restore ambient.thread.correlation scope.kept := by
  cases scope with
  | noop => rfl
  | stacked slot position ticket decorations =>
    unfold closeScope Scope.kept
    dsimp only
    rw [Ambient.correlation_undoAll]
    cases ticket with
    | none => rw [Ambient.correlation_pop]
    | some => rw [Ambient.thread_strike, Ambient.correlation_pop]

end CurrentContext

end RequestTracing
