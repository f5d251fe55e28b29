import Mathlib
import RequestTracing.Scope.Stack

/-!
This module contains what the entries of a stack of contexts amount to. Every entry that is no gap
keeps the context of the open scope below it, and the top is never a gap. Opening a scope preserves
this, and so does closing one, wherever it lies.
-/

namespace RequestTracing.ContextStack

open Logged (value_pure value_bind)

variable {α : Type}

def latest (opened : List (Nat × Option α)) : Option α :=
  opened.head?.bind (·.2)

inductive Keeps : List (Option (Option α)) → List (Nat × Option α) → Prop where
  | nil : Keeps [] []
  | gap {saved opened} : Keeps saved opened → Keeps (none :: saved) opened
  | scope {saved opened} (context : Option α) : Keeps saved opened →
      Keeps (some (latest opened) :: saved) ((saved.length + 1, context) :: opened)

structure Holds (stack : ContextStack α) (opened : List (Nat × Option α)) : Prop where
  current_eq : stack.current = latest opened
  keeps : Keeps stack.saved opened
  top : stack.saved.head? ≠ some none
  bound : stack.depth < overflowPosition

theorem Keeps.position_bounds {saved : List (Option (Option α))} {opened : List (Nat × Option α)}
    (h : Keeps saved opened) : ∀ entry ∈ opened, 0 < entry.1 ∧ entry.1 ≤ saved.length := by
  induction h with
  | nil => simp
  | gap _ ih =>
    intro entry hentry
    have := ih entry hentry
    rw [List.length_cons]
    omega
  | scope context _ ih =>
    intro entry hentry
    rw [List.length_cons]
    cases List.mem_cons.1 hentry with
    | inl heq =>
      rw [heq]
      dsimp
      omega
    | inr hmem =>
      have := ih entry hmem
      omega

theorem Keeps.unwind {saved : List (Option (Option α))} {opened : List (Nat × Option α)}
    (h : Keeps saved opened) : Keeps (unwind saved) opened := by
  induction h with
  | nil => exact .nil
  | gap _ ih => simpa [ContextStack.unwind] using ih
  | scope context h _ => simpa [ContextStack.unwind] using h.scope context

theorem head?_unwind_ne (saved : List (Option (Option α))) : (unwind saved).head? ≠ some none := by
  intro h
  have := List.head?_dropWhile_not Option.isNone saved
  unfold unwind at h
  rw [h] at this
  simp at this

theorem Keeps.eq_nil_iff {saved : List (Option (Option α))} {opened : List (Nat × Option α)}
    (h : Keeps saved opened) (htop : saved.head? ≠ some none) : saved = [] ↔ opened = [] := by
  cases h with
  | nil => simp
  | gap => simp at htop
  | scope => simp

theorem vacate_gap (above : Nat) (below : List (Option (Option α))) :
    vacate (above + 1) (none :: below) =
      ((vacate above below).1, none :: (vacate above below).2) := by
  simp [vacate]

theorem vacate_of_some {above : Nat} {below : List (Option (Option α))} {kept : Option α}
    (h : (vacate above below).1 = some kept) (entry : Option α) :
    vacate (above + 1) (some entry :: below) =
      (none, some kept :: (vacate above below).2) := by
  simp only [vacate]
  generalize vacate above below = vacated at *
  obtain ⟨left, rest⟩ := vacated
  dsimp at h
  rw [h]

theorem vacate_of_none {above : Nat} {below : List (Option (Option α))}
    (h : (vacate above below).1 = none) (entry : Option α) :
    vacate (above + 1) (some entry :: below) =
      (none, some entry :: (vacate above below).2) := by
  simp only [vacate]
  generalize vacate above below = vacated at *
  obtain ⟨left, rest⟩ := vacated
  dsimp at h
  rw [h]

theorem Keeps.vacate {saved : List (Option (Option α))} {above below : List (Nat × Option α)}
    {position : Nat} {context : Option α} (h : Keeps saved (above ++ (position, context) :: below)) :
    (vacate (saved.length - position) saved).1 =
        (if above = [] then some (latest below) else none) ∧
      Keeps (vacate (saved.length - position) saved).2 (above ++ below) := by
  generalize hopened : above ++ (position, context) :: below = opened at h
  induction h generalizing above with
  | nil => simp at hopened
  | @gap saved opened h ih =>
    have hle : position ≤ saved.length :=
      (h.position_bounds (position, context) (by rw [← hopened]; simp)).2
    obtain ⟨hleft, hkeeps⟩ := ih hopened
    rw [List.length_cons, Nat.sub_add_comm hle, vacate_gap]
    exact ⟨hleft, hkeeps.gap⟩
  | @scope saved opened last h ih =>
    cases above with
    | nil =>
      simp only [List.nil_append, List.cons.injEq, Prod.mk.injEq] at hopened
      obtain ⟨⟨rfl, rfl⟩, rfl⟩ := hopened
      rw [List.length_cons, Nat.sub_self]
      exact ⟨rfl, h.gap⟩
    | cons entry above =>
      simp only [List.cons_append, List.cons.injEq] at hopened
      obtain ⟨rfl, hopened⟩ := hopened
      have hle : position ≤ saved.length :=
        (h.position_bounds (position, context) (by rw [← hopened]; simp)).2
      obtain ⟨hleft, hkeeps⟩ := ih hopened
      have hscope := hkeeps.scope last
      rw [length_vacate] at hscope
      rw [List.length_cons, Nat.sub_add_comm hle]
      cases above with
      | nil =>
        -- The entry above takes over what the closed scope kept: the context below both.
        rw [vacate_of_some hleft]
        exact ⟨rfl, hscope⟩
      | cons next above =>
        rw [vacate_of_none hleft, ← hopened]
        exact ⟨rfl, hscope⟩

theorem Holds.empty : Holds (.empty : ContextStack α) [] where
  current_eq := rfl
  keeps := .nil
  top := by simp [ContextStack.empty]
  bound := by simp [ContextStack.empty, overflowPosition]

theorem Holds.isEmpty_iff {stack : ContextStack α} {opened : List (Nat × Option α)}
    (h : stack.Holds opened) : stack.isEmpty ↔ opened = [] := by
  unfold isEmpty
  rw [Bool.and_eq_true, List.isEmpty_iff, h.keeps.eq_nil_iff h.top, h.current_eq]
  constructor
  . exact And.right
  . intro hnil
    simp [hnil, latest]

theorem Holds.push {stack : ContextStack α} {opened : List (Nat × Option α)}
    (h : stack.Holds opened) (hroom : stack.hasRoom) (context : Option α) :
    (stack.push context).Holds ((stack.depth + 1, context) :: opened) where
  current_eq := rfl
  keeps := by
    have := h.keeps.scope context
    rw [← h.current_eq, ← stack.depth_eq] at this
    exact this
  top := by simp [ContextStack.push]
  bound := by simpa [hasRoom, ContextStack.push] using hroom

theorem Holds.openScope {stack : ContextStack α} {opened : List (Nat × Option α)}
    (h : stack.Holds opened) (context : Option α) :
    (stack.openScope context).value.2.Holds
      (if (stack.openScope context).value.1 = overflowPosition then opened
        else ((stack.openScope context).value.1, context) :: opened) := by
  unfold ContextStack.openScope
  by_cases hroom : stack.hasRoom
  . have hlt : stack.depth + 1 < overflowPosition := by simpa [hasRoom] using hroom
    rw [if_pos hroom, value_pure, if_neg (Nat.ne_of_lt hlt)]
    exact h.push hroom context
  . rw [if_neg hroom, value_bind, value_pure, if_pos rfl]
    exact h

theorem Holds.pop {stack : ContextStack α} {opened : List (Nat × Option α)} {position : Nat}
    {context : Option α} (h : stack.Holds ((position, context) :: opened)) :
    position = stack.depth ∧ stack.pop.Holds opened := by
  obtain ⟨current, saved, depth, hdepth⟩ := stack
  obtain ⟨hcurrent, hkeeps, htop, hbound⟩ := h
  dsimp at *
  cases hkeeps with
  | gap => simp at htop
  | @scope saved _ _ hkeeps =>
    refine ⟨by simp [hdepth], rfl, hkeeps.unwind, head?_unwind_ne saved, ?_⟩
    simp only [ContextStack.pop]
    omega

theorem Holds.vacateAt {stack : ContextStack α} {above below : List (Nat × Option α)}
    {position : Nat} {context : Option α} (hcovered : above ≠ [])
    (h : stack.Holds (above ++ (position, context) :: below)) :
    position < stack.depth ∧ (stack.vacateAt position).Holds (above ++ below) := by
  obtain ⟨current, saved, depth, hdepth⟩ := stack
  obtain ⟨hcurrent, hkeeps, htop, hbound⟩ := h
  dsimp at *
  subst hdepth
  obtain ⟨entry, above, rfl⟩ := List.exists_cons_of_ne_nil hcovered
  -- a covered position lies below the top one, so the stack has an entry for it
  have hlt : position < saved.length := by
    cases hkeeps with
    | gap => simp at htop
    | scope _ hkeeps =>
      have := (hkeeps.position_bounds (position, context) (by simp)).2
      rw [List.length_cons]
      dsimp at this
      omega
  refine ⟨hlt, ?_, hkeeps.vacate.2, ?_, hbound⟩
  . rw [ContextStack.vacateAt, hcurrent]
    simp [latest]
  . cases hkeeps with
    | gap => simp at htop
    | @scope saved =>
      rw [List.length_cons] at hlt
      simp only [ContextStack.vacateAt, List.length_cons, Nat.sub_add_comm (Nat.le_of_lt_succ hlt)]
      cases hleft : (ContextStack.vacate (saved.length - position) saved).1 with
      | none => simp [vacate_of_none hleft]
      | some kept => simp [vacate_of_some hleft]

theorem Holds.position_ne_outside {stack : ContextStack α} {opened : List (Nat × Option α)}
    (h : stack.Holds opened) {entry : Nat × Option α} (hentry : entry ∈ opened) :
    ¬(entry.1 = 0 ∨ entry.1 = overflowPosition) := by
  have := h.keeps.position_bounds entry hentry
  have := h.bound
  have := stack.depth_eq
  omega

theorem Holds.inOrder_iff {stack : ContextStack α} {above below : List (Nat × Option α)}
    {position : Nat} {context : Option α}
    (h : stack.Holds (above ++ (position, context) :: below)) :
    stack.inOrder position ↔ above = [] := by
  have houtside : ¬(position = 0 ∨ position = overflowPosition) :=
    h.position_ne_outside (List.mem_append_right above (List.mem_cons_self ..))
  unfold inOrder place
  rw [if_neg houtside]
  cases above with
  | nil => simp [h.pop.1]
  | cons entry above =>
    have hposition := (h.vacateAt (List.cons_ne_nil _ _)).1
    rw [if_neg (by omega), if_neg (by omega)]
    simp [not_or.1 houtside]

theorem close_overflowPosition (stack : ContextStack α) :
    stack.close overflowPosition = stack := by
  unfold ContextStack.close place
  rw [if_pos (.inr rfl)]

theorem unwind_of_head?_ne {saved : List (Option (Option α))} (h : saved.head? ≠ some none) :
    unwind saved = saved ∧ gaps saved = 0 := by
  cases saved with
  | nil => exact ⟨rfl, rfl⟩
  | cons entry saved =>
    cases entry with
    | none => simp at h
    | some => exact ⟨rfl, rfl⟩

theorem pop_push {stack : ContextStack α} (h : stack.saved.head? ≠ some none)
    (context : Option α) : (stack.push context).pop = stack := by
  obtain ⟨hunwind, hgaps⟩ := unwind_of_head?_ne h
  cases stack
  simp [push, pop, hunwind, hgaps]

theorem close_openScope {stack : ContextStack α} (h : stack.saved.head? ≠ some none)
    (context : Option α) :
    (stack.openScope context).value.2.close (stack.openScope context).value.1 = stack ∧
      (stack.openScope context).value.2.inOrder (stack.openScope context).value.1 := by
  unfold ContextStack.openScope
  by_cases hroom : stack.hasRoom
  . have hlt : stack.depth + 1 < overflowPosition := by simpa [hasRoom] using hroom
    have hplace : (stack.push context).place (stack.depth + 1) = .innermost := by
      unfold place
      exact (if_neg (by omega)).trans (if_pos rfl)
    rw [if_pos hroom, value_pure]
    refine ⟨?_, by simp [inOrder, hplace]⟩
    unfold ContextStack.close
    rw [hplace]
    exact pop_push h context
  . rw [if_neg hroom, value_bind, value_pure]
    exact ⟨close_overflowPosition stack, rfl⟩

theorem Holds.close {stack : ContextStack α} {above below : List (Nat × Option α)}
    {position : Nat} {context : Option α}
    (h : stack.Holds (above ++ (position, context) :: below)) :
    (stack.close position).Holds (above ++ below) := by
  have houtside : ¬(position = 0 ∨ position = overflowPosition) :=
    h.position_ne_outside (List.mem_append_right above (List.mem_cons_self ..))
  unfold ContextStack.close place
  rw [if_neg houtside]
  cases above with
  | nil =>
    obtain ⟨hposition, hpop⟩ := h.pop
    rw [if_pos hposition]
    exact hpop
  | cons entry above =>
    obtain ⟨hposition, hvacate⟩ := h.vacateAt (List.cons_ne_nil _ _)
    rw [if_neg (by omega), if_neg (by omega)]
    exact hvacate

end RequestTracing.ContextStack
