import Mathlib
import RequestTracing.Proofs.Scope.Nested

/-!
This module contains how many scopes fit into a slot. A scope that is closed while scopes opened
later are open keeps its seat, which it gives up when the last scope above it closes. Main
statement: a scope becomes current exactly when a seat is left for it, and changes nothing
otherwise; only where scopes are closed in order are the seats taken those of the open scopes.
-/

namespace RequestTracing

variable {α : Type}

namespace ContextStack

def capacity : Nat :=
  65534

/--
The entries of a stack are the given seats, the last one first: the scope on it where a seat is that
of an open scope, and `none` where the scope was closed.
-/
inductive Seats (slot : Nat) : List (Option (Option α)) → List (Option Scope) → Prop where
  | nil : Seats slot [] []
  | closed {saved seats} : Seats slot saved seats → Seats slot (none :: saved) (none :: seats)
  | taken {saved seats} (kept : Option α) {scope : Scope} : Seats slot saved seats →
      scope.position? slot = some (saved.length + 1) →
      Seats slot (some kept :: saved) (some scope :: seats)

structure Seated (slot : Nat) (stack : ContextStack α) (seats : List (Option Scope)) : Prop where
  seats : Seats slot stack.saved seats
  top : stack.saved.head? ≠ some none
  bound : stack.depth < overflowPosition

variable {slot : Nat} {saved : List (Option (Option α))} {seats above below : List (Option Scope)}
  {scope : Scope} {stack : ContextStack α}

theorem Seats.length_eq (h : Seats slot saved seats) : saved.length = seats.length := by
  induction h with
  | nil => rfl
  | closed _ ih => rw [List.length_cons, List.length_cons, ih]
  | taken kept _ _ ih => rw [List.length_cons, List.length_cons, ih]

theorem Seats.unwind (h : Seats slot saved seats) :
    Seats slot (unwind saved) (seats.dropWhile Option.isNone) := by
  induction h with
  | nil => exact .nil
  | closed _ ih => exact ih
  | taken kept h hposition _ => exact h.taken kept hposition

theorem Seats.position?_eq (h : Seats slot saved (above ++ some scope :: below)) :
    scope.position? slot = some (below.length + 1) := by
  induction above generalizing saved with
  | nil =>
    cases h with
    | taken kept h hposition => rw [hposition, h.length_eq]
  | cons entry above ih =>
    cases h with
    | closed h => exact ih h
    | taken kept h _ => exact ih h

theorem Seats.vacate (h : Seats slot saved (above ++ some scope :: below)) :
    Seats slot (vacate above.length saved).2 (above ++ none :: below) := by
  induction above generalizing saved with
  | nil =>
    cases h with
    | taken kept h _ => exact h.closed
  | cons entry above ih =>
    rw [List.length_cons]
    cases h with
    | closed h =>
      rw [vacate_gap]
      exact (ih h).closed
    | @taken saved _ kept _ h hposition =>
      have hvacated := ih h
      rw [← length_vacate above.length saved] at hposition
      cases hleft : (ContextStack.vacate above.length saved).1 with
      | none =>
        rw [vacate_of_none hleft]
        exact hvacated.taken kept hposition
      | some handed =>
        rw [vacate_of_some hleft]
        exact hvacated.taken handed hposition

theorem Seated.empty : Seated slot (.empty : ContextStack α) [] where
  seats := .nil
  top := by simp [ContextStack.empty]
  bound := by simp [ContextStack.empty, overflowPosition]

theorem Seated.depth_eq (h : stack.Seated slot seats) : stack.depth = seats.length := by
  rw [stack.depth_eq, h.seats.length_eq]

theorem Seated.hasRoom_iff (h : stack.Seated slot seats) :
    stack.hasRoom ↔ seats.length < capacity := by
  unfold hasRoom capacity overflowPosition
  rw [h.depth_eq, decide_eq_true_iff]
  omega

theorem Seated.congr {other : ContextStack α} (h : stack.Seated slot seats)
    (hother : other.saved = stack.saved) : other.Seated slot seats where
  seats := hother ▸ h.seats
  top := hother ▸ h.top
  bound := by
    rw [other.depth_eq, hother, ← stack.depth_eq]
    exact h.bound

theorem Seated.push (h : stack.Seated slot seats) (hroom : stack.hasRoom) (context : Option α)
    (hscope : scope.position? slot = some (stack.depth + 1)) :
    (stack.push context).Seated slot (some scope :: seats) where
  seats := h.seats.taken stack.current (by rw [hscope, stack.depth_eq])
  top := by simp [ContextStack.push]
  bound := by simpa [hasRoom, ContextStack.push] using hroom

theorem Seated.head?_ne (h : stack.Seated slot seats) : seats.head? ≠ some none := by
  have hseats := h.seats
  have htop := h.top
  generalize stack.saved = saved at hseats htop
  cases hseats with
  | nil => simp
  | closed => simp at htop
  | taken => simp

theorem Seated.pop (h : stack.Seated slot (some scope :: below)) :
    stack.pop.Seated slot (below.dropWhile Option.isNone) := by
  obtain ⟨current, saved, depth, hdepth⟩ := stack
  obtain ⟨hseats, htop, hbound⟩ := h
  dsimp only at *
  cases hseats with
  | @taken saved _ kept _ hseats =>
    refine ⟨hseats.unwind, head?_unwind_ne saved, ?_⟩
    simp only [ContextStack.pop]
    omega

theorem Seated.vacateAt {first : Scope}
    (h : stack.Seated slot (some first :: above ++ some scope :: below)) :
    (stack.vacateAt (below.length + 1)).Seated slot (some first :: above ++ none :: below) := by
  have hdepth := h.depth_eq
  have hvacated := h.seats.vacate
  rw [List.length_append, List.length_cons (a := some scope)] at hdepth
  rw [← Nat.sub_eq_of_eq_add hdepth] at hvacated
  refine ⟨hvacated, ?_, h.bound⟩
  unfold ContextStack.vacateAt
  dsimp only
  generalize (ContextStack.vacate (stack.depth - (below.length + 1)) stack.saved).2 = saved at *
  cases hvacated with
  | taken => simp

theorem Seated.close_eq (h : stack.Seated slot (above ++ some scope :: below)) :
    stack.close (below.length + 1) =
      if above = [] then stack.pop else stack.vacateAt (below.length + 1) := by
  have hdepth := h.depth_eq
  have hbound := h.bound
  rw [List.length_append, List.length_cons] at hdepth
  unfold ContextStack.close place
  rw [if_neg (by omega)]
  cases above with
  | nil =>
    rw [List.length_nil] at hdepth
    rw [if_pos (by omega), if_pos rfl]
  | cons entry above =>
    rw [List.length_cons] at hdepth
    rw [if_neg (by omega), if_neg (by omega), if_neg (List.cons_ne_nil _ _)]

theorem Seated.close (h : stack.Seated slot (above ++ some scope :: below)) :
    (stack.close (below.length + 1)).Seated slot
      ((above ++ none :: below).dropWhile Option.isNone) := by
  rw [h.close_eq]
  cases above with
  | nil => exact h.pop
  | cons entry above =>
    rw [if_neg (List.cons_ne_nil _ _)]
    cases entry with
    | none => exact absurd rfl h.head?_ne
    | some first => exact h.vacateAt

theorem Seated.exists_stack {stack? : Option (ContextStack α)}
    (h : (stack?.getD .empty).Seated slot (above ++ some scope :: below)) :
    ∃ stack, stack? = some stack ∧ stack.Seated slot (above ++ some scope :: below) := by
  cases stack? with
  | none =>
    have hlength := h.seats.length_eq
    rw [List.length_append, List.length_cons] at hlength
    cases hlength
  | some stack => exact ⟨stack, rfl, h⟩

theorem Seated.current_close (hcovered : above ≠ [])
    (h : stack.Seated slot (above ++ some scope :: below)) :
    (stack.close (below.length + 1)).current = stack.current := by
  rw [h.close_eq, if_neg hcovered]
  rfl

end ContextStack

/--
A run of a thread as the seats of one slot know it: what it comes to, and the seats, the last one
first. Any instance of the slot may open a scope; it gets a seat if there is one. A scope that is
closed gives up its seat, unless scopes opened later are on seats above it. Closing a scope that got
no seat, and what happens elsewhere, makes no difference.
-/
inductive SeatedRun (slot : Nat) : Ambient α → List (Option Scope) → Prop where
  | start {ambient} : ambient.thread.stack? slot = none → SeatedRun slot ambient []
  | opening {ambient seats} (view : α → Snapshot) (current : CurrentContext)
      (context : Option α) :
      current.slot = slot → SeatedRun slot ambient seats →
      SeatedRun slot (current.openScope view context ambient).2
        (if seats.length < ContextStack.capacity then
          some (current.openScope view context ambient).1 :: seats
        else
          seats)
  | closing {ambient scope} (above below : List (Option Scope)) :
      SeatedRun slot ambient (above ++ some scope :: below) →
      SeatedRun slot (CurrentContext.closeScope scope ambient).2
        ((above ++ none :: below).dropWhile Option.isNone)
  | closingOverflowed {ambient seats} (scope : Scope) :
      scope.position? slot = some ContextStack.overflowPosition →
      SeatedRun slot ambient seats →
      SeatedRun slot (CurrentContext.closeScope scope ambient).2 seats
  | elsewhere {ambient seats} (other : Ambient α) :
      other.thread.stack? slot = ambient.thread.stack? slot →
      SeatedRun slot ambient seats → SeatedRun slot other seats

variable {slot : Nat} {ambient : Ambient α} {seats : List (Option Scope)}

theorem Scope.eq_stacked_of_position? {scope : Scope} {position : Nat}
    (h : scope.position? slot = some position) :
    ∃ ticket decorations, scope = .stacked slot position ticket decorations := by
  cases scope with
  | noop => cases h
  | stacked own _ ticket decorations =>
    by_cases hown : own = slot
    . subst hown
      rw [OpenScope.position?_stacked] at h
      exact ⟨ticket, decorations, by rw [Option.some.inj h]⟩
    . rw [OpenScope.position?_stacked_of_ne (Ne.symm hown)] at h
      cases h

theorem CurrentContext.closeScope_stack (ambient : Ambient α) {scope : Scope} {position : Nat}
    (h : scope.position? slot = some position) {stack : ContextStack α}
    (hstack : ambient.thread.stack? slot = some stack) :
    (((closeScope scope ambient).2.thread.stack? slot).getD .empty).saved =
        (stack.close position).saved ∧
      (closeScope scope ambient).2.thread.current slot = (stack.close position).current := by
  obtain ⟨ticket, decorations, rfl⟩ := Scope.eq_stacked_of_position? h
  unfold ThreadState.current
  rw [stack?_closeScope_of_some ambient hstack, ThreadState.stack?_setStack, if_pos rfl]
  split
  . next hempty =>
    unfold ContextStack.isEmpty at hempty
    rw [Bool.and_eq_true, List.isEmpty_iff, Option.isNone_iff_eq_none] at hempty
    rw [hempty.1, hempty.2]
    exact ⟨rfl, rfl⟩
  . exact ⟨rfl, rfl⟩

namespace SeatedRun

theorem seated (run : SeatedRun slot ambient seats) :
    ((ambient.thread.stack? slot).getD .empty).Seated slot seats := by
  induction run with
  | start h =>
    rw [h]
    exact .empty
  | @opening ambient seats view current context hslot _ ih =>
    subst hslot
    obtain ⟨ticket, decorations, hscope⟩ := current.scope_openScope view context ambient
    rw [CurrentContext.stack?_openScope_self, Option.getD_some, hscope]
    unfold CurrentContext.stack ContextStack.openScope
    split
    . next hroom =>
      rw [if_pos (ih.hasRoom_iff.1 hroom), Logged.value_pure]
      exact ih.push hroom context (OpenScope.position?_stacked _ _ _ _)
    . next hroom =>
      rw [if_neg fun hfree => hroom (ih.hasRoom_iff.2 hfree), Logged.value_bind, Logged.value_pure]
      exact ih
  | @closing ambient scope above below _ ih =>
    obtain ⟨stack, hstack, hseated⟩ := ih.exists_stack
    exact hseated.close.congr
      (CurrentContext.closeScope_stack ambient hseated.seats.position?_eq hstack).1
  -- a scope without a seat closes at a position that no stack has
  | @closingOverflowed ambient seats scope hscope _ ih =>
    cases hstack : ambient.thread.stack? slot with
    | none =>
      obtain ⟨ticket, decorations, rfl⟩ := Scope.eq_stacked_of_position? hscope
      rw [CurrentContext.stack?_closeScope_of_none ambient hstack]
      exact ih
    | some stack =>
      rw [hstack] at ih
      apply ih.congr
      rw [(CurrentContext.closeScope_stack ambient hscope hstack).1,
        ContextStack.close_overflowPosition]
      rfl
  | elsewhere other hstack _ ih =>
    rw [hstack]
    exact ih

theorem current_closeScope {scope : Scope} {above below : List (Option Scope)}
    (run : SeatedRun slot ambient (above ++ some scope :: below)) (hcovered : above ≠ []) :
    (CurrentContext.closeScope scope ambient).2.thread.current slot =
      ambient.thread.current slot := by
  obtain ⟨stack, hstack, hseated⟩ := run.seated.exists_stack
  rw [(CurrentContext.closeScope_stack ambient hseated.seats.position?_eq hstack).2,
    hseated.current_close hcovered]
  unfold ThreadState.current
  rw [hstack]
  rfl

variable (view : α → Snapshot) (current : CurrentContext)

theorem hasRoom_iff (run : SeatedRun current.slot ambient seats) :
    (current.stack ambient.thread).hasRoom ↔ seats.length < ContextStack.capacity :=
  ContextStack.Seated.hasRoom_iff run.seated

theorem position?_openScope (context : Option α) (ambient : Ambient α) :
    (current.openScope view context ambient).1.position? current.slot =
      some ((current.stack ambient.thread).openScope context).value.1 := by
  obtain ⟨ticket, decorations, hscope⟩ := current.scope_openScope view context ambient
  rw [hscope, OpenScope.position?_stacked]

theorem openScope_of_free (run : SeatedRun current.slot ambient seats) (context : Option α)
    (hfree : seats.length < ContextStack.capacity) :
    current.get (current.openScope view context ambient).2.thread = context ∧
      (current.openScope view context ambient).1.position? current.slot =
        some (seats.length + 1) := by
  have hroom := (run.hasRoom_iff current).2 hfree
  have hget := current.get_openScope view context ambient
  rw [if_pos hroom] at hget
  have hdepth : (current.stack ambient.thread).depth = seats.length := run.seated.depth_eq
  refine ⟨hget, ?_⟩
  rw [position?_openScope]
  unfold ContextStack.openScope
  rw [if_pos hroom, Logged.value_pure, hdepth]

theorem openScope_of_full (run : SeatedRun current.slot ambient seats) (context : Option α)
    (hfull : ContextStack.capacity ≤ seats.length) :
    (current.openScope view context ambient).2.thread.stack? = ambient.thread.stack? ∧
      current.get (current.openScope view context ambient).2.thread =
        current.get ambient.thread ∧
      (current.openScope view context ambient).1.position? current.slot =
        some ContextStack.overflowPosition := by
  have hroom : ¬(current.stack ambient.thread).hasRoom :=
    fun hroom => absurd ((run.hasRoom_iff current).1 hroom) (Nat.not_lt_of_le hfull)
  have hget := current.get_openScope view context ambient
  rw [if_neg hroom] at hget
  refine ⟨?_, hget, ?_⟩
  . funext other
    rw [CurrentContext.stack?_openScope, ThreadState.stack?_setStack,
      ContextStack.isEmpty_openScope, if_neg Bool.false_ne_true]
    split
    . next hother =>
      subst hother
      unfold CurrentContext.stack ContextStack.openScope at *
      rw [if_neg hroom, Logged.value_bind, Logged.value_pure]
      cases hstack : ambient.thread.stack? current.slot with
      | none =>
        rw [hstack] at hroom
        exact absurd rfl hroom
      | some stack => rfl
    . rfl
  . rw [position?_openScope]
    unfold ContextStack.openScope
    rw [if_neg hroom, Logged.value_bind, Logged.value_pure]

/--
A scope takes effect exactly while a seat is free: its context is current then. Otherwise no stack
changes, and closing the scope will change nothing either. A seat is taken by each open scope that
got one, and by each closed one on top of which there still is an open scope.
-/
theorem takes_effect_iff_seat (run : SeatedRun slot ambient seats) (own : current.slot = slot)
    (context : Option α) :
    let opened := current.openScope view context ambient
    (seats.length < ContextStack.capacity →
      current.get opened.2.thread = context ∧
        opened.1.position? slot = some (seats.length + 1)) ∧
    (ContextStack.capacity ≤ seats.length →
      opened.2.thread.stack? = ambient.thread.stack? ∧
        current.get opened.2.thread = current.get ambient.thread ∧
        opened.1.position? slot = some ContextStack.overflowPosition) := by
  intro opened
  subst own
  refine ⟨?_, ?_⟩
  . intro hfree
    exact run.openScope_of_free view current context hfree
  . intro hfull
    exact run.openScope_of_full view current context hfull

theorem takes_effect_iff_seat_out_of_order :
    ∃ (ambient : Ambient Nat) (seats : List (Option Scope)),
      SeatedRun CurrentContext.sharedSlot ambient seats ∧ seats.length = 2 ∧
      seats.length < ContextStack.capacity ∧
      CurrentContext.shared.get (CurrentContext.shared.openScope (fun _ => default) (some 3)
        ambient).2.thread = some 3 := by
  have run : SeatedRun CurrentContext.sharedSlot (.fresh "main" : Ambient Nat) [] := .start rfl
  have run := run.opening (fun _ => default) .shared (some 1) rfl
  have run := run.opening (fun _ => default) .shared (some 2) rfl
  have run := SeatedRun.closing [some _] [] run
  have heffect := (run.takes_effect_iff_seat (fun _ => default) .shared rfl (some 3)).1 (by decide)
  exact ⟨_, _, run, rfl, by decide, heffect.1⟩

include view in
theorem openMany (run : SeatedRun current.slot ambient seats) (context : Option α) (more : Nat)
    (hfree : seats.length + more < ContextStack.capacity) :
    ∃ (last : Ambient α) (opened : List Scope), opened.length = more + 1 ∧
      SeatedRun current.slot last (opened.map some ++ seats) ∧
      current.get last.thread = context := by
  induction more with
  | zero =>
    have hopened := run.opening view current context rfl
    rw [if_pos (by omega)] at hopened
    exact ⟨_, [_], rfl, hopened, (run.openScope_of_free view current context hfree).1⟩
  | succ more ih =>
    obtain ⟨last, opened, hlength, hrun, _⟩ := ih (by omega)
    have hfree : (opened.map some ++ seats).length < ContextStack.capacity := by
      rw [List.length_append, List.length_map, hlength]
      omega
    have hopened := hrun.opening view current context rfl
    rw [if_pos hfree] at hopened
    refine ⟨_, _ :: opened, ?_, hopened, (hrun.openScope_of_free view current context hfree).1⟩
    rw [List.length_cons, hlength]

/--
There are 65,533 open scopes, but one more was closed below them.
-/
theorem no_effect_with_covered_seat :
    ∃ (ambient : Ambient Nat) (seats : List (Option Scope)),
      SeatedRun CurrentContext.sharedSlot ambient seats ∧
      seats.countP Option.isSome < ContextStack.capacity ∧
      CurrentContext.shared.get (CurrentContext.shared.openScope (fun _ => default) (some 2)
        ambient).2.thread = some 1 := by
  have run : SeatedRun CurrentContext.sharedSlot (.fresh "main" : Ambient Nat) [] := .start rfl
  have run := run.opening (fun _ => default) .shared (some 0) rfl
  obtain ⟨last, opened, hlength, hrun, hget⟩ :=
    run.openMany (fun _ => default) .shared (some 1) 65532 (by decide)
  have hcovered : opened.map some ≠ [] := by
    intro hnil
    rw [List.map_eq_nil_iff.1 hnil] at hlength
    cases hlength
  have hclosed := SeatedRun.closing (opened.map some) [] hrun
  have hkept : (opened.map some ++ [none]).dropWhile Option.isNone = opened.map some ++ [none] := by
    cases opened with
    | nil => cases hlength
    | cons scope opened => rfl
  rw [hkept] at hclosed
  have hfull := hclosed.openScope_of_full (fun _ => default) .shared (some 2) (by
    rw [List.length_append, List.length_map, hlength]
    decide)
  refine ⟨_, _, hclosed, ?_, ?_⟩
  . have hcount := List.countP_le_length (p := Option.isSome) (l := opened.map some)
    rw [List.length_map, hlength] at hcount
    rw [List.countP_append]
    exact Nat.lt_of_le_of_lt hcount (by decide)
  . rw [hfull.2.1, ← hget]
    exact hrun.current_closeScope hcovered

end SeatedRun

end RequestTracing
