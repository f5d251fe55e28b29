import Mathlib
import RequestTracing.Proofs.Scope.Run

/-!
This module contains runs of several threads on a strict instance and its clones. Such an instance
records its open scopes twice: in the stacks of the threads and in a register that threads share.
Main statement: the two agree whatever the order in which scopes are closed, so that a close fails
exactly when it is out of order on its thread, and the register names exactly the scopes that are
left.
-/

namespace RequestTracing

variable {α : Type}

structure ThreadPool (α : Type) where
  threads : Nat → ThreadState α
  registers : List ScopeRegister
  notices : List (ScopeNotice α)

namespace ThreadPool

def ambient (pool : ThreadPool α) (thread : Nat) : Ambient α :=
  ⟨pool.threads thread, pool.registers, pool.notices⟩

def setAmbient (pool : ThreadPool α) (thread : Nat) (ambient : Ambient α) : ThreadPool α :=
  ⟨Function.update pool.threads thread ambient.thread, ambient.registers, ambient.notices⟩

end ThreadPool

/--
A scope of a strict instance that was opened and not closed, with the thread that opened it and the
label that it was given.
-/
structure StrictScope (α : Type) extends OpenScope α where
  thread : Nat
  label : String

namespace ThreadPool

def openScope (pool : ThreadPool α) (view : α → Snapshot) (thread : Nat) (current : CurrentContext)
    (context : Option α) : StrictScope α × ThreadPool α :=
  let (scope, ambient) := current.openScope view context (pool.ambient thread)
  let label := CurrentContext.label (pool.threads thread).name (context.map view)
  ({ scope, context, thread, label }, pool.setAmbient thread ambient)

/--
Closes a scope on the thread that opened it. The failure is raised, unless the thread is unwinding
already.
-/
def closeScope (pool : ThreadPool α) (entry : StrictScope α) :
    Option OutOfOrderClose × ThreadPool α :=
  let (fault, ambient) := CurrentContext.closeScope entry.scope (pool.ambient entry.thread)
  (fault, pool.setAmbient entry.thread ambient)

end ThreadPool

namespace Scope

def ticketNumber : Scope → Nat
  | stacked _ _ (some (_, ticket)) _ => ticket
  | _ => 0

def asShared : Scope → Scope
  | noop => noop
  | stacked _ position _ decorations =>
    stacked CurrentContext.sharedSlot position none decorations

inductive IsStrict (register : Nat) : Scope → Prop where
  | stacked {position : Nat} (ticket : Nat) (decorations : List Decoration) :
      position ≠ ContextStack.overflowPosition →
      IsStrict register (stacked (register + 1) position (some (register, ticket)) decorations)

end Scope

def CurrentContext.IsClone (clone current : CurrentContext) : Prop :=
  clone.slot = current.slot ∧ clone.register = current.register

namespace StrictScope

def note (entry : StrictScope α) : Nat × String :=
  (entry.scope.ticketNumber, entry.label)

def on (thread : Nat) (opened : List (StrictScope α)) : List (OpenScope α) :=
  (opened.filter fun entry => entry.thread = thread).map (·.toOpenScope)

theorem on_append (thread : Nat) (above below : List (StrictScope α)) :
    on thread (above ++ below) = on thread above ++ on thread below := by
  unfold on
  rw [List.filter_append, List.map_append]

theorem on_cons_self (entry : StrictScope α) (opened : List (StrictScope α)) :
    on entry.thread (entry :: opened) = entry.toOpenScope :: on entry.thread opened := by
  unfold on
  rw [List.filter_cons_of_pos (by simp), List.map_cons]

theorem on_cons_of_ne {thread : Nat} {entry : StrictScope α} (h : entry.thread ≠ thread)
    (opened : List (StrictScope α)) : on thread (entry :: opened) = on thread opened := by
  unfold on
  rw [List.filter_cons_of_neg (by simpa using h)]

theorem place?_of_isStrict {register : Nat} {entry : OpenScope α}
    (h : entry.scope.IsStrict register) :
    ∃ position ticket decorations,
      entry.scope = .stacked (register + 1) position (some (register, ticket)) decorations ∧
      OpenScope.place? (register + 1) entry = some (position, entry.context) := by
  generalize hscope : entry.scope = scope at h
  obtain ⟨ticket, decorations, hposition⟩ := h
  refine ⟨_, ticket, decorations, rfl, ?_⟩
  rw [OpenScope.place?_of_some (by rw [hscope, OpenScope.position?_stacked]), if_neg hposition]

theorem inSlot_on_eq_nil_iff {register : Nat} {opened : List (StrictScope α)}
    (h : ∀ entry ∈ opened, entry.scope.IsStrict register) (thread : Nat) :
    OpenScope.inSlot (register + 1) (on thread opened) = [] ↔
      ∀ entry ∈ opened, entry.thread ≠ thread := by
  induction opened with
  | nil => simp [on, OpenScope.inSlot]
  | cons entry opened ih =>
    specialize ih fun other hother => h other (List.mem_cons_of_mem entry hother)
    by_cases hthread : entry.thread = thread
    . subst hthread
      obtain ⟨position, _, _, _, hplace⟩ := place?_of_isStrict (h entry (List.mem_cons_self ..))
      rw [on_cons_self, OpenScope.inSlot_cons, hplace]
      simp
    . rw [on_cons_of_ne hthread, ih]
      simp [hthread]

end StrictScope

/--
A run of threads on the strict instance with the given register: what it comes to, and the open
scopes of all threads, the last one first. Any thread may open a scope through any clone while there
is room, and any open scope may be the next to close, whether its failure is raised or left aside.
In between anything may happen that does not touch the slot and the register.
-/
inductive StrictRun (register : Nat) (first : ThreadPool α) :
    ThreadPool α → List (StrictScope α) → Prop where
  | start : StrictRun register first first []
  | opening {pool opened} (view : α → Snapshot) (thread : Nat) (clone : CurrentContext)
      (context : Option α) :
      clone.IsClone (.strict register) →
      (clone.stack (pool.threads thread)).hasRoom →
      StrictRun register first pool opened →
      StrictRun register first (pool.openScope view thread clone context).2
        ((pool.openScope view thread clone context).1 :: opened)
  | closing {pool} (above : List (StrictScope α)) (entry : StrictScope α)
      (below : List (StrictScope α)) :
      StrictRun register first pool (above ++ entry :: below) →
      StrictRun register first (pool.closeScope entry).2 (above ++ below)
  | elsewhere {pool opened} (other : ThreadPool α) :
      (∀ thread, (other.threads thread).stack? (register + 1) =
        (pool.threads thread).stack? (register + 1)) →
      other.registers[register]? = pool.registers[register]? →
      StrictRun register first pool opened →
      StrictRun register first other opened

namespace CurrentContext

variable {register : Nat} {clone : CurrentContext} {ambient : Ambient α}

theorem IsClone.openScope (h : clone.IsClone (.strict register)) (view : α → Snapshot)
    (context : Option α) {notes : ScopeRegister}
    (hnotes : ambient.registers[register]? = some notes) :
    (∃ decorations, (clone.openScope view context ambient).1 =
      .stacked (register + 1) ((clone.stack ambient.thread).openScope context).value.1
        (some (register, notes.nextTicket)) decorations) ∧
    (clone.openScope view context ambient).2.registers[register]? =
      some (notes.enter (label ambient.thread.name (context.map view))).2 := by
  obtain ⟨slot, own, decorators⟩ := clone
  obtain ⟨hslot, hregister⟩ := h
  dsimp [strict] at hslot hregister
  subst hslot hregister
  have hlt : register < ambient.registers.length := (List.getElem?_eq_some_iff.1 hnotes).1
  unfold CurrentContext.openScope Ambient.enter Ambient.push stack
  simp [hnotes, ScopeRegister.enter, List.getElem?_set_self hlt, ThreadState.setStack]

theorem registers_closeScope {notes : ScopeRegister}
    (hnotes : ambient.registers[register]? = some notes) (slot position ticket : Nat)
    (decorations : List Decoration) :
    (closeScope (.stacked slot position (some (register, ticket)) decorations)
      ambient).2.registers[register]? = some (notes.strike ticket) := by
  unfold closeScope Ambient.strike
  simp [hnotes]

theorem stack?_closeScope_congr {slot other : Nat} {ambient shared : Ambient α}
    (h : shared.thread.stack? other = ambient.thread.stack? slot) (position : Nat)
    (ticket silent : Option (Nat × Nat)) (decorations undone : List Decoration) :
    (closeScope (.stacked other position silent undone) shared).2.thread.stack? other =
      (closeScope (.stacked slot position ticket decorations) ambient).2.thread.stack? slot := by
  cases hstack : ambient.thread.stack? slot with
  | none =>
    rw [hstack] at h
    rw [stack?_closeScope_of_none _ h, stack?_closeScope_of_none _ hstack, h, hstack]
  | some stack =>
    rw [hstack] at h
    rw [stack?_closeScope_of_some _ h, stack?_closeScope_of_some _ hstack,
      ThreadState.stack?_setStack, ThreadState.stack?_setStack, if_pos rfl, if_pos rfl]

end CurrentContext

namespace ScopeRegister

structure Notes (register : ScopeRegister) (opened : List (StrictScope α)) : Prop where
  opened_eq : register.opened = opened.map StrictScope.note
  nodup : (opened.map (·.scope.ticketNumber)).Nodup
  bound : ∀ entry ∈ opened, entry.scope.ticketNumber < register.nextTicket

variable {register : ScopeRegister} {opened above below : List (StrictScope α)}
  {entry : StrictScope α}

theorem Notes.empty : Notes .empty ([] : List (StrictScope α)) where
  opened_eq := rfl
  nodup := List.nodup_nil
  bound := by simp

theorem Notes.enter (h : register.Notes opened) {label : String}
    (hticket : entry.scope.ticketNumber = register.nextTicket) (hlabel : entry.label = label) :
    (register.enter label).2.Notes (entry :: opened) where
  opened_eq := by
    dsimp [ScopeRegister.enter]
    rw [h.opened_eq, ← hticket, ← hlabel]
    rfl
  nodup := by
    rw [List.map_cons, List.nodup_cons]
    refine ⟨?_, h.nodup⟩
    intro hmem
    obtain ⟨other, hother, heq⟩ := List.mem_map.1 hmem
    have := h.bound other hother
    omega
  bound := by
    intro other hother
    dsimp [ScopeRegister.enter]
    cases List.mem_cons.1 hother with
    | inl heq =>
      rw [heq]
      omega
    | inr hmem =>
      have := h.bound other hmem
      omega

theorem strikeEntry_append {ticket : Nat} {above : List (Nat × String)}
    (h : ∀ note ∈ above, note.1 ≠ ticket) (label : String) (below : List (Nat × String)) :
    strikeEntry ticket (above ++ (ticket, label) :: below) = above ++ below := by
  induction above with
  | nil => simp [strikeEntry]
  | cons note above ih =>
    -- The note on top is kept, since it has another number.
    rw [List.cons_append, strikeEntry, if_neg (h note (List.mem_cons_self ..)),
      ih fun other hother => h other (List.mem_cons_of_mem note hother), List.cons_append]

theorem Notes.strike (h : register.Notes (above ++ entry :: below)) :
    (register.strike entry.scope.ticketNumber).Notes (above ++ below) where
  opened_eq := by
    have hother : ∀ note ∈ above.map StrictScope.note, note.1 ≠ entry.scope.ticketNumber := by
      intro note hnote heq
      obtain ⟨other, hother, rfl⟩ := List.mem_map.1 hnote
      have hnodup := h.nodup
      rw [List.map_append, List.map_cons] at hnodup
      exact List.disjoint_of_nodup_append hnodup (List.mem_map_of_mem hother)
        (by simp [← heq, StrictScope.note])
    dsimp [ScopeRegister.strike]
    rw [h.opened_eq, List.map_append, List.map_cons, StrictScope.note, strikeEntry_append hother,
      List.map_append]
  nodup := h.nodup.sublist (((List.sublist_cons_self entry below).append_left above).map _)
  bound := fun other hother =>
    h.bound other (((List.sublist_cons_self entry below).append_left above).subset hother)

theorem Notes.perm_labels (h : register.Notes opened) :
    register.labels.Perm (opened.map (·.label)) := by
  have hlabels : register.opened.map (·.2) = opened.map (·.label) := by
    rw [h.opened_eq, List.map_map]
    rfl
  unfold labels
  rw [hlabels]
  exact List.mergeSort_perm ..

theorem pairwise_labels (register : ScopeRegister) : register.labels.Pairwise (· ≤ ·) := by
  have hsorted : register.labels.Pairwise fun a b => decide (a ≤ b) := by
    apply List.pairwise_mergeSort
    . intro a b c hab hbc
      simpa using le_trans (by simpa using hab) (by simpa using hbc)
    . intro a b
      simpa using le_total a b
  exact hsorted.imp fun hle => by simpa using hle

theorem Notes.checkNoLeaks_eq (h : register.Notes opened) :
    register.checkNoLeaks =
      if opened = [] then .ok () else .error (.leakedScopes register.labels) := by
  unfold checkNoLeaks
  rw [h.opened_eq]
  cases opened with
  | nil => rfl
  | cons => rfl

end ScopeRegister

structure StrictScope.Recorded (register : Nat) (pool : ThreadPool α)
    (opened : List (StrictScope α)) : Prop where
  strict : ∀ entry ∈ opened, entry.scope.IsStrict register
  tracks : ∀ thread, ContextStack.Tracks ((pool.threads thread).stack? (register + 1))
    (OpenScope.inSlot (register + 1) (on thread opened))
  notes : ∃ notes, pool.registers[register]? = some notes ∧ notes.Notes opened

namespace StrictScope

variable {register : Nat} {pool : ThreadPool α} {opened above below : List (StrictScope α)}
  {entry : StrictScope α}

theorem Recorded.openScope (h : Recorded register pool opened) (view : α → Snapshot) (thread : Nat)
    {clone : CurrentContext} (hclone : clone.IsClone (.strict register))
    (hroom : (clone.stack (pool.threads thread)).hasRoom) (context : Option α) :
    Recorded register (pool.openScope view thread clone context).2
      ((pool.openScope view thread clone context).1 :: opened) := by
  unfold ThreadPool.openScope
  dsimp only
  obtain ⟨notes, hnotes, hopened⟩ := h.notes
  have hregisters : (pool.ambient thread).registers[register]? = some notes := hnotes
  obtain ⟨⟨decorations, hscope⟩, hregister⟩ := hclone.openScope view context hregisters
  refine ⟨?_, ?_, ?_⟩
  . intro other hother
    cases List.mem_cons.1 hother with
    | inl heq =>
      rw [heq, hscope]
      refine .stacked _ _ ?_
      unfold ContextStack.openScope ThreadPool.ambient
      rw [if_pos hroom, Logged.value_pure]
      unfold ContextStack.hasRoom at hroom
      exact Nat.ne_of_lt (of_decide_eq_true hroom)
    | inr hmem => exact h.strict other hmem
  . intro other
    dsimp [ThreadPool.setAmbient]
    -- the threads share the register, but each has stacks of its own
    by_cases hthread : other = thread
    . subst hthread
      rw [Function.update_self]
      have htracks : ContextStack.Tracks ((pool.ambient other).thread.stack? (register + 1))
        (OpenScope.inSlot (register + 1) (on other opened)) := h.tracks other
      simpa [on] using htracks.openScope clone context
    . rw [Function.update_of_ne hthread, on_cons_of_ne (Ne.symm hthread)]
      exact h.tracks other
  . refine ⟨_, hregister, ?_⟩
    apply hopened.enter
    . rw [hscope]
      rfl
    . rfl

theorem Recorded.closeScope (h : Recorded register pool (above ++ entry :: below)) :
    Recorded register (pool.closeScope entry).2 (above ++ below) := by
  unfold ThreadPool.closeScope
  dsimp only
  obtain ⟨notes, hnotes, hopened⟩ := h.notes
  refine ⟨?_, ?_, notes.strike entry.scope.ticketNumber, ?_, hopened.strike⟩
  . intro other hother
    exact h.strict other
      (((List.sublist_cons_self entry below).append_left above).subset hother)
  -- the entry is on one thread only, and only the stacks of that thread change
  . intro thread
    have htracks : ContextStack.Tracks ((pool.ambient thread).thread.stack? (register + 1))
      (OpenScope.inSlot (register + 1) (on thread (above ++ entry :: below))) := h.tracks thread
    rw [on_append] at htracks ⊢
    dsimp [ThreadPool.setAmbient]
    by_cases hthread : thread = entry.thread
    . subst hthread
      rw [Function.update_self]
      rw [on_cons_self] at htracks
      exact htracks.closeScope
    . rw [Function.update_of_ne hthread]
      rw [on_cons_of_ne (Ne.symm hthread)] at htracks
      exact htracks
  . obtain ⟨position, ticket, decorations, hscope, _⟩ :=
      place?_of_isStrict (h.strict entry (List.mem_append_right above (List.mem_cons_self ..)))
    rw [hscope]
    exact CurrentContext.registers_closeScope hnotes _ _ _ _

theorem Recorded.isSome_closeScope (h : Recorded register pool (above ++ entry :: below)) :
    (pool.closeScope entry).1.isSome ↔ ∃ other ∈ above, other.thread = entry.thread := by
  unfold ThreadPool.closeScope
  dsimp only
  have htracks := h.tracks entry.thread
  have hnil := inSlot_on_eq_nil_iff
    (fun other (hother : other ∈ above) => h.strict other (List.mem_append_left _ hother))
    entry.thread
  obtain ⟨position, ticket, decorations, hscope, hplace⟩ :=
    place?_of_isStrict (h.strict entry (List.mem_append_right above (List.mem_cons_self ..)))
  rw [on_append, on_cons_self, OpenScope.inSlot_append, OpenScope.inSlot_cons, hplace] at htracks
  rw [hscope]
  change ContextStack.Tracks ((pool.ambient entry.thread).thread.stack? (register + 1)) _ at htracks
  cases hstack : (pool.ambient entry.thread).thread.stack? (register + 1) with
  | none =>
    rw [hstack] at htracks
    simp [ContextStack.Tracks] at htracks
  | some stack =>
    rw [hstack] at htracks
    -- The stack of the thread has entries for its own scopes alone, so that only these cover.
    have hinOrder := ContextStack.Holds.inOrder_iff htracks.2
    rw [hnil] at hinOrder
    rw [CurrentContext.fst_closeScope hstack]
    unfold CurrentContext.closeFault
    rw [← not_iff_not]
    simpa using hinOrder

theorem Recorded.checkNoLeaks (h : Recorded register pool opened) {clone : CurrentContext}
    (hclone : clone.IsClone (.strict register)) (thread : Nat) :
    (clone.checkNoLeaks (pool.ambient thread) = .ok () ↔ opened = []) ∧
    (opened ≠ [] → ∃ labels : List String,
      clone.checkNoLeaks (pool.ambient thread) = .error (.leakedScopes labels) ∧
      labels.Perm (opened.map (·.label)) ∧ labels.Pairwise (· ≤ ·)) := by
  obtain ⟨notes, hnotes, hopened⟩ := h.notes
  have hcheck : clone.checkNoLeaks (pool.ambient thread) = notes.checkNoLeaks := by
    have hregister : clone.register = some register := hclone.2
    unfold CurrentContext.checkNoLeaks ThreadPool.ambient
    simp [hregister, hnotes]
  rw [hcheck, hopened.checkNoLeaks_eq]
  refine ⟨?_, ?_⟩
  . split
    . next hnil => simp [hnil]
    . next hcons => simp [hcons]
  . intro hcons
    rw [if_neg hcons]
    exact ⟨notes.labels, rfl, hopened.perm_labels, notes.pairwise_labels⟩

end StrictScope

theorem StrictRun.recorded {register : Nat} {first last : ThreadPool α}
    {opened : List (StrictScope α)} (run : StrictRun register first last opened)
    (unused : ∀ thread, (first.threads thread).stack? (register + 1) = none)
    (new : first.registers[register]? = some .empty) :
    StrictScope.Recorded register last opened := by
  induction run with
  | start =>
    refine ⟨by simp, ?_, .empty, new, .empty⟩
    intro thread
    rw [unused]
    rfl
  | opening view thread clone context hclone hroom _ ih =>
    exact ih.openScope view thread hclone hroom context
  | closing above entry below _ ih => exact ih.closeScope
  | elsewhere other hthreads hregister _ ih =>
    refine ⟨ih.strict, ?_, ?_⟩
    . intro thread
      rw [hthreads]
      exact ih.tracks thread
    . rw [hregister]
      exact ih.notes

/--
Whatever the order in which scopes are closed, a close fails exactly when a scope that was opened
later on its thread is open, it changes the stack as a close that never fails does, and the check
for leaks names exactly the scopes that are open.
-/
theorem StrictRun.close_and_checkNoLeaks {register : Nat} {first last : ThreadPool α}
    {opened : List (StrictScope α)} (run : StrictRun register first last opened)
    (unused : ∀ thread, (first.threads thread).stack? (register + 1) = none)
    (new : first.registers[register]? = some .empty) :
    (∀ above entry below, opened = above ++ entry :: below →
      ((last.closeScope entry).1.isSome ↔ ∃ other ∈ above, other.thread = entry.thread) ∧
      ∀ shared : Ambient α,
        shared.thread.stack? CurrentContext.sharedSlot =
          (last.threads entry.thread).stack? (register + 1) →
        (CurrentContext.closeScope entry.scope.asShared shared).1 = none ∧
        (CurrentContext.closeScope entry.scope.asShared shared).2.thread.stack?
            CurrentContext.sharedSlot =
          ((last.closeScope entry).2.threads entry.thread).stack? (register + 1)) ∧
    ∀ (clone : CurrentContext) (thread : Nat), clone.IsClone (.strict register) →
      (clone.checkNoLeaks (last.ambient thread) = .ok () ↔ opened = []) ∧
      (opened ≠ [] → ∃ (error : TraceError) (labels : List String),
        clone.checkNoLeaks (last.ambient thread) = .error error ∧
        error.kind = .illegalState ∧
        error.message = "illegal state: " ++ (toString opened.length ++
          " scope(s) were never closed: " ++ String.intercalate ", " labels) ∧
        labels.Perm (opened.map (·.label)) ∧ labels.Pairwise (· ≤ ·)) := by
  have recorded := run.recorded unused new
  refine ⟨?_, ?_⟩
  . intro above entry below hopened
    subst hopened
    refine ⟨recorded.isSome_closeScope, ?_⟩
    intro shared hshared
    unfold ThreadPool.closeScope ThreadPool.setAmbient
    dsimp only
    rw [Function.update_self]
    obtain ⟨position, ticket, decorations, hscope, _⟩ := StrictScope.place?_of_isStrict
      (recorded.strict entry (List.mem_append_right above (List.mem_cons_self ..)))
    rw [hscope]
    refine ⟨rfl, ?_⟩
    exact CurrentContext.stack?_closeScope_congr hshared _ _ _ _ _
  . intro clone thread hclone
    obtain ⟨hok, herror⟩ := recorded.checkNoLeaks hclone thread
    refine ⟨hok, ?_⟩
    intro hcons
    obtain ⟨labels, hcheck, hperm, hsorted⟩ := herror hcons
    refine ⟨_, labels, hcheck, rfl, ?_, hperm, hsorted⟩
    have hlength : labels.length = opened.length := by
      rw [hperm.length_eq, List.length_map]
    rw [← hlength]
    rfl

theorem StrictRun.close_and_checkNoLeaks_two_threads :
    ∃ (first last : ThreadPool Nat) (outer inner other : StrictScope Nat),
      StrictRun 0 first last [other, inner, outer] ∧
      (∀ thread, (first.threads thread).stack? 1 = none) ∧
      first.registers[0]? = some .empty ∧
      (last.closeScope outer).1.isSome ∧ (last.closeScope inner).1 = none ∧
      (CurrentContext.strict 0).checkNoLeaks (last.ambient 2) ≠ .ok () := by
  have run : StrictRun 0 ⟨fun _ => .fresh "worker", [.empty], []⟩
      ⟨fun _ => .fresh "worker", [.empty], []⟩ ([] : List (StrictScope Nat)) := .start
  have run := run.opening (fun _ => default) 0 (.strict 0) (some 1) ⟨rfl, rfl⟩ (by decide)
  have run := run.opening (fun _ => default) 0 (.strict 0) (some 2) ⟨rfl, rfl⟩ (by decide)
  have run := run.opening (fun _ => default) 1 (.strict 0) (some 3) ⟨rfl, rfl⟩ (by decide)
  obtain ⟨hclose, hleaks⟩ := StrictRun.close_and_checkNoLeaks run (fun _ => rfl) rfl
  refine ⟨_, _, _, _, _, run, fun _ => rfl, rfl, ?_, ?_, ?_⟩
  . exact (hclose [_, _] _ [] rfl).1.2 ⟨_, List.mem_cons_of_mem _ (List.mem_singleton_self _), rfl⟩
  . rw [← Option.not_isSome_iff_eq_none, (hclose [_] _ [_] rfl).1]
    simp [ThreadPool.openScope]
  . have hnil := (hleaks (.strict 0) 2 ⟨rfl, rfl⟩).1
    simpa using hnil

end RequestTracing
