import Mathlib
import RequestTracing.Proofs.Scope.Run

/-!
This module contains programs whose scopes are nested: blocks that make a context current while
their code runs, and work that carries a context, such as tasks, futures and streams, for code that
runs later and on any thread. Main statement: a thread on which all blocks were left is as it was
before the program, no close fails, and the code of a block sees its context. A computation that
carries a context finds it at every poll for which there is room, and no poll changes the stack.
-/

namespace RequestTracing

variable {α : Type}

inductive BlockKind where
  | newScope
  | maybeScope
  | work (number : Nat)

structure Block (α : Type) where
  kind : BlockKind
  access : CurrentContext
  context : Option α
  scope : Scope

structure NestedProgram (α : Type) where
  threads : Nat → ThreadState α
  registers : List ScopeRegister
  notices : List (ScopeNotice α)
  blocks : Nat → List (Block α)
  /--
  What was wrapped: the access that it goes through and the context that it carries.
  -/
  work : List (CurrentContext × Option α)
  faults : List OutOfOrderClose

inductive NestedAction (α : Type) where
  | newScope (thread : Nat) (access : CurrentContext) (context : Option α)
  | maybeScope (thread : Nat) (access : CurrentContext) (context : Option α)
  | wrap (thread : Nat) (access : CurrentContext)
  | wrapWith (access : CurrentContext) (context : Option α)
  | start (thread number : Nat)
  | leave (thread : Nat)

namespace NestedProgram

def ambient (program : NestedProgram α) (thread : Nat) : Ambient α :=
  ⟨program.threads thread, program.registers, program.notices⟩

def setAmbient (program : NestedProgram α) (thread : Nat) (ambient : Ambient α) :
    NestedProgram α :=
  { program with
    threads := Function.update program.threads thread ambient.thread
    registers := ambient.registers
    notices := ambient.notices }

def enter (program : NestedProgram α) (thread : Nat) (kind : BlockKind) (access : CurrentContext)
    (context : Option α) (opened : Scope × Ambient α) : NestedProgram α :=
  { program.setAmbient thread opened.2 with
    blocks :=
      Function.update program.blocks thread
        (⟨kind, access, context, opened.1⟩ :: program.blocks thread) }

def perform (view : α → Snapshot) (program : NestedProgram α) : NestedAction α → NestedProgram α
  | .newScope thread access context =>
    program.enter thread .newScope access context
      (access.openScope view context (program.ambient thread))
  | .maybeScope thread access context =>
    program.enter thread .maybeScope access context
      (access.maybeScope view context (program.ambient thread))
  | .wrap thread access =>
    { program with work := program.work ++ [(access, access.get (program.threads thread))] }
  | .wrapWith access context => { program with work := program.work ++ [(access, context)] }
  | .start thread number =>
    match program.work[number]? with
    | none => program
    | some (access, context) =>
      program.enter thread (.work number) access context
        (access.openScope view context (program.ambient thread))
  | .leave thread =>
    match program.blocks thread with
    | [] => program
    | block :: outer =>
      let (fault, ambient) := CurrentContext.closeScope block.scope (program.ambient thread)
      { program.setAmbient thread ambient with
        blocks := Function.update program.blocks thread outer
        faults := program.faults ++ fault.toList }

def after (view : α → Snapshot) (program : NestedProgram α) (actions : List (NestedAction α)) :
    NestedProgram α :=
  actions.foldl (perform view) program

end NestedProgram

variable {view : α → Snapshot}

theorem ContextStack.isEmpty_openScope (stack : ContextStack α) (context : Option α) :
    (stack.openScope context).value.2.isEmpty = false := by
  have hdepth := stack.depth_eq
  unfold openScope isEmpty
  split
  . simp [ContextStack.push]
  . next hroom =>
    have hfull : stack.saved ≠ [] := by
      intro hnil
      simp [hasRoom, hdepth, hnil, overflowPosition] at hroom
    simp [hfull]

theorem ContextStack.depth_openScope_le (stack : ContextStack α) (context : Option α) :
    (stack.openScope context).value.2.depth ≤ stack.depth + 1 := by
  unfold openScope
  split
  . exact Nat.le_refl _
  . exact Nat.le_succ _

theorem ThreadState.Follows.congr {thread other : ThreadState α} {opened : List (OpenScope α)}
    (h : thread.Follows opened) (heq : other.stack? = thread.stack?) : other.Follows opened := by
  unfold Follows
  rw [heq]
  exact h

namespace CurrentContext

variable (view : α → Snapshot) {ambient inside : Ambient α} {opened : List (OpenScope α)}

theorem stack?_openScope_self (current : CurrentContext) (context : Option α)
    (ambient : Ambient α) :
    (current.openScope view context ambient).2.thread.stack? current.slot =
      some ((current.stack ambient.thread).openScope context).value.2 := by
  rw [stack?_openScope, ThreadState.stack?_setStack, if_pos rfl, ContextStack.isEmpty_openScope]
  rfl

theorem closeScope_openScope (h : ambient.thread.Follows opened) (current : CurrentContext)
    (context : Option α)
    (hinside : inside.thread.stack? = (current.openScope view context ambient).2.thread.stack?) :
    (closeScope (current.openScope view context ambient).1 inside).1 = none ∧
      (closeScope (current.openScope view context ambient).1 inside).2.thread.stack? =
        ambient.thread.stack? := by
  have hholds := (h current.slot).holds
  obtain ⟨hclose, horder⟩ := ContextStack.close_openScope hholds.top context
  obtain ⟨ticket, decorations, hscope⟩ := current.scope_openScope view context ambient
  have hstack : inside.thread.stack? current.slot =
      some ((current.stack ambient.thread).openScope context).value.2 := by
    rw [hinside, stack?_openScope_self]
  rw [hscope]
  refine ⟨?_, ?_⟩
  . rw [fst_closeScope hstack]
    unfold closeFault stack
    rw [horder]
    simp
  -- a stack that is empty again is not kept, as none is kept before
  . funext slot
    rw [stack?_closeScope_of_some inside hstack, ThreadState.stack?_setStack]
    split
    . next hslot =>
      unfold stack
      rw [hclose, hslot]
      have htracks := h current.slot
      cases hkept : ambient.thread.stack? current.slot with
      | none => rfl
      | some kept =>
        rw [hkept] at htracks
        rw [Option.getD_some, if_neg fun hempty => htracks.1 (htracks.2.isEmpty_iff.1 hempty)]
    . next hslot => rw [hinside, stack?_openScope, ThreadState.stack?_setStack, if_neg hslot]

theorem get_openScope (current : CurrentContext) (context : Option α) (ambient : Ambient α) :
    current.get (current.openScope view context ambient).2.thread =
      if (current.stack ambient.thread).hasRoom then context else current.get ambient.thread := by
  unfold get ThreadState.current
  rw [stack?_openScope_self]
  unfold ContextStack.openScope
  split
  . rfl
  . unfold stack
    cases ambient.thread.stack? current.slot <;> rfl

theorem get_congr {thread other : ThreadState α} (h : thread.stack? = other.stack?)
    (current : CurrentContext) : current.get thread = current.get other := by
  unfold get ThreadState.current
  rw [h]

theorem within_restores {β : Type} (h : ambient.thread.Follows opened) (current : CurrentContext)
    (context : Option α) (task : Ambient α → β × Ambient α)
    (htask : ∀ inside, (task inside).2.thread.stack? = inside.thread.stack?) :
    (current.within view context task ambient).1 =
        .ok (task (current.openScope view context ambient).2).1 ∧
      (current.within view context task ambient).2.thread.stack? = ambient.thread.stack? := by
  have hclose := closeScope_openScope view h current context
    (htask (current.openScope view context ambient).2)
  unfold within
  dsimp only
  rw [hclose.1]
  exact ⟨rfl, hclose.2⟩

theorem poll_restores (h : ambient.thread.Follows opened) (current : CurrentContext)
    (context : Option α) (polls : Nat) :
    (current.poll view context ambient polls).1 =
        .ok (List.replicate polls
          (if (current.stack ambient.thread).hasRoom then context else current.get ambient.thread,
            current.get ambient.thread)) ∧
      (current.poll view context ambient polls).2.thread.stack? = ambient.thread.stack? := by
  induction polls generalizing ambient with
  | zero => exact ⟨rfl, rfl⟩
  | succ polls ih =>
    obtain ⟨hseen, hkept⟩ := within_restores view h current context
      (fun ambient => (current.get ambient.thread, ambient)) fun _ => rfl
    rw [get_openScope] at hseen
    unfold poll
    generalize current.within view context _ ambient = polled at hseen hkept
    obtain ⟨result, after⟩ := polled
    dsimp only at hseen hkept
    have hstack : current.stack after.thread = current.stack ambient.thread := by
      unfold stack
      rw [hkept]
    obtain ⟨hrest, hsame⟩ := ih (h.congr hkept)
    rw [hseen]
    dsimp only
    rw [hrest, hsame, hkept, hstack, get_congr hkept]
    exact ⟨rfl, rfl⟩

end CurrentContext

namespace Block

/--
Holds when the access of a block finds its context. A block that was to open a scope only where
another context is current is content with one of the same identity.
-/
def Sees (view : α → Snapshot) (block : Block α) (thread : ThreadState α) : Prop :=
  ((block.access.get thread).map fun c => (view c).key) =
      (block.context.map fun c => (view c).key) ∧
    (block.kind ≠ .maybeScope → block.access.get thread = block.context)

def depth (slot : Nat) (blocks : List (Block α)) : Nat :=
  blocks.countP fun block => (block.scope.position? slot).isSome

inductive Built (view : α → Snapshot) (first : Nat → Option (ContextStack α)) :
    List (Block α) → (Nat → Option (ContextStack α)) → Prop where
  | start : Built view first [] first
  | skipped {block blocks} {thread : ThreadState α} : Built view first blocks thread.stack? →
      block.kind = .maybeScope → block.scope = .noop →
      block.access.isCurrent view block.context thread →
      Built view first (block :: blocks) thread.stack?
  | opened {block blocks} {ambient : Ambient α} : Built view first blocks ambient.thread.stack? →
      block.scope = (block.access.openScope view block.context ambient).1 →
      Built view first (block :: blocks)
        (block.access.openScope view block.context ambient).2.thread.stack?

variable {first kept : Nat → Option (ContextStack α)} {block : Block α} {blocks : List (Block α)}

def Sound (kept : Nat → Option (ContextStack α)) : Prop :=
  ∃ opened : List (OpenScope α), ∀ slot,
    ContextStack.Tracks (kept slot) (OpenScope.inSlot slot opened)

theorem Built.sound (h : Built view first blocks kept) (hfirst : Sound first) : Sound kept := by
  induction h with
  | start => exact hfirst
  | skipped _ _ _ _ ih => exact ih
  | opened _ _ ih =>
    obtain ⟨opened, hopened⟩ := ih
    exact ⟨_, ThreadState.Follows.openScope hopened _ _⟩

theorem Built.leave {ambient : Ambient α}
    (h : Built view first (block :: blocks) ambient.thread.stack?) (hfirst : Sound first) :
    (CurrentContext.closeScope block.scope ambient).1 = none ∧
      Built view first blocks
        (CurrentContext.closeScope block.scope ambient).2.thread.stack? := by
  generalize hkept : ambient.thread.stack? = kept at h
  cases h with
  | skipped h _ hscope _ =>
    rw [hscope]
    refine ⟨rfl, ?_⟩
    rw [← hkept] at h
    exact h
  | opened h hscope =>
    obtain ⟨opened, hopened⟩ := h.sound hfirst
    obtain ⟨hfault, hclose⟩ := CurrentContext.closeScope_openScope view hopened _ _ hkept
    rw [hscope]
    refine ⟨hfault, ?_⟩
    rw [hclose]
    exact h

theorem depth_cons (slot : Nat) (block : Block α) (blocks : List (Block α)) :
    depth slot (block :: blocks) =
      depth slot blocks + if (block.scope.position? slot).isSome then 1 else 0 :=
  List.countP_cons

theorem isSome_position?_openScope {scope : Scope} {current : CurrentContext} {context : Option α}
    {ambient : Ambient α} (h : scope = (current.openScope view context ambient).1) (slot : Nat) :
    (scope.position? slot).isSome = decide (slot = current.slot) := by
  obtain ⟨ticket, decorations, hscope⟩ := current.scope_openScope view context ambient
  rw [h, hscope]
  by_cases hslot : slot = current.slot
  . simp [hslot, OpenScope.position?_stacked]
  . simp [hslot, OpenScope.position?_stacked_of_ne hslot]

theorem Built.depth_le (h : Built view first blocks kept) (slot : Nat) :
    ((kept slot).getD .empty).depth ≤ ((first slot).getD .empty).depth + depth slot blocks := by
  induction h with
  | start => exact Nat.le_add_right _ _
  | skipped _ _ _ _ ih =>
    rw [depth_cons]
    omega
  | @opened block blocks ambient _ hscope ih =>
    rw [depth_cons, isSome_position?_openScope hscope]
    by_cases hslot : slot = block.access.slot
    . have hle := (block.access.stack ambient.thread).depth_openScope_le block.context
      rw [hslot] at ih ⊢
      rw [CurrentContext.stack?_openScope_self, Option.getD_some, if_pos (decide_eq_true rfl)]
      unfold CurrentContext.stack at hle ⊢
      omega
    . rw [CurrentContext.stack?_openScope, ThreadState.stack?_setStack, if_neg hslot]
      omega

theorem Built.frame {inner : List (Block α)} {slot : Nat}
    (h : Built view first (inner ++ blocks) kept)
    (hinner : ∀ other ∈ inner, other.access.slot ≠ slot) :
    ∃ before, Built view first blocks before ∧ kept slot = before slot := by
  induction inner generalizing kept with
  | nil => exact ⟨kept, h, rfl⟩
  | cons block inner ih =>
    have hslot := hinner block (List.mem_cons_self ..)
    specialize @ih
    cases h with
    | skipped h _ _ _ => exact ih h fun other hother => hinner other (List.mem_cons_of_mem _ hother)
    | opened h _ =>
      obtain ⟨before, hbuilt, heq⟩ :=
        ih h fun other hother => hinner other (List.mem_cons_of_mem _ hother)
      refine ⟨before, hbuilt, ?_⟩
      rw [CurrentContext.stack?_openScope, ThreadState.stack?_setStack, if_neg (Ne.symm hslot), heq]

theorem Built.sees {inner outer : List (Block α)} {thread : ThreadState α}
    (h : Built view first (inner ++ block :: outer) thread.stack?)
    (hinner : ∀ other ∈ inner, other.access.slot ≠ block.access.slot)
    (hdepth : ((first block.access.slot).getD .empty).depth +
      depth block.access.slot (block :: outer) < ContextStack.overflowPosition) :
    block.Sees view thread := by
  obtain ⟨before, hbuilt, heq⟩ := h.frame hinner
  have hget : ∀ other : ThreadState α, other.stack? = before →
      block.access.get thread = block.access.get other := by
    intro other hother
    unfold CurrentContext.get ThreadState.current
    rw [heq, hother]
  cases hbuilt with
  | skipped _ hkind _ hcurrent =>
    refine ⟨?_, fun hne => absurd hkind hne⟩
    rw [hget _ rfl]
    exact beq_iff_eq.1 hcurrent
  | @opened _ _ ambient hbuilt hscope =>
    have hroom : (block.access.stack ambient.thread).hasRoom := by
      have hle := hbuilt.depth_le block.access.slot
      rw [depth_cons, isSome_position?_openScope hscope, if_pos (by simp)] at hdepth
      unfold ContextStack.hasRoom CurrentContext.stack
      rw [decide_eq_true_iff]
      omega
    have hsees : block.access.get thread = block.context := by
      rw [hget _ rfl, CurrentContext.get_openScope, if_pos hroom]
    exact ⟨congrArg _ hsees, fun _ => hsees⟩

end Block

namespace NestedProgram

structure Nested (view : α → Snapshot) (first program : NestedProgram α) : Prop where
  built : ∀ thread, Block.Built view (first.threads thread).stack? (program.blocks thread)
    (program.threads thread).stack?
  faults : program.faults = first.faults
  carried : ∀ thread, ∀ block ∈ program.blocks thread, ∀ number, block.kind = .work number →
    program.work[number]? = some (block.access, block.context)

variable {first program : NestedProgram α}

theorem Nested.start (idle : ∀ thread, first.blocks thread = []) : Nested view first first where
  built := by
    intro thread
    rw [idle]
    exact .start
  faults := rfl
  carried := by
    intro thread block hblock
    rw [idle] at hblock
    simp at hblock

theorem Nested.enter (h : Nested view first program) {thread : Nat} {block : Block α}
    {ambient : Ambient α}
    (hbuilt : Block.Built view (first.threads thread).stack? (block :: program.blocks thread)
      ambient.thread.stack?)
    (hcarried : ∀ number, block.kind = .work number →
      program.work[number]? = some (block.access, block.context)) :
    Nested view first
      (program.enter thread block.kind block.access block.context (block.scope, ambient)) where
  built := by
    intro other
    unfold NestedProgram.enter setAmbient
    dsimp only
    by_cases hother : other = thread
    . subst hother
      rw [Function.update_self, Function.update_self]
      exact hbuilt
    . rw [Function.update_of_ne hother, Function.update_of_ne hother]
      exact h.built other
  faults := h.faults
  carried := by
    intro other entered hentered
    unfold NestedProgram.enter setAmbient at *
    dsimp only at *
    by_cases hother : other = thread
    . subst hother
      rw [Function.update_self] at hentered
      cases List.mem_cons.1 hentered with
      | inl heq =>
        rw [heq]
        exact hcarried
      | inr hmem => exact h.carried other entered hmem
    . rw [Function.update_of_ne hother] at hentered
      exact h.carried other entered hentered

theorem Nested.openScope (h : Nested view first program) (thread : Nat) (kind : BlockKind)
    (access : CurrentContext) (context : Option α)
    (hcarried : ∀ number, kind = .work number → program.work[number]? = some (access, context)) :
    Nested view first
      (program.enter thread kind access context
        (access.openScope view context (program.ambient thread))) := by
  let opened := access.openScope view context (program.ambient thread)
  have hbuilt : Block.Built view (first.threads thread).stack?
      (⟨kind, access, context, opened.1⟩ :: program.blocks thread) opened.2.thread.stack? := by
    have hbefore : Block.Built view (first.threads thread).stack? (program.blocks thread)
      (program.ambient thread).thread.stack? := h.built thread
    exact .opened hbefore rfl
  exact h.enter hbuilt hcarried

theorem Nested.maybeScope (h : Nested view first program) (thread : Nat)
    (access : CurrentContext) (context : Option α) :
    Nested view first
      (program.enter thread .maybeScope access context
        (access.maybeScope view context (program.ambient thread))) := by
  unfold CurrentContext.maybeScope
  split
  . next hcurrent =>
    have hbuilt : Block.Built view (first.threads thread).stack?
        (⟨.maybeScope, access, context, .noop⟩ :: program.blocks thread)
        (program.ambient thread).thread.stack? :=
      .skipped (h.built thread) rfl rfl hcurrent
    exact h.enter hbuilt fun number hkind => nomatch hkind
  . exact h.openScope thread .maybeScope access context (by simp)

theorem Nested.work (h : Nested view first program) (access : CurrentContext)
    (context : Option α) :
    Nested view first { program with work := program.work ++ [(access, context)] } where
  built := h.built
  faults := h.faults
  carried := by
    intro thread block hblock number hkind
    have hnumber := h.carried thread block hblock number hkind
    obtain ⟨hlt, _⟩ := List.getElem?_eq_some_iff.1 hnumber
    rw [List.getElem?_append_left hlt, hnumber]

theorem Nested.leave (h : Nested view first program) {thread : Nat} {block : Block α}
    {outer : List (Block α)} (hblocks : program.blocks thread = block :: outer)
    (hfirst : Block.Sound (first.threads thread).stack?) :
    Nested view first (program.perform view (.leave thread)) := by
  have hbuilt : Block.Built view (first.threads thread).stack? (program.blocks thread)
    (program.ambient thread).thread.stack? := h.built thread
  rw [hblocks] at hbuilt
  obtain ⟨hfault, hleave⟩ := hbuilt.leave hfirst
  unfold perform
  dsimp only
  rw [hblocks]
  dsimp only
  rw [hfault]
  refine ⟨?_, ?_, ?_⟩
  . intro other
    unfold setAmbient
    dsimp only
    by_cases hother : other = thread
    . subst hother
      rw [Function.update_self, Function.update_self]
      exact hleave
    . rw [Function.update_of_ne hother, Function.update_of_ne hother]
      exact h.built other
  . rw [Option.toList_none, List.append_nil]
    exact h.faults
  -- the blocks that are left on the thread were there before
  . intro other entered hentered
    dsimp only at hentered
    by_cases hother : other = thread
    . subst hother
      rw [Function.update_self] at hentered
      apply h.carried other entered
      rw [hblocks]
      exact List.mem_cons_of_mem block hentered
    . rw [Function.update_of_ne hother] at hentered
      exact h.carried other entered hentered

theorem Nested.perform (h : Nested view first program)
    (hfirst : ∀ thread, Block.Sound (first.threads thread).stack?) (action : NestedAction α) :
    Nested view first (program.perform view action) := by
  cases action with
  | newScope thread access context => exact h.openScope thread .newScope access context (by simp)
  | maybeScope thread access context => exact h.maybeScope thread access context
  | wrap thread access => exact h.work access _
  | wrapWith access context => exact h.work access context
  -- work that was never wrapped is not started
  | start thread number =>
    unfold NestedProgram.perform
    dsimp only
    split
    . exact h
    . next access context hwork =>
      apply h.openScope thread (.work number) access context
      intro other hother
      cases hother
      exact hwork
  | leave thread =>
    cases hblocks : program.blocks thread with
    | nil =>
      unfold NestedProgram.perform
      dsimp only
      rw [hblocks]
      exact h
    | cons block outer => exact h.leave hblocks (hfirst thread)

theorem Nested.after (h : Nested view first program)
    (hfirst : ∀ thread, Block.Sound (first.threads thread).stack?)
    (actions : List (NestedAction α)) : Nested view first (program.after view actions) := by
  induction actions generalizing program with
  | nil => exact h
  | cons action actions ih => exact ih (h.perform hfirst action)

theorem work_perform (view : α → Snapshot) (program : NestedProgram α) (action : NestedAction α) :
    program.work <+: (program.perform view action).work := by
  cases action with
  | newScope => exact List.prefix_rfl
  | maybeScope => exact List.prefix_rfl
  | wrap => exact List.prefix_append ..
  | wrapWith => exact List.prefix_append ..
  | start =>
    unfold perform
    dsimp only
    split <;> exact List.prefix_rfl
  | leave =>
    unfold perform
    dsimp only
    split <;> exact List.prefix_rfl

theorem work_after (view : α → Snapshot) (program : NestedProgram α)
    (actions : List (NestedAction α)) : program.work <+: (program.after view actions).work := by
  induction actions generalizing program with
  | nil => exact List.prefix_rfl
  | cons action actions ih => exact (work_perform view program action).trans (ih _)

/--
A program may nest blocks as deeply as it likes, and run what it wrapped on any thread. Where all
blocks were left, a thread has the stacks that it had before, and no close failed. While the slot of
a block has room for all that were entered, the block sees its context; that of work is the one that
it was given, or else what was current where it was wrapped.
-/
theorem restores (view : α → Snapshot) (first : NestedProgram α) (idle : ∀ thread, first.blocks thread = [])
    (opened : Nat → List (OpenScope α))
    (sound : ∀ thread, (first.threads thread).Follows (opened thread))
    (actions : List (NestedAction α)) :
    let last := first.after view actions
    (∀ thread, last.blocks thread = [] →
      (last.threads thread).stack? = (first.threads thread).stack? ∧
      ∀ access : CurrentContext, access.get (last.threads thread) = access.get (first.threads thread)) ∧
    last.faults = first.faults ∧
    (∀ thread inner block outer, last.blocks thread = inner ++ block :: outer →
      (∀ other ∈ inner, other.access.slot ≠ block.access.slot) →
      (block.access.stack (first.threads thread)).depth +
        Block.depth block.access.slot (block :: outer) < ContextStack.overflowPosition →
      block.Sees view (last.threads thread)) ∧
    (∀ thread, ∀ block ∈ last.blocks thread, ∀ number, block.kind = .work number →
      last.work[number]? = some (block.access, block.context)) ∧
    ∀ before after thread access, actions = before ++ .wrap thread access :: after →
      last.work[(first.after view before).work.length]? =
        some (access, access.get ((first.after view before).threads thread)) := by
  intro last
  have hfirst : ∀ thread, Block.Sound (first.threads thread).stack? :=
    fun thread => ⟨opened thread, sound thread⟩
  have hlast : Nested view first last := (Nested.start idle).after hfirst actions
  refine ⟨?_, hlast.faults, ?_, hlast.carried, ?_⟩
  . intro thread hleft
    have hbuilt := hlast.built thread
    rw [hleft] at hbuilt
    have hkept : (last.threads thread).stack? = (first.threads thread).stack? := by
      generalize (last.threads thread).stack? = kept at hbuilt ⊢
      cases hbuilt
      rfl
    exact ⟨hkept, CurrentContext.get_congr hkept⟩
  . intro thread inner block outer hblocks hinner hdepth
    have hbuilt := hlast.built thread
    rw [hblocks] at hbuilt
    exact hbuilt.sees hinner hdepth
  . intro before after thread access hactions
    have hwrap : last =
        ((first.after view before).perform view (.wrap thread access)).after view after := by
      show first.after view actions = _
      rw [hactions]
      unfold NestedProgram.after
      rw [List.foldl_append]
      rfl
    have hwork := work_after view
      ((first.after view before).perform view (.wrap thread access)) after
    rw [← hwrap, List.prefix_iff_getElem?] at hwork
    specialize hwork (first.after view before).work.length (by simp [perform])
    rw [hwork]
    simp [perform]

theorem restores_across_threads :
    let access := CurrentContext.strict 0
    let first : NestedProgram Nat := ⟨fun _ => .fresh "main", [.empty], [], fun _ => [], [], []⟩
    let last := first.after (fun _ => default)
      [.newScope 0 access (some 7), .wrap 0 access, .leave 0, .maybeScope 1 access (some 8),
        .start 1 0]
    (∀ thread, first.blocks thread = []) ∧ (∀ thread, (first.threads thread).Follows []) ∧
      last.blocks 0 = [] ∧ (last.threads 0).stack? = (first.threads 0).stack? ∧
      last.faults = [] ∧ (last.blocks 1).length = 2 ∧ access.get (last.threads 1) = some 7 := by
  intro access first last
  have idle : ∀ thread, first.blocks thread = [] := fun _ => rfl
  have sound : ∀ thread, (first.threads thread).Follows [] := fun _ _ => rfl
  have hblocks : last.blocks 1 = [⟨.work 0, access, some 7, .stacked 1 2 (some (0, 2)) []⟩,
      ⟨.maybeScope, access, some 8, .stacked 1 1 (some (0, 1)) []⟩] := by
    cbv
  have hleft : last.blocks 0 = [] := rfl
  obtain ⟨hrestored, hfaults, hsees, _, _⟩ :=
    restores (fun _ => default) first idle (fun _ => []) sound
      [.newScope 0 access (some 7), .wrap 0 access, .leave 0, .maybeScope 1 access (some 8),
        .start 1 0]
  have hblock := hsees 1 [] _ _ hblocks (by simp) (by decide)
  exact ⟨idle, sound, hleft, (hrestored 0 hleft).1, hfaults, by rw [hblocks]; rfl,
    hblock.2 (by simp)⟩

end NestedProgram

end RequestTracing
