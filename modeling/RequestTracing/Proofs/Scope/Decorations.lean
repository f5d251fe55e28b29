import Mathlib
import RequestTracing.Proofs.Scope.Nested

/-!
This module contains programs of nested scopes that decorators accompany. Main statement: the
decorators of a scope do their work in order while its context is current, and it is undone in the
opposite order once the context from before is current again, so that what a program has done and
undone is properly nested.
-/

namespace RequestTracing

variable {α : Type}

inductive ScopeProgram (α : Type) where
  | done
  /--
  Runs a program in a scope, then goes on with another one. A block with `maybe` opens no scope for
  a context that is current already.
  -/
  | block (maybe : Bool) (context : Option α) (inside rest : ScopeProgram α)

/--
A call of a decorator, or of what undoes its work, with the state that it finds. Blocks are numbered
as they begin in the program, decorators by their place in the list.
-/
inductive DecoratorCall (α : Type) where
  | made (block place : Nat) (decorator : ScopeDecorator) (context : Option α) (found : Ambient α)
  | undone (block place : Nat) (decoration : Decoration) (found : Ambient α)

inductive ScopeEntry (α : Type) where
  | made (block place : Nat) (decorator : ScopeDecorator) (context current : Option α)
  | undone (block place : Nat) (current : Option α)
  deriving DecidableEq

namespace ScopeEntry

def block : ScopeEntry α → Nat
  | made block _ _ _ _ => block
  | undone block _ _ => block

def subject : ScopeEntry α → Bool × Nat × Nat
  | made block place _ _ _ => (true, block, place)
  | undone block place _ => (false, block, place)

def around (decorators : List ScopeDecorator) (number : Nat) (context current : Option α)
    (entries : List (ScopeEntry α)) : List (ScopeEntry α) :=
  decorators.zipIdx.map (fun entry => made number entry.2 entry.1 context context) ++
    (entries ++ (decorators.zipIdx.map fun entry => undone number entry.2 current).reverse)

theorem block_subject (entry : ScopeEntry α) : entry.subject.2.1 = entry.block := by
  cases entry <;> rfl

theorem subject_ne {first second : ScopeEntry α} (h : first.block ≠ second.block) :
    first.subject ≠ second.subject := by
  intro heq
  apply h
  rw [← block_subject, heq, block_subject]

variable {decorators : List ScopeDecorator} {number : Nat} {context current : Option α}
  {entries : List (ScopeEntry α)}

theorem mem_around {entry : ScopeEntry α}
    (h : entry ∈ around decorators number context current entries) :
    entry.block = number ∨ entry ∈ entries := by
  unfold around at h
  rw [List.mem_append, List.mem_append, List.mem_reverse] at h
  obtain h | h | h := h
  . obtain ⟨_, _, rfl⟩ := List.mem_map.1 h
    exact .inl rfl
  . exact .inr h
  . obtain ⟨_, _, rfl⟩ := List.mem_map.1 h
    exact .inl rfl

theorem pairwise_around (h : entries.Pairwise fun entry other => entry.subject ≠ other.subject)
    (hblocks : ∀ entry ∈ entries, number ≠ entry.block) :
    (around decorators number context current entries).Pairwise
      fun entry other => entry.subject ≠ other.subject := by
  have places : decorators.zipIdx.Pairwise fun entry other => entry.2 ≠ other.2 :=
    List.pairwise_map.1 (List.nodup_zipIdx_map_snd decorators)
  refine List.pairwise_append.2 ⟨?_, List.pairwise_append.2 ⟨h, ?_, ?_⟩, ?_⟩
  . rw [List.pairwise_map]
    exact places.imp fun hne heq => hne (congrArg (·.2.2) heq)
  . rw [List.pairwise_reverse, List.pairwise_map]
    exact places.imp fun hne heq => hne (congrArg (·.2.2) heq).symm
  . intro entry hentry other hother
    obtain ⟨_, _, rfl⟩ := List.mem_map.1 (List.mem_reverse.1 hother)
    apply subject_ne
    exact (hblocks entry hentry).symm
  . intro entry hentry other hother
    obtain ⟨_, _, rfl⟩ := List.mem_map.1 hentry
    cases List.mem_append.1 hother with
    | inl hother => exact subject_ne (hblocks other hother)
    | inr hother =>
      obtain ⟨_, _, rfl⟩ := List.mem_map.1 (List.mem_reverse.1 hother)
      exact fun heq => nomatch congrArg Prod.fst heq

end ScopeEntry

structure ScopeOutcome (α : Type) where
  calls : List (DecoratorCall α)
  faults : List OutOfOrderClose
  ambient : Ambient α

structure Ambient.SameOutput (ambient other : Ambient α) : Prop where
  notices : ambient.notices = other.notices
  correlation : ambient.thread.correlation = other.thread.correlation

def CurrentContext.entered (view : α → Snapshot) (access : CurrentContext) (context : Option α)
    (ambient : Ambient α) : Ambient α :=
  let pushed := (ambient.push access.slot context).2
  (pushed.enter access.register (label pushed.thread.name (context.map view))).2

namespace Scope

def decorations : Scope → List Decoration
  | noop => []
  | stacked _ _ _ decorations => decorations

def left (ambient : Ambient α) : Scope → Ambient α
  | noop => ambient
  | stacked slot position ticket _ =>
    let popped := (ambient.pop slot position).2
    match ticket with
    | none => popped
    | some (register, ticket) => popped.strike register ticket

end Scope

namespace DecoratorCall

def found : DecoratorCall α → Ambient α
  | made _ _ _ _ found => found
  | undone _ _ _ found => found

def left (view : α → Snapshot) : DecoratorCall α → Ambient α
  | made _ _ decorator context found => (found.decorate view context decorator).2
  | undone _ _ decoration found => found.undo decoration

def entry (access : CurrentContext) : DecoratorCall α → ScopeEntry α
  | made block place decorator context found =>
    .made block place decorator context (access.get found.thread)
  | undone block place _ found => .undone block place (access.get found.thread)

def opening (view : α → Snapshot) (block : Nat) (context : Option α) :
    Nat → Ambient α → List ScopeDecorator → List (DecoratorCall α)
  | _, _, [] => []
  | place, ambient, decorator :: decorators =>
    made block place decorator context ambient ::
      opening view block context (place + 1) (ambient.decorate view context decorator).2 decorators

def closing (block : Nat) (ambient : Ambient α) : Nat → List Decoration → List (DecoratorCall α)
  | _, [] => []
  | place, decoration :: decorations =>
    closing block ambient (place + 1) decorations ++
      [undone block place decoration (ambient.undoAll decorations)]

/--
Holds for calls that are properly nested, where each call that undoes something is given what the
call of the same block and place returned.
-/
inductive Paired (view : α → Snapshot) : List (DecoratorCall α) → Prop where
  | nil : Paired view []
  | around {block place decorator context found back inner rest} :
      Paired view inner → Paired view rest →
      Paired view (made block place decorator context found ::
        (inner ++ undone block place (found.decorate view context decorator).1 back :: rest))

/--
Holds where all that was noted and all that log lines take their values from is the work of the
calls: each finds what the one before has left.
-/
def Performs (view : α → Snapshot) : Ambient α → List (DecoratorCall α) → Ambient α → Prop
  | before, [], after => after.SameOutput before
  | before, call :: calls, after =>
    call.found.SameOutput before ∧ Performs view (call.left view) calls after

end DecoratorCall

namespace ScopeProgram

def size : ScopeProgram α → Nat
  | done => 0
  | block _ _ inside rest => 1 + inside.size + rest.size

def skips (view : α → Snapshot) (maybe : Bool) (current context : Option α) : Bool :=
  maybe && current.map (fun c => (view c).key) == context.map fun c => (view c).key

def height (view : α → Snapshot) : ScopeProgram α → Option α → Nat
  | done, _ => 0
  | block maybe context inside rest, current =>
    max
      (if skips view maybe current context then inside.height view current
        else inside.height view context + 1)
      (rest.height view current)

def run (view : α → Snapshot) (access : CurrentContext) :
    ScopeProgram α → Nat → Ambient α → ScopeOutcome α
  | done, _, ambient => ⟨[], [], ambient⟩
  | block maybe context inside rest, number, ambient =>
    let opened :=
      if maybe then access.maybeScope view context ambient
      else access.openScope view context ambient
    let decorators := if opened.1.isNoop then [] else access.decorators
    let below := inside.run view access (number + 1) opened.2
    let closed := CurrentContext.closeScope opened.1 below.ambient
    let beside := rest.run view access (number + 1 + inside.size) closed.2
    { calls :=
        DecoratorCall.opening view number context 0 (access.entered view context ambient)
          decorators ++
        (below.calls ++
          DecoratorCall.closing number (opened.1.left below.ambient) 0 opened.1.decorations) ++
        beside.calls
      faults := below.faults ++ closed.1.toList ++ beside.faults
      ambient := beside.ambient }

def script (view : α → Snapshot) (decorators : List ScopeDecorator) :
    ScopeProgram α → Nat → Option α → List (ScopeEntry α)
  | done, _, _ => []
  | block maybe context inside rest, number, current =>
    let beside := rest.script view decorators (number + 1 + inside.size) current
    if skips view maybe current context then
      inside.script view decorators (number + 1) current ++ beside
    else
      ScopeEntry.around decorators number context current
        (inside.script view decorators (number + 1) context) ++ beside

end ScopeProgram

theorem Ambient.stack?_decorate (view : α → Snapshot) (context : Option α) (ambient : Ambient α)
    (decorator : ScopeDecorator) :
    (ambient.decorate view context decorator).2.thread.stack? = ambient.thread.stack? := by
  unfold ThreadState.stack?
  rw [slots_decorate]

theorem Ambient.stack?_undoAll (ambient : Ambient α) (decorations : List Decoration) :
    (ambient.undoAll decorations).thread.stack? = ambient.thread.stack? := by
  unfold ThreadState.stack?
  rw [slots_undoAll]

theorem Ambient.SameOutput.trans {ambient between other : Ambient α}
    (h : ambient.SameOutput between) (hother : between.SameOutput other) :
    ambient.SameOutput other :=
  ⟨h.notices.trans hother.notices, h.correlation.trans hother.correlation⟩

theorem ContextStack.logs_openScope {stack : ContextStack α} (h : stack.hasRoom)
    (context : Option α) : (stack.openScope context).logs = [] := by
  unfold openScope
  rw [if_pos h]
  rfl

theorem ContextStack.closeNotes_of_inOrder {stack : ContextStack α} {position : Nat}
    (h : stack.inOrder position) : stack.closeNotes position = [] := by
  unfold inOrder at h
  rw [Bool.or_eq_true, decide_eq_true_iff, decide_eq_true_iff] at h
  unfold closeNotes
  cases h with
  | inl hposition =>
    have hplace : stack.place position = .outside := if_pos (.inr hposition)
    rw [hplace]
  | inr hplace => rw [hplace]

namespace CurrentContext

variable (view : α → Snapshot) (access : CurrentContext) (context : Option α) {ambient : Ambient α}

theorem stack?_entered (ambient : Ambient α) :
    (access.entered view context ambient).thread.stack? =
      (access.openScope view context ambient).2.thread.stack? := by
  unfold ThreadState.stack? openScope entered
  simp

theorem stack_congr {thread other : ThreadState α} (h : thread.stack? = other.stack?) :
    access.stack thread = access.stack other := by
  unfold stack
  rw [h]

theorem depth_openScope_le (ambient : Ambient α) :
    (access.stack (access.openScope view context ambient).2.thread).depth ≤
      (access.stack ambient.thread).depth + 1 := by
  unfold stack
  rw [stack?_openScope_self]
  exact ContextStack.depth_openScope_le ..

theorem decorateAll_entered (ambient : Ambient α) :
    (access.entered view context ambient).decorateAll view context access.decorators =
      ((access.openScope view context ambient).1.decorations,
        (access.openScope view context ambient).2) := by
  rfl

theorem sameOutput_entered (hroom : (access.stack ambient.thread).hasRoom) :
    (access.entered view context ambient).SameOutput ambient := by
  have hlogs := ContextStack.logs_openScope hroom context
  unfold stack at hlogs
  unfold entered Ambient.push
  dsimp only
  rw [hlogs]
  cases access.register <;> exact ⟨rfl, rfl⟩

theorem closeScope_eq (scope : Scope) (ambient : Ambient α) :
    (closeScope scope ambient).2 = (scope.left ambient).undoAll scope.decorations := by
  cases scope with
  | noop => rfl
  | stacked slot position ticket decorations => cases ticket <;> rfl

theorem sameOutput_left {inside : Ambient α} {opened : List (OpenScope α)}
    (h : ambient.thread.Follows opened)
    (hinside : inside.thread.stack? = (access.openScope view context ambient).2.thread.stack?) :
    ((access.openScope view context ambient).1.left inside).SameOutput inside := by
  have hnotes : ((access.stack ambient.thread).openScope context).value.2.closeNotes
      ((access.stack ambient.thread).openScope context).value.1 = [] := by
    apply ContextStack.closeNotes_of_inOrder
    exact (ContextStack.close_openScope (h access.slot).holds.top context).2
  obtain ⟨ticket, decorations, hscope⟩ := access.scope_openScope view context ambient
  have hpop : (inside.pop access.slot
      ((access.stack ambient.thread).openScope context).value.1).2.SameOutput inside := by
    unfold Ambient.pop
    rw [hinside, stack?_openScope_self]
    dsimp only
    rw [hnotes]
    exact ⟨rfl, rfl⟩
  rw [hscope]
  cases ticket <;> exact ⟨hpop.notices, hpop.correlation⟩

end CurrentContext

namespace DecoratorCall

variable {view : α → Snapshot} {calls more : List (DecoratorCall α)} {before between after : Ambient α}

theorem Paired.append (h : Paired view calls) (hmore : Paired view more) :
    Paired view (calls ++ more) := by
  induction h with
  | nil => exact hmore
  | around hinner _ _ ihRest =>
    rw [List.cons_append, List.append_assoc, List.cons_append]
    exact .around hinner ihRest

theorem Paired.scope (h : Paired view calls) (block : Nat) (context : Option α)
    (decorators : List ScopeDecorator) (place : Nat) (ambient left : Ambient α) :
    Paired view (opening view block context place ambient decorators ++ (calls ++
      closing block left place (ambient.decorateAll view context decorators).1)) := by
  induction decorators generalizing place ambient with
  | nil =>
    rw [opening, Ambient.decorateAll, closing, List.append_nil]
    exact h
  | cons decorator decorators ih =>
    rw [opening, Ambient.decorateAll]
    dsimp only
    rw [closing, ← List.append_assoc calls, List.cons_append, ← List.append_assoc]
    exact .around (ih (place + 1) _) .nil

theorem map_entry_opening (access : CurrentContext) (block : Nat) (context : Option α)
    (decorators : List ScopeDecorator) (place : Nat) (ambient : Ambient α) :
    (opening view block context place ambient decorators).map (·.entry access) =
      (decorators.zipIdx place).map fun entry =>
        .made block entry.2 entry.1 context (access.get ambient.thread) := by
  induction decorators generalizing place ambient with
  | nil => rfl
  | cons decorator decorators ih =>
    rw [opening, List.zipIdx_cons, List.map_cons, List.map_cons, ih,
      CurrentContext.get_congr (ambient.stack?_decorate view context decorator)]
    rfl

theorem map_entry_closing (access : CurrentContext) (block : Nat) (left : Ambient α)
    (context : Option α) (decorators : List ScopeDecorator) (place : Nat) (ambient : Ambient α) :
    (closing block left place (ambient.decorateAll view context decorators).1).map
        (·.entry access) =
      ((decorators.zipIdx place).map fun entry =>
        .undone block entry.2 (access.get left.thread)).reverse := by
  induction decorators generalizing place ambient with
  | nil => rfl
  | cons decorator decorators ih =>
    rw [Ambient.decorateAll, List.zipIdx_cons, List.map_cons, List.reverse_cons]
    dsimp only
    rw [closing, List.map_append, ih, List.map_singleton, entry,
      CurrentContext.get_congr (left.stack?_undoAll _)]

theorem Performs.of_sameOutput (h : Performs view between calls after)
    (hbefore : between.SameOutput before) : Performs view before calls after := by
  cases calls with
  | nil => exact h.trans hbefore
  | cons call calls => exact ⟨h.1.trans hbefore, h.2⟩

theorem Performs.append (h : Performs view before calls between)
    (hmore : Performs view between more after) : Performs view before (calls ++ more) after := by
  induction calls generalizing before with
  | nil => exact hmore.of_sameOutput h
  | cons call calls ih => exact ⟨h.1, ih h.2⟩

theorem performs_opening (block : Nat) (context : Option α) (decorators : List ScopeDecorator)
    (place : Nat) (ambient : Ambient α) :
    Performs view ambient (opening view block context place ambient decorators)
      (ambient.decorateAll view context decorators).2 := by
  induction decorators generalizing place ambient with
  | nil => exact ⟨rfl, rfl⟩
  | cons decorator decorators ih => exact ⟨⟨rfl, rfl⟩, ih (place + 1) _⟩

theorem performs_closing (block : Nat) (ambient : Ambient α) (place : Nat)
    (decorations : List Decoration) :
    Performs view ambient (closing block ambient place decorations)
      (ambient.undoAll decorations) := by
  induction decorations generalizing place with
  | nil => exact ⟨rfl, rfl⟩
  | cons decoration decorations ih => exact (ih (place + 1)).append ⟨⟨rfl, rfl⟩, rfl, rfl⟩

end DecoratorCall

namespace ScopeProgram

variable {view : α → Snapshot} {access : CurrentContext} {ambient : Ambient α}
  {opened : List (OpenScope α)} {maybe : Bool} {context : Option α} {inside rest : ScopeProgram α}

theorem run_of_skips (h : skips view maybe (access.get ambient.thread) context) (number : Nat) :
    (block maybe context inside rest).run view access number ambient =
      let below := inside.run view access (number + 1) ambient
      let beside := rest.run view access (number + 1 + inside.size) below.ambient
      ⟨below.calls ++ beside.calls, below.faults ++ beside.faults, beside.ambient⟩ := by
  unfold skips at h
  rw [Bool.and_eq_true] at h
  have hscope : access.maybeScope view context ambient = (.noop, ambient) := if_pos h.2
  rw [run, if_pos h.1, hscope]
  dsimp only [CurrentContext.closeScope, Scope.isNoop, Scope.decorations]
  simp [DecoratorCall.opening, DecoratorCall.closing]

theorem run_of_opens (h : ¬skips view maybe (access.get ambient.thread) context) (number : Nat) :
    (block maybe context inside rest).run view access number ambient =
      let entered := access.openScope view context ambient
      let below := inside.run view access (number + 1) entered.2
      let closed := CurrentContext.closeScope entered.1 below.ambient
      let beside := rest.run view access (number + 1 + inside.size) closed.2
      { calls :=
          DecoratorCall.opening view number context 0 (access.entered view context ambient)
            access.decorators ++
          (below.calls ++
            DecoratorCall.closing number (entered.1.left below.ambient) 0 entered.1.decorations) ++
          beside.calls
        faults := below.faults ++ closed.1.toList ++ beside.faults
        ambient := beside.ambient } := by
  have hscope : (if maybe then access.maybeScope view context ambient
      else access.openScope view context ambient) = access.openScope view context ambient := by
    cases maybe with
    | false => rfl
    | true => exact if_neg h
  rw [run, hscope]
  rfl

structure Decorated (view : α → Snapshot) (access : CurrentContext) (program : ScopeProgram α)
    (number : Nat) (ambient : Ambient α) : Prop where
  restored : (program.run view access number ambient).ambient.thread.stack? = ambient.thread.stack?
  faults : (program.run view access number ambient).faults = []
  entries : (program.run view access number ambient).calls.map (·.entry access) =
    program.script view access.decorators number (access.get ambient.thread)
  paired : DecoratorCall.Paired view (program.run view access number ambient).calls
  performs : DecoratorCall.Performs view ambient (program.run view access number ambient).calls
    (program.run view access number ambient).ambient

theorem Decorated.skip {number : Nat}
    (h : skips view maybe (access.get ambient.thread) context)
    (hinside : Decorated view access inside (number + 1) ambient)
    (hrest : Decorated view access rest (number + 1 + inside.size)
      (inside.run view access (number + 1) ambient).ambient) :
    Decorated view access (block maybe context inside rest) number ambient := by
  refine ⟨?_, ?_, ?_, ?_, ?_⟩
  all_goals rw [run_of_skips h]
  . exact hrest.restored.trans hinside.restored
  . dsimp only
    rw [hinside.faults, hrest.faults]
    rfl
  . rw [script, if_pos h, List.map_append, hinside.entries, hrest.entries,
      CurrentContext.get_congr hinside.restored]
  . exact hinside.paired.append hrest.paired
  . exact hinside.performs.append hrest.performs

theorem Decorated.scope {number : Nat} (hfollows : ambient.thread.Follows opened)
    (hroom : (access.stack ambient.thread).hasRoom)
    (h : ¬skips view maybe (access.get ambient.thread) context)
    (hinside : Decorated view access inside (number + 1)
      (access.openScope view context ambient).2)
    (hrest : Decorated view access rest (number + 1 + inside.size)
      (CurrentContext.closeScope (access.openScope view context ambient).1
        (inside.run view access (number + 1)
          (access.openScope view context ambient).2).ambient).2) :
    Decorated view access (block maybe context inside rest) number ambient := by
  obtain ⟨hfault, hclosed⟩ :=
    CurrentContext.closeScope_openScope view hfollows access context hinside.restored
  have hcontext : access.get (access.openScope view context ambient).2.thread = context := by
    rw [CurrentContext.get_openScope, if_pos hroom]
  have hentered : access.get (access.entered view context ambient).thread = context := by
    rw [CurrentContext.get_congr (access.stack?_entered view context ambient), hcontext]
  have hleft : ((access.openScope view context ambient).1.left
      (inside.run view access (number + 1)
        (access.openScope view context ambient).2).ambient).thread.stack? =
      ambient.thread.stack? := by
    rw [← Ambient.stack?_undoAll, ← CurrentContext.closeScope_eq, hclosed]
  have hdecorations := congrArg Prod.fst (access.decorateAll_entered view context ambient).symm
  dsimp only at hdecorations
  refine ⟨?_, ?_, ?_, ?_, ?_⟩
  all_goals rw [run_of_opens h]
  . exact hrest.restored.trans hclosed
  . dsimp only
    rw [hinside.faults, hfault, hrest.faults]
    rfl
  . dsimp only
    rw [List.map_append, List.map_append, List.map_append, DecoratorCall.map_entry_opening,
      hentered, hinside.entries, hcontext, hdecorations, DecoratorCall.map_entry_closing,
      CurrentContext.get_congr hleft, hrest.entries, CurrentContext.get_congr hclosed, script,
      if_neg h]
    rfl
  . dsimp only
    rw [hdecorations]
    apply DecoratorCall.Paired.append
    . exact hinside.paired.scope ..
    . exact hrest.paired
  . apply DecoratorCall.Performs.append
    . apply DecoratorCall.Performs.append
      . apply (DecoratorCall.performs_opening ..).of_sameOutput
        exact access.sameOutput_entered view context hroom
      . apply hinside.performs.append
        apply (DecoratorCall.performs_closing ..).of_sameOutput
        exact access.sameOutput_left view context hfollows hinside.restored
    . rw [← CurrentContext.closeScope_eq]
      exact hrest.performs

theorem decorated (view : α → Snapshot) (access : CurrentContext) (program : ScopeProgram α)
    (number : Nat) (ambient : Ambient α) {opened : List (OpenScope α)}
    (hfollows : ambient.thread.Follows opened)
    (hfits : (access.stack ambient.thread).depth +
      program.height view (access.get ambient.thread) < ContextStack.overflowPosition) :
    Decorated view access program number ambient := by
  -- the state and its open scopes are general: a block goes on from what its own program leaves
  induction program generalizing number ambient opened with
  | done => exact ⟨rfl, rfl, rfl, .nil, rfl, rfl⟩
  | block maybe context inside rest ihInside ihRest =>
    rw [height] at hfits
    by_cases h : skips view maybe (access.get ambient.thread) context
    . rw [if_pos h] at hfits
      have hinside := ihInside (number + 1) ambient hfollows (by omega)
      apply hinside.skip h
      apply ihRest _ _ (hfollows.congr hinside.restored)
      rw [access.stack_congr hinside.restored, CurrentContext.get_congr hinside.restored]
      omega
    . rw [if_neg h] at hfits
      have hroom : (access.stack ambient.thread).hasRoom := decide_eq_true (by omega)
      have hinside := ihInside (number + 1) (access.openScope view context ambient).2
        (hfollows.openScope access context) (by
          rw [CurrentContext.get_openScope, if_pos hroom]
          have hdepth := access.depth_openScope_le view context ambient
          omega)
      have hclosed :=
        (CurrentContext.closeScope_openScope view hfollows access context hinside.restored).2
      apply hinside.scope hfollows hroom h
      apply ihRest _ _ (hfollows.congr hclosed)
      rw [access.stack_congr hclosed, CurrentContext.get_congr hclosed]
      omega

theorem block_of_mem_script {decorators : List ScopeDecorator} {program : ScopeProgram α}
    {number : Nat} {current : Option α} {entry : ScopeEntry α}
    (h : entry ∈ program.script view decorators number current) :
    number ≤ entry.block ∧ entry.block < number + program.size := by
  -- blocks are numbered from the outside in, and those beside come after all inside
  induction program generalizing number current with
  | done => cases h
  | block maybe context inside rest ihInside ihRest =>
    rw [script] at h
    rw [size]
    split at h
    . cases List.mem_append.1 h with
      | inl h =>
        have hinside := ihInside h
        omega
      | inr h =>
        have hrest := ihRest h
        omega
    . cases List.mem_append.1 h with
      | inl h =>
        cases ScopeEntry.mem_around h with
        | inl hblock => omega
        | inr h =>
          have hinside := ihInside h
          omega
      | inr h =>
        have hrest := ihRest h
        omega

theorem pairwise_script (view : α → Snapshot) (decorators : List ScopeDecorator)
    (program : ScopeProgram α) (number : Nat) (current : Option α) :
    (program.script view decorators number current).Pairwise
      fun entry other => entry.subject ≠ other.subject := by
  induction program generalizing number current with
  | done => exact .nil
  | block maybe context inside rest ihInside ihRest =>
    rw [script]
    split
    . refine List.pairwise_append.2 ⟨ihInside .., ihRest .., ?_⟩
      intro entry hentry other hother
      have hinside := block_of_mem_script hentry
      have hrest := block_of_mem_script hother
      apply ScopeEntry.subject_ne
      omega
    -- blocks inside have higher numbers than this one, and lower ones than those that follow
    . refine List.pairwise_append.2 ⟨?_, ihRest .., ?_⟩
      . apply ScopeEntry.pairwise_around (ihInside ..)
        intro entry hentry
        have hinside := block_of_mem_script hentry
        omega
      . intro entry hentry other hother
        have hrest := block_of_mem_script hother
        apply ScopeEntry.subject_ne
        cases ScopeEntry.mem_around hentry with
        | inl hblock => omega
        | inr hentry =>
          have hinside := block_of_mem_script hentry
          omega

/--
The decorators of each scope that is opened do their work once each and in order, with the context
of the scope current. It is undone once each and in the opposite order, with the context current
that was so before. Nothing else is noted or changed for log lines. Where a program fits in, no
close fails and everything is as before.
-/
theorem decorations_nest (view : α → Snapshot) (access : CurrentContext) (program : ScopeProgram α)
    (ambient : Ambient α) (opened : List (OpenScope α))
    (hfollows : ambient.thread.Follows opened)
    (hfits : (access.stack ambient.thread).depth +
      program.height view (access.get ambient.thread) < ContextStack.overflowPosition) :
    let outcome := program.run view access 0 ambient
    let log := outcome.calls.map (·.entry access)
    log = program.script view access.decorators 0 (access.get ambient.thread) ∧
      (log.map (·.subject)).Nodup ∧
      DecoratorCall.Paired view outcome.calls ∧
      DecoratorCall.Performs view ambient outcome.calls outcome.ambient ∧
      outcome.faults = [] ∧
      outcome.ambient.thread.stack? = ambient.thread.stack? := by
  intro outcome log
  have h := decorated view access program 0 ambient hfollows hfits
  refine ⟨h.entries, ?_, h.paired, h.performs, h.faults, h.restored⟩
  have hlog : log = program.script view access.decorators 0 (access.get ambient.thread) := h.entries
  rw [hlog]
  exact List.pairwise_map.2 (pairwise_script ..)

theorem decorations_nest_two_decorators :
    let view : Nat → Snapshot := fun number => { (default : Snapshot) with spanId := .ofNat number }
    let report := ScopeDecorator.report "scopes" none
    let logging := ScopeDecorator.loggingSpan []
    let access := ((CurrentContext.strict 0).withDecorator report).withDecorator logging
    let program : ScopeProgram Nat :=
      .block false (some 1) (.block true (some 1) .done (.block true (some 2) .done .done))
        (.block false none .done .done)
    let ambient : Ambient Nat := ⟨.fresh "main", [.empty], []⟩
    let outcome := program.run view access 0 ambient
    ambient.thread.Follows [] ∧
      (access.stack ambient.thread).depth + program.height view (access.get ambient.thread) <
        ContextStack.overflowPosition ∧
      outcome.calls.map (·.entry access) =
        [.made 0 0 report (some 1) (some 1), .made 0 1 logging (some 1) (some 1),
          .made 2 0 report (some 2) (some 2), .made 2 1 logging (some 2) (some 2),
          .undone 2 1 (some 1), .undone 2 0 (some 1), .undone 0 1 none, .undone 0 0 none,
          .made 3 0 report none none, .made 3 1 logging none none,
          .undone 3 1 none, .undone 3 0 none] ∧
      DecoratorCall.Paired view outcome.calls ∧ outcome.faults = [] ∧
      outcome.ambient.thread.stack? = ambient.thread.stack? := by
  intro view report logging access program ambient outcome
  have hfollows : ambient.thread.Follows [] := fun _ => rfl
  have hfits : (access.stack ambient.thread).depth +
      program.height view (access.get ambient.thread) < ContextStack.overflowPosition := by
    decide
  obtain ⟨hlog, _, hpaired, _, hfaults, hrestored⟩ :=
    decorations_nest view access program ambient [] hfollows hfits
  exact ⟨hfollows, hfits, hlog.trans (by decide), hpaired, hfaults, hrestored⟩

end ScopeProgram

end RequestTracing
