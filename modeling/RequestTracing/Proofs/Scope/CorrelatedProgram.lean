import Mathlib
import RequestTracing.Proofs.Scope.Correlation
import RequestTracing.Proofs.Scope.Nested
import RequestTracing.Trace.Heap

/-!
This module contains programs whose nested scopes copy the same fields to where log lines take
values from, while their code changes baggage. Main statement: at every point log lines carry the
identifiers of the context that is current, and none where nothing is current; once all blocks were
left they carry the values from before the program.
-/

namespace RequestTracing

variable {α : Type}

structure CorrelatedProgram where
  heap : Heap
  ambient : Ambient ContextInstance
  blocks : List Scope

inductive CorrelatedAction where
  | newScope (access : CurrentContext) (context : Option ContextInstance)
  | maybeScope (access : CurrentContext) (context : Option ContextInstance)
  | work (heap : Heap)
  | leave

def CorrelatedAction.Uses (slot : Nat) (fields : List CorrelationField) : CorrelatedAction → Prop
  | newScope access _ => access.slot = slot ∧ access.fields = fields
  | maybeScope access _ => access.slot = slot ∧ access.fields = fields
  | work _ => True
  | leave => True

namespace CorrelatedProgram

def enter (program : CorrelatedProgram) (opened : Scope × Ambient ContextInstance) :
    CorrelatedProgram :=
  { program with ambient := opened.2, blocks := opened.1 :: program.blocks }

def perform (program : CorrelatedProgram) : CorrelatedAction → CorrelatedProgram
  | .newScope access context =>
    program.enter (access.openScope program.heap.view context program.ambient)
  | .maybeScope access context =>
    program.enter (access.maybeScope program.heap.view context program.ambient)
  | .work heap => { program with heap }
  | .leave =>
    match program.blocks with
    | [] => program
    | scope :: outer =>
      { program with
        ambient := (CurrentContext.closeScope scope program.ambient).2
        blocks := outer }

def after (program : CorrelatedProgram) (actions : List CorrelatedAction) : CorrelatedProgram :=
  actions.foldl perform program

def depth (first : Ambient ContextInstance) (slot : Nat) (blocks : List Scope) : Nat :=
  ((first.thread.stack? slot).getD .empty).depth + blocks.countP fun scope => !scope.isNoop

end CorrelatedProgram

def Ambient.Agrees (ambient other : Ambient α) : Prop :=
  ambient.thread.stack? = other.thread.stack? ∧
    ∀ name, ambient.thread.correlation.get? name = other.thread.correlation.get? name

theorem Ambient.Agrees.trans {ambient between other : Ambient α} (h : ambient.Agrees between)
    (hother : between.Agrees other) : ambient.Agrees other :=
  ⟨h.1.trans hother.1, fun name => (h.2 name).trans (hother.2 name)⟩

theorem CurrentContext.closeScope_openScope_agrees {view : α → Snapshot}
    {ambient inside : Ambient α} {opened : List (OpenScope α)} (h : ambient.thread.Follows opened)
    (current : CurrentContext) (context : Option α)
    (hinside : inside.Agrees (current.openScope view context ambient).2) :
    (closeScope (current.openScope view context ambient).1 inside).2.Agrees ambient := by
  refine ⟨(closeScope_openScope view h current context hinside.1).2, ?_⟩
  intro name
  obtain ⟨hkept, hvalues⟩ := current.openScope_correlation view context ambient
  have hname := hinside.2 name
  rw [hvalues] at hname
  rw [correlation_closeScope, hkept]
  exact CorrelationField.get?_restore_apply _ _ _ hname

namespace CorrelatedProgram

inductive Entered (slot : Nat) (fields : List CorrelationField)
    (first : Ambient ContextInstance) : List Scope → Ambient ContextInstance → Prop where
  | start {ambient} : ambient.Agrees first → Entered slot fields first [] ambient
  | skipped {blocks ambient} : Entered slot fields first blocks ambient →
      Entered slot fields first (.noop :: blocks) ambient
  | opened {blocks ambient inside} (heap : Heap) (access : CurrentContext)
      (context : Option ContextInstance) :
      Entered slot fields first blocks ambient → access.slot = slot → access.fields = fields →
      inside.Agrees (access.openScope heap.view context ambient).2 →
      Entered slot fields first ((access.openScope heap.view context ambient).1 :: blocks) inside

variable {slot : Nat} {fields : List CorrelationField} {first ambient : Ambient ContextInstance}
  {blocks : List Scope} {scope : Scope} {program : CorrelatedProgram}

theorem Entered.congr (h : Entered slot fields first blocks ambient)
    {other : Ambient ContextInstance} (hother : other.Agrees ambient) :
    Entered slot fields first blocks other := by
  induction h with
  | start hfirst => exact .start (hother.trans hfirst)
  | skipped _ ih => exact .skipped (ih hother)
  | opened heap access context h hslot hfields hinside _ =>
    exact .opened heap access context h hslot hfields (hother.trans hinside)

theorem Entered.sound (h : Entered slot fields first blocks ambient)
    (hfirst : Block.Sound first.thread.stack?) : Block.Sound ambient.thread.stack? := by
  induction h with
  | start hsame =>
    rw [hsame.1]
    exact hfirst
  | skipped _ ih => exact ih
  | opened heap access context _ _ _ hinside ih =>
    obtain ⟨opened, hopened⟩ := ih
    rw [hinside.1]
    exact ⟨_, ThreadState.Follows.openScope hopened access context⟩

theorem Entered.leave (h : Entered slot fields first (scope :: blocks) ambient)
    (hfirst : Block.Sound first.thread.stack?) :
    Entered slot fields first blocks (CurrentContext.closeScope scope ambient).2 := by
  cases h with
  | skipped h => exact h
  | opened heap access context h _ _ hinside =>
    obtain ⟨opened, hopened⟩ := h.sound hfirst
    exact h.congr (CurrentContext.closeScope_openScope_agrees hopened access context hinside)

theorem Entered.depth_le (h : Entered slot fields first blocks ambient) :
    ((ambient.thread.stack? slot).getD .empty).depth ≤ depth first slot blocks := by
  induction h with
  | start hsame =>
    rw [hsame.1]
    exact Nat.le_add_right _ _
  | skipped _ ih => exact ih
  | @opened blocks ambient inside heap access context _ hslot _ hinside ih =>
    subst hslot
    obtain ⟨ticket, decorations, hscope⟩ := access.scope_openScope heap.view context ambient
    have hle := (access.stack ambient.thread).depth_openScope_le context
    rw [hinside.1, CurrentContext.stack?_openScope_self, Option.getD_some, hscope]
    unfold depth CurrentContext.stack at *
    rw [List.countP_cons_of_pos rfl]
    omega

theorem Entered.get?_eq (h : Entered slot fields first blocks ambient) {field : CorrelationField}
    (hmem : field ∈ fields)
    (halone : ∀ other ∈ fields, other.name = field.name → other.source = field.source)
    {text : ContextInstance → String}
    (htext : ∀ (heap : Heap) source, field.value (heap.view source) = some (text source))
    (hcurrent : first.thread.current slot = none)
    (hvalue : first.thread.correlation.get? field.name = none)
    (hfits : depth first slot blocks < ContextStack.overflowPosition) :
    ambient.thread.correlation.get? field.name = (ambient.thread.current slot).map text := by
  -- a skipped block changes neither side, and in an opened one both go by its own context
  induction h with
  | start hsame =>
    unfold ThreadState.current at *
    rw [hsame.2, hsame.1, hvalue, hcurrent]
    rfl
  | skipped _ ih => exact ih hfits
  | @opened blocks ambient inside heap access context h hslot hfields hinside _ =>
    subst hslot hfields
    obtain ⟨ticket, decorations, hscope⟩ := access.scope_openScope heap.view context ambient
    -- the stack is no deeper than the blocks that were entered
    have hroom : (access.stack ambient.thread).hasRoom := by
      have hle := h.depth_le
      rw [hscope] at hfits
      unfold depth at hle hfits
      rw [List.countP_cons_of_pos rfl] at hfits
      unfold ContextStack.hasRoom CurrentContext.stack
      rw [decide_eq_true_iff]
      omega
    have hget : inside.thread.current access.slot = context := by
      have hget := access.get_openScope heap.view context ambient
      rw [if_pos hroom] at hget
      rw [← hget]
      exact CurrentContext.get_congr hinside.1 access
    have htarget : ∀ other ∈ access.fields, other.name = field.name →
        other.target (context.map heap.view) = field.target (context.map heap.view) := by
      intro other hother hname
      unfold CorrelationField.target CorrelationField.value
      rw [halone other hother hname]
    rw [hinside.2, (access.openScope_correlation heap.view context ambient).2, hget,
      CorrelationField.get?_apply_of_mem _ _ hmem htarget]
    unfold CorrelationField.target
    cases context with
    | none => rfl
    | some source => exact htext heap source

theorem Entered.perform (h : Entered slot fields first program.blocks program.ambient)
    (hfirst : Block.Sound first.thread.stack?) {action : CorrelatedAction}
    (uses : action.Uses slot fields) :
    Entered slot fields first (program.perform action).blocks
      (program.perform action).ambient := by
  cases action with
  | newScope access context =>
    exact .opened program.heap access context h uses.1 uses.2 ⟨rfl, fun _ => rfl⟩
  | maybeScope access context =>
    unfold CorrelatedProgram.perform CurrentContext.maybeScope
    dsimp only
    split
    . exact .skipped h
    . exact .opened program.heap access context h uses.1 uses.2 ⟨rfl, fun _ => rfl⟩
  | work heap => exact h
  | leave =>
    unfold CorrelatedProgram.perform
    dsimp only
    split
    . next hblocks => exact h
    . next scope outer hblocks =>
      rw [hblocks] at h
      exact h.leave hfirst

theorem Entered.after (h : Entered slot fields first program.blocks program.ambient)
    (hfirst : Block.Sound first.thread.stack?) {actions : List CorrelatedAction}
    (uses : ∀ action ∈ actions, action.Uses slot fields) :
    Entered slot fields first (program.after actions).blocks (program.after actions).ambient := by
  induction actions generalizing program with
  | nil => exact h
  | cons action actions ih =>
    apply ih (h.perform hfirst (uses action (List.mem_cons_self ..)))
    exact fun other hother => uses other (List.mem_cons_of_mem action hother)

/--
A program may nest blocks in any way and change baggage at any time. Below the limit of scopes, log
lines carry the identifiers of the context that is current, under names that no other fields use,
and no identifiers where nothing is current. Where all blocks were left, they carry what they
carried before, and what was current before is current again.
-/
theorem carries_identifiers (slot : Nat) (fields : List CorrelationField)
    (trace : ∃ field ∈ fields, field.source = .traceId ∧
      field.name = CorrelationField.traceIdName)
    (onlyTrace : ∀ field ∈ fields, field.name = CorrelationField.traceIdName →
      field.source = .traceId)
    (span : ∃ field ∈ fields, field.source = .spanId ∧ field.name = CorrelationField.spanIdName)
    (onlySpan : ∀ field ∈ fields, field.name = CorrelationField.spanIdName →
      field.source = .spanId)
    (first : CorrelatedProgram) (idle : first.blocks = [])
    (opened : List (OpenScope ContextInstance)) (sound : first.ambient.thread.Follows opened)
    (nothing : first.ambient.thread.current slot = none)
    (noTrace : first.ambient.thread.correlation.get? CorrelationField.traceIdName = none)
    (noSpan : first.ambient.thread.correlation.get? CorrelationField.spanIdName = none)
    (actions : List CorrelatedAction) (uses : ∀ action ∈ actions, action.Uses slot fields) :
    let last := first.after actions
    let current := last.ambient.thread.current slot
    (depth first.ambient slot last.blocks < ContextStack.overflowPosition →
      last.ambient.thread.correlation.get? CorrelationField.traceIdName =
          current.map (·.context.traceId.toText) ∧
        last.ambient.thread.correlation.get? CorrelationField.spanIdName =
          current.map (·.context.spanId.toText)) ∧
      (last.blocks = [] →
        (∀ name, last.ambient.thread.correlation.get? name =
            first.ambient.thread.correlation.get? name) ∧
          ∀ access : CurrentContext,
            access.get last.ambient.thread = access.get first.ambient.thread) := by
  intro last current
  -- the invariant of the whole run, from which both parts are read
  have hlast : Entered slot fields first.ambient last.blocks last.ambient := by
    apply Entered.after _ ⟨opened, sound⟩ uses
    rw [idle]
    exact .start ⟨rfl, fun _ => rfl⟩
  refine ⟨?_, ?_⟩
  . intro hfits
    obtain ⟨traceField, htrace, hsource, hname⟩ := trace
    obtain ⟨spanField, hspan, hspanSource, hspanName⟩ := span
    rw [← hname] at onlyTrace noTrace ⊢
    rw [← hspanName] at onlySpan noSpan ⊢
    rw [← hsource] at onlyTrace
    rw [← hspanSource] at onlySpan
    refine ⟨hlast.get?_eq htrace onlyTrace ?_ nothing noTrace hfits,
      hlast.get?_eq hspan onlySpan ?_ nothing noSpan hfits⟩
    . intro heap source
      unfold CorrelationField.value
      rw [hsource]
      rfl
    . intro heap source
      unfold CorrelationField.value
      rw [hspanSource]
      rfl
  . intro hleft
    rw [hleft] at hlast
    cases hlast with
    | start hsame => exact ⟨hsame.2, CurrentContext.get_congr hsame.1⟩

theorem carries_identifiers_baggage :
    let tenant : BaggageField := ⟨"tenant"⟩
    let fields := CorrelationField.defaults ++ [.ofSource (.baggage tenant)]
    let access := CurrentContext.shared.withDecorator (.correlation fields)
    let context : ContextInstance :=
      ⟨0, { (default : TraceContext BaggageRef) with
        traceId := .ofNat 1, spanId := .ofNat 2, extra := [.baggage 0] }⟩
    let first : CorrelatedProgram := ⟨⟨1, [⟨[(tenant, some "a")]⟩]⟩, .fresh "main", []⟩
    let actions : List CorrelatedAction := [.newScope access (some context),
      .maybeScope access none, .leave, .work ⟨1, [⟨[(tenant, some "b")]⟩]⟩]
    (first.after actions).ambient.thread.correlation.get? CorrelationField.traceIdName =
        some "0000000000000001" ∧
      (first.after actions).ambient.thread.correlation.get? CorrelationField.spanIdName =
        some "0000000000000002" ∧
      (first.after actions).ambient.thread.correlation.get? tenant.name = some "a" ∧
      (first.after (actions ++ [.leave])).blocks = [] ∧
      ∀ name, (first.after (actions ++ [.leave])).ambient.thread.correlation.get? name = none := by
  intro tenant fields access context first actions
  have uses : ∀ action ∈ actions ++ [.leave], action.Uses access.slot fields := by
    intro action haction
    fin_cases haction <;> first | exact ⟨rfl, rfl⟩ | exact trivial
  have h := carries_identifiers access.slot fields ⟨_, List.mem_cons_self .., rfl, rfl⟩
    (by decide) ⟨_, List.mem_cons_of_mem _ (List.mem_cons_self ..), rfl, rfl⟩ (by decide) first rfl
    [] (fun _ => rfl) rfl rfl rfl
  obtain ⟨hinside, _⟩ := h actions fun action haction => uses action (List.mem_append_left _ haction)
  obtain ⟨_, hlast⟩ := h (actions ++ [.leave]) uses
  obtain ⟨htrace, hspan⟩ := hinside (by decide)
  have hcurrent : (first.after actions).ambient.thread.current access.slot = some context := by
    decide
  rw [hcurrent] at htrace hspan
  refine ⟨htrace.trans (by decide), hspan.trans (by decide), by decide, rfl, ?_⟩
  exact (hlast rfl).1

end CorrelatedProgram

end RequestTracing
