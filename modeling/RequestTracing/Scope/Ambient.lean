import RequestTracing.Scope.Decorator
import RequestTracing.Scope.Stack
import RequestTracing.Scope.Strict

/-!
This module contains what scopes work on: the stacks and log values of the thread that runs, and the
registers of strict instances, which threads share. Contexts are of any type `α` that can be looked
at through a function to `Snapshot`.
-/

namespace RequestTracing

inductive ScopeEvent (α : Type) where
  | opened (label : String) (context observed : Option α)
  | closed (label : String) (observed : Option α)
  deriving DecidableEq

inductive ScopeNotice (α : Type) where
  | log (record : LogRecord)
  | event (event : ScopeEvent α)
  deriving DecidableEq

structure ThreadState (α : Type) where
  name : String
  slots : List (Nat × ContextStack α)
  correlation : CorrelationValues

namespace ThreadState

variable {α : Type}

def fresh (name : String) : ThreadState α :=
  ⟨name, [], .empty⟩

def stack? (thread : ThreadState α) (slot : Nat) : Option (ContextStack α) :=
  thread.slots.lookup slot

def current (thread : ThreadState α) (slot : Nat) : Option α :=
  (thread.stack? slot).bind (·.current)

def setStack (thread : ThreadState α) (slot : Nat) (stack : ContextStack α) : ThreadState α :=
  let others := thread.slots.filter fun entry => entry.1 ≠ slot
  { thread with slots := if stack.isEmpty then others else (slot, stack) :: others }

def contexts (thread : ThreadState α) : List α :=
  thread.slots.flatMap fun entry =>
    entry.2.current.toList ++ entry.2.saved.filterMap Option.join

end ThreadState

structure Ambient (α : Type) where
  thread : ThreadState α
  registers : List ScopeRegister
  notices : List (ScopeNotice α)

namespace Ambient

variable {α : Type}

def fresh (threadName : String) : Ambient α :=
  ⟨.fresh threadName, [], []⟩

def note (ambient : Ambient α) (notice : ScopeNotice α) : Ambient α :=
  { ambient with notices := notice :: ambient.notices }

def log (ambient : Ambient α) (records : List LogRecord) : Ambient α :=
  records.foldl (fun ambient record => ambient.note (.log record)) ambient

def push (ambient : Ambient α) (slot : Nat) (context : Option α) : Nat × Ambient α :=
  let opened := ((ambient.thread.stack? slot).getD .empty).openScope context
  let thread := ambient.thread.setStack slot opened.value.2
  (opened.value.1, { ambient with thread }.log opened.logs)

/--
Closes the scope at a position of a slot. The result holds when no other scope was disturbed.
-/
def pop (ambient : Ambient α) (slot position : Nat) : Bool × Ambient α :=
  match ambient.thread.stack? slot with
  | none => (false, ambient)
  | some stack =>
    let thread := ambient.thread.setStack slot (stack.close position)
    (stack.inOrder position, { ambient with thread }.log (stack.closeNotes position))

def enter (ambient : Ambient α) (register : Option Nat) (label : String) :
    Option (Nat × Nat) × Ambient α :=
  match register with
  | none => (none, ambient)
  | some i =>
    let (ticket, entered) := (ambient.registers.getD i .empty).enter label
    (some (i, ticket), { ambient with registers := ambient.registers.set i entered })

def strike (ambient : Ambient α) (register ticket : Nat) : Ambient α :=
  { ambient with
    registers := ambient.registers.modify register fun entries => entries.strike ticket }

def decorate (view : α → Snapshot) (context : Option α) (ambient : Ambient α) :
    ScopeDecorator → Decoration × Ambient α
  | .report label observed =>
    (.report label observed,
      ambient.note (.event (.opened label context (observed.bind ambient.thread.current))))
  | .correlation fields =>
    let (kept, correlation) :=
      CorrelationField.apply (context.map view) ambient.thread.correlation fields
    (if kept = [] then .noop else .correlation kept,
      { ambient with thread := { ambient.thread with correlation } })
  | .loggingSpan baggage =>
    match context with
    | none => (.noop, ambient)
    | some context =>
      (.loggingSpan, ambient.log (ScopeDecorator.enterNotes baggage (view context)))

def decorateAll (view : α → Snapshot) (context : Option α) (ambient : Ambient α) :
    List ScopeDecorator → List Decoration × Ambient α
  | [] => ([], ambient)
  | decorator :: decorators =>
    let (decoration, ambient) := ambient.decorate view context decorator
    let (decorations, ambient) := ambient.decorateAll view context decorators
    (decoration :: decorations, ambient)

def undo (ambient : Ambient α) : Decoration → Ambient α
  | .noop => ambient
  | .report label observed =>
    ambient.note (.event (.closed label (observed.bind ambient.thread.current)))
  | .correlation kept =>
    let correlation := CorrelationField.restore ambient.thread.correlation kept
    { ambient with thread := { ambient.thread with correlation } }
  | .loggingSpan => ambient.log [.spanExit]

def undoAll (ambient : Ambient α) : List Decoration → Ambient α
  | [] => ambient
  | decoration :: decorations => (ambient.undoAll decorations).undo decoration

end Ambient

end RequestTracing
