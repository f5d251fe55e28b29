import RequestTracing.Scope.Ambient

/-!
This module contains access to the context that is current on a thread. Instances without further
demands share one slot; a strict instance has a slot of its own and insists on scopes being closed
in order. A scope makes a context current until it is closed.
-/

namespace RequestTracing

structure CurrentContext where
  slot : Nat
  register : Option Nat
  decorators : List ScopeDecorator
  deriving DecidableEq

inductive Scope where
  | noop
  /--
  A position in the stack of a slot, with register and ticket of a strict instance, and what undoes
  the work of decorators.
  -/
  | stacked (slot position : Nat) (ticket : Option (Nat × Nat)) (decorations : List Decoration)
  deriving DecidableEq

structure OutOfOrderClose where
  position : Nat
  deriving DecidableEq

namespace OutOfOrderClose

def message (fault : OutOfOrderClose) : String :=
  "scope at position " ++ toString fault.position ++
    " closed out of order; scopes must be closed in the reverse order they were opened"

end OutOfOrderClose

namespace Scope

def isNoop : Scope → Bool
  | noop => true
  | stacked _ _ _ _ => false

def describe : Scope → String
  | noop => "NoopScope"
  | stacked slot position _ _ =>
    Description.record "Scope" [("slot", toString slot), ("pos", toString position)]

end Scope

namespace CurrentContext

variable {α β : Type}

def sharedSlot : Nat :=
  0

def shared : CurrentContext :=
  ⟨sharedSlot, none, []⟩

instance : Inhabited CurrentContext :=
  ⟨shared⟩

def strict (register : Nat) : CurrentContext :=
  ⟨register + 1, some register, []⟩

def isStrict (current : CurrentContext) : Bool :=
  current.register.isSome

def withDecorator (current : CurrentContext) (decorator : ScopeDecorator) : CurrentContext :=
  { current with decorators := current.decorators ++ [decorator] }

def get (current : CurrentContext) (thread : ThreadState α) : Option α :=
  thread.current current.slot

def label (threadName : String) (context : Option Snapshot) : String :=
  let scope :=
    match context with
    | some context => context.toText
    | none => "empty scope"
  scope ++ " opened on thread " ++ threadName

def openScope (view : α → Snapshot) (current : CurrentContext) (context : Option α)
    (ambient : Ambient α) : Scope × Ambient α :=
  let (position, ambient) := ambient.push current.slot context
  let (ticket, ambient) :=
    ambient.enter current.register (label ambient.thread.name (context.map view))
  let (decorations, ambient) := ambient.decorateAll view context current.decorators
  (.stacked current.slot position ticket decorations, ambient)

/--
Holds when a context with the same identity is current, or none is and none is given.
-/
def isCurrent (view : α → Snapshot) (current : CurrentContext) (context : Option α)
    (thread : ThreadState α) : Bool :=
  (current.get thread).map (fun c => (view c).key) == context.map fun c => (view c).key

def maybeScope (view : α → Snapshot) (current : CurrentContext) (context : Option α)
    (ambient : Ambient α) : Scope × Ambient α :=
  if current.isCurrent view context ambient.thread then
    (.noop, ambient)
  else
    current.openScope view context ambient

def closeFault (position : Nat) (ticket : Option (Nat × Nat)) (inOrder : Bool) :
    Option OutOfOrderClose :=
  if ticket.isSome && !inOrder then some ⟨position⟩ else none

/--
Takes back what a scope made current, and undoes the work of its decorators. Everything is taken
back also where the close fails.
-/
def closeScope (scope : Scope) (ambient : Ambient α) : Option OutOfOrderClose × Ambient α :=
  match scope with
  | .noop => (none, ambient)
  | .stacked slot position ticket decorations =>
    let (inOrder, ambient) := ambient.pop slot position
    let ambient :=
      match ticket with
      | some (register, ticket) => ambient.strike register ticket
      | none => ambient
    (closeFault position ticket inOrder, ambient.undoAll decorations)

def dropAll (ambient : Ambient α) (scopes : List Scope) : Ambient α :=
  scopes.foldl (fun ambient scope => (closeScope scope ambient).2) ambient

/--
Closes scopes in order. When one fails, those that are left are closed from the other end.
-/
def closeAll (ambient : Ambient α) : List Scope → Option OutOfOrderClose × Ambient α
  | [] => (none, ambient)
  | scope :: scopes =>
    match closeScope scope ambient with
    | (none, ambient) => closeAll ambient scopes
    | (some fault, ambient) => (some fault, dropAll ambient scopes.reverse)

def within (view : α → Snapshot) (current : CurrentContext) (context : Option α)
    (task : Ambient α → β × Ambient α) (ambient : Ambient α) :
    Except OutOfOrderClose β × Ambient α :=
  let (scope, ambient) := current.openScope view context ambient
  let (result, ambient) := task ambient
  let (fault, ambient) := closeScope scope ambient
  (match fault with
    | none => .ok result
    | some fault => .error fault, ambient)

/--
Polls a computation that carries a context, until it has seen what is current on each of the given
number of polls. The result pairs what each poll saw with what is current after it.
-/
def poll (view : α → Snapshot) (current : CurrentContext) (context : Option α)
    (ambient : Ambient α) :
    Nat → Except OutOfOrderClose (List (Option α × Option α)) × Ambient α
  | 0 => (.ok [], ambient)
  | polls + 1 =>
    match current.within view context
        (fun ambient => (current.get ambient.thread, ambient)) ambient with
    | (.error fault, ambient) => (.error fault, ambient)
    | (.ok seen, ambient) =>
      let outside := current.get ambient.thread
      let (rest, ambient) := current.poll view context ambient polls
      (rest.map ((seen, outside) :: ·), ambient)

/--
Reads a stream of items that carries a context to its end. Each item is what is current when it is
asked for; one more poll finds the end.
-/
def read (view : α → Snapshot) (current : CurrentContext) (context : Option α) (ambient : Ambient α)
    (items : Nat) : Except OutOfOrderClose (List (Option α × Option α)) × Ambient α :=
  match current.poll view context ambient items with
  | (.error fault, ambient) => (.error fault, ambient)
  | (.ok seen, ambient) =>
    let (last, ambient) := current.within view context (fun ambient => ((), ambient)) ambient
    (last.map fun _ => seen, ambient)

def checkNoLeaks (current : CurrentContext) (ambient : Ambient α) : Except TraceError Unit :=
  match current.register with
  | none => .ok ()
  | some register => (ambient.registers.getD register .empty).checkNoLeaks

def describe (current : CurrentContext) : String :=
  Description.record "CurrentTraceContext"
    [("slot", toString current.slot),
     ("strict", Description.bool current.isStrict),
     ("decorators", Description.list (current.decorators.map ScopeDecorator.describe))]

end CurrentContext

end RequestTracing
