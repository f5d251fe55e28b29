import RequestTracing.Log

/-!
This module contains the stack of contexts that scopes have made current on one thread. Each open
scope keeps what was current before it, so that closing the innermost one restores that. A scope
that is closed while others above it are open leaves a gap, and hands what it kept to the next open
scope above.
-/

namespace RequestTracing

structure ContextStack (α : Type) where
  current : Option α
  /--
  What each scope found when it opened, the innermost first, and `none` for a gap.
  -/
  saved : List (Option (Option α))
  depth : Nat
  depth_eq : depth = saved.length := by rfl

inductive ScopePlace where
  | innermost
  | covered
  | beyond
  | outside
  deriving DecidableEq

namespace ContextStack

variable {α : Type}

def overflowPosition : Nat :=
  65535

def empty : ContextStack α where
  current := none
  saved := []
  depth := 0

instance : Inhabited (ContextStack α) :=
  ⟨empty⟩

def isEmpty (stack : ContextStack α) : Bool :=
  stack.current.isNone && stack.saved.isEmpty

def hasRoom (stack : ContextStack α) : Bool :=
  stack.depth + 1 < overflowPosition

def push (stack : ContextStack α) (context : Option α) : ContextStack α where
  current := context
  saved := some stack.current :: stack.saved
  depth := stack.depth + 1
  depth_eq := by simp [stack.depth_eq]

def overflowNote : LogRecord :=
  .event .warn LogRecord.coreTarget "CurrentTraceContext.ScopeFailed"
    [("message", "Too many nested scopes. Max limit is " ++ toString overflowPosition ++
      ". The current context remains unchanged and closing the returned scope has no effect.")]

def openScope (stack : ContextStack α) (context : Option α) : Logged (Nat × ContextStack α) := do
  if stack.hasRoom then
    return (stack.depth + 1, stack.push context)
  else
    Logged.write overflowNote
    return (overflowPosition, stack)

def place (stack : ContextStack α) (position : Nat) : ScopePlace :=
  if position = 0 ∨ position = overflowPosition then
    .outside
  else if position = stack.depth then
    .innermost
  else if stack.depth < position then
    .beyond
  else
    .covered

def gaps (saved : List (Option (Option α))) : Nat :=
  (saved.takeWhile Option.isNone).length

def unwind (saved : List (Option (Option α))) : List (Option (Option α)) :=
  saved.dropWhile Option.isNone

theorem length_unwind (saved : List (Option (Option α))) :
    (unwind saved).length = saved.length - gaps saved := by
  have h := congrArg List.length (List.takeWhile_append_dropWhile (p := Option.isNone) (l := saved))
  rw [List.length_append] at h
  unfold unwind gaps
  omega

/--
Closes the innermost scope: what it kept becomes current, and the gaps below it go with it.
-/
def pop (stack : ContextStack α) : ContextStack α where
  current := stack.saved.head?.join.getD stack.current
  saved := unwind stack.saved.tail
  depth := stack.depth - 1 - gaps stack.saved.tail
  depth_eq := by rw [length_unwind, List.length_tail, stack.depth_eq]

/--
Makes a gap of the entry with `above` entries over it. What it kept goes to the nearest entry above
that is no gap; the first component is what found none.
-/
def vacate : Nat → List (Option (Option α)) → Option (Option α) × List (Option (Option α))
  | _, [] => (none, [])
  | 0, entry :: below => (entry, none :: below)
  | above + 1, entry :: below =>
    match entry, vacate above below with
    | some _, (some kept, below) => (none, some kept :: below)
    | entry, (kept, below) => (kept, entry :: below)

theorem length_vacate (above : Nat) (saved : List (Option (Option α))) :
    (vacate above saved).2.length = saved.length := by
  induction saved generalizing above with
  | nil => cases above <;> rfl
  | cons entry below ih =>
    cases above with
    | zero => rfl
    | succ above =>
      simp only [vacate]
      split <;> simp_all [← ih above]

def vacateAt (stack : ContextStack α) (position : Nat) : ContextStack α :=
  { stack with
    saved := (vacate (stack.depth - position) stack.saved).2
    depth_eq := by rw [length_vacate, stack.depth_eq] }

def close (stack : ContextStack α) (position : Nat) : ContextStack α :=
  match stack.place position with
  | .innermost => stack.pop
  | .covered => stack.vacateAt position
  | .beyond => stack
  | .outside => stack

def closeNotes (stack : ContextStack α) (position : Nat) : List LogRecord :=
  let place := [("position", toString position), ("stack_length", toString stack.depth)]
  match stack.place position with
  | .covered =>
    [.event .warn LogRecord.coreTarget "CurrentTraceContext.OutOfOrderClose" place]
  | .beyond =>
    [.event .warn LogRecord.coreTarget "CurrentTraceContext.PopOutOfBounds"
      (place ++ [("message", "Attempted to close a scope beyond the end of the stack")])]
  | .innermost => []
  | .outside => []

def inOrder (stack : ContextStack α) (position : Nat) : Bool :=
  position = overflowPosition || stack.place position = .innermost

end ContextStack

end RequestTracing
