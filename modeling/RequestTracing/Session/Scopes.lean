import RequestTracing.Scope.Plan
import RequestTracing.Session.General

/-!
This module contains the commands on the current context: access to it, scopes, tasks and
computations that carry a context, and the values that log lines take from it.
-/

namespace RequestTracing

inductive DecoratorPlan where
  | report (label : String) (observed : Option String)
  | correlation (clear : Bool) (fields : List CorrelationFieldPlan)
  | loggingSpan (names : List String)
  deriving DecidableEq

inductive Attachment where
  | captured
  | given (name : Option String)
  deriving DecidableEq

inductive ScopeCommand where
  | access (strict : Bool) (base : Option String) (decorators : List DecoratorPlan)
      (result : String)
  | get (current : String)
  | dump (current : String)
  | openScope (current : String) (context : Option String) (unlessCurrent : Bool) (result : String)
  | openMany (current : String) (count : Nat) (result : String)
  | noop (result : String)
  | close (scope : String)
  | leaks (current : String)
  | wrap (current : String) (attachment : Attachment) (result : String)
  | runTask (task : String) (elsewhere : Bool)
  | future (current : String) (attachment : Attachment) (polls : Nat)
  | unwrap (current : String) (attachment : Attachment) (polls : Nat)
  | stream (current : String) (attachment : Attachment) (items : Nat)
  | setGlobal (current : String)
  | getGlobal
  deriving DecidableEq

inductive CorrelationCommand where
  | field (plan : CorrelationFieldPlan) (result : String)
  | value (field : String) (context : Option String)
  | decorate (decorator : DecoratorPlan) (context : Option String) (result : String)
  | values
  | get (name : String)
  | set (name : String) (value : Option String)
  deriving DecidableEq

namespace SessionM

def makeDecorator : DecoratorPlan → SessionM ScopeDecorator
  | .report label observed => do
    match observed with
    | some name => return .report label (some (← current name).slot)
    | none => return .report label none
  | .correlation clear plans => do
    let known := if clear then [] else CorrelationField.defaults
    let fields ← require (← logged (CorrelationFieldPlan.makeAll known plans))
    enter (.event (.correlationFields fields))
    return .correlation fields
  | .loggingSpan names => do return .ofBaggage (← require (names.mapM BaggageField.create))

def decorateAccess (access : CurrentContext) : List DecoratorPlan → SessionM CurrentContext
  | [] => pure access
  | plan :: plans => do decorateAccess (access.withDecorator (← makeDecorator plan)) plans

def strictAccess : SessionM CurrentContext :=
  inAmbient fun _ ambient =>
    (.strict ambient.registers.length,
      { ambient with registers := ambient.registers ++ [.empty] })

def openScope (current : CurrentContext) (context : Option ContextInstance) : SessionM Scope :=
  inAmbient fun view ambient => current.openScope view context ambient

/--
Opens scopes with contexts that are numbered from `first` on. The result has the last one first.
-/
def openNumbered (current : CurrentContext) (first : Nat) (opened : List Scope) :
    Nat → SessionM (List Scope)
  | 0 => pure opened
  | count + 1 => do
    let context : TraceContext BaggageRef :=
      { (default : TraceContext BaggageRef) with traceId := .ofNat 1, spanId := .ofNat first }
    let scope ← openScope current (some (← instantiate context))
    openNumbered current (first + 1) (scope :: opened) count

def attached (current : CurrentContext) : Attachment → SessionM (Option ContextInstance)
  | .captured => currentIn current
  | .given name => optionalContext name

def taskNamed (name : String) : SessionM (CurrentContext × Option ContextInstance) :=
  find name fun value =>
    match value with
    | .task access context => some (access, context)
    | _ => none

def correlationField (name : String) : SessionM CorrelationField :=
  find name fun value =>
    match value with
    | .correlationField field => some field
    | _ => none

def pollReports (polls : List (Option ContextInstance × Option ContextInstance)) :
    List PollReport :=
  polls.map fun poll => ⟨brief poll.1, brief poll.2⟩

def globalReport (access : CurrentContext) : SessionM Reply := do
  return .globalAccess access.isStrict (brief (← currentIn access))

end SessionM

namespace ScopeCommand

open SessionM

def run : ScopeCommand → SessionM Reply
  | access strict base plans result => do
    let made ←
      match base with
      | some name => current name
      | none => if strict then strictAccess else pure .shared
    let decorated ← decorateAccess made plans
    define result (.current decorated)
    return .access decorated.isStrict
  | get name => do return .text (brief (← currentIn (← current name)))
  | dump name => do
    match ← currentIn (← current name) with
    | some source => return .context (some (← view source))
    | none => return .context none
  | openScope name context unlessCurrent result => do
    let access ← current name
    let source ← optionalContext context
    let scope ←
      if unlessCurrent then
        inAmbient fun view ambient => access.maybeScope view source ambient
      else
        SessionM.openScope access source
    define result (.scope scope)
    return .noop scope.isNoop
  | openMany name count result => do
    let access ← current name
    define result (.scopes (← openNumbered access 1 [] count))
    return .text (brief (← currentIn access))
  | noop result => do
    define result (.scope .noop)
    return .done
  | close name => do
    drop name
    return .done
  | leaks name => do
    require ((← current name).checkNoLeaks (← MonadState.get).ambient)
    return .done
  | wrap name attachment result => do
    let access ← current name
    define result (.task access (← attached access attachment))
    return .done
  | runTask name elsewhere => do
    let (handle, context) ← taskNamed name
    undefine name
    let task (view : ContextInstance → Snapshot) (ambient : Ambient ContextInstance) :=
      handle.within view context (fun ambient => (handle.get ambient.thread, ambient)) ambient
    let seen ← requireOrder (← if elsewhere then inWorker task else inAmbient task)
    return .text (brief seen)
  | future name attachment polls => do
    let access ← current name
    let context ← attached access attachment
    let seen ← requireOrder (← inAmbient fun view ambient => access.poll view context ambient polls)
    return .future (brief context) (pollReports seen)
  | unwrap name attachment polls => do
    let access ← current name
    return .unwrapped (brief (← attached access attachment)) polls
  | stream name attachment items => do
    let access ← current name
    let context ← attached access attachment
    let seen ← requireOrder (← inAmbient fun view ambient => access.read view context ambient items)
    return .stream (brief context) items (pollReports seen)
  | setGlobal name => do
    let access ← current name
    let previous ← modifyGet fun session => (session.global, { session with global := access })
    globalReport previous
  | getGlobal => do globalReport (← MonadState.get).global

end ScopeCommand

namespace CorrelationCommand

open SessionM

def run : CorrelationCommand → SessionM Reply
  | field plan result => do
    let made ← require plan.make
    define result (.correlationField made)
    return .correlationField made
  | value name context => do
    let known ← correlationField name
    match ← optionalContext context with
    | some source => return .text (known.value (← view source))
    | none => return .text none
  | decorate plan context result => do
    let decorator ← makeDecorator plan
    let source ← optionalContext context
    let decoration ← inAmbient fun view ambient => ambient.decorate view source decorator
    define result (.decoration decoration)
    return .noop decoration.isNoop
  | values => do return .values (← MonadState.get).ambient.thread.correlation.toSortedList
  | get name => do return .text ((← MonadState.get).ambient.thread.correlation.get? name)
  | set name given => do
    inAmbient fun _ ambient =>
      ((), { ambient with
        thread := { ambient.thread with
          correlation := ambient.thread.correlation.update name given } })
    return .done

end CorrelationCommand

end RequestTracing
