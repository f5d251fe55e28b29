import RequestTracing.Session.Journal

/-!
This module contains the state of a session and the steps that commands are made of: looking values
up by name, and working on the scopes of the thread, on a registry or on a tracing, with everything
that becomes known entered in the journal.
-/

namespace RequestTracing

structure Session where
  heap : Heap
  ambient : Ambient ContextInstance
  global : CurrentContext
  registries : List Registry
  tracings : List Tracing
  names : List (String × Named)
  leaked : List Named
  draws : Draws
  journal : List JournalEntry

inductive Failure where
  | refused (error : TraceError)
  | outOfOrder (fault : OutOfOrderClose)
  | misnamed (name : String)
  deriving DecidableEq

namespace Failure

def message : Failure → String
  | refused e => e.message
  | outOfOrder fault => fault.message
  | misnamed name => "no such value: " ++ name

end Failure

namespace Session

def mainThread : String := "driver"

def workerThread : String := "worker"

def clock : PlatformClock :=
  .stepping 100000000000000000 10000000000

def start : Session where
  heap := .empty
  ambient := .fresh mainThread
  global := .shared
  registries := []
  tracings := []
  names := []
  leaked := []
  draws := default
  journal := []

/--
The numbers of the instances that are alive: a name, a value never dropped or a scope holds them.
-/
def held (session : Session) : List Nat :=
  let values := session.names.map (·.2) ++ session.leaked
  (values.flatMap Named.held ++ session.ambient.thread.contexts).map (·.number)

def alive (session : Session) : Nat → Bool :=
  let held := session.held
  fun number => held.contains number

end Session

abbrev SessionM := ExceptT Failure (StateM Session)

namespace SessionM

variable {α β : Type}

def fail (failure : Failure) : SessionM α :=
  throw failure

def require : Except TraceError α → SessionM α
  | .ok a => pure a
  | .error e => fail (.refused e)

def requireOrder : Except OutOfOrderClose α → SessionM α
  | .ok a => pure a
  | .error fault => fail (.outOfOrder fault)

def noFault : Option OutOfOrderClose → SessionM Unit
  | none => pure ()
  | some fault => fail (.outOfOrder fault)

def enter (entry : JournalEntry) : SessionM Unit :=
  modify fun session => { session with journal := entry :: session.journal }

def log (record : LogRecord) : SessionM Unit :=
  enter (.log record)

def logged (x : Logged α) : SessionM α := do
  x.logs.forM log
  return x.value

def lookup (name : String) : SessionM Named := do
  match (← get).names.lookup name with
  | some value => return value
  | none => fail (.misnamed name)

def define (name : String) (value : Named) : SessionM Unit :=
  modify fun session => { session with names := (name, value) :: session.names }

def undefine (name : String) : SessionM Unit :=
  modify fun session => { session with names := session.names.filter fun entry => entry.1 ≠ name }

def find (name : String) (view : Named → Option α) : SessionM α := do
  match view (← lookup name) with
  | some a => return a
  | none => fail (.misnamed name)

def context? (name : String) : SessionM (Option ContextInstance) := do
  return (← lookup name).context?

def optionalContext (name : Option String) : SessionM (Option ContextInstance) :=
  match name with
  | some name => context? name
  | none => pure none

def context (name : String) : SessionM ContextInstance :=
  find name Named.context?

def extraction (name : String) : SessionM HeldExtraction :=
  find name fun value =>
    match value with
    | .extraction e => some e
    | _ => none

def baggageField (name : String) : SessionM BaggageField :=
  find name fun value =>
    match value with
    | .baggageField field => some field
    | _ => none

def current (name : String) : SessionM CurrentContext :=
  find name fun value =>
    match value with
    | .current current => some current
    | _ => none

def registry (name : String) : SessionM Nat :=
  find name fun value =>
    match value with
    | .registry place => some place
    | _ => none

def tracing (name : String) : SessionM Nat :=
  find name fun value =>
    match value with
    | .tracing place => some place
    | _ => none

def span (name : String) : SessionM (Nat × SpanHandle) :=
  find name fun value =>
    match value with
    | .span tracing span => some (tracing, span)
    | .scopedSpan tracing scopedSpan => some (tracing, scopedSpan.span)
    | _ => none

def view (source : ContextInstance) : SessionM Snapshot := do
  return (← get).heap.view source

def importContext (snapshot : Snapshot) : SessionM ContextInstance :=
  modifyGet fun session =>
    let (source, heap) := session.heap.importContext snapshot
    (source, { session with heap })

def instantiate (context : TraceContext BaggageRef) : SessionM ContextInstance :=
  modifyGet fun session =>
    let (source, heap) := session.heap.instantiate context
    (source, { session with heap })

def inHeap (f : Heap → β × Heap) : SessionM β :=
  modifyGet fun session =>
    let (b, heap) := f session.heap
    (b, { session with heap })

def ofScopeNotice : ScopeNotice ContextInstance → JournalEntry
  | .log record => .log record
  | .event event => .event (.scope event)

def ofSpanNotice : SpanNotice → JournalEntry
  | .log record => .log record
  | .call call => .event (.call call)

def inAmbient (f : (ContextInstance → Snapshot) → Ambient ContextInstance →
    β × Ambient ContextInstance) : SessionM β :=
  modifyGet fun session =>
    let (b, ambient) := f session.heap.view session.ambient
    (b, { session with
      ambient := { ambient with notices := [] }
      journal := ambient.notices.map ofScopeNotice ++ session.journal })

/--
Works on the scopes of another thread, which has done nothing yet and ends afterwards.
-/
def inWorker (f : (ContextInstance → Snapshot) → Ambient ContextInstance →
    β × Ambient ContextInstance) : SessionM β :=
  inAmbient fun view ambient =>
    let (b, worker) := f view { ambient with thread := .fresh Session.workerThread }
    (b, { worker with thread := ambient.thread })

def currentIn (current : CurrentContext) : SessionM (Option ContextInstance) := do
  return current.get (← get).ambient.thread

def brief (source : Option ContextInstance) : Option String :=
  source.map fun source => source.context.toText

def inRegistry [Inhabited β] (place : Nat)
    (f : (Nat → Bool) → Heap → Registry → β × Registry × List SpanNotice) : SessionM β :=
  modifyGet fun session =>
    match session.registries[place]? with
    | none => (default, session)
    | some registry =>
      let (b, registry, notices) := f session.alive session.heap registry
      (b, { session with
        registries := session.registries.set place registry
        journal := (notices.map ofSpanNotice).reverse ++ session.journal })

def inTracing [Inhabited β] (place : Nat) (f : (Nat → Bool) → Tracer β) : SessionM β :=
  modifyGet fun session =>
    match session.tracings[place]? with
    | none => (default, session)
    | some tracing =>
      let (b, state) := f session.alive ⟨tracing, session.heap, []⟩
      (b, { session with
        heap := state.heap
        tracings := session.tracings.set place state.tracing
        journal := (state.notices.map ofSpanNotice).reverse ++ session.journal })

def tracingAt (place : Nat) : SessionM Tracing := do
  match (← get).tracings[place]? with
  | some tracing => return tracing
  | none => fail (.misnamed (toString place))

def registryAt (place : Nat) : SessionM Registry := do
  match (← get).registries[place]? with
  | some registry => return registry
  | none => fail (.misnamed (toString place))

end SessionM

end RequestTracing
