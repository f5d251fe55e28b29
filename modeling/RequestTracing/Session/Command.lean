import RequestTracing.Session.Contexts
import RequestTracing.Session.Registries
import RequestTracing.Session.Scopes
import RequestTracing.Session.Tracings

/-!
This module contains programs: lists of commands over named values, which are run one after the
other. A command that fails names nothing and does not end the program.
-/

namespace RequestTracing

inductive SessionCommand where
  | general (command : GeneralCommand)
  | context (command : ContextCommand)
  | extraction (command : ExtractionCommand)
  | baggage (command : BaggageCommand)
  | scope (command : ScopeCommand)
  | correlation (command : CorrelationCommand)
  | registry (command : RegistryCommand)
  | tracing (command : TracingCommand)
  | tracer (command : TracerCommand)
  | span (command : SpanCommand)

structure StepReport where
  result : Except Failure Reply
  logs : List LogRecord
  events : List SessionEvent

namespace SessionCommand

def run : SessionCommand → SessionM Reply
  | general command => command.run
  | context command => command.run
  | extraction command => command.run
  | baggage command => command.run
  | scope command => command.run
  | correlation command => command.run
  | registry command => command.run
  | tracing command => command.run
  | tracer command => command.run
  | span command => command.run

end SessionCommand

namespace Session

def step (session : Session) (command : SessionCommand) : StepReport × Session :=
  let (result, session) := command.run.run session
  (⟨result, Journal.logs session.journal, Journal.events session.journal⟩,
    { session with journal := [] })

def runAll (session : Session) : List SessionCommand → List StepReport × Session
  | [] => ([], session)
  | command :: commands =>
    let (report, session) := session.step command
    let (reports, session) := session.runAll commands
    (report :: reports, session)

end Session

end RequestTracing
