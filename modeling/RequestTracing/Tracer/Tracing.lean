import RequestTracing.Recorder.Record
import RequestTracing.Tracer.Configuration

/-!
This module contains the recording side of tracing for one service: its registry, where its
identifiers and sampling decisions come from, and the switch that turns all of it off.
-/

namespace RequestTracing

structure Tracing where
  serviceName : String
  sampler : Sampler
  ids : IdSource
  current : CurrentContext
  supportsJoin : Bool
  baggageFields : List BaggageField
  registry : Registry

namespace Tracing

def template (config : TracerConfig) : SpanData :=
  let named := SpanData.empty.setLocalServiceName (Text.trim config.serviceName)
  let address := config.address.map Address.unmapped
  { named with localEndpoint := { named.localEndpoint with address, port := config.port } }

/--
The handlers of a service: first the one that marks orphans, then the configured ones.
-/
def handlers (config : TracerConfig) : List SpanHandler :=
  .orphanTracker (template config) .platform config.trackOrphans :: config.handlers

def createdNote (config : TracerConfig) : LogRecord :=
  .event .debug LogRecord.recorderTarget "Tracing.Created"
    [("local_service_name", config.serviceName)]

def ofConfig (config : TracerConfig) : Except TraceError Tracing :=
  if Text.trim config.serviceName = "" then
    .error .emptyServiceName
  else
    .ok {
      serviceName := config.serviceName
      sampler := config.sampler
      ids := config.ids
      current := config.current
      supportsJoin := config.supportsJoin
      baggageFields := config.baggageFields
      registry := .ofHandlers (template config) (handlers config) config.clock }

theorem registry_of_ofConfig {config : TracerConfig} {tracing : Tracing}
    (h : ofConfig config = .ok tracing) :
    tracing.registry = .ofHandlers (template config) (handlers config) config.clock := by
  unfold ofConfig at h
  split at h
  . cases h
  . rw [← Except.ok.inj h]

def isNoop (tracing : Tracing) : Bool :=
  tracing.registry.isNoop

def setNoop (tracing : Tracing) (noop : Bool) : Tracing :=
  { tracing with registry := tracing.registry.setNoop noop }

def closedNote (tracing : Tracing) : LogRecord :=
  .event .info LogRecord.recorderTarget "Tracing.Closed"
    [("local_service_name", tracing.serviceName)]

def close (tracing : Tracing) : Logged Tracing := do
  if tracing.isNoop then
    return tracing
  else
    Logged.write tracing.closedNote
    return tracing.setNoop true

/--
The handlers as they are described: those of the configuration are held by reference.
-/
def describeHandlers : List SpanHandler → String
  | [] => Description.list []
  | first :: rest =>
    Description.list (first.describe :: rest.map fun handler =>
      Description.tagged "ByRef" [handler.describe])

def describe (tracing : Tracing) : String :=
  let pendingSpans := Description.record "PendingSpans"
    [("len", toString tracing.registry.size),
     ("handlers", describeHandlers tracing.registry.chain.handlers)]
  let tracer := Description.record "Tracer"
    [("sampler", tracing.sampler.describe),
     ("id_generator", tracing.ids.describe),
     ("supports_join", Description.bool tracing.supportsJoin),
     ("pending_spans", pendingSpans)]
  Description.record "Tracing"
    [("local_service_name", Text.quoted tracing.serviceName),
     ("noop", Description.bool tracing.isNoop),
     ("tracer", tracer)]

end Tracing

end RequestTracing
