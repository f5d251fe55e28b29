import RequestTracing.Number.Read
import RequestTracing.Recorder.Handler
import RequestTracing.Recorder.Identifiers
import RequestTracing.Sampling.Sampler
import RequestTracing.Scope.Current

/-!
This module contains what a tracer is made from, with the values that are used where nothing else is
chosen. Some of them come from the environment: the name of the service and the sampler.
-/

namespace RequestTracing

structure TracerConfig where
  serviceName : String
  address : Option Address
  port : UInt16
  sampler : Sampler
  ids : IdSource
  supportsJoin : Bool
  trackOrphans : Bool
  clock : PlatformClock
  current : CurrentContext
  handlers : List SpanHandler
  baggageFields : List BaggageField

namespace TracerConfig

def defaultServiceName : String := "unknown"

def serviceNameVariable : String := "TRACEKIT_SERVICE_NAME"

def samplerVariable : String := "TRACEKIT_TRACES_SAMPLER"

def samplerArgumentVariable : String := "TRACEKIT_TRACES_SAMPLER_ARG"

def invalidArgumentNote (message : String) (argument : Option String) : LogRecord :=
  .event .warn LogRecord.recorderTarget "TracingConfig.InvalidSamplerArgument"
    [("message", message),
     ("tracekit_traces_sampler_arg", Description.option (argument.map Text.quoted))]

def invalidTypeNote (name : String) : LogRecord :=
  .event .warn LogRecord.recorderTarget "TracingConfig.InvalidSamplerType"
    [("message", "Unrecognized sampler type '" ++ name ++ "' in TRACEKIT_TRACES_SAMPLER " ++
      "environment variable. " ++
      "Valid values are: always_on, always_off, traceidratio, ratelimited. " ++
      "Using fallback sampler: AlwaysSample")]

def ratioMessage : String :=
  "TRACEKIT_TRACES_SAMPLER is set to 'traceidratio' but TRACEKIT_TRACES_SAMPLER_ARG is missing " ++
    "or invalid. TRACEKIT_TRACES_SAMPLER_ARG must be a float between 0.0 and 1.0. " ++
    "Falling back to default ratio: 1.0 (100% sampling)"

def limitMessage : String :=
  "TRACEKIT_TRACES_SAMPLER is set to 'ratelimited' but TRACEKIT_TRACES_SAMPLER_ARG is missing " ++
    "or not a whole number of traces per second. Using fallback sampler: AlwaysSample"

/--
The sampler of a name and its argument. Where the name or the argument cannot be used, that is noted
and everything is sampled.
-/
def samplerOf (name : String) (argument : Option String) : Logged Sampler := do
  if name = "always_on" then
    return .always
  else if name = "always_off" then
    return .never
  else if name = "traceidratio" then
    match argument.bind fun text => (Number.readFloat? text).bind fun share =>
        (Sampler.ratioChecked share).toOption with
    | some sampler => return sampler
    | none =>
      Logged.write (invalidArgumentNote ratioMessage argument)
      return .ratio 1
  else if name = "ratelimited" then
    match argument.bind (Number.readBelow? UInt32.size) with
    | some limit => return .ofLimit (UInt32.ofNat limit)
    | none =>
      Logged.write (invalidArgumentNote limitMessage argument)
      return .always
  else
    Logged.write (invalidTypeNote name)
    return .always

def serviceNameOf (given : Option String) : String :=
  (given.filter fun name => Text.trim name ≠ "").getD defaultServiceName

def ofEnvironment (lookUp : String → Option String) (clock : PlatformClock) (ids : IdSource) :
    Logged TracerConfig := do
  let sampler ←
    match lookUp samplerVariable with
    | none => pure .always
    | some name => samplerOf name (lookUp samplerArgumentVariable)
  return {
    serviceName := serviceNameOf (lookUp serviceNameVariable)
    address := none
    port := 0
    sampler
    ids
    supportsJoin := true
    trackOrphans := false
    clock
    current := .shared
    handlers := []
    baggageFields := [] }

def withBaggageField (config : TracerConfig) (field : BaggageField) : TracerConfig :=
  if config.baggageFields.any (·.same field) then
    config
  else
    { config with baggageFields := config.baggageFields ++ [field] }

end TracerConfig

end RequestTracing
