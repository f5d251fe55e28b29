import RequestTracing.Propagation.Baggage
import RequestTracing.Sampling.Plan
import RequestTracing.Session.General

/-!
This module contains the commands on tracings and tracers, and on the spans that they create.
-/

namespace RequestTracing

structure TracingPlan where
  serviceName : Option String
  address : Option String
  port : UInt16
  sampler : Option SamplerSpec
  supportsJoin : Bool
  trackOrphans : Bool
  current : Option String
  handlers : List SpanHandler
  baggage : List String
  ids : IdSource

inductive TracingCommand where
  | create (plan : TracingPlan) (result : String)
  | ended (memory : String)
  | clearEnded (memory : String)
  | setNoop (tracing : String) (value : Bool)
  | close (tracing : String)
  | current (tracing : String)
  | leaks (tracing : String)

inductive SpanRequest where
  | newTrace
  | newChild (context : String)
  | join (context : String)
  | next
  | nextWith (extraction : String)
  | nextFor (function : SamplerFunctionPlan) (request : Request)
  | toSpan (context : String)

inductive TracerCommand where
  | create (tracing : String) (request : SpanRequest) (result : String)
  | currentSpan (tracing result : String)
  | startScoped (tracing name result : String)
  | openScope (tracing : String) (span : Option String) (result : String)

inductive SpanCommand where
  | record (span : String) (entry : SpanRecord)
  | endSpan (span : String) (ending : SpanEnding)
  | context (span : String)
  | inject (span : String) (propagation : PropagationPlan)
  | customizer (span result : String)
  | noopCustomizer (result : String)
  | isNoop (customizer : String)
  | customize (customizer : String) (entry : SpanRecord)
  | finishScoped (scopedSpan : String)
  deriving DecidableEq

namespace SessionM

def makeConfig (plan : TracingPlan) : SessionM TracerConfig := do
  let config ← logged (TracerConfig.ofEnvironment (fun _ => none) Session.clock plan.ids)
  let sampler ←
    match plan.sampler with
    | none => pure config.sampler
    | some spec =>
      let (sampler, draws) ← require (spec.build (← get).draws)
      modify fun session => { session with draws }
      pure sampler
  let current ←
    match plan.current with
    | some name => current name
    | none => pure config.current
  let fields ← require (plan.baggage.mapM BaggageField.create)
  let config := { config with
    serviceName := plan.serviceName.getD config.serviceName
    address := plan.address.bind Address.parse?
    port := plan.port
    sampler
    supportsJoin := plan.supportsJoin
    trackOrphans := plan.trackOrphans
    current
    handlers := plan.handlers }
  return fields.foldl TracerConfig.withBaggageField config

def remembered (name : String) : SessionM (List (SpanData × Cause)) := do
  let session ← get
  let chains := session.tracings.map (·.registry.chain) ++ session.registries.map (·.chain)
  match chains.findSome? fun chain => chain.remembered? name with
  | some spans => return spans
  | none => fail (.misnamed name)

def clearRemembered (name : String) : SessionM Unit :=
  modify fun session =>
    let clear (registry : Registry) : Registry :=
      { registry with chain := registry.chain.forgetAll name }
    { session with
      tracings := session.tracings.map fun tracing =>
        { tracing with registry := clear tracing.registry }
      registries := session.registries.map clear }

def defineSpan (tracing : Nat) (result : String) (span : SpanHandle) : SessionM Reply := do
  define result (.span tracing span)
  return .span span.isNoop (← view span.source)

def customizerNamed (name : String) : SessionM (Nat × SpanCustomizer) :=
  find name fun value =>
    match value with
    | .customizer tracing customizer => some (tracing, customizer)
    | _ => none

def scopedSpanNamed (name : String) : SessionM (Nat × ScopedSpan) :=
  find name fun value =>
    match value with
    | .scopedSpan tracing scopedSpan => some (tracing, scopedSpan)
    | _ => none

def record (tracing : Nat) (place : Option Nat) (entry : SpanRecord) (absent : EditAnswer) :
    SessionM EditAnswer := do
  match place with
  | none => return absent
  | some _ =>
    match ← inTracing tracing fun _ state =>
      let (answer, state) := state.record place entry absent
      (some answer, state) with
    | some answer => return answer
    | none => return absent

def endSpan (tracing : Nat) (span : SpanHandle) (ending : SpanEnding) : SessionM Unit :=
  inTracing tracing fun alive state => ((), state.endSpan alive span ending)

def editReply : EditAnswer → Reply
  | .done => .done
  | .verdict value => .verdict value
  | .text value => .text value
  | .refused _ => .done

end SessionM

namespace TracingCommand

open SessionM

def run : TracingCommand → SessionM Reply
  | create plan result => do
    let config ← makeConfig plan
    let tracing ← require (Tracing.ofConfig config)
    let place := (← get).tracings.length
    modify fun session => { session with
      tracings := session.tracings ++ [tracing]
      global := config.current }
    log (Tracing.createdNote config)
    define result (.tracing place)
    return .done
  | ended memory => do return .ended (Journal.settleEnded (← remembered memory))
  | clearEnded memory => do
    clearRemembered memory
    return .done
  | setNoop name value => do
    let place ← SessionM.tracing name
    let tracing := (← tracingAt place).setNoop value
    modify fun session => { session with tracings := session.tracings.set place tracing }
    return .verdict tracing.isNoop
  | close name => do
    let place ← SessionM.tracing name
    let tracing ← logged (← tracingAt place).close
    modify fun session => { session with tracings := session.tracings.set place tracing }
    return .verdict tracing.isNoop
  | current name => do
    let access := (← tracingAt (← SessionM.tracing name)).current
    let found := brief (← currentIn access)
    return .currents found found (brief (← currentIn (← get).global))
  | leaks name => do
    require ((← tracingAt (← SessionM.tracing name)).current.checkNoLeaks (← get).ambient)
    return .done

end TracingCommand

namespace SpanRequest

open SessionM

instance : Inhabited SpanHandle :=
  ⟨⟨⟨0, default⟩, none⟩⟩

def run (place : Nat) : SpanRequest → SessionM SpanHandle
  | newTrace => inTracing place Tracer.newTrace
  | newChild name => do
    let parent ← SessionM.context name
    inTracing place fun alive => Tracer.newChild alive parent
  | join name => do
    let client ← SessionM.context name
    inTracing place fun alive => Tracer.joinSpan alive client
  | next => do
    let current ← currentIn (← tracingAt place).current
    inTracing place fun alive => Tracer.nextSpan alive current
  | nextWith name => do
    let current ← currentIn (← tracingAt place).current
    let e ← SessionM.extraction name
    inTracing place fun alive => Tracer.nextSpanWith alive current e
  | nextFor plan request => do
    let current ← currentIn (← tracingAt place).current
    let (function, draws) ← require (plan.make (← get).draws)
    let (span, left) ← inTracing place fun alive => do
      let (span, verdict) ← Tracer.nextSpanFor alive current function request draws
      return (span, verdict.map (·.draws))
    modify fun session => { session with draws := left.getD draws }
    return span
  | toSpan name => do
    let source ← SessionM.context name
    inTracing place fun alive => Tracer.toSpan alive source

end SpanRequest

namespace TracerCommand

open SessionM

def run : TracerCommand → SessionM Reply
  | create name request result => do
    let place ← SessionM.tracing name
    defineSpan place result (← request.run place)
  | currentSpan name result => do
    let place ← SessionM.tracing name
    let current ← currentIn (← tracingAt place).current
    match ← inTracing place fun alive => Tracer.currentSpan? alive current with
    | some span => defineSpan place result span
    | none => return .done
  | startScoped name spanName result => do
    let place ← SessionM.tracing name
    let access := (← tracingAt place).current
    let current ← currentIn access
    let span ← inTracing place fun alive => Tracer.startNamed alive current spanName
    let scope ← inAmbient fun view ambient => access.openScope view (some span.source) ambient
    define result (.scopedSpan place ⟨span, scope⟩)
    return .span span.isNoop (← view span.source)
  | openScope name spanName result => do
    let place ← SessionM.tracing name
    let access := (← tracingAt place).current
    let source ←
      match spanName with
      | some spanName => do pure (some (← SessionM.span spanName).2.source)
      | none => pure none
    let scope ← inAmbient fun view ambient => access.openScope view source ambient
    define result (.scope scope)
    return .noop scope.isNoop

end TracerCommand

namespace SpanCommand

open SessionM

def run : SpanCommand → SessionM Reply
  | record name entry => do
    let (tracing, span) ← SessionM.span name
    let absent :=
      match entry with
      | .remoteAddress _ _ => EditAnswer.verdict false
      | _ => .done
    return editReply (← SessionM.record tracing span.place entry absent)
  | endSpan name ending => do
    let (tracing, span) ← SessionM.span name
    SessionM.endSpan tracing span ending
    return .done
  | context name => do
    let (_, span) ← SessionM.span name
    return .span span.isNoop (← view span.source)
  | inject name plan => do
    let (_, span) ← SessionM.span name
    let propagator ← require (← logged plan.make)
    return .injection (← logged (propagator.roundTrip (← view span.source)))
  | customizer name result => do
    let (tracing, span) ← SessionM.span name
    let made := SpanCustomizer.ofSpan span
    define result (.customizer tracing made)
    return .noop made.isNoop
  | noopCustomizer result => do
    define result (.customizer 0 .noop)
    return .done
  | isNoop name => do return .verdict (← customizerNamed name).2.isNoop
  | customize name entry => do
    let (tracing, handle) ← customizerNamed name
    return editReply (← SessionM.record tracing handle.place entry .done)
  | finishScoped name => do
    let (tracing, scopedSpan) ← scopedSpanNamed name
    match ← closeScope scopedSpan.scope with
    | some fault =>
      undefine name
      fail (.outOfOrder fault)
    | none =>
      SessionM.endSpan tracing scopedSpan.span (.finish none)
      undefine name
      return .done

end SpanCommand

end RequestTracing
