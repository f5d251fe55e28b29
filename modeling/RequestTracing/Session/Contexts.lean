import RequestTracing.Propagation.Baggage
import RequestTracing.Session.Reply
import RequestTracing.Session.State
import RequestTracing.Trace.Plan

/-!
This module contains the commands on contexts, on the results of reading carriers and on baggage.
-/

namespace RequestTracing

inductive ExtraKind where
  | marker
  | baggage
  deriving DecidableEq

inductive ContextCommand where
  | build (base : Option String) (plan : List ContextStep) (result : String)
  | withoutExtra (context result : String)
  | withExtra (context : String) (extra : ExtraPlan) (result : String)
  | fork (context result : String)
  | dump (context : String)
  | display (context : String)
  | equal (first second : String)
  | weaken (context result : String)
  | weakState (weak : String)
  | find (context : String) (kind : ExtraKind)
  deriving DecidableEq

inductive ExtractionCommand where
  | ofFlags (flags : SamplingFlags) (result : String)
  | ofContext (context result : String)
  | withExtra (extraction : String) (extra : ExtraPlan) (result : String)
  | read (headers : List (String × String)) (propagation : PropagationPlan) (result : String)
  | dump (extraction : String)
  | find (extraction : String) (kind : ExtraKind)
  | intoContext (extraction result : String)
  deriving DecidableEq

inductive BaggageTarget where
  | extraction (name : String)
  | current (name : String)
  | context (name : Option String)
  deriving DecidableEq

inductive BaggageCommand where
  | field (name result : String)
  | equal (first second : String)
  | get (field : String) (target : BaggageTarget)
  | update (field : String) (value : Option String) (target : BaggageTarget)
  | byName (name : String) (target : BaggageTarget)
  deriving DecidableEq

namespace SessionM

def findExtra (kind : ExtraKind) (extra : List (Extra BaggageFields)) :
    Option (Extra BaggageFields) :=
  extra.find? fun e =>
    match kind with
    | .marker => e.marker?.isSome
    | .baggage => e.baggage?.isSome

def defineContext (result : String) (source : ContextInstance) : SessionM Reply := do
  define result (.context source)
  return .context (some (← view source))

def makeExtra (plan : ExtraPlan) : SessionM (Extra BaggageRef) := do
  let extra ← require plan.make
  inHeap fun heap => heap.importExtra extra

def makePropagator (plan : PropagationPlan) : SessionM Propagator := do
  require (← logged plan.make)

def baggageRef : BaggageTarget → SessionM (Option BaggageRef)
  | .extraction name => do
    let e ← extraction name
    match e.found with
    | .context source => return source.context.baggage?
    | .flags _ => return e.extra.findSome? Extra.baggage?
  | .current name => do
    return (← currentIn (← current name)).bind fun source => source.context.baggage?
  | .context name => do
    return (← optionalContext name).bind fun source => source.context.baggage?

end SessionM

namespace ContextCommand

open SessionM

def run : ContextCommand → SessionM Reply
  | build base plan result => do
    let builder :=
      match ← optionalContext base with
      | some source => ContextBuilder.ofContext source.context
      | none => {}
    let (source, heap) ← require ((← get).heap.build builder plan)
    modify fun session => { session with heap }
    defineContext result source
  | withoutExtra name result => do
    defineContext result (← instantiate (← context name).context.withoutExtra)
  | withExtra name plan result => do
    let source ← context name
    let extra ← makeExtra plan
    defineContext result (← instantiate (source.context.withExtra extra))
  | fork name result => do
    let source ← context name
    let extra ← inHeap fun heap => heap.forkAll source.context.extra
    defineContext result (← instantiate { source.context with extra })
  | dump name => return .context (some (← view (← context name)))
  | display name => return .text (brief (some (← context name)))
  | equal first second => do
    let a ← context first
    let b ← context second
    return .contextEquality (a.context.same b.context) (a.number == b.number)
  | weaken name result => do
    define result (.weak (← context name))
    return .done
  | weakState name => do
    let source ← SessionM.find name fun value =>
      match value with
      | .weak source => some source
      | _ => none
    return .weakState (if (← get).alive source.number then brief (some source) else none)
  | find name kind => return .extra (findExtra kind (← view (← context name)).extra)

end ContextCommand

namespace ExtractionCommand

open SessionM

def run : ExtractionCommand → SessionM Reply
  | ofFlags flags result => defineExtraction result (.ofFlags flags)
  | ofContext name result => do defineExtraction result (.ofContext (← context name))
  | withExtra name plan result => do
    let e ← extraction name
    let extra ← makeExtra plan
    match e.found with
    | .context source =>
      let extended ← instantiate (source.context.withExtra extra)
      defineExtraction result ⟨.context extended, e.extra⟩
    | .flags _ => defineExtraction result { e with extra := e.extra ++ [extra] }
  | read headers plan result => do
    let propagator ← makePropagator plan
    let carrier := Carrier.empty.setAll headers
    let reading ← logged (propagator.extract carrier.get?)
    defineExtraction result (← inHeap fun heap => heap.importReading reading)
  | dump name => do return .extraction ((← get).heap.viewExtraction (← extraction name))
  | find name kind => do
    let reading := (← get).heap.viewExtraction (← extraction name)
    return .extra (findExtra kind reading.allExtra)
  | intoContext name result => do
    let e ← extraction name
    undefine name
    match e.context? with
    | some source => defineContext result source
    | none => return .context none
where
  defineExtraction (result : String) (e : HeldExtraction) : SessionM Reply := do
    define result (.extraction e)
    return .extraction ((← get).heap.viewExtraction e)

end ExtractionCommand

namespace BaggageCommand

open SessionM

def run : BaggageCommand → SessionM Reply
  | field name result => do
    let made ← require (BaggageField.create name)
    define result (.baggageField made)
    return .baggageField made
  | equal first second => do
    return .fieldEquality ((← baggageField first).same (← baggageField second))
  | get name target => do
    let known ← baggageField name
    let ref ← baggageRef target
    let heap := (← MonadState.get).heap
    return .text (ref.bind fun ref => (heap.get ref).get? known)
  | update name value target => do
    let known ← baggageField name
    match ← baggageRef target with
    | none => return .verdict false
    | some ref => return .verdict (← inHeap fun heap => heap.update ref known value)
  | byName name target => do
    let ref ← baggageRef target
    let fields := (ref.map (← MonadState.get).heap.get).getD default
    return .text ((← require (fields.byName name)).map (·.name))

end BaggageCommand

end RequestTracing
