import RequestTracing.Propagation.Propagator
import RequestTracing.Text.Split

/-!
This module contains B3 propagation. A context travels in one header,

  `{trace}-{span}[-{sampling state}][-{parent}]`,

or in a header for each part. Reading always tries the single header first and falls back to the
others when it is absent or malformed; the encoding only decides what is written.
-/

namespace RequestTracing.B3

inductive Encoding where
  | multi
  | single
  | singleNoParent
  | singleAndMulti
  deriving DecidableEq

namespace Encoding

instance : Inhabited Encoding :=
  ⟨multi⟩

def label : Encoding → String
  | multi => "MultipleHeader"
  | single => "SingleHeader"
  | singleNoParent => "SingleHeaderNoParent"
  | singleAndMulti => "SingleAndMultiHeader"

end Encoding

def singleHeader : String := "b3"

def traceIdHeader : String := "x-b3-traceid"

def spanIdHeader : String := "x-b3-spanid"

def parentIdHeader : String := "x-b3-parentspanid"

def sampledHeader : String := "x-b3-sampled"

def flagsHeader : String := "x-b3-flags"

def partHeaders : List String :=
  [traceIdHeader, spanIdHeader, parentIdHeader, sampledHeader, flagsHeader]

def Encoding.fields : Encoding → List String
  | .multi => partHeaders
  | .single => [singleHeader]
  | .singleNoParent => [singleHeader]
  | .singleAndMulti => singleHeader :: partHeaders

variable {β : Type}

def samplingState (context : TraceContext β) : Option Char :=
  if context.debug then
    some 'd'
  else
    context.sampled.map fun sampled => if sampled then '1' else '0'

def singleParts (context : TraceContext β) (withParent : Bool) : List (List Char) :=
  [context.traceId.digits, context.spanId.digits]
    ++ ((samplingState context).map fun state => [state]).toList
    ++ (if withParent then (context.parentId.map SpanId.digits).toList else [])

def writeSingle (context : TraceContext β) (withParent : Bool) : String :=
  String.ofList (Text.join '-' (singleParts context withParent))

def stateFlags? : List Char → Option SamplingFlags
  | ['0'] => some .sampledNo
  | ['1'] => some .sampledYes
  | ['d'] => some .forced
  | _ => none

def fullTraceId? (cs : List Char) : Option TraceId :=
  if cs.length = 16 ∨ cs.length = 32 then TraceId.ofHex? cs else none

def fullSpanId? (cs : List Char) : Option SpanId :=
  if cs.length = 16 then SpanId.ofHex? cs else none

def assemble? (traceId : TraceId) (spanId : SpanId) (parentId : Option SpanId)
    (flags : SamplingFlags) : Option (TraceContext β) :=
  let builder : ContextBuilder β := { traceId, spanId, parentId := SpanId.present parentId, flags }
  builder.build.toOption

def parseParts? : List (List Char) → Option (TraceContext β)
  | [trace, span] => do
    assemble? (← fullTraceId? trace) (← fullSpanId? span) none .empty
  | [trace, span, last] => do
    let traceId ← fullTraceId? trace
    let spanId ← fullSpanId? span
    if last.length = 1 then
      assemble? traceId spanId none (← stateFlags? last)
    else
      assemble? traceId spanId (some (← fullSpanId? last)) .empty
  | [trace, span, state, parent] => do
    let traceId ← fullTraceId? trace
    let spanId ← fullSpanId? span
    let flags ← stateFlags? state
    assemble? traceId spanId (some (← fullSpanId? parent)) flags
  | _ => none

/--
Reads the value of the single header, with white space around it or not. A sampling state that
stands alone gives flags only.
-/
def parseSingle? (value : List Char) : Option (Extraction (TraceContext β) β) :=
  match Text.trimBlank value with
  | [state] => (stateFlags? [state]).map Extraction.ofFlags
  | trimmed => (parseParts? (Text.splitAt '-' trimmed)).map Extraction.ofContext

inductive PartFault where
  | sampled
  | traceId
  | spanId
  | parentId
  | zeroId
  deriving DecidableEq

namespace PartFault

def message : PartFault → String
  | sampled => "invalid sampled header"
  | traceId => "invalid trace id header"
  | spanId => "missing or invalid span id header"
  | parentId => "invalid parent span id header"
  | zeroId => "zero trace or span id"

end PartFault

def sampledDecision? (value : String) : Option Bool :=
  if value = "1" ∨ value = "true" then
    some true
  else if value = "0" ∨ value = "false" then
    some false
  else
    none

/--
The flags of the headers for single parts. Debug implies sampled, so the sampled header does not
count beside it, though it has to be valid.
-/
def partFlags (get : String → Option String) : Except PartFault SamplingFlags := do
  let decision ←
    match get sampledHeader with
    | none => pure none
    | some value =>
      match sampledDecision? value with
      | some decision => pure (some decision)
      | none => throw .sampled
  return if get flagsHeader = some "1" then .forced else .ofDecision decision

/--
Reads the headers for single parts. Flags alone are the result when there is no trace ID.
-/
def extractParts (get : String → Option String) :
    Except PartFault (Extraction (TraceContext β) β) := do
  let flags ← partFlags get
  match get traceIdHeader with
  | none => return .ofFlags flags
  | some trace =>
    let some traceId := TraceId.ofHex? trace.toList | throw .traceId
    let some spanId := (get spanIdHeader).bind fun span => SpanId.ofHex? span.toList
      | throw .spanId
    let parentId ←
      match get parentIdHeader with
      | none => pure none
      | some parent =>
        match SpanId.ofHex? parent.toList with
        | some parentId => pure (some parentId)
        | none => throw .parentId
    match assemble? traceId spanId parentId flags with
    | some context => return .ofContext context
    | none => throw .zeroId

def partCalls (context : TraceContext β) : List (String × String) :=
  [(traceIdHeader, context.traceId.toText), (spanIdHeader, context.spanId.toText)]
    ++ (context.parentId.map fun id => (parentIdHeader, id.toText)).toList
    ++ if context.debug then
        [(flagsHeader, "1")]
      else
        (context.sampled.map fun sampled => (sampledHeader, if sampled then "1" else "0")).toList

def calls (encoding : Encoding) (context : TraceContext β) : List (String × String) :=
  match encoding with
  | .multi => partCalls context
  | .single => [(singleHeader, writeSingle context true)]
  | .singleNoParent => [(singleHeader, writeSingle context false)]
  | .singleAndMulti => (singleHeader, writeSingle context true) :: partCalls context

def malformedSingle (value : String) : LogRecord :=
  .event .debug LogRecord.wireTarget "B3Propagator.Extract.InvalidSingleHeader" [("b3", value)]

def malformedParts (fault : PartFault) : LogRecord :=
  .event .debug LogRecord.wireTarget "B3Propagator.Extract.InvalidMultipleHeaders"
    [("reason", fault.message)]

/--
Reads a carrier through the look-up of its keys. Malformed headers are noted and give nothing.
-/
def extract (get : String → Option String) : Logged (Extraction (TraceContext β) β) := do
  let value? := get singleHeader
  match value?.bind fun value => parseSingle? value.toList with
  | some extraction => return extraction
  | none =>
    if let some value := value? then
      Logged.write (malformedSingle value)
    match extractParts get with
    | .ok extraction => return extraction
    | .error fault =>
      Logged.write (malformedParts fault)
      return .empty

def propagator (encoding : Encoding) : Propagator where
  fields := encoding.fields
  inject := calls encoding
  extract := extract

end RequestTracing.B3
