import RequestTracing.Net.Address
import RequestTracing.Text.Description
import RequestTracing.Trace.Context

/-!
This module contains what is recorded about one span, and the rules by which recorded values are
accepted. Identifiers are kept as text, since that is what readers of a span want; what is absent is
`none`, and a time or port that is absent is zero.
-/

namespace RequestTracing

inductive SpanKind where
  | client
  | server
  | producer
  | consumer
  deriving DecidableEq

namespace SpanKind

def wireName : SpanKind → String
  | client => "CLIENT"
  | server => "SERVER"
  | producer => "PRODUCER"
  | consumer => "CONSUMER"

def describe : SpanKind → String
  | client => "Client"
  | server => "Server"
  | producer => "Producer"
  | consumer => "Consumer"

def ofWireName? (name : String) : Option SpanKind :=
  [client, server, producer, consumer].find? fun kind => kind.wireName == name

end SpanKind

def shortTypeName (name : String) : String :=
  let cs := name.toList
  let path := cs.takeWhile (· ≠ '<')
  let cuts := (List.range path.length).filter fun i => (path.drop i).take 2 == [':', ':']
  match cuts.getLast? with
  | some i => String.ofList (cs.drop (i + 2))
  | none => name

/--
An error recorded on a span: the name of its type and its text, which may be empty.
-/
structure SpanError where
  typeName : String
  text : String
  deriving DecidableEq

namespace SpanError

def ofType (fullName text : String) : SpanError :=
  ⟨shortTypeName fullName, text⟩

def message (e : SpanError) : String :=
  if e.text = "" then e.typeName else e.text

def same (a b : SpanError) : Bool :=
  a.typeName == b.typeName && a.message == b.message

def describe (e : SpanError) : String :=
  Description.record "SpanError"
    [("type", Text.quoted e.typeName), ("message", Text.quoted e.message)]

end SpanError

structure Endpoint where
  serviceName : Option String := none
  address : Option Address := none
  port : UInt16 := 0
  deriving DecidableEq

structure SpanData where
  traceId : Option String := none
  localRootId : Option String := none
  parentId : Option String := none
  id : Option String := none
  kind : Option SpanKind := none
  name : Option String := none
  start : UInt64 := 0
  finish : UInt64 := 0
  localEndpoint : Endpoint := {}
  remoteEndpoint : Endpoint := {}
  annotations : List (UInt64 × String) := []
  tags : List (String × String) := []
  error : Option SpanError := none
  debug : Bool := false
  shared : Bool := false
  deriving DecidableEq

def nonempty? (s : String) : Option String :=
  if s = "" then none else some s

/--
The text of an identifier with zeros before it up to 16 or 32 digits. Only lower-case hexadecimal
digits are accepted, up to the number that the role allows, and not zeros alone.
-/
def normalizedIdentifier (role : IdentifierRole) (given : String) : Except TraceError String :=
  let cs := given.toList
  if cs ≠ [] ∧ cs.length ≤ role.maxDigits ∧ cs.all Hex.isDigit ∧ cs.any (· ≠ '0') then
    let width := if cs.length ≤ 16 then 16 else 32
    .ok (String.ofList (List.replicate (width - cs.length) '0' ++ cs))
  else
    .error (.malformedIdentifier role given)

namespace SpanData

def empty : SpanData :=
  {}

def ofContext {β : Type} (context : TraceContext β) (template : SpanData) : SpanData :=
  { template with
    traceId := some context.traceId.toText
    localRootId := context.localRootId.map SpanId.toText
    parentId := context.parentId.map SpanId.toText
    id := some context.spanId.toText
    debug := context.debug
    shared := context.shared }

/--
Holds for spans with the same values, where errors count as the same by type and message.
-/
def same (a b : SpanData) : Bool :=
  { a with error := none } == { b with error := none } &&
    match a.error, b.error with
    | none, none => true
    | some x, some y => x.same y
    | _, _ => false

def isEmpty (span : SpanData) : Bool :=
  span.same empty

def setTraceId (span : SpanData) (given : String) : Except TraceError SpanData := do
  return { span with traceId := some (← normalizedIdentifier .trace given) }

def setLocalRootId (span : SpanData) (given : String) : Except TraceError SpanData := do
  return { span with localRootId := some (← normalizedIdentifier .localRoot given) }

def setParentId (span : SpanData) : Option String → Except TraceError SpanData
  | none => .ok { span with parentId := none }
  | some given => do
    return { span with parentId := some (← normalizedIdentifier .parent given) }

def setId (span : SpanData) (given : String) : Except TraceError SpanData := do
  return { span with id := some (← normalizedIdentifier .span given) }

def setName (span : SpanData) (name : String) : SpanData :=
  { span with name := nonempty? name }

def setLocalServiceName (span : SpanData) (name : String) : SpanData :=
  { span with localEndpoint := { span.localEndpoint with serviceName := nonempty? name } }

def setRemoteServiceName (span : SpanData) (name : String) : SpanData :=
  { span with remoteEndpoint := { span.remoteEndpoint with serviceName := nonempty? name } }

/--
Sets the address of the recording service, `none` when the text is not an address.
-/
def setLocalAddress? (span : SpanData) (text : String) : Option SpanData :=
  (Address.parse? text).map fun address =>
    { span with localEndpoint := { span.localEndpoint with address := some address } }

def setLocalPort (span : SpanData) (port : UInt16) : SpanData :=
  { span with localEndpoint := { span.localEndpoint with port } }

def setRemoteAddress? (span : SpanData) (text : String) (port : UInt16) : Option SpanData :=
  (Address.parse? text).map fun address =>
    { span with remoteEndpoint := { span.remoteEndpoint with address := some address, port } }

def annotate (span : SpanData) (time : UInt64) (text : String) : SpanData :=
  if time = 0 ∨ text = "" then
    span
  else
    { span with annotations := span.annotations ++ [(time, text)] }

def isAnnotatedWith (span : SpanData) (text : String) : Bool :=
  span.annotations.any fun note => note.2 == text

/--
The tags with a value set for a key: in its place where the key is known, else at the end.
-/
def putTag (key value : String) : List (String × String) → List (String × String)
  | [] => [(key, value)]
  | (k, v) :: rest => if k = key then (k, value) :: rest else (k, v) :: putTag key value rest

def eraseTag (key : String) : List (String × String) → List (String × String)
  | [] => []
  | (k, v) :: rest => if k = key then rest else (k, v) :: eraseTag key rest

def tagValue? (span : SpanData) (key : String) : Option String :=
  span.tags.lookup key

def tag (span : SpanData) (key value : String) : SpanData :=
  if key = "" then span else { span with tags := putTag key value span.tags }

def removeTag (span : SpanData) (key : String) : SpanData :=
  { span with tags := eraseTag key span.tags }

def mapTimes (f : UInt64 → UInt64) (span : SpanData) : SpanData :=
  { span with
    start := f span.start
    finish := f span.finish
    annotations := span.annotations.map fun (time, text) => (f time, text) }

def describe (span : SpanData) : String :=
  let text (value : Option String) : String := Description.option (value.map Text.quoted)
  let address (value : Option Address) : String := Description.option (value.map Address.toText)
  Description.record "MutableSpan"
    [("trace_id", text span.traceId),
     ("local_root_id", text span.localRootId),
     ("parent_id", text span.parentId),
     ("id", text span.id),
     ("kind", Description.option (span.kind.map SpanKind.describe)),
     ("name", text span.name),
     ("start_timestamp", toString span.start.toNat),
     ("finish_timestamp", toString span.finish.toNat),
     ("local_service_name", text span.localEndpoint.serviceName),
     ("local_ip", address span.localEndpoint.address),
     ("local_port", toString span.localEndpoint.port.toNat),
     ("remote_service_name", text span.remoteEndpoint.serviceName),
     ("remote_ip", address span.remoteEndpoint.address),
     ("remote_port", toString span.remoteEndpoint.port.toNat),
     ("annotations", Description.list (span.annotations.map fun (time, value) =>
        Description.pair (toString time.toNat) (Text.quoted value))),
     ("tags", Description.list (span.tags.map fun (key, value) =>
        Description.pair (Text.quoted key) (Text.quoted value))),
     ("error", Description.option (span.error.map SpanError.describe)),
     ("debug", Description.bool span.debug),
     ("shared", Description.bool span.shared)]

end SpanData

end RequestTracing
