import RequestTracing.Json.Value
import RequestTracing.Json.Writer
import RequestTracing.Span.Data

/-!
This module contains the JSON documents that spans are reported as. What is absent is left out, and
members come in the order that collectors expect.
-/

namespace RequestTracing

structure SpanEncoder where
  errorTag : String := "error"
  deriving DecidableEq

namespace SpanEncoder

open Json (Value Items Members)

def object (members : List (String × Value)) : Value :=
  .object (.ofList members)

def array (items : List Value) : Value :=
  .array (.ofList items)

def textMember (key : String) (value : Option String) : List (String × Value) :=
  (value.map fun text => (key, Value.string text)).toList

def numberMember (key : String) (n : Nat) : List (String × Value) :=
  if n = 0 then [] else [(key, .number n)]

def markMember (key : String) (value : Bool) : List (String × Value) :=
  if value then [(key, .bool true)] else []

def addressMember : Option Address → List (String × Value)
  | none => []
  | some (.v4 a b c d) => [("ipv4", .string (Address.toText (.v4 a b c d)))]
  | some (.v6 groups) => [("ipv6", .string (Address.toText (.v6 groups)))]

def endpointMember (key : String) (endpoint : Endpoint) : List (String × Value) :=
  if endpoint.serviceName = none ∧ endpoint.address = none ∧ endpoint.port = 0 then
    []
  else
    [(key, object
      (textMember "serviceName" endpoint.serviceName
        ++ addressMember endpoint.address
        ++ numberMember "port" endpoint.port.toNat))]

def duration (span : SpanData) : Nat :=
  if span.start = 0 ∨ span.finish = 0 then 0 else max (span.finish.toNat - span.start.toNat) 1

def annotationsMember (annotations : List (UInt64 × String)) : List (String × Value) :=
  if annotations = [] then
    []
  else
    [("annotations", array (annotations.map fun (time, text) =>
      object [("timestamp", .number time.toNat), ("value", .string text)]))]

/--
The tags that are reported: those of the span, with the message of a recorded error at the end
unless its tag is there already.
-/
def reportedTags (encoder : SpanEncoder) (span : SpanData) : List (String × String) :=
  span.tags ++
    match span.error with
    | some e =>
      if (span.tagValue? encoder.errorTag).isSome then [] else [(encoder.errorTag, e.message)]
    | none => []

def tagsMember (tags : List (String × String)) : List (String × Value) :=
  if tags = [] then [] else [("tags", object (tags.map fun (key, value) => (key, .string value)))]

def document (encoder : SpanEncoder) (span : SpanData) : Value :=
  object
    (textMember "traceId" span.traceId
      ++ textMember "parentId" span.parentId
      ++ textMember "id" span.id
      ++ textMember "kind" (span.kind.map SpanKind.wireName)
      ++ textMember "name" span.name
      ++ numberMember "timestamp" span.start.toNat
      ++ numberMember "duration" (duration span)
      ++ endpointMember "localEndpoint" span.localEndpoint
      ++ endpointMember "remoteEndpoint" span.remoteEndpoint
      ++ annotationsMember span.annotations
      ++ tagsMember (encoder.reportedTags span)
      ++ markMember "debug" span.debug
      ++ markMember "shared" span.shared)

def encode (encoder : SpanEncoder) (span : SpanData) : String :=
  (encoder.document span).toText

def encodeList (encoder : SpanEncoder) (spans : List SpanData) : String :=
  "[" ++ String.intercalate "," (spans.map encoder.encode) ++ "]"

def sizeInBytes (encoder : SpanEncoder) (span : SpanData) : Nat :=
  (encoder.document span).pieces.foldl (fun count piece => count + (utf8Bytes piece).length) 0

def writeLimited (encoder : SpanEncoder) (span : SpanData) (limit : Nat) :
    Except TraceError Unit × List UInt8 :=
  let (complete, writer) := (LimitedWriter.ofLimit limit).writeAll (encoder.document span).pieces
  (if complete then .ok () else .error (.other "writer is full"), writer.taken)

def describe (encoder : SpanEncoder) : String :=
  Description.record "MutableSpanBytesEncoder" [("error_tag", Text.quoted encoder.errorTag)]

end SpanEncoder

end RequestTracing
