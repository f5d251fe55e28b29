import RequestTracing.Recorder.Registry
import RequestTracing.Span.Edit

/-!
This module contains what a handle records on its span. Where no time is given, the clock of the
span tells it.
-/

namespace RequestTracing

inductive SpanRecord where
  | start
  | startAt (time : UInt64)
  | name (name : String)
  | kind (kind : SpanKind)
  | annotate (text : String)
  | annotateAt (time : UInt64) (text : String)
  | tag (key value : String)
  | error (error : SpanError)
  | remoteServiceName (name : String)
  | remoteAddress (text : String) (port : UInt16)
  deriving DecidableEq

namespace SpanRecord

def toEdit (now : UInt64) : SpanRecord → SpanEdit
  | start => .setStart now
  | startAt time => .setStart time
  | name text => .setName text
  | kind role => .setKind (some role)
  | annotate text => .annotate now text
  | annotateAt time text => .annotate time text
  | tag key value => .tag key value
  | error e => .setError e
  | remoteServiceName text => .setRemoteServiceName text
  | remoteAddress text port => .setRemoteAddress text port

end SpanRecord

namespace Registry

def perform (registry : Registry) (place : Nat) (edit : SpanEdit) : EditAnswer × Registry :=
  match registry.pendings[place]? with
  | none => (.done, registry)
  | some pending =>
    let (answer, span) := pending.span.perform edit
    (answer, registry.edit place fun _ => span)

def performAll (registry : Registry) (place : Nat) : List SpanEdit → List EditAnswer × Registry
  | [] => ([], registry)
  | edit :: edits =>
    let (answer, registry) := registry.perform place edit
    let (answers, registry) := registry.performAll place edits
    (answer :: answers, registry)

def record (registry : Registry) (place : Option Nat) (entry : SpanRecord) (absent : EditAnswer) :
    EditAnswer × Registry :=
  match place with
  | none => (absent, registry)
  | some place => registry.perform place (entry.toEdit (registry.now place))

end Registry

end RequestTracing
