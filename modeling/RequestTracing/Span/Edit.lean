import RequestTracing.Span.Data

/-!
This module contains single edits of a recorded span as data, with what each of them answers. Main
statements: an edit that is refused leaves the span as it was, and a list of edits makes a span
exactly when none of them is refused.
-/

namespace RequestTracing

inductive SpanEdit where
  | setTraceId (given : String)
  | setLocalRootId (given : String)
  | setParentId (given : Option String)
  | setId (given : String)
  | setKind (kind : Option SpanKind)
  | setName (name : String)
  | setStart (time : UInt64)
  | setFinish (time : UInt64)
  | setLocalServiceName (name : String)
  | setLocalAddress (text : String)
  | setLocalPort (port : UInt16)
  | setRemoteServiceName (name : String)
  | setRemoteAddress (text : String) (port : UInt16)
  | annotate (time : UInt64) (text : String)
  | isAnnotatedWith (text : String)
  | tag (key value : String)
  | tagValue (key : String)
  | removeTag (key : String)
  | setError (error : SpanError)
  | setDebug (value : Bool)
  | setShared (value : Bool)
  | isEmpty
  deriving DecidableEq

inductive EditAnswer where
  | done
  | verdict (value : Bool)
  | text (value : Option String)
  | refused (error : TraceError)
  deriving DecidableEq

namespace SpanData

def settle (span : SpanData) : Except TraceError SpanData → EditAnswer × SpanData
  | .ok edited => (.done, edited)
  | .error e => (.refused e, span)

def judge (span : SpanData) : Option SpanData → EditAnswer × SpanData
  | some edited => (.verdict true, edited)
  | none => (.verdict false, span)

def perform (span : SpanData) : SpanEdit → EditAnswer × SpanData
  | .setTraceId given => span.settle (span.setTraceId given)
  | .setLocalRootId given => span.settle (span.setLocalRootId given)
  | .setParentId given => span.settle (span.setParentId given)
  | .setId given => span.settle (span.setId given)
  | .setKind kind => (.done, { span with kind })
  | .setName name => (.done, span.setName name)
  | .setStart time => (.done, { span with start := time })
  | .setFinish time => (.done, { span with finish := time })
  | .setLocalServiceName name => (.done, span.setLocalServiceName name)
  | .setLocalAddress text => span.judge (span.setLocalAddress? text)
  | .setLocalPort port => (.done, span.setLocalPort port)
  | .setRemoteServiceName name => (.done, span.setRemoteServiceName name)
  | .setRemoteAddress text port => span.judge (span.setRemoteAddress? text port)
  | .annotate time text => (.done, span.annotate time text)
  | .isAnnotatedWith text => (.verdict (span.isAnnotatedWith text), span)
  | .tag key value => (.done, span.tag key value)
  | .tagValue key => (.text (span.tagValue? key), span)
  | .removeTag key => (.text (span.tagValue? key), span.removeTag key)
  | .setError error => (.done, { span with error := some error })
  | .setDebug value => (.done, { span with debug := value })
  | .setShared value => (.done, { span with shared := value })
  | .isEmpty => (.verdict span.isEmpty, span)

def performAll (span : SpanData) : List SpanEdit → List EditAnswer × SpanData
  | [] => ([], span)
  | edit :: edits =>
    let (answer, edited) := span.perform edit
    let (answers, last) := edited.performAll edits
    (answer :: answers, last)

def revise (span : SpanData) : List SpanEdit → Except TraceError SpanData
  | [] => .ok span
  | edit :: edits =>
    match span.perform edit with
    | (.refused e, _) => .error e
    | (_, edited) => edited.revise edits

theorem settle_of_refused {span : SpanData} {result : Except TraceError SpanData} {e : TraceError}
    (h : (span.settle result).1 = .refused e) : (span.settle result).2 = span := by
  cases result with
  | ok edited => simp [settle] at h
  | error cause => rfl

theorem judge_ne_refused (span : SpanData) (result : Option SpanData) (e : TraceError) :
    (span.judge result).1 ≠ .refused e := by
  cases result <;> simp [judge]

theorem perform_of_refused {span : SpanData} {edit : SpanEdit} {e : TraceError}
    (h : (span.perform edit).1 = .refused e) : (span.perform edit).2 = span := by
  cases edit with
  | setTraceId given => exact settle_of_refused h
  | setLocalRootId given => exact settle_of_refused h
  | setParentId given => exact settle_of_refused h
  | setId given => exact settle_of_refused h
  | setLocalAddress text => exact absurd h (judge_ne_refused _ _ _)
  | setRemoteAddress text port => exact absurd h (judge_ne_refused _ _ _)
  | _ => simp [perform] at h

theorem revise_eq_ok_iff {span last : SpanData} {edits : List SpanEdit} :
    span.revise edits = .ok last ↔
      (∀ e, .refused e ∉ (span.performAll edits).1) ∧ (span.performAll edits).2 = last := by
  induction edits generalizing span with
  | nil => simp [revise, performAll]
  | cons edit edits ih =>
    rcases h : span.perform edit with ⟨answer, edited⟩
    cases answer with
    | refused e => simpa [revise, performAll, h] using fun h => absurd rfl (h e).1
    | _ => simp [revise, performAll, h, ih]

end SpanData

end RequestTracing
