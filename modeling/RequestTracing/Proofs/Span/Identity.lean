import Mathlib
import RequestTracing.Proofs.Lookup
import RequestTracing.Proofs.Span.Report
import RequestTracing.Recorder.Record

/-!
This module contains what a span is known by where it is reported: its identifiers, and the flags
that are reported with them. Main statement: the text of a span reads as an object that states them,
each under its key, and nothing that a handle records changes them.
-/

namespace RequestTracing

open Json (Value)

structure ReportedIdentity where
  traceId : Option String
  parentId : Option String
  id : Option String
  debug : Bool
  shared : Bool

def SpanData.reportedIdentity (span : SpanData) : ReportedIdentity :=
  ⟨span.traceId, span.parentId, span.id, span.debug, span.shared⟩

def TraceContext.reportedIdentity {β : Type} (context : TraceContext β) : ReportedIdentity :=
  ⟨some context.traceId.toText, context.parentId.map SpanId.toText, some context.spanId.toText,
    context.debug, context.shared⟩

theorem SpanData.reportedIdentity_annotate (span : SpanData) (time : UInt64) (text : String) :
    (span.annotate time text).reportedIdentity = span.reportedIdentity := by
  unfold annotate
  split
  . rfl
  . rfl

theorem SpanData.reportedIdentity_tag (span : SpanData) (key value : String) :
    (span.tag key value).reportedIdentity = span.reportedIdentity := by
  unfold tag
  split
  . rfl
  . rfl

theorem SpanRecord.reportedIdentity_toEdit (now : UInt64) (entry : SpanRecord) (span : SpanData) :
    (span.perform (entry.toEdit now)).2.reportedIdentity = span.reportedIdentity := by
  cases entry with
  | annotate text => exact span.reportedIdentity_annotate now text
  | annotateAt time text => exact span.reportedIdentity_annotate time text
  | tag key value => exact span.reportedIdentity_tag key value
  | remoteAddress text port =>
    unfold toEdit SpanData.perform SpanData.setRemoteAddress?
    dsimp only
    cases Address.parse? text with
    | none => rfl
    | some address => rfl
  | _ => rfl

namespace SpanEncoder

theorem lookup_present {table : List (String × Option Value)} (hnodup : (table.map (·.1)).Nodup)
    {key : String} {value : Option Value} (h : (key, value) ∈ table) :
    (present table).lookup key = value := by
  have hkeys : ((present table).map (·.1)).Nodup := hnodup.sublist (keys_present_sublist table)
  have hmem : ∀ member, (key, member) ∈ present table ↔ value = some member := by
    intro member
    unfold present
    rw [List.mem_filterMap]
    constructor
    . rintro ⟨entry, hentry, hmember⟩
      obtain ⟨known, hknown, heq⟩ := Option.map_eq_some_iff.1 hmember
      obtain ⟨hkey, rfl⟩ := Prod.mk.inj heq
      have hentryKey : (key, entry.2) ∈ table := by rwa [← hkey]
      have hsame := Lookup.lookup_eq_some_of_mem hnodup h
      rw [Lookup.lookup_eq_some_of_mem hnodup hentryKey, hknown] at hsame
      exact (Option.some.inj hsame).symm
    . intro hvalue
      exact ⟨(key, value), h, by rw [hvalue]; rfl⟩
  -- a key that occurs once has its value among the present members, or is not there at all
  cases value with
  | some member => exact Lookup.lookup_eq_some_of_mem hkeys ((hmem member).2 rfl)
  | none =>
    rw [List.lookup_eq_none_iff]
    rintro ⟨other, member⟩ hother
    rw [bne_iff_ne]
    rintro rfl
    cases (hmem member).1 hother

end SpanEncoder

/--
Holds for objects that state an identity, each part of it under its key and nothing where it is
absent.
-/
structure Json.Value.States (document : Value) (identity : ReportedIdentity) : Prop where
  traceId : document.member? "traceId" = identity.traceId.map .string
  parentId : document.member? "parentId" = identity.parentId.map .string
  id : document.member? "id" = identity.id.map .string
  debug : document.member? "debug" = SpanEncoder.provided identity.debug (.bool true)
  shared : document.member? "shared" = SpanEncoder.provided identity.shared (.bool true)

namespace SpanEncoder

theorem exists_states (encoder : SpanEncoder) (span : SpanData) :
    ∃ document, Json.read? (encoder.encode span) = some document ∧
      document.States span.reportedIdentity := by
  have hmember {key : String} {value : Option Value} (h : (key, value) ∈ encoder.report span) :
      (encoder.document span).member? key = value := by
    rw [document_eq]
    refine (Value.member?_object _ key).trans (lookup_present ?_ h)
    simp [report]
  have htraceId : ("traceId", span.traceId.map .string) ∈ encoder.report span := by simp [report]
  have hparentId : ("parentId", span.parentId.map .string) ∈ encoder.report span := by
    simp [report]
  have hid : ("id", span.id.map .string) ∈ encoder.report span := by simp [report]
  have hdebug : ("debug", provided span.debug (.bool true)) ∈ encoder.report span := by
    simp [report]
  have hshared : ("shared", provided span.shared (.bool true)) ∈ encoder.report span := by
    simp [report]
  exact ⟨encoder.document span, Json.read?_toText _, hmember htraceId, hmember hparentId,
    hmember hid, hmember hdebug, hmember hshared⟩

end SpanEncoder

end RequestTracing
