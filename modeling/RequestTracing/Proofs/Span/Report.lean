import Mathlib
import RequestTracing.Proofs.Json.RoundTrip
import RequestTracing.Proofs.Span.Reachable
import RequestTracing.Span.Encoder

/-!
This module contains what spans are reported as. Main statement: reading the text of a span gives an
object of exactly what is known about the span, each value under its key and in order, and the text
of a list of spans gives the list of those objects.
-/

namespace RequestTracing.SpanEncoder

open Json (Value Items Members)

def present (table : List (String × Option Value)) : List (String × Value) :=
  table.filterMap fun entry => entry.2.map fun value => (entry.1, value)

def provided (p : Prop) [Decidable p] (value : Value) : Option Value :=
  if p then some value else none

def endpointReport (endpoint : Endpoint) : List (String × Option Value) :=
  [("serviceName", endpoint.serviceName.map .string),
   ("ipv4", match endpoint.address with
      | some (.v4 a b c d) => some (.string (Address.v4 a b c d).toText)
      | _ => none),
   ("ipv6", match endpoint.address with
      | some (.v6 groups) => some (.string (Address.v6 groups).toText)
      | _ => none),
   ("port", provided (endpoint.port ≠ 0) (.number endpoint.port.toNat))]

def endpointObject (endpoint : Endpoint) : Option Value :=
  provided (endpoint.serviceName ≠ none ∨ endpoint.address ≠ none ∨ endpoint.port ≠ 0)
    (object (present (endpointReport endpoint)))

def annotationObject (note : UInt64 × String) : Value :=
  object [("timestamp", .number note.1.toNat), ("value", .string note.2)]

def tagsReport (encoder : SpanEncoder) (span : SpanData) : List (String × String) :=
  match span.error with
  | some e =>
    if encoder.errorTag ∈ span.tags.map (·.1) then span.tags
    else span.tags ++ [(encoder.errorTag, e.message)]
  | none => span.tags

def report (encoder : SpanEncoder) (span : SpanData) : List (String × Option Value) :=
  [("traceId", span.traceId.map .string),
   ("parentId", span.parentId.map .string),
   ("id", span.id.map .string),
   ("kind", (span.kind.map SpanKind.wireName).map .string),
   ("name", span.name.map .string),
   ("timestamp", provided (span.start ≠ 0) (.number span.start.toNat)),
   ("duration", provided (span.start ≠ 0 ∧ span.finish ≠ 0)
      (.number (max 1 (span.finish.toNat - span.start.toNat)))),
   ("localEndpoint", endpointObject span.localEndpoint),
   ("remoteEndpoint", endpointObject span.remoteEndpoint),
   ("annotations", provided (span.annotations ≠ []) (array (span.annotations.map annotationObject))),
   ("tags", provided (encoder.tagsReport span ≠ [])
      (object ((encoder.tagsReport span).map fun tag => (tag.1, .string tag.2)))),
   ("debug", provided span.debug (.bool true)),
   ("shared", provided span.shared (.bool true))]

theorem present_append (table others : List (String × Option Value)) :
    present (table ++ others) = present table ++ present others :=
  List.filterMap_append

theorem textMember_eq (key : String) (text : Option String) :
    textMember key text = present [(key, text.map .string)] := by
  cases text <;> rfl

theorem present_provided (key : String) (p : Prop) [Decidable p] (value : Value) :
    present [(key, provided p value)] = if p then [(key, value)] else [] := by
  unfold provided
  split
  . rfl
  . rfl

theorem numberMember_eq (key : String) {n : Nat} {p : Prop} [Decidable p] (h : n = 0 ↔ ¬p) :
    numberMember key n = present [(key, provided p (.number n))] := by
  unfold numberMember
  rw [present_provided, if_congr h rfl rfl, ite_not]

theorem durationMember_eq (span : SpanData) :
    numberMember "duration" (duration span) =
      present [("duration", provided (span.start ≠ 0 ∧ span.finish ≠ 0)
        (.number (max 1 (span.finish.toNat - span.start.toNat))))] := by
  unfold duration
  by_cases h : span.start = 0 ∨ span.finish = 0
  . rw [present_provided, if_pos h, if_neg (by tauto)]
    rfl
  . rw [present_provided, if_neg h, if_pos (by tauto), Nat.max_comm]
    unfold numberMember
    rw [if_neg (by omega)]

theorem markMember_eq (key : String) (value : Bool) :
    markMember key value = present [(key, provided value (.bool true))] := by
  rw [present_provided]
  rfl

theorem annotationsMember_eq (annotations : List (UInt64 × String)) :
    annotationsMember annotations =
      present [("annotations",
        provided (annotations ≠ []) (array (annotations.map annotationObject)))] := by
  rw [present_provided, ite_not]
  rfl

theorem tagsMember_eq (tags : List (String × String)) :
    tagsMember tags =
      present [("tags",
        provided (tags ≠ []) (object (tags.map fun tag => (tag.1, .string tag.2))))] := by
  rw [present_provided, ite_not]
  rfl

theorem addressMember_eq (address : Option Address) :
    addressMember address = present
      [("ipv4", match address with
        | some (.v4 a b c d) => some (.string (Address.v4 a b c d).toText)
        | _ => none),
      ("ipv6", match address with
        | some (.v6 groups) => some (.string (Address.v6 groups).toText)
        | _ => none)] := by
  rcases address with _ | _ | _ <;> rfl

theorem endpointMember_eq (key : String) (endpoint : Endpoint) :
    endpointMember key endpoint = present [(key, endpointObject endpoint)] := by
  have hport : endpoint.port.toNat = 0 ↔ ¬endpoint.port ≠ 0 := by
    rw [not_not, ← UInt16.toNat_inj]
    rfl
  have hmembers : textMember "serviceName" endpoint.serviceName ++ addressMember endpoint.address
      ++ numberMember "port" endpoint.port.toNat = present (endpointReport endpoint) := by
    unfold endpointReport
    rw [textMember_eq, addressMember_eq, numberMember_eq "port" hport]
    simp only [← present_append]
    rfl
  unfold endpointMember endpointObject
  rw [present_provided, hmembers]
  by_cases h : endpoint.serviceName = none ∧ endpoint.address = none ∧ endpoint.port = 0
  . rw [if_pos h, if_neg (by tauto)]
  . rw [if_neg h, if_pos (by tauto)]

theorem tagValue?_isSome_iff {span : SpanData} {key : String} :
    (span.tagValue? key).isSome ↔ key ∈ span.tags.map (·.1) := by
  unfold SpanData.tagValue?
  simp [List.lookup_isSome_iff]

theorem reportedTags_eq (encoder : SpanEncoder) (span : SpanData) :
    encoder.reportedTags span = encoder.tagsReport span := by
  unfold reportedTags tagsReport
  cases span.error with
  | none => exact List.append_nil _
  | some e =>
    dsimp only
    rw [if_congr tagValue?_isSome_iff rfl rfl]
    split
    . exact List.append_nil _
    . rfl

theorem document_eq (encoder : SpanEncoder) (span : SpanData) :
    encoder.document span = object (present (encoder.report span)) := by
  have hstart : span.start.toNat = 0 ↔ ¬span.start ≠ 0 := by
    rw [not_not, ← UInt64.toNat_inj]
    rfl
  unfold document report
  rw [textMember_eq, textMember_eq, textMember_eq, textMember_eq, textMember_eq,
    numberMember_eq "timestamp" hstart, durationMember_eq, endpointMember_eq, endpointMember_eq,
    annotationsMember_eq, tagsMember_eq, markMember_eq, markMember_eq, reportedTags_eq]
  simp only [← present_append]
  rfl

theorem keys_present_sublist (table : List (String × Option Value)) :
    ((present table).map (·.1)).Sublist (table.map (·.1)) := by
  induction table with
  | nil => exact List.Sublist.refl _
  | cons entry rest ih =>
    obtain ⟨key, value⟩ := entry
    cases value with
    | none => exact ih.cons _
    | some value => exact ih.cons_cons _

theorem clean_present {table : List (String × Option Value)} (hnodup : (table.map (·.1)).Nodup)
    (h : ∀ entry ∈ table, ∀ value ∈ entry.2, value.Clean) :
    (object (present table)).Clean := by
  apply Value.clean_object
  . exact hnodup.sublist (keys_present_sublist table)
  . intro member hmember
    unfold present at hmember
    obtain ⟨entry, hentry, hvalue⟩ := List.mem_filterMap.1 hmember
    obtain ⟨value, hsome, heq⟩ := Option.map_eq_some_iff.1 hvalue
    rw [← heq]
    exact h entry hentry value hsome

theorem clean_of_mem_provided {p : Prop} [Decidable p] {value other : Value} (h : p → value.Clean)
    (hother : other ∈ provided p value) : other.Clean := by
  unfold provided at hother
  split at hother
  . next hp =>
    rw [← Option.some.inj hother]
    exact h hp
  . simp at hother

theorem clean_of_mem_text {text : Option String} {value : Value}
    (h : value ∈ text.map Value.string) : value.Clean := by
  obtain ⟨s, _, heq⟩ := Option.map_eq_some_iff.1 h
  rw [← heq, Value.Clean]
  trivial

theorem clean_endpointObject {endpoint : Endpoint} {value : Value}
    (h : value ∈ endpointObject endpoint) : value.Clean := by
  refine clean_of_mem_provided (fun _ => clean_present ?_ ?_) h
  . simp [endpointReport]
  . unfold endpointReport
    rw [List.forall_mem_cons, List.forall_mem_cons, List.forall_mem_cons, List.forall_mem_singleton]
    refine ⟨fun value => clean_of_mem_text, ?_, ?_, fun value => clean_of_mem_provided ?_⟩
    . rcases endpoint.address with _ | _ | _ <;> simp [Value.Clean]
    . rcases endpoint.address with _ | _ | _ <;> simp [Value.Clean]
    . simp [Value.Clean]

theorem clean_annotationObject (note : UInt64 × String) : (annotationObject note).Clean := by
  apply Value.clean_object
  . simp
  . simp [Value.Clean]

theorem nodup_keys_tagsReport (encoder : SpanEncoder) {span : SpanData} (h : span.Reachable) :
    ((encoder.tagsReport span).map (·.1)).Nodup := by
  unfold tagsReport
  split
  . next e _ =>
    split
    . exact h.nodup_tags
    . next hkey =>
      rw [List.map_append, List.map_singleton, ← List.concat_eq_append]
      exact List.Nodup.concat hkey h.nodup_tags
  . exact h.nodup_tags

theorem clean_tags {tags : List (String × String)} (h : (tags.map (·.1)).Nodup) :
    (object (tags.map fun tag => (tag.1, Value.string tag.2))).Clean := by
  apply Value.clean_object
  . rwa [List.map_map]
  . intro member hmember
    obtain ⟨tag, _, heq⟩ := List.mem_map.1 hmember
    rw [← heq, Value.Clean]
    trivial

theorem clean_report (encoder : SpanEncoder) {span : SpanData} (h : span.Reachable) :
    (object (present (encoder.report span))).Clean := by
  apply clean_present
  . simp [report]
  . unfold report
    simp only [List.forall_mem_cons]
    refine ⟨fun _ => clean_of_mem_text, fun _ => clean_of_mem_text, fun _ => clean_of_mem_text,
      fun _ => clean_of_mem_text, fun _ => clean_of_mem_text, fun _ => clean_of_mem_provided ?_,
      fun _ => clean_of_mem_provided ?_, fun _ => clean_endpointObject,
      fun _ => clean_endpointObject, fun _ => clean_of_mem_provided ?_,
      fun _ => clean_of_mem_provided ?_, fun _ => clean_of_mem_provided ?_,
      fun _ => clean_of_mem_provided ?_, List.forall_mem_nil _⟩
    . simp [Value.Clean]
    . simp [Value.Clean]
    . intro _
      apply Value.clean_array
      intro item hitem
      obtain ⟨note, _, heq⟩ := List.mem_map.1 hitem
      rw [← heq]
      exact clean_annotationObject note
    . intro _
      exact clean_tags (nodup_keys_tagsReport encoder h)
    . simp [Value.Clean]
    . simp [Value.Clean]

theorem encodeList_eq (encoder : SpanEncoder) (spans : List SpanData) :
    encoder.encodeList spans = (array (spans.map encoder.document)).toText := by
  have htexts : (spans.map encoder.encode).map String.toList =
      (spans.map encoder.document).map Value.chars := by
    rw [List.map_map, List.map_map]
    apply List.map_congr_left
    intro span _
    exact Value.toList_toText _
  apply String.toList_injective
  unfold encodeList array
  rw [String.toList_append, String.toList_append, String.toList_intercalate, htexts,
    Value.toList_toText, Value.chars, Value.pieces, List.flatten_append, List.flatten_cons,
    Items.flatten_pieces_ofList]
  rfl

/--
The text of a span reads as an object of what is reported about it, with no value null and no key
twice, and the text of a list of spans as the list of their objects.
-/
theorem read?_encode (encoder : SpanEncoder) :
    (∀ span : SpanData, span.Reachable →
      Json.read? (encoder.encode span) = some (object (present (encoder.report span))) ∧
      (object (present (encoder.report span))).Clean) ∧
    ∀ spans : List SpanData, (∀ span ∈ spans, span.Reachable) →
      Json.read? (encoder.encodeList spans) =
        some (array (spans.map fun span => object (present (encoder.report span)))) ∧
      (array (spans.map fun span => object (present (encoder.report span)))).Clean := by
  constructor
  . intro span hspan
    refine ⟨?_, clean_report encoder hspan⟩
    unfold encode
    rw [Json.read?_toText, document_eq]
  . intro spans hspans
    constructor
    . rw [encodeList_eq, Json.read?_toText, List.map_congr_left fun span _ => document_eq encoder span]
    . apply Value.clean_array
      intro item hitem
      obtain ⟨span, hspan, heq⟩ := List.mem_map.1 hitem
      rw [← heq]
      exact clean_report encoder (hspans span hspan)

theorem read?_encode_error :
    let span := ((SpanData.empty.perform (.tag "path" "\\a\n")).2.perform
      (.setError ⟨"Error", "\"late\""⟩)).2
    span.Reachable ∧
    Json.read? (encode {} span) =
      some (object [("tags", object [("path", .string "\\a\n"), ("error", .string "\"late\"")])]) ∧
    Json.read? (encodeList {} [span]) =
      some (array [object
        [("tags", object [("path", .string "\\a\n"), ("error", .string "\"late\"")])]]) := by
  intro span
  have hspan : span.Reachable := (SpanData.Reachable.empty.perform _).perform _
  have hreport : object (present (report {} span)) =
      object [("tags", object [("path", .string "\\a\n"), ("error", .string "\"late\"")])] := by
    decide +kernel
  have hone := ((read?_encode {}).1 span hspan).1
  have hlist := ((read?_encode {}).2 [span] (by simpa using hspan)).1
  rw [hreport] at hone
  rw [List.map_singleton, hreport] at hlist
  exact ⟨hspan, hone, hlist⟩

end RequestTracing.SpanEncoder
