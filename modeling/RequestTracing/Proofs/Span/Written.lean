import Mathlib
import RequestTracing.Proofs.Text.Utf8
import RequestTracing.Span.Encoder

/-!
This module contains the writing of spans to a writer that may run out of room. Main statement: such
a writer is left with as many of the bytes of the span as it had room for, and writing fails exactly
when there are more of them.
-/

namespace RequestTracing

namespace LimitedWriter

theorem fst_writeAll (writer : LimitedWriter) (pieces : List (List Char)) :
    (writer.writeAll pieces).1 = decide ((utf8Bytes pieces.flatten).length ≤ writer.room) := by
  induction pieces generalizing writer with
  | nil => simp [writeAll, utf8Bytes]
  | cons piece rest ih =>
    unfold writeAll
    dsimp only
    rw [List.flatten_cons, utf8Bytes_append, List.length_append]
    split
    . next hfits =>
      rw [ih]
      unfold take
      dsimp only
      apply decide_eq_decide.2
      omega
    . next hfull =>
      symm
      rw [decide_eq_false_iff_not]
      omega

end LimitedWriter

theorem foldl_length_utf8Bytes (pieces : List (List Char)) (start : Nat) :
    pieces.foldl (fun count piece => count + (utf8Bytes piece).length) start =
      start + (utf8Bytes pieces.flatten).length := by
  induction pieces generalizing start with
  | nil => rfl
  | cons piece rest ih =>
    rw [List.foldl_cons, ih, List.flatten_cons, LimitedWriter.utf8Bytes_append, List.length_append,
      Nat.add_assoc]

namespace SpanEncoder

theorem utf8Bytes_flatten_pieces (encoder : SpanEncoder) (span : SpanData) :
    utf8Bytes (encoder.document span).pieces.flatten =
      (encoder.encode span).toUTF8.data.toList := by
  rw [← utf8Bytes_toList]
  unfold encode Json.Value.toText Json.Value.chars
  rw [String.toList_ofList]

/--
A writer is left with the bytes of the text of a span up to its limit, and writing fails exactly
when there are more. Their number is what is counted without writing them.
-/
theorem writeLimited_eq_take (encoder : SpanEncoder) (span : SpanData) (limit : Nat) :
    let bytes := (encoder.encode span).toUTF8.data.toList
    encoder.writeLimited span limit =
      (if limit < bytes.length then .error (.other "writer is full") else .ok (),
        bytes.take (min limit bytes.length)) ∧
    encoder.sizeInBytes span = bytes.length := by
  intro bytes
  have hbytes : utf8Bytes (encoder.document span).pieces.flatten = bytes :=
    encoder.utf8Bytes_flatten_pieces span
  constructor
  . have hcomplete : ((LimitedWriter.ofLimit limit).writeAll (encoder.document span).pieces).1 =
        decide (bytes.length ≤ limit) := by
      rw [LimitedWriter.fst_writeAll, hbytes]
      rfl
    have htaken : ((LimitedWriter.ofLimit limit).writeAll
        (encoder.document span).pieces).2.taken = bytes.take limit := by
      rw [LimitedWriter.taken_writeAll, hbytes]
      rfl
    unfold writeLimited
    dsimp only
    rw [hcomplete, htaken, ← List.take_eq_take_min]
    by_cases hfits : bytes.length ≤ limit
    . rw [if_pos (decide_eq_true hfits), if_neg (Nat.not_lt.2 hfits)]
    . rw [if_neg (by simpa using hfits), if_pos (Nat.lt_of_not_le hfits)]
  . unfold sizeInBytes
    rw [foldl_length_utf8Bytes, hbytes, Nat.zero_add]

end SpanEncoder

end RequestTracing
