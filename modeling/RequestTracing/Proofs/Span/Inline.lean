import Mathlib
import RequestTracing.Proofs.Json.Fragments
import RequestTracing.Proofs.Json.Inline
import RequestTracing.Proofs.Json.Value
import RequestTracing.Span.Encoder

/-!
This module contains what makes the text of a span safe to embed in a script. Main statement: text
is written with its separators of lines and of paragraphs escaped, however it is cut into fragments,
and the bytes of a span hold neither of them and no control character.
-/

namespace RequestTracing.SpanEncoder

open Json

theorem inline_encode (encoder : SpanEncoder) (span : SpanData) :
    Inline (encoder.encode span).toList := by
  unfold encode
  rw [Value.toList_toText]
  apply Value.inline_pieces

theorem not_infix_of_inline {text : String} (h : Inline text.toList) {separator : Char}
    (hseparator : separator = '\u2028' ∨ separator = '\u2029') :
    ¬utf8Bytes [separator] <:+: utf8Bytes text.toList := by
  intro hinfix
  obtain ⟨_, hline, hparagraph⟩ := h separator (mem_of_infix_utf8Bytes hinfix)
  rcases hseparator with rfl | rfl
  . exact hline rfl
  . exact hparagraph rfl

/--
Whatever fragments a text is cut into, what is written for them is the text with each separator of
lines or of paragraphs escaped, and nothing else changed. It is written in slices between offsets
that do not lie within a character. No byte of a span is a control character, and no bytes of it are
a separator.
-/
theorem separators_escaped :
    (∀ fragments : List String,
      (fragments.flatMap fun fragment => (fragmentPieces [] fragment.toList).flatMap utf8Bytes) =
        utf8Bytes ((String.join fragments).toList.flatMap separatorEscaped)) ∧
    (∀ fragment : String, List.Forall₂ (FragmentPart.Gives fragment) (fragmentParts fragment)
      (fragmentPieces [] fragment.toList)) ∧
    ∀ (encoder : SpanEncoder) (span : SpanData),
      let bytes := (encoder.encode span).toUTF8.data.toList
      (∀ b ∈ bytes, 0x20 ≤ b) ∧ ¬utf8Bytes ['\u2028'] <:+: bytes ∧
        ¬utf8Bytes ['\u2029'] <:+: bytes := by
  refine ⟨flatMap_fragmentPieces, gives_fragmentParts, ?_⟩
  intro encoder span bytes
  have hinline := encoder.inline_encode span
  have hbytes : bytes = utf8Bytes (encoder.encode span).toList := (utf8Bytes_toList _).symm
  rw [hbytes]
  refine ⟨?_, not_infix_of_inline hinline (.inl rfl), not_infix_of_inline hinline (.inr rfl)⟩
  intro b hb
  exact le_of_mem_utf8Bytes (fun c hc => (hinline c hc).1) hb

end RequestTracing.SpanEncoder
