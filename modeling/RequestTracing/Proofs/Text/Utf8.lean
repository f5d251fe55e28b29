import Mathlib
import RequestTracing.Json.Writer

/-!
This module contains text in UTF-8: the offsets that lie between characters, the bytes that
characters are written with, and the way back from the bytes of a character that stand in a text to
the character.
-/

namespace RequestTracing

theorem utf8Bytes_toList (text : String) : utf8Bytes text.toList = text.toUTF8.data.toList := by
  have hbytes : text.toUTF8 = (utf8Bytes text.toList).toByteArray := String.utf8Encode_toList.symm
  rw [hbytes, List.data_toByteArray]

theorem length_utf8Bytes (text : String) : (utf8Bytes text.toList).length = text.utf8ByteSize := by
  rw [utf8Bytes_toList, Array.length_toList]
  rfl

theorem flatMap_utf8Bytes (pieces : List (List Char)) :
    pieces.flatMap utf8Bytes = utf8Bytes pieces.flatten := by
  unfold utf8Bytes
  rw [List.flatten_eq_flatMap, List.flatMap_assoc]
  rfl

theorem isValid_of_toList_eq {text : String} {before after : List Char}
    (h : text.toList = before ++ after) :
    String.Pos.Raw.IsValid text ⟨(utf8Bytes before).length⟩ := by
  rw [String.Pos.Raw.isValid_iff_exists_append]
  refine ⟨String.ofList before, String.ofList after, ?_, ?_⟩
  . rw [← String.ofList_append, ← h, String.ofList_toList]
  . have hlength := length_utf8Bytes (String.ofList before)
    rw [String.toList_ofList] at hlength
    rw [hlength]
    rfl

-- No byte but the first of a character can begin one, so its bytes stand where a character begins.
theorem isValid_of_utf8Bytes_eq {text : String} {c : Char} {before after : List UInt8}
    (h : utf8Bytes text.toList = before ++ (utf8Bytes [c] ++ after)) :
    String.Pos.Raw.IsValid text ⟨before.length⟩ := by
  have hpos := c.utf8Size_pos
  have hfirst : 0 < (String.utf8EncodeChar c).length := by rwa [String.length_utf8EncodeChar]
  have hlt : before.length < text.utf8ByteSize := by
    rw [← length_utf8Bytes, h]
    simp [utf8Bytes, hpos]
  have hget : text.toUTF8.data.toList[before.length]? = some (String.utf8EncodeChar c)[0] := by
    rw [← utf8Bytes_toList, h, List.getElem?_append_right (Nat.le_refl _), Nat.sub_self]
    simp [utf8Bytes, List.getElem?_append_left hfirst, List.getElem?_eq_getElem hfirst]
  have hbyte : text.getUTF8Byte ⟨before.length⟩ hlt = (String.utf8EncodeChar c)[0] := by
    rw [Array.getElem?_toList] at hget
    exact (Array.getElem?_eq_some_iff.1 hget).2
  rw [String.Pos.Raw.isValid_iff_isUTF8FirstByte]
  refine .inr ⟨hlt, ?_⟩
  rw [hbyte, UInt8.isUTF8FirstByte_getElem_utf8EncodeChar]

theorem mem_of_infix_utf8Bytes {c : Char} {cs : List Char} (h : utf8Bytes [c] <:+: utf8Bytes cs) :
    c ∈ cs := by
  obtain ⟨before, after, hbytes⟩ := h
  rw [List.append_assoc] at hbytes
  have hvalid : String.Pos.Raw.IsValid (String.ofList cs) ⟨before.length⟩ := by
    apply isValid_of_utf8Bytes_eq
    rw [String.toList_ofList, hbytes]
  obtain ⟨first, second, htext, hplace⟩ := String.Pos.Raw.isValid_iff_exists_append.1 hvalid
  have hcs : cs = first.toList ++ second.toList := by
    rw [← String.toList_append, ← htext, String.toList_ofList]
  have hlength : before.length = (utf8Bytes first.toList).length := by
    rw [length_utf8Bytes]
    exact congrArg String.Pos.Raw.byteIdx hplace
  rw [hcs, LimitedWriter.utf8Bytes_append] at hbytes
  have hsecond := (List.append_inj hbytes hlength).2
  have hprefix : [c] <+: second.toList := by
    apply List.isPrefix_of_utf8Encode_append_eq_utf8Encode after.toByteArray
    rw [List.utf8Encode, List.utf8Encode, ← List.toByteArray_append]
    exact congrArg List.toByteArray hsecond
  rw [hcs]
  apply List.mem_append_right
  exact hprefix.subset (List.mem_singleton_self c)

theorem le_of_mem_utf8EncodeChar {c : Char} (h : 32 ≤ c.toNat) {b : UInt8}
    (hb : b ∈ String.utf8EncodeChar c) : 32 ≤ b := by
  have hval : c.val.toNat = c.toNat := rfl
  unfold String.utf8EncodeChar at hb
  dsimp only at hb
  rw [hval] at hb
  rw [UInt8.le_iff_toNat_le]
  split at hb
  . rw [List.mem_singleton] at hb
    rw [hb]
    simp
    omega
  -- the bytes of longer characters have their highest bit set
  . split at hb
    . simp only [List.mem_cons, List.not_mem_nil, or_false] at hb
      rcases hb with rfl | rfl <;> simp <;> omega
    . split at hb
      . simp only [List.mem_cons, List.not_mem_nil, or_false] at hb
        rcases hb with rfl | rfl | rfl <;> simp <;> omega
      . simp only [List.mem_cons, List.not_mem_nil, or_false] at hb
        rcases hb with rfl | rfl | rfl | rfl <;> simp <;> omega

theorem le_of_mem_utf8Bytes {cs : List Char} (h : ∀ c ∈ cs, 32 ≤ c.toNat) {b : UInt8}
    (hb : b ∈ utf8Bytes cs) : 32 ≤ b := by
  obtain ⟨c, hc, hmem⟩ := List.mem_flatMap.1 hb
  exact le_of_mem_utf8EncodeChar (h c hc) hmem

end RequestTracing
