import Mathlib
import RequestTracing.Proofs.Json.Tokens

/-!
This module contains text that stays on one line. Main statement: so does the text of any document,
since a character that does not is escaped wherever it stands.
-/

namespace RequestTracing.Json

def Inline (cs : List Char) : Prop :=
  ∀ c ∈ cs, 32 ≤ c.toNat ∧ c.toNat ≠ 0x2028 ∧ c.toNat ≠ 0x2029

theorem inline_append {a b : List Char} : Inline (a ++ b) ↔ Inline a ∧ Inline b :=
  List.forall_mem_append

theorem inline_of_ascii {cs : List Char} (h : ∀ c ∈ cs, 32 ≤ c.toNat ∧ c.toNat < 128) :
    Inline cs := by
  intro c hc
  have := h c hc
  omega

theorem inline_unitEscape (n : Nat) : Inline (unitEscape n) := by
  unfold unitEscape
  rw [inline_append]
  constructor
  . simp [Inline]
  . apply inline_of_ascii
    intro c hc
    have := Hex.isDigit_iff.1 (Hex.isDigit_of_mem_fixed hc)
    omega

theorem inline_written (c : Char) : Inline (written c) := by
  unfold written standardEscape?
  split
  . simp [Inline]
  . simp [Inline]
  . simp [Inline]
  . simp [Inline]
  . simp [Inline]
  . split
    . simp [Inline]
    . split
      . simp [Inline]
      . split
        . apply inline_unitEscape
        . next hcontrol =>
          unfold separatorEscape?
          split
          . apply inline_unitEscape
          . next hseparator =>
            simp only [Option.or_none, Option.getD_none, Inline, List.forall_mem_singleton]
            omega

theorem inline_stringPieces (s : String) : Inline (stringPieces s).flatten := by
  rw [flatten_stringPieces, ← List.singleton_append, inline_append, inline_append]
  refine ⟨?_, ?_, ?_⟩
  . simp [Inline]
  . intro c hc
    obtain ⟨d, _, hmem⟩ := List.mem_flatMap.1 hc
    exact inline_written d c hmem
  . simp [Inline]

theorem inline_toDigits (n : Nat) : Inline (Nat.toDigits 10 n) := by
  apply inline_of_ascii
  intro c hc
  have hdigit := Nat.isDigit_of_mem_toDigits (by omega) (by omega) hc
  simp [Char.isDigit_iff_toNat] at hdigit
  omega

mutual

theorem Value.inline_pieces (value : Value) : Inline value.pieces.flatten := by
  match value with
  | .null => simp [Value.pieces, Inline]
  | .bool true => simp [Value.pieces, Inline]
  | .bool false => simp [Value.pieces, Inline]
  | .number n =>
    rw [Value.pieces, List.flatten_singleton]
    apply inline_toDigits
  | .string s => exact inline_stringPieces s
  | .array items =>
    rw [Value.pieces, List.cons_append, List.flatten_cons, List.flatten_append, inline_append,
      inline_append]
    exact ⟨by simp [Inline], items.inline_pieces, by simp [Inline]⟩
  | .object members =>
    rw [Value.pieces, List.cons_append, List.flatten_cons, List.flatten_append, inline_append,
      inline_append]
    exact ⟨by simp [Inline], members.inline_pieces, by simp [Inline]⟩

theorem Items.inline_pieces (items : Items) : Inline items.pieces.flatten := by
  match items with
  | .nil => simp [Items.pieces, Inline]
  | .cons item .nil => exact item.inline_pieces
  | .cons item (.cons next others) =>
    rw [Items.pieces, List.flatten_append, List.flatten_cons, inline_append, inline_append]
    . exact ⟨item.inline_pieces, by simp [Inline], (Items.cons next others).inline_pieces⟩
    . simp

theorem Members.inline_pieces (members : Members) : Inline members.pieces.flatten := by
  match members with
  | .nil => simp [Members.pieces, Inline]
  | .cons key value .nil =>
    rw [Members.pieces, List.flatten_append, List.flatten_cons, inline_append, inline_append]
    exact ⟨inline_stringPieces key, by simp [Inline], value.inline_pieces⟩
  | .cons key value (.cons next other others) =>
    rw [Members.pieces, List.flatten_append, List.flatten_append, List.flatten_cons,
      List.flatten_cons, inline_append, inline_append, inline_append, inline_append]
    . exact ⟨⟨inline_stringPieces key, by simp [Inline], value.inline_pieces⟩, by simp [Inline],
        (Members.cons next other others).inline_pieces⟩
    . simp

end

end RequestTracing.Json
