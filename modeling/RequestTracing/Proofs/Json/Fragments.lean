import Mathlib
import RequestTracing.Proofs.Json.Tokens
import RequestTracing.Proofs.Text.Utf8

/-!
This module contains the writing of fragments by offsets into their bytes. Main statements: the
parts that are cut out by offsets are the pieces in which a fragment is written, and no offset lies
within a character; whatever fragments a text is cut into, it is written with its separators escaped
and otherwise as it is.
-/

namespace RequestTracing.Json

inductive FragmentPart where
  | slice (start stop : Nat)
  | escape (text : List Char)
  deriving DecidableEq

namespace FragmentPart

def bytes (fragment : String) : FragmentPart → List UInt8
  | slice start stop => (fragment.toUTF8.data.toList.drop start).take (stop - start)
  | escape text => utf8Bytes text

def OnBoundaries (fragment : String) : FragmentPart → Prop
  | slice start stop =>
    start ≤ stop ∧ String.Pos.Raw.IsValid fragment ⟨start⟩ ∧ String.Pos.Raw.IsValid fragment ⟨stop⟩
  | escape _ => True

structure Gives (fragment : String) (part : FragmentPart) (piece : List Char) : Prop where
  onBoundaries : part.OnBoundaries fragment
  bytes_eq : part.bytes fragment = utf8Bytes piece

theorem Gives.escape {fragment : String} (text : List Char) :
    (FragmentPart.escape text).Gives fragment text :=
  ⟨trivial, rfl⟩

end FragmentPart

/--
The parts in which a fragment is written, found in one loop over its characters: `start` is the
offset of what was read and not written yet, and `offset` that of the next character.
-/
def fragmentParts (fragment : String) : List FragmentPart :=
  go 0 0 fragment.toList
where
  go (start offset : Nat) : List Char → List FragmentPart
    | [] => [.slice start fragment.utf8ByteSize]
    | c :: rest =>
      match separatorEscape? c with
      | some escape =>
        .slice start offset :: .escape escape ::
          go (offset + c.utf8Size) (offset + c.utf8Size) rest
      | none => go start (offset + c.utf8Size) rest

structure Stands (fragment : String) (before run rest : List Char) (start offset : Nat) : Prop where
  toList_eq : fragment.toList = before ++ run ++ rest
  start_eq : start = (utf8Bytes before).length
  offset_eq : offset = (utf8Bytes (before ++ run)).length

namespace Stands

variable {fragment : String} {before run rest : List Char} {start offset : Nat}

theorem gives_slice (h : Stands fragment before run rest start offset) :
    (FragmentPart.slice start offset).Gives fragment run := by
  have hoffset := h.offset_eq
  rw [LimitedWriter.utf8Bytes_append, List.length_append, ← h.start_eq] at hoffset
  constructor
  . refine ⟨?_, ?_, ?_⟩
    . omega
    . rw [h.start_eq]
      apply isValid_of_toList_eq
      rw [h.toList_eq, List.append_assoc]
    . rw [h.offset_eq]
      apply isValid_of_toList_eq
      rw [h.toList_eq]
  . unfold FragmentPart.bytes
    dsimp only
    rw [hoffset, Nat.add_sub_cancel_left, ← utf8Bytes_toList, h.toList_eq, h.start_eq,
      LimitedWriter.utf8Bytes_append, LimitedWriter.utf8Bytes_append, List.append_assoc,
      List.drop_left, List.take_left]

theorem read {c : Char} (h : Stands fragment before run (c :: rest) start offset) :
    Stands fragment before (run ++ [c]) rest start (offset + c.utf8Size) where
  toList_eq := by rw [h.toList_eq]; simp
  start_eq := h.start_eq
  offset_eq := by
    rw [h.offset_eq, ← List.append_assoc, LimitedWriter.utf8Bytes_append _ [c], List.length_append]
    simp [utf8Bytes]

theorem restart (h : Stands fragment before run rest start offset) :
    Stands fragment (before ++ run) [] rest offset offset where
  toList_eq := by rw [h.toList_eq, List.append_nil]
  start_eq := h.offset_eq
  offset_eq := by rw [h.offset_eq, List.append_nil]

theorem offset_eq_size (h : Stands fragment before run [] start offset) :
    offset = fragment.utf8ByteSize := by
  rw [h.offset_eq, ← length_utf8Bytes, h.toList_eq, List.append_nil]

theorem gives_go (h : Stands fragment before run rest start offset) :
    List.Forall₂ (FragmentPart.Gives fragment) (fragmentParts.go fragment start offset rest)
      (fragmentPieces run rest) := by
  induction rest generalizing before run start offset with
  | nil =>
    rw [fragmentParts.go, fragmentPieces, ← h.offset_eq_size]
    exact .cons h.gives_slice .nil
  | cons c rest ih =>
    rw [fragmentParts.go, fragmentPieces]
    cases separatorEscape? c with
    | some escape => exact .cons h.gives_slice (.cons (.escape escape) (ih h.read.restart))
    | none => exact ih h.read

end Stands

theorem gives_fragmentParts (fragment : String) :
    List.Forall₂ (FragmentPart.Gives fragment) (fragmentParts fragment)
      (fragmentPieces [] fragment.toList) := by
  have hstart : Stands fragment [] [] fragment.toList 0 0 := ⟨rfl, rfl, rfl⟩
  exact hstart.gives_go

-- Nothing is between two separators, and the slice there is empty.
example : fragmentParts "é\u2028\u2029" =
    [.slice 0 2, .escape "\\u2028".toList, .slice 5 5, .escape "\\u2029".toList, .slice 8 8] := by
  decide +kernel

def separatorEscaped : Char → List Char
  | '\u2028' => ['\\', 'u', '2', '0', '2', '8']
  | '\u2029' => ['\\', 'u', '2', '0', '2', '9']
  | c => [c]

theorem getD_separatorEscape? (c : Char) : (separatorEscape? c).getD [c] = separatorEscaped c := by
  unfold separatorEscaped
  split
  . rfl
  . rfl
  . next hline hparagraph =>
    have hne : ¬(c.toNat = 0x2028 ∨ c.toNat = 0x2029) := by
      rintro (h | h)
      . exact hline (Char.toNat_inj.1 h)
      . exact hparagraph (Char.toNat_inj.1 h)
    unfold separatorEscape?
    rw [if_neg hne, Option.getD_none]

theorem flatMap_fragmentPieces (fragments : List String) :
    (fragments.flatMap fun fragment => (fragmentPieces [] fragment.toList).flatMap utf8Bytes) =
      utf8Bytes ((String.join fragments).toList.flatMap separatorEscaped) := by
  induction fragments with
  | nil => rfl
  | cons fragment others ih =>
    rw [List.flatMap_cons, ih, String.join_cons, String.toList_append, List.flatMap_append,
      LimitedWriter.utf8Bytes_append, flatMap_utf8Bytes, flatten_fragmentPieces, List.nil_append]
    simp only [getD_separatorEscape?]

end RequestTracing.Json
