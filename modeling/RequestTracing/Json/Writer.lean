/-!
This module contains writers of limited capacity and the writing of text in pieces, which stops at
the first piece that does not fit. Main statement: what is left in the writer is as much of the text
as there was room for.
-/

namespace RequestTracing

def utf8Bytes (cs : List Char) : List UInt8 :=
  cs.flatMap String.utf8EncodeChar

structure LimitedWriter where
  taken : List UInt8
  room : Nat
  deriving DecidableEq

namespace LimitedWriter

def ofLimit (limit : Nat) : LimitedWriter :=
  ⟨[], limit⟩

def take (writer : LimitedWriter) (bytes : List UInt8) : LimitedWriter :=
  ⟨writer.taken ++ bytes.take writer.room, writer.room - bytes.length⟩

/--
Writes pieces in order. The result holds when all of them fitted; nothing is written after a piece
that did not.
-/
def writeAll (writer : LimitedWriter) : List (List Char) → Bool × LimitedWriter
  | [] => (true, writer)
  | piece :: rest =>
    let bytes := utf8Bytes piece
    if bytes.length ≤ writer.room then
      (writer.take bytes).writeAll rest
    else
      (false, writer.take bytes)

theorem utf8Bytes_append (a b : List Char) : utf8Bytes (a ++ b) = utf8Bytes a ++ utf8Bytes b := by
  simp [utf8Bytes]

theorem taken_writeAll (writer : LimitedWriter) (pieces : List (List Char)) :
    (writer.writeAll pieces).2.taken =
      writer.taken ++ (utf8Bytes pieces.flatten).take writer.room := by
  induction pieces generalizing writer with
  | nil => simp [writeAll, utf8Bytes]
  | cons piece rest ih =>
    simp only [writeAll]
    split
    . next h =>
      rw [ih, List.flatten_cons, utf8Bytes_append]
      simp [take, List.take_append, List.take_of_length_le h, List.append_assoc]
    . next h =>
      rw [List.flatten_cons, utf8Bytes_append]
      have : writer.room - (utf8Bytes piece).length = 0 := by omega
      simp [take, List.take_append, this]

end LimitedWriter

end RequestTracing
