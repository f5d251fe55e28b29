import RequestTracing.Text.Hex

/-!
This module contains strings as they are written in JSON: the escapes that the format asks for, and
those of the two line separators, which make the result safe to embed in a script. Text is given out
in pieces, so that a writer that stops early has taken a part of it.
-/

namespace RequestTracing.Json

def unitEscape (n : Nat) : List Char :=
  ['\\', 'u'] ++ Hex.fixed 4 n

def standardEscape? (c : Char) : Option (List Char) :=
  match c with
  | '"' => some ['\\', '"']
  | '\\' => some ['\\', '\\']
  | '\n' => some ['\\', 'n']
  | '\r' => some ['\\', 'r']
  | '\t' => some ['\\', 't']
  | _ =>
    if c.toNat = 8 then
      some ['\\', 'b']
    else if c.toNat = 12 then
      some ['\\', 'f']
    else if c.toNat < 32 then
      some (unitEscape c.toNat)
    else
      none

def separatorEscape? (c : Char) : Option (List Char) :=
  if c.toNat = 0x2028 ∨ c.toNat = 0x2029 then some (unitEscape c.toNat) else none

/--
Writes a fragment without characters that the format escapes. `run` holds the characters that were
read and not written yet.
-/
def fragmentPieces (run : List Char) : List Char → List (List Char)
  | [] => [run]
  | c :: rest =>
    match separatorEscape? c with
    | some escape => run :: escape :: fragmentPieces [] rest
    | none => fragmentPieces (run ++ [c]) rest

/--
Writes the characters of a string. `run` holds the fragment read and not written yet.
-/
def bodyPieces (run : List Char) : List Char → List (List Char)
  | [] => fragmentPieces [] run
  | c :: rest =>
    match standardEscape? c with
    | some escape => fragmentPieces [] run ++ escape :: bodyPieces [] rest
    | none => bodyPieces (run ++ [c]) rest

def stringPieces (s : String) : List (List Char) :=
  ['"'] :: bodyPieces [] s.toList ++ [['"']]

end RequestTracing.Json
