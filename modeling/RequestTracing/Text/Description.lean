import RequestTracing.Text.Hex
import RequestTracing.Text.Property

/-!
This module contains the layout of descriptions, the texts that show a value to a developer: text in
double quotes, with escapes for quotes, backslashes, line breaks and everything that has no visible
form of its own, records with named fields, tagged tuples, lists, maps and optional values.
-/

namespace RequestTracing.Text

def codePointEscape (c : Char) : List Char :=
  ['\\', 'u', '\x7b'] ++ Hex.shortest 6 c.toNat ++ ['\x7d']

def quotedChar (c : Char) : List Char :=
  match c with
  | '"' => ['\\', '"']
  | '\\' => ['\\', '\\']
  | '\n' => ['\\', 'n']
  | '\r' => ['\\', 'r']
  | '\t' => ['\\', 't']
  | _ =>
    if c.toNat = 0 then
      ['\\', '0']
    else if isExtendingMark c || !isPrintable c then
      codePointEscape c
    else
      [c]

def quoted (s : String) : String :=
  String.ofList ('"' :: s.toList.flatMap quotedChar ++ ['"'])

end RequestTracing.Text

namespace RequestTracing.Description

def commaSeparated (parts : List String) : String :=
  String.intercalate ", " parts

def list (items : List String) : String :=
  "[" ++ commaSeparated items ++ "]"

def map (entries : List (String × String)) : String :=
  "\x7b" ++ commaSeparated (entries.map fun (key, value) => key ++ ": " ++ value) ++ "\x7d"

def tagged (name : String) (values : List String) : String :=
  name ++ "(" ++ commaSeparated values ++ ")"

def pair (first second : String) : String :=
  "(" ++ first ++ ", " ++ second ++ ")"

def record (name : String) (fields : List (String × String)) : String :=
  name ++ " \x7b " ++ commaSeparated (fields.map fun (key, value) => key ++ ": " ++ value) ++
    " \x7d"

def openRecord (name : String) (fields : List (String × String)) : String :=
  name ++ " \x7b " ++ commaSeparated (fields.map fun (key, value) => key ++ ": " ++ value) ++
    ", .. \x7d"

def option : Option String → String
  | none => "None"
  | some value => tagged "Some" [value]

def bool : Bool → String
  | true => "true"
  | false => "false"

end RequestTracing.Description
