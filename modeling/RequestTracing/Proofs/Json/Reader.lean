import RequestTracing.Json.Value

/-!
This module contains a reader of JSON: the text is cut into tokens, and an automaton with a stack
puts the tokens together. Objects keep the order of their members, and members of one name are all
kept. Numbers are read when they are naturals, since no document has others.
-/

namespace RequestTracing.Json

inductive Token where
  | openBrace
  | closeBrace
  | openBracket
  | closeBracket
  | colon
  | comma
  | null
  | bool (value : Bool)
  | number (n : Nat)
  | string (s : String)
  deriving DecidableEq

namespace Reader

/--
A unit of the text between quotes: a character, or a code unit of UTF-16 that was escaped by number.
-/
inductive TextUnit where
  | char (c : Char)
  | code (n : Nat)
  deriving DecidableEq

def text? : List TextUnit → Option (List Char)
  | [] => some []
  | .char c :: rest => (text? rest).map (c :: ·)
  | .code n :: rest =>
    if n < 0xD800 ∨ 0xDFFF < n then
      (text? rest).map (Char.ofNat n :: ·)
    else
      match rest with
      | .code low :: rest =>
        if n < 0xDC00 ∧ 0xDC00 ≤ low ∧ low ≤ 0xDFFF then
          (text? rest).map (Char.ofNat (0x10000 + 0x400 * (n - 0xD800) + (low - 0xDC00)) :: ·)
        else
          none
      | _ => none

def hexValue? (c : Char) : Option Nat :=
  (Hex.digitValue? c).or (if 65 ≤ c.toNat ∧ c.toNat ≤ 70 then some (c.toNat - 55) else none)

def codeUnit? (a b c d : Char) : Option Nat := do
  return 4096 * (← hexValue? a) + 256 * (← hexValue? b) + 16 * (← hexValue? c) + (← hexValue? d)

def unescape? : Char → Option Char
  | '"' => some '"'
  | '\\' => some '\\'
  | '/' => some '/'
  | 'b' => some (Char.ofNat 8)
  | 'f' => some (Char.ofNat 12)
  | 'n' => some '\n'
  | 'r' => some '\r'
  | 't' => some '\t'
  | _ => none

def number? : List Char → Option Nat
  | [] => none
  | '0' :: _ :: _ => none
  | digits => some (Nat.ofDigitChars 10 digits 0)

def endNumber (digits : List Char) (tokens : List Token) : Option (List Token) :=
  if digits = [] then
    some tokens
  else
    (number? digits).map (.number · :: tokens)

def punctuation? : Char → Option Token
  | '\x7b' => some .openBrace
  | '\x7d' => some .closeBrace
  | '[' => some .openBracket
  | ']' => some .closeBracket
  | ':' => some .colon
  | ',' => some .comma
  | _ => none

def blanks : List Char :=
  [' ', '\t', '\n', '\r']

def withUnit (unit : TextUnit) (read : List TextUnit × List Token) : List TextUnit × List Token :=
  (unit :: read.1, read.2)

mutual

def lex (digits : List Char) : List Char → Option (List Token)
  | [] => endNumber digits []
  | '"' :: rest => (lexText rest).bind fun (units, tokens) => (text? units).bind fun text =>
    endNumber digits (.string (String.ofList text) :: tokens)
  | 'n' :: 'u' :: 'l' :: 'l' :: rest => (lex [] rest).bind fun tokens =>
    endNumber digits (.null :: tokens)
  | 't' :: 'r' :: 'u' :: 'e' :: rest => (lex [] rest).bind fun tokens =>
    endNumber digits (.bool true :: tokens)
  | 'f' :: 'a' :: 'l' :: 's' :: 'e' :: rest => (lex [] rest).bind fun tokens =>
    endNumber digits (.bool false :: tokens)
  | c :: rest =>
    if c.isDigit then
      lex (digits ++ [c]) rest
    else if c ∈ blanks then
      (lex [] rest).bind (endNumber digits)
    else
      (punctuation? c).bind fun token => (lex [] rest).bind fun tokens =>
        endNumber digits (token :: tokens)

def lexText : List Char → Option (List TextUnit × List Token)
  | [] => none
  | '"' :: rest => (lex [] rest).map fun tokens => ([], tokens)
  | '\\' :: 'u' :: a :: b :: c :: d :: rest =>
    (codeUnit? a b c d).bind fun n => (lexText rest).map (withUnit (.code n))
  | '\\' :: c :: rest => (unescape? c).bind fun c => (lexText rest).map (withUnit (.char c))
  | c :: rest =>
    if c.toNat < 32 ∨ c = '\\' then none else (lexText rest).map (withUnit (.char c))

end

inductive Frame where
  | array (before : List Value)
  | object (before : List (String × Value)) (key : String)
  deriving DecidableEq

mutual

def startValue (stack : List Frame) : List Token → Option Value
  | .null :: rest => endValue stack .null rest
  | .bool value :: rest => endValue stack (.bool value) rest
  | .number n :: rest => endValue stack (.number n) rest
  | .string s :: rest => endValue stack (.string s) rest
  | .openBracket :: .closeBracket :: rest => endValue stack (.array .nil) rest
  | .openBracket :: rest => startValue (.array [] :: stack) rest
  | .openBrace :: .closeBrace :: rest => endValue stack (.object .nil) rest
  | .openBrace :: .string key :: .colon :: rest => startValue (.object [] key :: stack) rest
  | _ => none

def endValue (stack : List Frame) (value : Value) : List Token → Option Value
  | [] => if stack = [] then some value else none
  | token :: rest =>
    match stack with
    | [] => none
    | .array before :: stack =>
      match token with
      | .comma => startValue (.array (before ++ [value]) :: stack) rest
      | .closeBracket => endValue stack (.array (.ofList (before ++ [value]))) rest
      | _ => none
    | .object before key :: stack =>
      match token, rest with
      | .comma, .string next :: .colon :: rest =>
        startValue (.object (before ++ [(key, value)]) next :: stack) rest
      | .closeBrace, rest => endValue stack (.object (.ofList (before ++ [(key, value)]))) rest
      | _, _ => none

end

end Reader

def read? (text : String) : Option Value :=
  (Reader.lex [] text.toList).bind (Reader.startValue [])

end RequestTracing.Json
