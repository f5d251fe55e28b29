import RequestTracing.Json.Text

/-!
This module contains JSON documents, in which objects keep the order of their members, and their
compact text.
-/

namespace RequestTracing.Json

mutual

inductive Value where
  | null
  | bool (value : Bool)
  | number (value : Nat)
  | string (value : String)
  | array (items : Items)
  | object (members : Members)
  deriving DecidableEq

inductive Items where
  | nil
  | cons (item : Value) (rest : Items)
  deriving DecidableEq

inductive Members where
  | nil
  | cons (key : String) (value : Value) (rest : Members)
  deriving DecidableEq

end

namespace Items

def ofList : List Value → Items
  | [] => nil
  | item :: rest => cons item (ofList rest)

def toList : Items → List Value
  | nil => []
  | cons item rest => item :: rest.toList

end Items

namespace Members

def ofList : List (String × Value) → Members
  | [] => nil
  | (key, value) :: rest => cons key value (ofList rest)

def toList : Members → List (String × Value)
  | nil => []
  | cons key value rest => (key, value) :: rest.toList

end Members

mutual

def Value.pieces : Value → List (List Char)
  | .null => [['n', 'u', 'l', 'l']]
  | .bool true => [['t', 'r', 'u', 'e']]
  | .bool false => [['f', 'a', 'l', 's', 'e']]
  | .number n => [Nat.toDigits 10 n]
  | .string s => stringPieces s
  | .array items => ['['] :: items.pieces ++ [[']']]
  | .object members => ['\x7b'] :: members.pieces ++ [['\x7d']]

def Items.pieces : Items → List (List Char)
  | .nil => []
  | .cons item .nil => item.pieces
  | .cons item rest => item.pieces ++ [','] :: rest.pieces

def Members.pieces : Members → List (List Char)
  | .nil => []
  | .cons key value .nil => stringPieces key ++ [':'] :: value.pieces
  | .cons key value rest => stringPieces key ++ [':'] :: value.pieces ++ [','] :: rest.pieces

end

def Value.chars (value : Value) : List Char :=
  value.pieces.flatten

def Value.toText (value : Value) : String :=
  String.ofList value.chars

end RequestTracing.Json
