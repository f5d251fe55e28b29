import RequestTracing.Text.Split
import RequestTracing.Text.Hex

/-!
This module contains internet addresses: the two families, their readers and their texts. A reader
takes characters from the front and gives back the rest.
-/

namespace RequestTracing

/--
An address of version 4 as four bytes, or of version 6 as eight groups of sixteen bits.
-/
inductive Address where
  | v4 (a b c d : BitVec 8)
  | v6 (groups : Vector (BitVec 16) 8)
  deriving DecidableEq

namespace Address

def take? (expected : Char) : List Char → Option (List Char)
  | c :: rest => if c = expected then some rest else none
  | [] => none

def byte? (cs : List Char) : Option (BitVec 8 × List Char) :=
  let digits := cs.takeWhile Char.isDigit
  let n := digits.foldl (fun n c => 10 * n + (c.toNat - '0'.toNat)) 0
  if digits = [] ∨ 3 < digits.length ∨ (digits.head? = some '0' ∧ digits ≠ ['0']) ∨ 255 < n then
    none
  else
    some (BitVec.ofNat 8 n, cs.dropWhile Char.isDigit)

def bytes? (cs : List Char) : Option ((BitVec 8 × BitVec 8 × BitVec 8 × BitVec 8) × List Char) := do
  let (a, cs) ← byte? cs
  let (b, cs) ← byte? (← take? '.' cs)
  let (c, cs) ← byte? (← take? '.' cs)
  let (d, cs) ← byte? (← take? '.' cs)
  return ((a, b, c, d), cs)

def isGroupDigit (c : Char) : Bool :=
  Hex.isDigit c.toLower

def group? (cs : List Char) : Option (BitVec 16 × List Char) :=
  let digits := cs.takeWhile isGroupDigit
  if digits = [] ∨ 4 < digits.length then
    none
  else
    some (BitVec.ofNat 16 (Hex.value (digits.map Char.toLower)), cs.dropWhile isGroupDigit)

def separator? (first : Bool) (cs : List Char) : Option (List Char) :=
  if first then some cs else take? ':' cs

/--
The result of reading a run of groups: the groups, whether the last two of them were written as an
address of version 4, and the rest.
-/
structure GroupRun where
  groups : List (BitVec 16)
  endsInBytes : Bool
  rest : List Char

/--
Reads as many groups with colons between them as there are, at most `room`. Where two or more groups
still fit, an address of version 4 may stand for two of them and ends the run.
-/
def groups (first : Bool) : Nat → List Char → GroupRun
  | 0, cs => ⟨[], false, cs⟩
  | room + 1, cs =>
    let embedded :=
      if 1 ≤ room then (separator? first cs).bind bytes? else none
    match embedded with
    | some ((a, b, c, d), rest) => ⟨[a ++ b, c ++ d], true, rest⟩
    | none =>
      match (separator? first cs).bind group? with
      | none => ⟨[], false, cs⟩
      | some (group, rest) =>
        let run := groups false room rest
        { run with groups := group :: run.groups }

def ofGroups (gs : List (BitVec 16)) : Address :=
  .v6 (Vector.ofFn fun i => gs.getD i 0)

/--
Reads an address of version 6: eight groups, or fewer with `::` for the missing ones.
-/
def sixth? (cs : List Char) : Option (Address × List Char) :=
  let head := groups true 8 cs
  if head.groups.length = 8 then
    some (ofGroups head.groups, head.rest)
  else if head.endsInBytes then
    none
  else do
    let cs ← take? ':' (← take? ':' head.rest)
    let tail := groups true (7 - head.groups.length) cs
    let missing := 8 - head.groups.length - tail.groups.length
    return (ofGroups (head.groups ++ List.replicate missing 0 ++ tail.groups), tail.rest)

def read? (cs : List Char) : Option Address :=
  match bytes? cs with
  | some ((a, b, c, d), rest) => if rest = [] then some (.v4 a b c d) else none
  | none =>
    match sixth? cs with
    | some (address, []) => some address
    | _ => none

def unmapped : Address → Address
  | .v4 a b c d => .v4 a b c d
  | .v6 g =>
    if g[0] = 0 ∧ g[1] = 0 ∧ g[2] = 0 ∧ g[3] = 0 ∧ g[4] = 0 ∧ g[5] = 0xffff then
      .v4 (g[6].extractLsb' 8 8) (g[6].extractLsb' 0 8) (g[7].extractLsb' 8 8)
        (g[7].extractLsb' 0 8)
    else
      .v6 g

def parse? (s : String) : Option Address :=
  (read? (Text.trimBlank s.toList)).map unmapped

def bytesText (a b c d : BitVec 8) : String :=
  toString a.toNat ++ "." ++ toString b.toNat ++ "." ++ toString c.toNat ++ "." ++ toString d.toNat

def groupText (group : BitVec 16) : String :=
  String.ofList (Hex.shortest 4 group.toNat)

def groupsText (gs : List (BitVec 16)) : String :=
  String.intercalate ":" (gs.map groupText)

def zeroRun (gs : List (BitVec 16)) : Nat :=
  (gs.takeWhile (· = 0)).length

def longestZeroRun (gs : List (BitVec 16)) : Nat × Nat :=
  (List.range gs.length).foldl
    (fun (start, length) i =>
      let here := zeroRun (gs.drop i)
      if length < here then (i, here) else (start, length))
    (0, 0)

/--
The text of an address. In version 6 the longest run of two or more zero groups is left out.
-/
def toText : Address → String
  | .v4 a b c d => bytesText a b c d
  | .v6 g =>
    match unmapped (.v6 g) with
    | .v4 a b c d => "::ffff:" ++ bytesText a b c d
    | .v6 g =>
      let (start, length) := longestZeroRun g.toList
      if 1 < length then
        groupsText (g.toList.take start) ++ "::" ++ groupsText (g.toList.drop (start + length))
      else
        groupsText g.toList

end Address

end RequestTracing
