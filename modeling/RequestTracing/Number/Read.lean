/-!
This module contains the reading of numbers from configuration: whole numbers below a bound, and
floating point numbers in decimal notation, of which the nearest double is taken.
-/

namespace RequestTracing.Number

def decimalValue (digits : List Char) : Nat :=
  digits.foldl (fun n c => 10 * n + (c.toNat - '0'.toNat)) 0

/--
Reads one or more digits, with or without a plus sign, as a number below the bound.
-/
def readBelow? (bound : Nat) (s : String) : Option Nat :=
  let digits :=
    match s.toList with
    | '+' :: rest => rest
    | cs => cs
  if digits ≠ [] ∧ digits.all Char.isDigit ∧ decimalValue digits < bound then
    some (decimalValue digits)
  else
    none

/--
The double nearest to `digits * 10 ^ exponent`. Outside the range of doubles it is zero or infinite,
which is settled before a power of ten is formed.
-/
def nearest (digits : List Char) (exponent : Int) : Float :=
  let significant := digits.dropWhile (· == '0')
  let magnitude := exponent + significant.length
  if significant = [] ∨ magnitude < -400 then
    0
  else if 400 < magnitude then
    1 / 0
  else
    match exponent with
    | .ofNat e => OfScientific.ofScientific (decimalValue significant) false e
    | .negSucc e => OfScientific.ofScientific (decimalValue significant) true (e + 1)

/--
Reads an exponent: nothing, or a letter `e` of either case, a sign or none, and digits.
-/
def readExponent? : List Char → Option Int
  | [] => some 0
  | c :: rest =>
    if c = 'e' ∨ c = 'E' then
      let (negative, digits) :=
        match rest with
        | '-' :: digits => (true, digits)
        | '+' :: digits => (false, digits)
        | digits => (false, digits)
      if digits ≠ [] ∧ digits.all Char.isDigit then
        some (if negative then -(decimalValue digits : Int) else decimalValue digits)
      else
        none
    else
      none

/--
Reads an unsigned number: digits with a point anywhere among, before or after them or none, and an
exponent or none.
-/
def readUnsigned? (cs : List Char) : Option Float :=
  let whole := cs.takeWhile Char.isDigit
  let afterWhole := cs.dropWhile Char.isDigit
  let (fraction, afterFraction) :=
    match afterWhole with
    | '.' :: rest => (rest.takeWhile Char.isDigit, rest.dropWhile Char.isDigit)
    | rest => ([], rest)
  if whole = [] ∧ fraction = [] then
    none
  else
    (readExponent? afterFraction).map fun exponent =>
      nearest (whole ++ fraction) (exponent - fraction.length)

/--
Reads a floating point number: a sign or none, then a decimal number or, in letters of either case,
`inf`, `infinity` or `nan`.
-/
def readFloat? (s : String) : Option Float :=
  let (negative, magnitude) :=
    match s.toList with
    | '-' :: rest => (true, rest)
    | '+' :: rest => (false, rest)
    | cs => (false, cs)
  let word := String.ofList (magnitude.map Char.toLower)
  let unsigned :=
    if word = "inf" ∨ word = "infinity" then
      some (1 / 0)
    else if word = "nan" then
      some (0 / 0)
    else
      readUnsigned? magnitude
  unsigned.map fun x => if negative then -x else x

end RequestTracing.Number
