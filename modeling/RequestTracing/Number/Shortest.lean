/-!
This module contains the shortest decimal of a binary floating point number: of the decimals that
lie in the interval of reals rounding to the number, one with the fewest digits, and of those the
nearest. All of it is exact arithmetic on natural numbers.
-/

namespace RequestTracing.Number

/--
A finite positive number `mantissa * 2 ^ exponent`, with the distance to its lower neighbour halved
when `mantissa` is the least of its binade.
-/
structure Binary where
  mantissa : Nat
  exponent : Int
  lowerIsClose : Bool

structure Decimal where
  digits : Nat
  exponent : Int

def Binary.hidden : Nat :=
  4503599627370496

/--
The number that the low 63 bits of a double encode, when it is finite and not zero.
-/
def Binary.ofBits? (bits : Nat) : Option Binary :=
  let fraction := bits % hidden
  let biased := bits / hidden % 2048
  if biased = 2047 then
    none
  else if biased = 0 then
    if fraction = 0 then none else some ⟨fraction, -1074, false⟩
  else
    some ⟨hidden + fraction, (biased : Int) - 1075, fraction = 0 && biased ≠ 1⟩

structure Ratio where
  num : Nat
  den : Nat

namespace Ratio

/--
The product of a natural number with a power of a base, for an exponent of either sign.
-/
def scaled (n base : Nat) (exponent : Int) : Ratio :=
  match exponent with
  | .ofNat e => ⟨n * Nat.pow base e, 1⟩
  | .negSucc e => ⟨n, Nat.pow base (e + 1)⟩

def le (a b : Ratio) : Bool :=
  a.num * b.den ≤ b.num * a.den

def lt (a b : Ratio) : Bool :=
  a.num * b.den < b.num * a.den

def distance (a b : Ratio) : Ratio :=
  let x := a.num * b.den
  let y := b.num * a.den
  ⟨if x ≤ y then y - x else x - y, a.den * b.den⟩

end Ratio

namespace Binary

/--
Four times the number, so that the ends of its interval are whole multiples of the power.
-/
def quarter (b : Binary) (m : Nat) : Ratio :=
  Ratio.scaled m 2 (b.exponent - 2)

def value (b : Binary) : Ratio :=
  b.quarter (4 * b.mantissa)

def lower (b : Binary) : Ratio :=
  b.quarter (4 * b.mantissa - if b.lowerIsClose then 1 else 2)

def upper (b : Binary) : Ratio :=
  b.quarter (4 * b.mantissa + 2)

/--
Holds for the reals that round to the number; the ends belong to it when the mantissa is even.
-/
def contains (b : Binary) (r : Ratio) : Bool :=
  if b.mantissa % 2 = 0 then
    b.lower.le r && r.le b.upper
  else
    b.lower.lt r && r.lt b.upper

/--
The exponent `e` with `10 ^ e ≤ b < 10 ^ (e + 1)`, found from an estimate that is at most one off.
-/
def decimalExponent (b : Binary) : Int :=
  let bitLength : Int := b.mantissa.log2 + b.exponent
  let estimate := bitLength * 30103 / 100000
  let atLeast (e : Int) : Bool := (Ratio.scaled 1 10 e).le b.value
  if atLeast (estimate + 1) then
    if atLeast (estimate + 2) then estimate + 2 else estimate + 1
  else if atLeast estimate then
    estimate
  else
    estimate - 1

/--
The decimals of the given number of digits next to the number that round to it, the nearer one
first. On a tie the greater one is first.
-/
def candidates (b : Binary) (digitCount : Nat) : List Decimal :=
  let e := b.decimalExponent - digitCount + 1
  let scaled :=
    match e with
    | .ofNat e => Ratio.mk b.value.num (b.value.den * Nat.pow 10 e)
    | .negSucc e => Ratio.mk (b.value.num * Nat.pow 10 (e + 1)) b.value.den
  let below := scaled.num / scaled.den
  let near (n : Nat) : Ratio := (Ratio.scaled n 10 e).distance b.value
  let both := if (near below).lt (near (below + 1)) then [below, below + 1] else [below + 1, below]
  (both.filter fun n => b.contains (Ratio.scaled n 10 e)).map fun n => ⟨n, e⟩

def trimmed : Nat → Decimal → Decimal
  | 0, d => d
  | fuel + 1, d =>
    if d.digits % 10 = 0 ∧ d.digits ≠ 0 then
      trimmed fuel ⟨d.digits / 10, d.exponent + 1⟩
    else
      d

def shortest (b : Binary) : Decimal :=
  match ((List.range 17).findSome? fun n => (b.candidates (n + 1)).head?) with
  | some d => trimmed 18 d
  | none => ⟨b.mantissa, 0⟩

end Binary

end RequestTracing.Number
