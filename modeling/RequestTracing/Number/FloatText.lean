import RequestTracing.Number.Shortest

/-!
This module contains the two texts of a floating point number, both with the fewest digits that read
back: the plain one of messages, which never has an exponent, and the one of descriptions, which
marks whole numbers with `.0` and has an exponent for very small and very large numbers.
-/

namespace RequestTracing.Number

/--
How the finite numbers are laid out: whether whole numbers end in `.0`, and the powers of ten
between which digits are written out in place.
-/
structure FloatLayout where
  marksWhole : Bool
  isPositional : Int → Bool

def plainLayout : FloatLayout :=
  ⟨false, fun _ => true⟩

/--
The layout of descriptions: numbers from `10 ^ -4` to below `10 ^ 16` are written out in place.
-/
def describedLayout : FloatLayout :=
  ⟨true, fun e => -4 ≤ e && e < 16⟩

def zeros (n : Nat) : String :=
  String.ofList (List.replicate n '0')

def positional (layout : FloatLayout) (digits : List Char) (power : Int) : String :=
  match power with
  | .negSucc below => "0." ++ zeros below ++ String.ofList digits
  | .ofNat above =>
    let whole := String.ofList (digits.take (above + 1)) ++ zeros (above + 1 - digits.length)
    match digits.drop (above + 1) with
    | [] => if layout.marksWhole then whole ++ ".0" else whole
    | fraction => whole ++ "." ++ String.ofList fraction

def scientific (digits : List Char) (power : Int) : String :=
  let mantissa :=
    match digits with
    | [] => "0"
    | [d] => String.ofList [d]
    | d :: rest => String.ofList [d] ++ "." ++ String.ofList rest
  mantissa ++ "e" ++ toString power

def decimalText (layout : FloatLayout) (d : Decimal) : String :=
  let digits := Nat.toDigits 10 d.digits
  let power := d.exponent + digits.length - 1
  if layout.isPositional power then positional layout digits power else scientific digits power

def bitsText (layout : FloatLayout) (bits : Nat) : String :=
  let negative := bits / (2048 * Binary.hidden) % 2 = 1
  let sign := if negative then "-" else ""
  match Binary.ofBits? bits with
  | some b => sign ++ decimalText layout b.shortest
  | none =>
    if bits / Binary.hidden % 2048 = 2047 then
      if bits % Binary.hidden = 0 then sign ++ "inf" else "NaN"
    else
      sign ++ if layout.marksWhole then "0.0" else "0"

def plain (x : Float) : String :=
  bitsText plainLayout x.toBits.toNat

def described (x : Float) : String :=
  bitsText describedLayout x.toBits.toNat

end RequestTracing.Number
