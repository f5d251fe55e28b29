/-!
This module contains lower-case hexadecimal numerals: writing at a fixed width or without leading
zeros, and reading.
-/

namespace RequestTracing.Hex

def digit (n : Nat) : Char :=
  if n % 16 < 10 then Char.ofNat (48 + n % 16) else Char.ofNat (87 + n % 16)

def digitValue? (c : Char) : Option Nat :=
  if 48 ≤ c.toNat ∧ c.toNat ≤ 57 then
    some (c.toNat - 48)
  else if 97 ≤ c.toNat ∧ c.toNat ≤ 102 then
    some (c.toNat - 87)
  else
    none

def isDigit (c : Char) : Bool :=
  (digitValue? c).isSome

def fixed : Nat → Nat → List Char
  | 0, _ => []
  | width + 1, n => fixed width (n / 16) ++ [digit n]

def shortest (width n : Nat) : List Char :=
  match (fixed width n).dropWhile (· == '0') with
  | [] => ['0']
  | digits => digits

def value (digits : List Char) : Nat :=
  digits.foldl (fun n c => 16 * n + (digitValue? c).getD 0) 0

def read? (most : Nat) (cs : List Char) : Option Nat :=
  if cs ≠ [] ∧ cs.length ≤ most ∧ cs.all isDigit then some (value cs) else none

theorem digitValue?_digit (n : Nat) : digitValue? (digit n) = some (n % 16) := by
  have h : n % 16 < 16 := Nat.mod_lt _ (by decide)
  unfold digit
  generalize n % 16 = d at h
  have : d = 0 ∨ d = 1 ∨ d = 2 ∨ d = 3 ∨ d = 4 ∨ d = 5 ∨ d = 6 ∨ d = 7 ∨ d = 8 ∨ d = 9 ∨ d = 10
      ∨ d = 11 ∨ d = 12 ∨ d = 13 ∨ d = 14 ∨ d = 15 := by omega
  rcases this with h | h | h | h | h | h | h | h | h | h | h | h | h | h | h | h <;> subst h <;>
    decide

@[simp]
theorem length_fixed (width n : Nat) : (fixed width n).length = width := by
  induction width generalizing n with
  | zero => rfl
  | succ width ih => simp [fixed, ih]

end RequestTracing.Hex
