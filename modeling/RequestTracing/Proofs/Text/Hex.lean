import Mathlib
import RequestTracing.Text.Split
import RequestTracing.Text.Hex

/-!
This module contains the reading of hexadecimal numerals: one of fixed width gives the number that
was written as far as the width holds it, and what is read at all are the digits of a number. It
also contains what a digit cannot be.
-/

namespace RequestTracing.Hex

theorem value_append_singleton (digits : List Char) (c : Char) :
    value (digits ++ [c]) = 16 * value digits + (digitValue? c).getD 0 := by
  simp [value, List.foldl_append]

theorem value_fixed (width n : Nat) : value (fixed width n) = n % 16 ^ width := by
  induction width generalizing n with
  | zero => rw [pow_zero, Nat.mod_one]; rfl
  | succ width ih =>
    have h := Nat.mod_mul (x := n) (a := 16) (b := 16 ^ width)
    simp only [fixed, value_append_singleton, ih, digitValue?_digit, Option.getD_some, pow_succ']
    omega

theorem isDigit_iff {c : Char} :
    isDigit c ↔ (48 ≤ c.toNat ∧ c.toNat ≤ 57) ∨ (97 ≤ c.toNat ∧ c.toNat ≤ 102) := by
  unfold isDigit digitValue?
  split
  . next h => simp [h]
  . next h =>
    split
    . next h' => simp [h']
    . next h' => simp [h, h']

theorem isDigit_digit (n : Nat) : isDigit (digit n) := by
  unfold isDigit
  rw [digitValue?_digit]
  rfl

theorem isDigit_of_mem_fixed {width n : Nat} {c : Char} (h : c ∈ fixed width n) : isDigit c := by
  induction width generalizing n with
  | zero => simp [fixed] at h
  | succ width ih =>
    rw [fixed, List.mem_append, List.mem_singleton] at h
    cases h with
    | inl hmem => exact ih hmem
    | inr heq =>
      rw [heq]
      exact isDigit_digit n

theorem fixed_ne_nil {width : Nat} (h : 0 < width) (n : Nat) : fixed width n ≠ [] := by
  apply List.ne_nil_of_length_pos
  rw [length_fixed]
  exact h

theorem fixed_add (width below n : Nat) :
    fixed (width + below) n = fixed width (n / 16 ^ below) ++ fixed below n := by
  induction below generalizing n with
  | zero => simp [fixed]
  | succ below ih =>
    rw [← Nat.add_assoc, fixed, ih, fixed, Nat.div_div_eq_div_mul, ← pow_succ',
      List.append_assoc]

theorem fixed_zero (width : Nat) : fixed width 0 = List.replicate width '0' := by
  induction width with
  | zero => rfl
  | succ width ih =>
    rw [fixed, Nat.zero_div, ih, List.replicate_succ']
    rfl

theorem fixed_eq_zeros_iff {width n : Nat} (h : n < 16 ^ width) :
    fixed width n = List.replicate width '0' ↔ n = 0 := by
  rw [← fixed_zero]
  constructor
  . intro heq
    have hvalue := congrArg value heq
    rwa [value_fixed, value_fixed, Nat.mod_eq_of_lt h, Nat.zero_mod] at hvalue
  . intro hzero
    rw [hzero]

theorem read?_fixed {width most : Nat} (hpos : 0 < width) (hle : width ≤ most) (n : Nat) :
    read? most (fixed width n) = some (n % 16 ^ width) := by
  have hdigits : (fixed width n).all isDigit := by
    rw [List.all_eq_true]
    intro c hc
    exact isDigit_of_mem_fixed hc
  unfold read?
  rw [if_pos ⟨fixed_ne_nil hpos n, by rwa [length_fixed], hdigits⟩, value_fixed]

theorem ne_of_isDigit {c other : Char} (h : isDigit c) (hother : isDigit other = false) :
    c ≠ other := by
  intro heq
  rw [heq, hother] at h
  exact Bool.false_ne_true h

theorem isBlank_of_isDigit {c : Char} (h : isDigit c) : Text.isBlank c = false := by
  have := isDigit_iff.1 h
  unfold Text.isBlank
  simp only [Bool.or_eq_false_iff, Bool.and_eq_false_iff, decide_eq_false_iff_not,
    beq_eq_false_iff_ne]
  omega

theorem digit_of_digitValue? {c : Char} {n : Nat} (h : digitValue? c = some n) : digit n = c := by
  unfold digitValue? at h
  unfold digit
  split at h
  . next hrange =>
    have heq := Option.some.inj h
    rw [if_pos (by omega), ← heq, Nat.mod_eq_of_lt (by omega), Nat.add_sub_cancel' hrange.1]
    exact Char.ofNat_toNat c
  . split at h
    . next hrange =>
      have heq := Option.some.inj h
      rw [if_neg (by omega), ← heq, Nat.mod_eq_of_lt (by omega), Nat.add_sub_cancel' (by omega)]
      exact Char.ofNat_toNat c
    . simp at h

theorem lt_of_digitValue? {c : Char} {n : Nat} (h : digitValue? c = some n) : n < 16 := by
  have := digitValue?_digit n
  rw [digit_of_digitValue? h, h, Option.some.injEq] at this
  rw [this]
  exact Nat.mod_lt n (by decide)

def Shows (digits : List Char) (n : Nat) : Prop :=
  n < 16 ^ digits.length ∧ fixed digits.length n = digits

theorem Shows.isDigit_of_mem {digits : List Char} {n : Nat} (h : Shows digits n) {c : Char}
    (hc : c ∈ digits) : isDigit c := by
  rw [← h.2] at hc
  exact isDigit_of_mem_fixed hc

theorem shows_value {digits : List Char} (h : digits.all isDigit) : Shows digits (value digits) := by
  induction digits using List.reverseRecOn with
  | nil => exact ⟨Nat.one_pos, rfl⟩
  | append_singleton digits c ih =>
    rw [List.all_append, Bool.and_eq_true] at h
    obtain ⟨hlt, hfixed⟩ := ih h.1
    obtain ⟨d, hd⟩ := Option.isSome_iff_exists.1 (by simpa using h.2 : isDigit c)
    have hd16 := lt_of_digitValue? hd
    unfold Shows
    rw [value_append_singleton, hd, Option.getD_some, List.length_append, List.length_singleton]
    constructor
    . rw [pow_succ]
      omega
    . have hdigit : digit (16 * value digits + d) = digit d := by
        unfold digit
        rw [Nat.mul_add_mod]
      rw [fixed, hdigit, digit_of_digitValue? hd, Nat.mul_add_div (by decide),
        Nat.div_eq_of_lt hd16, Nat.add_zero, hfixed]

theorem Shows.fixed_eq {digits : List Char} {n width : Nat} (h : Shows digits n)
    (hle : digits.length ≤ width) :
    fixed width n = List.replicate (width - digits.length) '0' ++ digits := by
  obtain ⟨hlt, hfixed⟩ := h
  have hsplit := fixed_add (width - digits.length) digits.length n
  rw [Nat.sub_add_cancel hle, Nat.div_eq_of_lt hlt, fixed_zero, hfixed] at hsplit
  exact hsplit

theorem Shows.any_ne_zero_iff {digits : List Char} {n : Nat} (h : Shows digits n) :
    digits.any (· ≠ '0') ↔ n ≠ 0 := by
  have hzeros := fixed_eq_zeros_iff h.1
  rw [h.2, List.eq_replicate_iff] at hzeros
  rw [Ne, ← hzeros]
  simp

theorem Shows.value_eq {digits : List Char} {n : Nat} (h : Shows digits n) : value digits = n := by
  rw [← h.2, value_fixed, Nat.mod_eq_of_lt h.1]

theorem read?_eq_some_iff {most n : Nat} {cs : List Char} :
    read? most cs = some n ↔ cs ≠ [] ∧ cs.length ≤ most ∧ Shows cs n := by
  unfold read?
  constructor
  . intro h
    split at h
    . next hread =>
      refine ⟨hread.1, hread.2.1, ?_⟩
      rw [← Option.some.inj h]
      exact shows_value hread.2.2
    . simp at h
  . intro ⟨hne, hle, hshows⟩
    have hdigits : cs.all isDigit := List.all_eq_true.2 fun c hc => hshows.isDigit_of_mem hc
    rw [if_pos ⟨hne, hle, hdigits⟩, hshows.value_eq]

theorem shows_fixed {width n : Nat} (h : n < 16 ^ width) : Shows (fixed width n) n := by
  unfold Shows
  rw [length_fixed]
  exact ⟨h, rfl⟩

theorem map_read?_eq_some_iff {ι : Type} {most : Nat} {ofNat : Nat → ι} {toNat : ι → Nat}
    (hofNat : ∀ {n id}, n < 16 ^ most → (ofNat n = id ↔ toNat id = n))
    (hlt : ∀ id, toNat id < 16 ^ most) {cs : List Char} {id : ι} :
    (read? most cs).map ofNat = some id ↔
      cs ≠ [] ∧ cs.length ≤ most ∧ Shows cs (toNat id) := by
  rw [Option.map_eq_some_iff]
  constructor
  . intro ⟨n, hread, hid⟩
    obtain ⟨hne, hle, hshows⟩ := read?_eq_some_iff.1 hread
    have hn : n < 16 ^ most := hshows.1.trans_le (Nat.pow_le_pow_right (by decide) hle)
    rw [(hofNat hn).1 hid]
    exact ⟨hne, hle, hshows⟩
  . intro h
    exact ⟨toNat id, read?_eq_some_iff.2 h, (hofNat (hlt id)).2 rfl⟩

end RequestTracing.Hex
