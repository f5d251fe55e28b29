import Mathlib
import RequestTracing.Proofs.Text.Hex

/-!
This module contains hexadecimal numerals without leading zeros and the value of a numeral by the
place of its digits. Main statements: the shortest numeral of a number is its digits in base 16, and
numerals of one number differ in leading zeros only.
-/

namespace RequestTracing.Hex

theorem eq_zero_of_head?_toDigits {b n : Nat} (hone : 1 < b) (hsixteen : b ≤ 16)
    (h : (Nat.toDigits b n).head? = some '0') : n = 0 := by
  induction n using Nat.strongRecOn with
  | ind n ih =>
    by_cases hlt : n < b
    . rw [Nat.toDigits_of_lt_base hlt] at h
      have hchar : ∀ n < 16, [n.digitChar].head? = some '0' → n = 0 := by decide
      exact hchar n (by omega) h
    . have hdiv : n / b < n := Nat.div_lt_self (by omega) hone
      rw [Nat.toDigits_of_base_le hone (by omega),
        List.head?_append_of_ne_nil _ Nat.toDigits_ne_nil] at h
      have hzero := ih (n / b) hdiv h
      rw [Nat.div_eq_zero_iff] at hzero
      omega

theorem digit_eq_digitChar (n : Nat) : digit n = Nat.digitChar (n % 16) := by
  have hdigit : ∀ d < 16, digit d = Nat.digitChar d := by decide
  rw [← hdigit _ (Nat.mod_lt n (by decide))]
  unfold digit
  rw [Nat.mod_mod]

theorem shows_toDigits (n : Nat) : Shows (Nat.toDigits 16 n) n := by
  induction n using Nat.strongRecOn with
  | ind n ih =>
    by_cases hlt : n < 16
    . rw [Nat.toDigits_of_lt_base hlt]
      refine ⟨hlt, ?_⟩
      rw [List.length_singleton, fixed, fixed, List.nil_append, digit_eq_digitChar,
        Nat.mod_eq_of_lt hlt]
    . obtain ⟨hbound, hfixed⟩ := ih (n / 16) (by omega)
      rw [Nat.toDigits_of_base_le (by omega) (by omega)]
      unfold Shows
      rw [List.length_append, List.length_singleton]
      constructor
      . rw [pow_succ]
        omega
      . rw [fixed, hfixed, digit_eq_digitChar]

theorem shortest_eq_toDigits {width n : Nat} (hpos : 0 < width) (h : n < 16 ^ width) :
    shortest width n = Nat.toDigits 16 n := by
  have hlength : (Nat.toDigits 16 n).length ≤ width := by
    rwa [Nat.length_toDigits_le_iff (by omega) hpos]
  unfold shortest
  rw [(shows_toDigits n).fixed_eq hlength, List.dropWhile_append_of_pos (by simp)]
  cases hdigits : Nat.toDigits 16 n with
  | nil => exact absurd hdigits Nat.toDigits_ne_nil
  | cons c rest =>
    by_cases hc : c = '0'
    . have hzero : n = 0 := by
        apply eq_zero_of_head?_toDigits (b := 16) (by omega) (by omega)
        rw [hdigits, hc, List.head?_cons]
      rw [hzero, Nat.toDigits_zero] at hdigits
      rw [← hdigits]
      rfl
    . rw [List.dropWhile_cons_of_neg (by simpa using hc)]

def Padded (text longer : String) : Prop :=
  ∃ count, longer.toList = List.replicate count '0' ++ text.toList

theorem Shows.padded {a b : String} {n : Nat} (ha : Shows a.toList n) (hb : Shows b.toList n)
    (h : a.toList.length ≤ b.toList.length) : Padded a b := by
  refine ⟨b.toList.length - a.toList.length, ?_⟩
  rw [← ha.fixed_eq h, hb.2]

theorem Shows.padded_or_padded {a b : String} {n : Nat} (ha : Shows a.toList n)
    (hb : Shows b.toList n) : Padded a b ∨ Padded b a := by
  cases Nat.le_total a.toList.length b.toList.length with
  | inl h => exact .inl (ha.padded hb h)
  | inr h => exact .inr (hb.padded ha h)

def alphabet : List Char :=
  ['0', '1', '2', '3', '4', '5', '6', '7', '8', '9', 'a', 'b', 'c', 'd', 'e', 'f']

def placeValue (digits : List Char) : Nat :=
  Nat.ofDigits 16 (digits.map alphabet.idxOf).reverse

theorem digitValue?_eq_some_idxOf {c : Char} (h : c ∈ alphabet) :
    digitValue? c = some (alphabet.idxOf c) := by
  have hall : alphabet.all fun c => digitValue? c = some (alphabet.idxOf c) := by decide
  exact of_decide_eq_true (List.all_eq_true.1 hall c h)

theorem isDigit_iff_mem_alphabet {c : Char} : isDigit c ↔ c ∈ alphabet := by
  constructor
  . intro h
    obtain ⟨n, hn⟩ := Option.isSome_iff_exists.1 h
    have hall : ∀ n < 16, digit n ∈ alphabet := by decide
    rw [← digit_of_digitValue? hn]
    exact hall n (lt_of_digitValue? hn)
  . intro h
    unfold isDigit
    rw [digitValue?_eq_some_idxOf h]
    rfl

theorem value_eq_placeValue {cs : List Char} (h : ∀ c ∈ cs, c ∈ alphabet) :
    value cs = placeValue cs := by
  induction cs using List.reverseRecOn with
  | nil => rfl
  | append_singleton cs c ih =>
    have hc := h c (by simp)
    have hcs : ∀ c ∈ cs, c ∈ alphabet := fun c hc => h c (List.mem_append_left _ hc)
    unfold placeValue at ih ⊢
    rw [value_append_singleton, digitValue?_eq_some_idxOf hc, ih hcs, Option.getD_some,
      List.map_append, List.reverse_append, List.map_singleton, List.reverse_singleton,
      List.singleton_append, Nat.ofDigits_cons, Nat.add_comm]

theorem Shows.mem_alphabet {cs : List Char} {n : Nat} (h : Shows cs n) {c : Char} (hc : c ∈ cs) :
    c ∈ alphabet :=
  isDigit_iff_mem_alphabet.1 (h.isDigit_of_mem hc)

theorem Shows.placeValue_eq {cs : List Char} {n : Nat} (h : Shows cs n) : placeValue cs = n := by
  rw [← value_eq_placeValue fun c hc => h.mem_alphabet hc, h.value_eq]

end RequestTracing.Hex
