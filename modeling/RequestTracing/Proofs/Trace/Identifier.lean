import Mathlib
import RequestTracing.Proofs.Text.Hex
import RequestTracing.Trace.Identifier

/-!
This module contains the displayed form of identifiers: it consists of digits, has one of the
lengths that every reader accepts, and reads back as the identifier. It also contains which texts
are read as an identifier at all.
-/

namespace RequestTracing

namespace SpanId

theorem length_digits (id : SpanId) : id.digits.length = 16 :=
  Hex.length_fixed 16 _

theorem isDigit_of_mem_digits {id : SpanId} {c : Char} (h : c ∈ id.digits) : Hex.isDigit c :=
  Hex.isDigit_of_mem_fixed h

theorem ofNat_eq_iff {n : Nat} (h : n < 2 ^ 64) {id : SpanId} : ofNat n = id ↔ id.toNat = n := by
  unfold ofNat toNat
  constructor
  . intro heq
    rw [← heq, BitVec.toNat_ofNat, Nat.mod_eq_of_lt h]
  . intro heq
    rw [← heq, BitVec.ofNat_toNat, BitVec.setWidth_eq]

theorem ofHex?_eq_some_iff {cs : List Char} {id : SpanId} :
    ofHex? cs = some id ↔ cs ≠ [] ∧ cs.length ≤ 16 ∧ Hex.Shows cs id.toNat :=
  Hex.map_read?_eq_some_iff (fun hlt => ofNat_eq_iff hlt) fun id => id.bits.isLt

theorem ofHex?_digits (id : SpanId) : ofHex? id.digits = some id := by
  have hlt : id.toNat < 16 ^ 16 := id.bits.isLt
  rw [ofHex?_eq_some_iff]
  exact ⟨Hex.fixed_ne_nil (by decide) _, id.length_digits.le, Hex.shows_fixed hlt⟩

theorem digits_eq_zeros_iff (id : SpanId) : id.digits = List.replicate 16 '0' ↔ id = invalid := by
  have hlt : id.toNat < 16 ^ 16 := id.bits.isLt
  unfold digits
  rw [Hex.fixed_eq_zeros_iff hlt, ← ofNat_eq_iff (by decide), eq_comm]
  rfl

end SpanId

namespace TraceId

theorem toNat_lt_of_high {id : TraceId} (h : id.high = 0) : id.bits.toNat < 2 ^ 64 := by
  have hlt := id.bits.isLt
  have hhigh := congrArg BitVec.toNat h
  unfold high at hhigh
  rw [BitVec.extractLsb'_toNat, Nat.shiftRight_eq_div_pow] at hhigh
  simp at hhigh
  omega

theorem high_eq_zero_iff {id : TraceId} : id.high = 0 ↔ id.toNat < 16 ^ 16 := by
  constructor
  . exact toNat_lt_of_high
  . intro h
    apply BitVec.eq_of_toNat_eq
    unfold high
    rw [BitVec.extractLsb'_toNat, Nat.shiftRight_eq_div_pow]
    have hdiv : id.bits.toNat / 2 ^ 64 = 0 := Nat.div_eq_of_lt h
    rw [hdiv]
    rfl

theorem digits_eq (id : TraceId) :
    id.digits = if id.toNat < 16 ^ 16 then Hex.fixed 16 id.toNat else Hex.fixed 32 id.toNat := by
  unfold digits
  rw [if_congr high_eq_zero_iff rfl rfl]
  split
  . next h =>
    have hlow : id.low.toNat = id.toNat := by
      unfold low
      rw [BitVec.extractLsb'_toNat, Nat.shiftRight_zero]
      exact Nat.mod_eq_of_lt h
    rw [hlow]
  . rfl

theorem length_digits (id : TraceId) : id.digits.length = 16 ∨ id.digits.length = 32 := by
  unfold digits
  split
  . exact .inl (Hex.length_fixed 16 _)
  . exact .inr (Hex.length_fixed 32 _)

theorem isDigit_of_mem_digits {id : TraceId} {c : Char} (h : c ∈ id.digits) : Hex.isDigit c := by
  unfold digits at h
  split at h
  . exact Hex.isDigit_of_mem_fixed h
  . exact Hex.isDigit_of_mem_fixed h

theorem ofNat_eq_iff {n : Nat} (h : n < 2 ^ 128) {id : TraceId} : ofNat n = id ↔ id.toNat = n := by
  unfold ofNat toNat
  constructor
  . intro heq
    rw [← heq, BitVec.toNat_ofNat, Nat.mod_eq_of_lt h]
  . intro heq
    rw [← heq, BitVec.ofNat_toNat, BitVec.setWidth_eq]

theorem ofHex?_eq_some_iff {cs : List Char} {id : TraceId} :
    ofHex? cs = some id ↔ cs ≠ [] ∧ cs.length ≤ 32 ∧ Hex.Shows cs id.toNat :=
  Hex.map_read?_eq_some_iff (fun hlt => ofNat_eq_iff hlt) fun id => id.bits.isLt

theorem ofHex?_digits (id : TraceId) : ofHex? id.digits = some id := by
  rw [ofHex?_eq_some_iff, digits_eq]
  split
  . next h =>
    have hle : (Hex.fixed 16 id.toNat).length ≤ 32 := by
      rw [Hex.length_fixed]
      decide
    exact ⟨Hex.fixed_ne_nil (by decide) _, hle, Hex.shows_fixed h⟩
  . have hlt : id.toNat < 16 ^ 32 := id.bits.isLt
    exact ⟨Hex.fixed_ne_nil (by decide) _, (Hex.length_fixed ..).le, Hex.shows_fixed hlt⟩

end TraceId

end RequestTracing
