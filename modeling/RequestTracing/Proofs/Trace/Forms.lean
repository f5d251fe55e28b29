import Mathlib
import RequestTracing.Proofs.Text.Numeral
import RequestTracing.Proofs.Trace.Identifier

/-!
This module contains the forms of identifiers: as displayed, as the shortest numeral, as bytes and
in two halves. Main statement: each form gives back the identifier, and what reads as an identifier
are the numerals that are not too long, which differ from its displayed form in leading zeros only.
-/

namespace RequestTracing

theorem length_bigEndianBytes (count n : Nat) : (bigEndianBytes count n).length = count := by
  induction count generalizing n with
  | zero => rfl
  | succ count ih => simp [bigEndianBytes, ih]

theorem ofBigEndianBytes_bigEndianBytes (count n : Nat) :
    ofBigEndianBytes (bigEndianBytes count n) = n % 256 ^ count := by
  induction count generalizing n with
  | zero =>
    rw [pow_zero, Nat.mod_one]
    rfl
  | succ count ih =>
    have hmod := Nat.mod_mul (x := n) (a := 256) (b := 256 ^ count)
    unfold ofBigEndianBytes at ih ⊢
    rw [bigEndianBytes, List.foldl_append, ih, pow_succ', hmod]
    simp
    omega

/--
Holds for identifiers that are read from numerals of up to `most` digits, and from their own forms:
the displayed one and the shortest one.
-/
structure HexForms {ι : Type} (most : Nat) (read? : List Char → Option ι) (toNat : ι → Nat)
    (toText : ι → String) (shortDigits : ι → List Char) : Prop where
  read?_toText (id : ι) : read? (toText id).toList = some id
  shortDigits_eq (id : ι) : shortDigits id = Nat.toDigits 16 (toNat id)
  read?_shortDigits (id : ι) : read? (shortDigits id) = some id
  accepts_iff (text : String) : (∃ id, read? text.toList = some id) ↔
    1 ≤ text.length ∧ text.length ≤ most ∧ ∀ c ∈ text.toList, c ∈ Hex.alphabet
  toNat_eq {text : String} {id : ι} (h : read? text.toList = some id) :
    toNat id = Hex.placeValue text.toList
  padded_or_padded {text : String} {id : ι} (h : read? text.toList = some id) :
    Hex.Padded text (toText id) ∨ Hex.Padded (toText id) text

theorem hexForms {ι : Type} {most : Nat} {read? : List Char → Option ι} {toNat : ι → Nat}
    {toText : ι → String} {shortDigits : ι → List Char} (hpos : 0 < most)
    (hread : ∀ {cs id}, read? cs = some id ↔ cs ≠ [] ∧ cs.length ≤ most ∧ Hex.Shows cs (toNat id))
    (hlt : ∀ id, toNat id < 16 ^ most) (hexists : ∀ n < 16 ^ most, ∃ id, toNat id = n)
    (hshort : ∀ id, shortDigits id = Hex.shortest most (toNat id))
    (hdisplayed : ∀ id, read? (toText id).toList = some id) :
    HexForms most read? toNat toText shortDigits where
  read?_toText := hdisplayed
  shortDigits_eq id := by rw [hshort, Hex.shortest_eq_toDigits hpos (hlt id)]
  read?_shortDigits id := by
    rw [hshort, Hex.shortest_eq_toDigits hpos (hlt id), hread]
    refine ⟨Nat.toDigits_ne_nil, ?_, Hex.shows_toDigits _⟩
    rw [Nat.length_toDigits_le_iff (by omega) hpos]
    exact hlt id
  -- from right to left: the digits have a value, and every value below the bound is that of an
  -- identifier
  accepts_iff text := by
    rw [← String.length_toList, Nat.one_le_iff_ne_zero, Ne, List.length_eq_zero_iff]
    constructor
    . intro ⟨id, hid⟩
      obtain ⟨hne, hle, hshows⟩ := hread.1 hid
      exact ⟨hne, hle, fun c hc => hshows.mem_alphabet hc⟩
    . intro ⟨hne, hle, hdigits⟩
      have hshows : Hex.Shows text.toList (Hex.value text.toList) := by
        apply Hex.shows_value
        rw [List.all_eq_true]
        intro c hc
        exact Hex.isDigit_iff_mem_alphabet.2 (hdigits c hc)
      have hbound := hshows.1.trans_le (Nat.pow_le_pow_right (by omega) hle)
      obtain ⟨id, hid⟩ := hexists _ hbound
      refine ⟨id, hread.2 ⟨hne, hle, ?_⟩⟩
      rwa [hid]
  toNat_eq h := by rw [(hread.1 h).2.2.placeValue_eq]
  padded_or_padded {text id} h :=
    (hread.1 h).2.2.padded_or_padded (hread.1 (hdisplayed id)).2.2

namespace TraceId

theorem hexForms_traceId : HexForms 32 ofHex? toNat toText shortDigits := by
  apply hexForms (by omega) ofHex?_eq_some_iff
  . intro id
    exact id.bits.isLt
  . intro n hn
    exact ⟨ofNat n, (ofNat_eq_iff hn).1 rfl⟩
  . intro id
    rfl
  . intro id
    unfold toText
    rw [String.toList_ofList, ofHex?_digits]

theorem length_toText (id : TraceId) : id.toText.length = if id.high = 0 then 16 else 32 := by
  unfold toText digits
  rw [String.length_ofList]
  split
  . rw [Hex.length_fixed]
  . rw [Hex.length_fixed]

theorem ofBytes_toBytes (id : TraceId) : ofBytes id.toBytes = id := by
  have hlt : id.toNat < 256 ^ 16 := id.bits.isLt
  unfold ofBytes toBytes
  rw [ofBigEndianBytes_bigEndianBytes, Nat.mod_eq_of_lt hlt, ofNat_eq_iff hlt]

theorem ofParts_high_low (id : TraceId) : ofParts id.high id.low = id := by
  unfold ofParts high low
  rw [BitVec.extractLsb'_append_extractLsb'_eq_extractLsb' (by decide), BitVec.extractLsb'_eq_self]

end TraceId

namespace SpanId

theorem hexForms_spanId : HexForms 16 ofHex? toNat toText shortDigits := by
  apply hexForms (by omega) ofHex?_eq_some_iff
  . intro id
    exact id.bits.isLt
  . intro n hn
    exact ⟨ofNat n, (ofNat_eq_iff hn).1 rfl⟩
  . intro id
    rfl
  . intro id
    unfold toText
    rw [String.toList_ofList, ofHex?_digits]

theorem length_toText (id : SpanId) : id.toText.length = 16 := by
  unfold toText
  rw [String.length_ofList, length_digits]

theorem ofBytes_toBytes (id : SpanId) : ofBytes id.toBytes = id := by
  have hlt : id.toNat < 256 ^ 8 := id.bits.isLt
  unfold ofBytes toBytes
  rw [ofBigEndianBytes_bigEndianBytes, Nat.mod_eq_of_lt hlt, ofNat_eq_iff hlt]

end SpanId

/--
Every form of an identifier gives it back, and a text reads as an identifier exactly when it is a
numeral of at most 32 digits for a trace and 16 for a span. Displaying what was read adds leading
zeros or takes them away.
-/
theorem identifiers_read_back :
    HexForms 32 TraceId.ofHex? TraceId.toNat TraceId.toText TraceId.shortDigits ∧
    (∀ id : TraceId, id.toText.length = (if id.high = 0 then 16 else 32) ∧
      id.toBytes.length = 16 ∧ TraceId.ofBytes id.toBytes = id ∧
      TraceId.ofParts id.high id.low = id) ∧
    HexForms 16 SpanId.ofHex? SpanId.toNat SpanId.toText SpanId.shortDigits ∧
    ∀ id : SpanId, id.toText.length = 16 ∧ id.toBytes.length = 8 ∧ SpanId.ofBytes id.toBytes = id := by
  refine ⟨TraceId.hexForms_traceId, ?_, SpanId.hexForms_spanId, ?_⟩
  . intro id
    exact ⟨id.length_toText, length_bigEndianBytes 16 _, id.ofBytes_toBytes, id.ofParts_high_low⟩
  . intro id
    exact ⟨id.length_toText, length_bigEndianBytes 8 _, id.ofBytes_toBytes⟩

theorem identifiers_read_back_stripped :
    let text := "000000000000000000002a"
    let id : TraceId := ⟨42⟩
    TraceId.ofHex? text.toList = some id ∧ id.toText = "000000000000002a" ∧
      Hex.placeValue text.toList = 42 ∧ (Hex.Padded text id.toText ∨ Hex.Padded id.toText text) := by
  intro text id
  have hread : TraceId.ofHex? text.toList = some id := by decide +kernel
  have hforms := identifiers_read_back.1
  refine ⟨hread, ?_, (hforms.toNat_eq hread).symm, hforms.padded_or_padded hread⟩
  decide +kernel

end RequestTracing
