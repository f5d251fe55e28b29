import Mathlib
import RequestTracing.Proofs.Propagation.SingleHeader

/-!
This module contains the form in which the single B3 header is written. Main statement: what is
written for a context that was read is what was read, without the white space around it, an upper
half of zeros in the trace ID and a parent of zeros; reading it gives the same context again.
-/

namespace RequestTracing.B3

variable {β : Type}

def zeros : List Char :=
  List.replicate 16 '0'

def shorten (digits : List Char) : List Char :=
  if digits.length = 32 ∧ digits.take 16 = zeros then digits.drop 16 else digits

/--
The parts of the single header as they are written, given those that were read: the trace ID is
shortened, and of what follows the span ID a parent of zeros is left out.
-/
def canonicalParts : List (List Char) → List (List Char)
  | trace :: span :: rest => shorten trace :: span :: rest.filter (· ≠ zeros)
  | parts => parts

def canonical (value : List Char) : List Char :=
  Text.join '-' (canonicalParts (Text.splitAt '-' value))

theorem TraceDigits.digits_eq {digits : List Char} {id : TraceId} (h : TraceDigits digits id) :
    id.digits = shorten digits := by
  obtain ⟨hlength, hlt, hfixed⟩ := h
  rw [TraceId.digits_eq]
  unfold shorten
  cases hlength with
  | inl hshort =>
    rw [hshort] at hlt hfixed
    rw [if_pos hlt, if_neg (by omega), hfixed]
  | inr hlong =>
    rw [hlong] at hlt hfixed
    rw [← hfixed]
    have hhalves := Hex.fixed_add 16 16 id.toNat
    have hupper : id.toNat / 16 ^ 16 < 16 ^ 16 := by omega
    have htake : (Hex.fixed 32 id.toNat).take 16 = Hex.fixed 16 (id.toNat / 16 ^ 16) := by
      rw [hhalves, List.take_left' (Hex.length_fixed ..)]
    have hdrop : (Hex.fixed 32 id.toNat).drop 16 = Hex.fixed 16 id.toNat := by
      rw [hhalves, List.drop_left' (Hex.length_fixed ..)]
    rw [hdrop]
    apply if_congr _ rfl rfl
    unfold zeros
    rw [Hex.length_fixed, htake, Hex.fixed_eq_zeros_iff hupper]
    omega

theorem SpanDigits.digits_eq {digits : List Char} {id : SpanId} (h : SpanDigits digits id) :
    id.digits = digits := by
  obtain ⟨hlength, _, hfixed⟩ := h
  rw [hlength] at hfixed
  exact hfixed

theorem SpanDigits.eq_zeros_iff {digits : List Char} {id : SpanId} (h : SpanDigits digits id) :
    digits = zeros ↔ id = .invalid := by
  rw [← h.digits_eq]
  exact id.digits_eq_zeros_iff

theorem SpanDigits.toList_present {digits : List Char} {id : SpanId} (h : SpanDigits digits id) :
    ((SpanId.present (some id)).map SpanId.digits).toList = [digits].filter (· ≠ zeros) := by
  unfold SpanId.present
  rw [Option.filter_some]
  by_cases hid : id = .invalid
  . have hzeros := h.eq_zeros_iff.2 hid
    rw [if_neg (by simpa using hid), List.filter_cons_of_neg (by simpa using hzeros)]
    rfl
  . have hzeros := mt h.eq_zeros_iff.1 hid
    rw [if_pos (by simpa using hid), List.filter_cons_of_pos (by simpa using hzeros), Option.map_some,
      h.digits_eq]
    rfl

theorem StateLetter.ne_zeros {letter : Char} {flags : SamplingFlags} (h : StateLetter letter flags) :
    [letter] ≠ zeros := by
  cases h <;> decide

theorem StateLetter.written {letter : Char} {context : TraceContext β}
    (h : StateLetter letter context.flags) :
    samplingState context = some letter ∧ wireFlags context = context.flags := by
  unfold samplingState wireFlags TraceContext.debug TraceContext.sampled
  generalize context.flags = flags at h
  cases h <;> exact ⟨rfl, rfl⟩

theorem written_of_empty {context : TraceContext β} (h : context.flags = .empty) :
    samplingState context = none ∧ wireFlags context = context.flags := by
  unfold samplingState wireFlags TraceContext.debug TraceContext.sampled
  rw [h]
  exact ⟨rfl, rfl⟩

theorem HeaderRest.written {rest : List (List Char)} (context : TraceContext β)
    (h : HeaderRest rest context.flags context.parentId) :
    ((samplingState context).map fun state => [state]).toList ++
        (context.parentId.map SpanId.digits).toList = rest.filter (· ≠ zeros) ∧
      wireFlags context = context.flags ∧ context.parentId ≠ some .invalid := by
  generalize hflags : context.flags = flags, hparent : context.parentId = parent at h
  -- each of the four forms is written as it was read, but for a parent of zeros
  cases h with
  | none =>
    obtain ⟨hstate, hwire⟩ := written_of_empty hflags
    rw [hstate, hwire]
    exact ⟨rfl, hflags, by simp⟩
  | state hletter =>
    have hzeros := hletter.ne_zeros
    rw [← hflags] at hletter
    obtain ⟨hstate, hwire⟩ := hletter.written
    rw [hstate, hwire, List.filter_cons_of_pos (by simpa using hzeros)]
    exact ⟨rfl, hflags, by simp⟩
  | parent hid =>
    obtain ⟨hstate, hwire⟩ := written_of_empty hflags
    rw [hstate, hwire, hid.toList_present]
    exact ⟨rfl, hflags, SpanId.present_ne _⟩
  | both hletter hid =>
    have hzeros := hletter.ne_zeros
    rw [← hflags] at hletter
    obtain ⟨hstate, hwire⟩ := hletter.written
    rw [hstate, hwire, List.filter_cons_of_pos (by simpa using hzeros), hid.toList_present]
    exact ⟨rfl, hflags, SpanId.present_ne _⟩

theorem HeaderParts.written {parts : List (List Char)} {context : TraceContext β}
    (h : HeaderParts parts context) :
    singleParts context true = canonicalParts parts ∧ context.Valid ∧
      received context true = context := by
  cases h with
  | @mk trace span rest traceId spanId parentId flags htrace htraceId hspan hspanId hrest =>
    obtain ⟨hparts, hwire, hparent⟩ :=
      HeaderRest.written ⟨traceId, spanId, parentId, none, flags, false, ([] : List (Extra β))⟩ hrest
    refine ⟨?_, ⟨htraceId, hspanId, hparent⟩, ?_⟩
    . unfold singleParts canonicalParts
      dsimp only at hparts ⊢
      rw [htrace.digits_eq, hspan.digits_eq, if_pos rfl, List.append_assoc, hparts]
      rfl
    . unfold received
      rw [hwire]
      rfl

theorem headerParts_of_parseSingle? {value : List Char} {read : Extraction (TraceContext β) β}
    {context : TraceContext β} (h : parseSingle? value = some read)
    (hcontext : read.context? = some context) :
    HeaderParts (Text.splitAt '-' (Text.trimBlank value)) context ∧ read = .ofContext context := by
  unfold parseSingle? at h
  split at h
  . obtain ⟨flags, _, hread⟩ := Option.map_eq_some_iff.1 h
    rw [← hread] at hcontext
    cases hcontext
  . obtain ⟨parsed, hparsed, hread⟩ := Option.map_eq_some_iff.1 h
    rw [← hread] at hcontext
    have hsame : parsed = context := Option.some.inj hcontext
    rw [← hread, ← hsame]
    exact ⟨parseParts?_eq_some_iff.1 hparsed, rfl⟩

/--
What is written for a context that was read from a value is the canonical form of the value without
the white space around it, digit for digit. Reading it gives the same result as before.
-/
theorem writeSingle_eq_canonical {value : String} {read : Extraction (TraceContext β) β}
    {context : TraceContext β} (accepted : parseSingle? value.toList = some read)
    (hcontext : read.context? = some context) :
    writeSingle context true = String.ofList (canonical (Text.trim value).toList) ∧
    parseSingle? (writeSingle context true).toList = some read := by
  obtain ⟨hparts, hread⟩ := headerParts_of_parseSingle? accepted hcontext
  obtain ⟨hwritten, hvalid, hreceived⟩ := hparts.written
  constructor
  . unfold writeSingle canonical Text.trim
    rw [hwritten, String.toList_ofList]
  . rw [parseSingle?_writeSingle hvalid, hreceived, hread]

theorem writeSingle_eq_canonical_padded :
    let value := " 0000000000000000000000000000000a-00000000000000b0-d-0000000000000000"
    let context : TraceContext Nat :=
      { traceId := ⟨10⟩, spanId := ⟨176⟩, parentId := none, localRootId := none, flags := .forced,
        shared := false, extra := [] }
    let read : Extraction (TraceContext Nat) Nat := .ofContext context
    parseSingle? value.toList = some read ∧
      writeSingle context true = "000000000000000a-00000000000000b0-d" ∧
      parseSingle? (writeSingle context true).toList = some read := by
  intro value context read
  have accepted : parseSingle? value.toList = some read := by decide +kernel
  obtain ⟨hwritten, hread⟩ := writeSingle_eq_canonical accepted rfl
  refine ⟨accepted, ?_, hread⟩
  rw [hwritten]
  decide +kernel

end RequestTracing.B3
