import RequestTracing.Recorder.Search
import RequestTracing.Sampling.Draws
import RequestTracing.Text.Description
import RequestTracing.Trace.Identifier

/-!
This module contains the sources of new identifiers. A source may give out the identifier that
stands for nothing, which whoever asks for one then passes over; it has to give a usable one in the
end. Main statement: what is taken from a source is usable.
-/

namespace RequestTracing

/--
Gives out identifiers. Which one comes next depends on the numbers of trace IDs and span IDs that
were given out before.
-/
structure IdSource where
  traceIdAt : Nat → Nat → TraceId
  spanIdAt : Nat → Nat → SpanId
  traceId_eventually : ∀ traces spans, ∃ k, (traceIdAt (traces + k) spans != .invalid) = true
  spanId_eventually : ∀ traces spans, ∃ k, (spanIdAt traces (spans + k) != .invalid) = true
  traces : Nat
  spans : Nat

namespace IdSource

def takeTraceId (source : IdSource) : TraceId × IdSource :=
  let place := Search.first (fun n => source.traceIdAt n source.spans != .invalid) source.traces
    (source.traceId_eventually source.traces source.spans)
  (source.traceIdAt place source.spans, { source with traces := place + 1 })

def takeSpanId (source : IdSource) : SpanId × IdSource :=
  let place := Search.first (fun n => source.spanIdAt source.traces n != .invalid) source.spans
    (source.spanId_eventually source.traces source.spans)
  (source.spanIdAt source.traces place, { source with spans := place + 1 })

theorem takeTraceId_of_usable {source : IdSource}
    (h : (source.traceIdAt source.traces source.spans != .invalid) = true) :
    source.takeTraceId =
      (source.traceIdAt source.traces source.spans,
        { source with traces := source.traces + 1 }) := by
  unfold takeTraceId
  dsimp only
  rw [Search.first_of_accepted h]

theorem takeSpanId_of_usable {source : IdSource}
    (h : (source.spanIdAt source.traces source.spans != .invalid) = true) :
    source.takeSpanId =
      (source.spanIdAt source.traces source.spans, { source with spans := source.spans + 1 }) := by
  unfold takeSpanId
  dsimp only
  rw [Search.first_of_accepted h]

theorem takeTraceId_ne_invalid (source : IdSource) : source.takeTraceId.1 ≠ .invalid := by
  have h := Search.first_accepted
    (fun n => source.traceIdAt n source.spans != .invalid) source.traces
    (source.traceId_eventually source.traces source.spans)
  exact bne_iff_ne.1 h

theorem takeSpanId_ne_invalid (source : IdSource) : source.takeSpanId.1 ≠ .invalid := by
  have h := Search.first_accepted
    (fun n => source.spanIdAt source.traces n != .invalid) source.spans
    (source.spanId_eventually source.traces source.spans)
  exact bne_iff_ne.1 h

def counted (first steps : Nat) : Nat :=
  (first + steps) % UInt64.size

/--
The identifier in a list at a place, or what a counter shows when the lists are used up.
-/
def listedAt (own : List Nat) (place first steps : Nat) : Nat :=
  own.getD place (counted first steps)

/--
The number of steps that a counter took after lists of the given lengths were used up.
-/
def counterSteps (traceCount spanCount traces spans : Nat) : Nat :=
  (traces - traceCount) + (spans - spanCount)

theorem exists_counted_ne_zero (first : Nat) (f : Nat → Nat) (hf : ∀ k, f (k + 1) = f k + 1) :
    ∃ k, k ≤ 1 ∧ counted first (f k) ≠ 0 := by
  by_cases h : counted first (f 0) = 0
  . refine ⟨1, Nat.le_refl 1, ?_⟩
    have h1 := hf 0
    unfold counted UInt64.size at *
    simp only [Nat.zero_add] at h1
    rw [h1]
    omega
  . exact ⟨0, Nat.zero_le 1, h⟩

theorem ofNat_traceId_ne {n : Nat} (h : n % (UInt64.size * UInt64.size) ≠ 0) :
    (TraceId.ofNat n != .invalid) = true := by
  simp only [bne_iff_ne, ne_eq, TraceId.ofNat, TraceId.invalid, TraceId.mk.injEq]
  intro e
  have := congrArg BitVec.toNat e
  simp only [BitVec.toNat_ofNat] at this
  exact h (by simpa [UInt64.size] using this)

theorem ofNat_spanId_ne {n : Nat} (h : n % UInt64.size ≠ 0) :
    (SpanId.ofNat n != .invalid) = true := by
  simp only [bne_iff_ne, ne_eq, SpanId.ofNat, SpanId.invalid, SpanId.mk.injEq]
  intro e
  have := congrArg BitVec.toNat e
  simp only [BitVec.toNat_ofNat] at this
  exact h (by simpa [UInt64.size] using this)

theorem listed_traceId_eventually (traceIds : List Nat) (first spanCount traces spans : Nat) :
    ∃ k, (TraceId.ofNat (listedAt traceIds (traces + k) first
      (counterSteps traceIds.length spanCount (traces + k) spans)) != .invalid) = true := by
  obtain ⟨k, -, hk⟩ := exists_counted_ne_zero first
    (fun k => counterSteps traceIds.length spanCount (traces + (traceIds.length + k)) spans)
    (fun k => by simp only [counterSteps]; omega)
  refine ⟨traceIds.length + k, ofNat_traceId_ne ?_⟩
  rw [listedAt, List.getD_eq_getElem?_getD, List.getElem?_eq_none (by omega), Option.getD_none]
  unfold counted UInt64.size at *
  omega

theorem listed_spanId_eventually (spanIds : List Nat) (first traceCount traces spans : Nat) :
    ∃ k, (SpanId.ofNat (listedAt spanIds (spans + k) first
      (counterSteps traceCount spanIds.length traces (spans + k))) != .invalid) = true := by
  obtain ⟨k, -, hk⟩ := exists_counted_ne_zero first
    (fun k => counterSteps traceCount spanIds.length traces (spans + (spanIds.length + k)))
    (fun k => by simp only [counterSteps]; omega)
  refine ⟨spanIds.length + k, ofNat_spanId_ne ?_⟩
  rw [listedAt, List.getD_eq_getElem?_getD, List.getElem?_eq_none (by omega), Option.getD_none]
  unfold counted UInt64.size at *
  omega

/--
Gives out the listed identifiers in order. What is asked for when its list is used up comes from a
counter that both kinds share.
-/
def listed (traceIds spanIds : List Nat) (first : Nat) : IdSource where
  traceIdAt traces spans :=
    TraceId.ofNat (listedAt traceIds traces first
      (counterSteps traceIds.length spanIds.length traces spans))
  spanIdAt traces spans :=
    SpanId.ofNat (listedAt spanIds spans first
      (counterSteps traceIds.length spanIds.length traces spans))
  traceId_eventually traces spans :=
    listed_traceId_eventually traceIds first spanIds.length traces spans
  spanId_eventually traces spans :=
    listed_spanId_eventually spanIds first traceIds.length traces spans
  traces := 0
  spans := 0

def counting : IdSource :=
  listed [] [] 1

def nonzero (word : UInt64) : Nat :=
  if word.toNat = 0 then 1 else word.toNat

theorem nonzero_mod (word : UInt64) : nonzero word % UInt64.size ≠ 0 := by
  have h := word.toNat_lt
  unfold nonzero UInt64.size
  split <;> omega

def random (wide : Bool) (draws : Draws) : IdSource where
  traceIdAt traces spans :=
    let place := draws.used + 2 * traces + spans
    let high := if wide then (draws.word (place + 1)).toNat else 0
    TraceId.ofNat (high * UInt64.size + nonzero (draws.word place))
  spanIdAt traces spans := SpanId.ofNat (nonzero (draws.word (draws.used + 2 * traces + spans)))
  traceId_eventually traces spans := by
    refine ⟨0, ofNat_traceId_ne ?_⟩
    have := nonzero_mod (draws.word (draws.used + 2 * (traces + 0) + spans))
    generalize nonzero (draws.word (draws.used + 2 * (traces + 0) + spans)) = low at *
    generalize (if wide = true then (draws.word (draws.used + 2 * (traces + 0) + spans + 1)).toNat
      else 0) = high
    unfold UInt64.size at *
    omega
  spanId_eventually _ _ := ⟨0, ofNat_spanId_ne (nonzero_mod _)⟩
  traces := 0
  spans := 0

def takeTraceIds (source : IdSource) : Nat → List TraceId
  | 0 => []
  | count + 1 =>
    let (id, source) := source.takeTraceId
    id :: source.takeTraceIds count

def describe (source : IdSource) : String :=
  Description.tagged "IncrementIdGenerator" [toString (1 + source.traces + source.spans)]

end IdSource

end RequestTracing
