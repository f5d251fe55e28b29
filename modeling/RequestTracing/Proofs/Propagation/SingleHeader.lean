import Mathlib
import RequestTracing.Proofs.Propagation.B3

/-!
This module contains the grammar of the single B3 header, and the proof that reading it accepts this
grammar and nothing else.
-/

namespace RequestTracing

namespace B3

variable {β : Type}

inductive StateLetter : Char → SamplingFlags → Prop where
  | no : StateLetter '0' .sampledNo
  | yes : StateLetter '1' .sampledYes
  | debug : StateLetter 'd' .forced

def SpanDigits (cs : List Char) (id : SpanId) : Prop :=
  cs.length = 16 ∧ Hex.Shows cs id.toNat

def TraceDigits (cs : List Char) (id : TraceId) : Prop :=
  (cs.length = 16 ∨ cs.length = 32) ∧ Hex.Shows cs id.toNat

/--
What may follow the two identifiers: a sampling state, a parent, or both in this order. A parent of
zeros alone counts as none.
-/
inductive HeaderRest : List (List Char) → SamplingFlags → Option SpanId → Prop where
  | none : HeaderRest [] .empty none
  | state {letter flags} : StateLetter letter flags → HeaderRest [[letter]] flags none
  | parent {digits id} : SpanDigits digits id → HeaderRest [digits] .empty (SpanId.present (some id))
  | both {letter flags digits id} : StateLetter letter flags → SpanDigits digits id →
      HeaderRest [[letter], digits] flags (SpanId.present (some id))

/--
The parts between the dashes and the context that they stand for: two identifiers that are not zero,
and what follows them.
-/
inductive HeaderParts : List (List Char) → TraceContext β → Prop where
  | mk {trace span rest traceId spanId parentId flags} :
      TraceDigits trace traceId → traceId ≠ .invalid → SpanDigits span spanId → spanId ≠ .invalid →
      HeaderRest rest flags parentId →
      HeaderParts (trace :: span :: rest)
        { traceId, spanId, parentId, localRootId := none, flags, shared := false, extra := [] }

/--
The values of the single header and what they stand for: a sampling state alone, or parts that stand
for a context.
-/
inductive SingleHeader : List Char → Extraction (TraceContext β) β → Prop where
  | state {letter flags} : StateLetter letter flags → SingleHeader [letter] (.ofFlags flags)
  | context {parts context} : HeaderParts parts context →
      SingleHeader (Text.join '-' parts) (.ofContext context)

theorem stateFlags?_eq_some_iff {cs : List Char} {flags : SamplingFlags} :
    stateFlags? cs = some flags ↔ ∃ letter, cs = [letter] ∧ StateLetter letter flags := by
  constructor
  . intro h
    unfold stateFlags? at h
    split at h
    . exact ⟨'0', rfl, Option.some.inj h ▸ .no⟩
    . exact ⟨'1', rfl, Option.some.inj h ▸ .yes⟩
    . exact ⟨'d', rfl, Option.some.inj h ▸ .debug⟩
    . simp at h
  . intro ⟨letter, hcs, hletter⟩
    rw [hcs]
    cases hletter <;> rfl

theorem fullTraceId?_eq_some_iff {cs : List Char} {id : TraceId} :
    fullTraceId? cs = some id ↔ TraceDigits cs id := by
  unfold fullTraceId? TraceDigits
  constructor
  . intro h
    split at h
    . next hlength => exact ⟨hlength, (TraceId.ofHex?_eq_some_iff.1 h).2.2⟩
    . simp at h
  . intro ⟨hlength, hshows⟩
    rw [if_pos hlength, TraceId.ofHex?_eq_some_iff]
    refine ⟨?_, by omega, hshows⟩
    intro hnil
    simp [hnil] at hlength

theorem fullSpanId?_eq_some_iff {cs : List Char} {id : SpanId} :
    fullSpanId? cs = some id ↔ SpanDigits cs id := by
  unfold fullSpanId? SpanDigits
  constructor
  . intro h
    split at h
    . next hlength => exact ⟨hlength, (SpanId.ofHex?_eq_some_iff.1 h).2.2⟩
    . simp at h
  . intro ⟨hlength, hshows⟩
    rw [if_pos hlength, SpanId.ofHex?_eq_some_iff]
    refine ⟨?_, by omega, hshows⟩
    intro hnil
    simp [hnil] at hlength

theorem assemble?_eq_some_iff {traceId : TraceId} {spanId : SpanId} {parent : Option SpanId}
    {flags : SamplingFlags} {context : TraceContext β} :
    assemble? traceId spanId parent flags = some context ↔
      traceId ≠ .invalid ∧ spanId ≠ .invalid ∧
        context =
          { traceId, spanId, parentId := SpanId.present parent, localRootId := none, flags,
            shared := false, extra := [] } := by
  unfold assemble?
  dsimp only
  rw [ContextBuilder.toOption_build_eq_some_iff]
  simp [ContextBuilder.toContext, eq_comm]

theorem assemble?_of_ne {traceId : TraceId} {spanId : SpanId} (htrace : traceId ≠ .invalid)
    (hspan : spanId ≠ .invalid) (parent : Option SpanId) (flags : SamplingFlags) :
    assemble? traceId spanId parent flags =
      some
        ({ traceId, spanId, parentId := SpanId.present parent, localRootId := none, flags,
           shared := false, extra := [] } : TraceContext β) :=
  assemble?_eq_some_iff.2 ⟨htrace, hspan, rfl⟩

theorem headerParts_of_parseParts? {parts : List (List Char)} {context : TraceContext β}
    (h : parseParts? parts = some context) : HeaderParts parts context := by
  unfold parseParts? at h
  split at h
  . next trace span =>
    simp only [Option.bind_eq_bind, Option.bind_eq_some_iff, fullTraceId?_eq_some_iff,
      fullSpanId?_eq_some_iff, assemble?_eq_some_iff] at h
    obtain ⟨traceId, htrace, spanId, hspan, htraceId, hspanId, hcontext⟩ := h
    rw [hcontext]
    exact .mk htrace htraceId hspan hspanId .none
  . next trace span last =>
    simp only [Option.bind_eq_bind, Option.bind_eq_some_iff, fullTraceId?_eq_some_iff,
      fullSpanId?_eq_some_iff] at h
    obtain ⟨traceId, htrace, spanId, hspan, h⟩ := h
    -- a third part is a state or a parent, which its length tells apart
    split at h
    . simp only [Option.bind_eq_some_iff, stateFlags?_eq_some_iff, assemble?_eq_some_iff] at h
      obtain ⟨flags, ⟨letter, hlast, hletter⟩, htraceId, hspanId, hcontext⟩ := h
      rw [hcontext, hlast]
      exact .mk htrace htraceId hspan hspanId (.state hletter)
    . simp only [Option.bind_eq_some_iff, fullSpanId?_eq_some_iff, assemble?_eq_some_iff] at h
      obtain ⟨id, hlast, htraceId, hspanId, hcontext⟩ := h
      rw [hcontext]
      exact .mk htrace htraceId hspan hspanId (.parent hlast)
  . next trace span state parent =>
    simp only [Option.bind_eq_bind, Option.bind_eq_some_iff, fullTraceId?_eq_some_iff,
      fullSpanId?_eq_some_iff, stateFlags?_eq_some_iff, assemble?_eq_some_iff] at h
    obtain ⟨traceId, htrace, spanId, hspan, flags, ⟨letter, hstate, hletter⟩, id, hparent,
      htraceId, hspanId, hcontext⟩ := h
    rw [hcontext, hstate]
    exact .mk htrace htraceId hspan hspanId (.both hletter hparent)
  . cases h

theorem parseParts?_of_headerParts {parts : List (List Char)} {context : TraceContext β}
    (h : HeaderParts parts context) : parseParts? parts = some context := by
  cases h with
  | mk htrace htraceId hspan hspanId hrest =>
    rw [← fullTraceId?_eq_some_iff] at htrace
    rw [← fullSpanId?_eq_some_iff] at hspan
    have hassemble := assemble?_of_ne (β := β) htraceId hspanId
    cases hrest with
    | none => simp [parseParts?, htrace, hspan, hassemble, SpanId.present]
    | state hletter =>
      have hflags := stateFlags?_eq_some_iff.2 ⟨_, rfl, hletter⟩
      simp [parseParts?, htrace, hspan, hflags, hassemble, SpanId.present]
    | parent hid =>
      have hlength := hid.1
      rw [← fullSpanId?_eq_some_iff] at hid
      simp [parseParts?, htrace, hspan, hlength, hid, hassemble]
    | both hletter hid =>
      have hflags := stateFlags?_eq_some_iff.2 ⟨_, rfl, hletter⟩
      rw [← fullSpanId?_eq_some_iff] at hid
      simp [parseParts?, htrace, hspan, hflags, hid, hassemble]

theorem parseParts?_eq_some_iff {parts : List (List Char)} {context : TraceContext β} :
    parseParts? parts = some context ↔ HeaderParts parts context :=
  ⟨headerParts_of_parseParts?, parseParts?_of_headerParts⟩

theorem StateLetter.isDigit {letter : Char} {flags : SamplingFlags} (h : StateLetter letter flags) :
    Hex.isDigit letter := by
  cases h <;> decide

theorem HeaderRest.isDigit_of_mem {rest : List (List Char)} {flags : SamplingFlags}
    {parentId : Option SpanId} (h : HeaderRest rest flags parentId) {part : List Char}
    (hpart : part ∈ rest) {c : Char} (hc : c ∈ part) : Hex.isDigit c := by
  cases h with
  | none => simp at hpart
  | state hletter =>
    rw [List.mem_singleton.1 hpart, List.mem_singleton] at hc
    rw [hc]
    exact hletter.isDigit
  | parent hid =>
    rw [List.mem_singleton.1 hpart] at hc
    exact hid.2.isDigit_of_mem hc
  | both hletter hid =>
    rw [List.mem_cons, List.mem_singleton] at hpart
    cases hpart with
    | inl heq =>
      rw [heq, List.mem_singleton] at hc
      rw [hc]
      exact hletter.isDigit
    | inr heq =>
      rw [heq] at hc
      exact hid.2.isDigit_of_mem hc

theorem HeaderParts.splitAt_join {parts : List (List Char)} {context : TraceContext β}
    (h : HeaderParts parts context) : Text.splitAt '-' (Text.join '-' parts) = parts := by
  cases h with
  | mk htrace _ hspan _ hrest =>
    apply Text.splitAt_join (List.cons_ne_nil _ _)
    intro part hpart hdash
    have hdigit : Hex.isDigit '-' := by
      rw [List.mem_cons, List.mem_cons] at hpart
      rcases hpart with heq | heq | hmem
      . exact htrace.2.isDigit_of_mem (heq ▸ hdash)
      . exact hspan.2.isDigit_of_mem (heq ▸ hdash)
      . exact hrest.isDigit_of_mem hmem hdash
    exact Hex.ne_of_isDigit hdigit (by decide) rfl

/--
Once the white space around it is gone, a value is read exactly when it has the form of the single
header, and what is read is what that form stands for. Every other value gives nothing.
-/
theorem parseSingle?_eq_some_iff (value : List Char) (read : Extraction (TraceContext β) β) :
    parseSingle? value = some read ↔ SingleHeader (Text.trimBlank value) read := by
  constructor
  . intro h
    unfold parseSingle? at h
    split at h
    . next state hstate =>
      obtain ⟨flags, hflags, hread⟩ := Option.map_eq_some_iff.1 h
      obtain ⟨letter, hletter, hmeaning⟩ := stateFlags?_eq_some_iff.1 hflags
      rw [hstate, hletter, ← hread]
      exact .state hmeaning
    . obtain ⟨context, hcontext, hread⟩ := Option.map_eq_some_iff.1 h
      rw [← Text.join_splitAt '-' (Text.trimBlank value), ← hread]
      exact .context (parseParts?_eq_some_iff.1 hcontext)
  . intro h
    generalize htrimmed : Text.trimBlank value = trimmed at h
    cases h with
    | state hletter =>
      unfold parseSingle?
      rw [htrimmed]
      dsimp only
      rw [stateFlags?_eq_some_iff.2 ⟨_, rfl, hletter⟩]
      rfl
    | context hparts =>
      have hsplit := hparts.splitAt_join
      have hparse := parseParts?_eq_some_iff.2 hparts
      cases hparts with
      | mk _ _ _ _ _ =>
        rw [← htrimmed] at hsplit
        rw [parseSingle?_of_parts hsplit, hparse]
        rfl

end B3

end RequestTracing
