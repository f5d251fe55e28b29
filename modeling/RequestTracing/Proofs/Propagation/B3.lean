import Mathlib
import RequestTracing.Proofs.Propagation.Carrier
import RequestTracing.Proofs.Text.Split
import RequestTracing.Proofs.Trace.Context
import RequestTracing.Proofs.Trace.Flags
import RequestTracing.Proofs.Trace.Identifier
import RequestTracing.Propagation.B3

/-!
This module contains the way of a context through B3 headers. Main statement: what is read from a
carrier that a context was written to is that context as far as headers carry it, whichever encoding
wrote it.
-/

namespace RequestTracing.B3

variable {β : Type}

def wireFlags (context : TraceContext β) : SamplingFlags :=
  if context.debug then .forced else .ofDecision context.sampled

def received (context : TraceContext β) (withParent : Bool) : TraceContext β where
  traceId := context.traceId
  spanId := context.spanId
  parentId := if withParent then context.parentId else none
  localRootId := none
  flags := wireFlags context
  shared := false
  extra := []

theorem sampled_wireFlags (context : TraceContext β) :
    (wireFlags context).sampled = if context.debug then some true else context.sampled := by
  unfold wireFlags
  split
  . decide
  . exact SamplingFlags.sampled_ofDecision context.sampled

theorem sampled_wireFlags_of_coherent {context : TraceContext β}
    (hdebug : context.debug → context.sampled = some true) :
    (wireFlags context).sampled = context.sampled := by
  rw [sampled_wireFlags]
  split
  . next h => exact (hdebug h).symm
  . rfl

theorem debug_wireFlags (context : TraceContext β) :
    (wireFlags context).debug = context.debug := by
  unfold wireFlags
  split
  . next h =>
    rw [h]
    decide
  . next h =>
    rw [Bool.eq_false_of_not_eq_true h]
    rcases context.sampled with _ | _ | _ <;> decide

theorem sampledLocal_wireFlags (context : TraceContext β) :
    (wireFlags context).sampledLocal = false := by
  unfold wireFlags
  split
  . decide
  . rcases context.sampled with _ | _ | _ <;> decide

theorem stateFlags?_of_samplingState {context : TraceContext β} {state : Char}
    (h : samplingState context = some state) : stateFlags? [state] = some (wireFlags context) := by
  unfold samplingState at h
  unfold wireFlags
  split at h
  . next hdebug =>
    rw [if_pos hdebug, ← Option.some.inj h]
    rfl
  . next hdebug =>
    rw [if_neg hdebug]
    rcases hsampled : context.sampled with _ | _ | _
    . simp [hsampled] at h
    . simp [hsampled] at h
      rw [← h]
      rfl
    . simp [hsampled] at h
      rw [← h]
      rfl

theorem wireFlags_of_samplingState {context : TraceContext β} (h : samplingState context = none) :
    wireFlags context = .empty := by
  unfold samplingState at h
  unfold wireFlags
  split at h
  . simp at h
  . next hdebug =>
    rw [if_neg hdebug, Option.map_eq_none_iff.1 h]
    rfl

theorem assemble?_of_valid {context : TraceContext β} (valid : context.Valid)
    {parent : Option SpanId} (hparent : parent ≠ some .invalid) (flags : SamplingFlags) :
    assemble? context.traceId context.spanId parent flags =
      some { received context true with parentId := parent, flags } := by
  unfold assemble? ContextBuilder.build
  dsimp
  rw [if_neg valid.traceId, if_neg valid.spanId, SpanId.present_of_ne hparent]
  rfl

theorem fullTraceId?_digits (id : TraceId) : fullTraceId? id.digits = some id := by
  unfold fullTraceId?
  rw [if_pos id.length_digits, id.ofHex?_digits]

theorem fullSpanId?_digits (id : SpanId) : fullSpanId? id.digits = some id := by
  unfold fullSpanId?
  rw [if_pos id.length_digits, id.ofHex?_digits]

theorem parseParts?_singleParts {context : TraceContext β} (valid : context.Valid)
    (withParent : Bool) :
    parseParts? (singleParts context withParent) = some (received context withParent) := by
  have hparent : ∀ id, context.parentId = some id → some id ≠ some SpanId.invalid := by
    intro id h
    rw [← h]
    exact valid.parentId
  unfold singleParts received
  cases hstate : samplingState context with
  | none =>
    have hflags := wireFlags_of_samplingState hstate
    cases withParent with
    | false => simp [parseParts?, fullTraceId?_digits, fullSpanId?_digits,
        assemble?_of_valid valid, hflags, received]
    | true =>
      cases hid : context.parentId with
      | none => simp [parseParts?, fullTraceId?_digits, fullSpanId?_digits,
          assemble?_of_valid valid, hflags, received]
      | some id => simp [parseParts?, fullTraceId?_digits, fullSpanId?_digits, id.length_digits,
          assemble?_of_valid valid (hparent id hid), hflags, received]
  | some state =>
    have hflags := stateFlags?_of_samplingState hstate
    cases withParent with
    | false => simp [parseParts?, fullTraceId?_digits, fullSpanId?_digits,
        assemble?_of_valid valid, hflags, received]
    | true =>
      cases hid : context.parentId with
      | none => simp [parseParts?, fullTraceId?_digits, fullSpanId?_digits,
          assemble?_of_valid valid, hflags, received]
      | some id => simp [parseParts?, fullTraceId?_digits, fullSpanId?_digits,
          assemble?_of_valid valid (hparent id hid), hflags, received]

theorem isDigit_of_samplingState {context : TraceContext β} {state : Char}
    (h : samplingState context = some state) : Hex.isDigit state := by
  unfold samplingState at h
  split at h
  . rw [← Option.some.inj h]
    decide
  . obtain ⟨sampled, _, hstate⟩ := Option.map_eq_some_iff.1 h
    rw [← hstate]
    cases sampled <;> decide

theorem isDigit_of_mem_singleParts {context : TraceContext β} {withParent : Bool}
    {part : List Char} (hpart : part ∈ singleParts context withParent) {c : Char} (hc : c ∈ part) :
    Hex.isDigit c := by
  unfold singleParts at hpart
  simp only [List.mem_append, List.mem_cons, List.not_mem_nil, or_false, Option.mem_toList,
    Option.map_eq_some_iff] at hpart
  rcases hpart with ((htrace | hspan) | ⟨state, hstate, hpart⟩) | hparent
  . rw [htrace] at hc
    exact TraceId.isDigit_of_mem_digits hc
  . rw [hspan] at hc
    exact SpanId.isDigit_of_mem_digits hc
  . rw [← hpart] at hc
    rw [List.mem_singleton.1 hc]
    exact isDigit_of_samplingState hstate
  . split at hparent
    . simp only [Option.mem_toList, Option.map_eq_some_iff] at hparent
      obtain ⟨id, _, hpart⟩ := hparent
      rw [← hpart] at hc
      exact SpanId.isDigit_of_mem_digits hc
    . simp at hparent

theorem splitAt_writeSingle (context : TraceContext β) (withParent : Bool) :
    Text.splitAt '-' (writeSingle context withParent).toList =
      singleParts context withParent := by
  unfold writeSingle
  rw [String.toList_ofList]
  apply Text.splitAt_join
  . unfold singleParts
    simp
  . intro part hpart hmem
    exact Hex.ne_of_isDigit (isDigit_of_mem_singleParts hpart hmem) (by decide) rfl

theorem trimBlank_writeSingle (context : TraceContext β) (withParent : Bool) :
    Text.trimBlank (writeSingle context withParent).toList =
      (writeSingle context withParent).toList := by
  apply Text.trimBlank_of_not_blank
  intro c hc
  unfold writeSingle at hc
  rw [String.toList_ofList] at hc
  cases Text.mem_join hc with
  | inl hdash =>
    rw [hdash]
    decide
  | inr hmem =>
    obtain ⟨part, hpart, hc⟩ := hmem
    exact Hex.isBlank_of_isDigit (isDigit_of_mem_singleParts hpart hc)

theorem parseSingle?_of_parts {value : List Char} {first second : List Char}
    {others : List (List Char)}
    (h : Text.splitAt '-' (Text.trimBlank value) = first :: second :: others) :
    (parseSingle? value : Option (Extraction (TraceContext β) β)) =
      (parseParts? (first :: second :: others)).map Extraction.ofContext := by
  unfold parseSingle?
  split
  . next state hstate =>
    -- one character has a second part only when it is the dash, which is no sampling state
    rw [hstate] at h
    simp only [Text.splitAt] at h
    split at h
    . next hdash =>
      obtain ⟨rfl, rfl, rfl⟩ : first = [] ∧ second = [] ∧ others = [] := by
        simpa [eq_comm] using h
      rw [hdash]
      rfl
    . simp at h
  . rw [h]

theorem parseSingle?_writeSingle {context : TraceContext β} (valid : context.Valid)
    (withParent : Bool) :
    parseSingle? (writeSingle context withParent).toList =
      some (.ofContext (received context withParent)) := by
  have hsplit := splitAt_writeSingle context withParent
  rw [← trimBlank_writeSingle] at hsplit
  rw [parseSingle?_of_parts hsplit]
  have hparse := parseParts?_singleParts valid withParent
  unfold singleParts at hparse
  exact congrArg (Option.map Extraction.ofContext) hparse

theorem lookup_partCalls (context : TraceContext β) :
    (partCalls context).lookup parentIdHeader = context.parentId.map SpanId.toText ∧
      (partCalls context).lookup flagsHeader = (if context.debug then some "1" else none) ∧
      (partCalls context).lookup sampledHeader =
        if context.debug then none
        else context.sampled.map fun sampled => if sampled then "1" else "0" := by
  unfold partCalls traceIdHeader spanIdHeader parentIdHeader flagsHeader sampledHeader
  cases context.parentId with
  | none =>
    cases context.debug with
    | true => simp [List.lookup_cons]
    | false => cases context.sampled <;> simp [List.lookup_cons]
  | some id =>
    cases context.debug with
    | true => simp [List.lookup_cons]
    | false => cases context.sampled <;> simp [List.lookup_cons]

theorem partFlags_of_calls {context : TraceContext β} {get : String → Option String}
    (hget : ∀ name ∈ partHeaders, get name = (partCalls context).lookup name) :
    partFlags get = .ok (wireFlags context) := by
  obtain ⟨_, hflags, hsampled⟩ := lookup_partCalls context
  rw [← hget _ (by decide)] at hflags hsampled
  unfold partFlags wireFlags
  rw [hflags, hsampled]
  cases context.debug with
  | true => rfl
  | false => rcases context.sampled with _ | _ | _ <;> rfl

theorem extractParts_of_calls {context : TraceContext β} (valid : context.Valid)
    {get : String → Option String}
    (hget : ∀ name ∈ partHeaders, get name = (partCalls context).lookup name) :
    extractParts get = .ok (.ofContext (received context true)) := by
  have htrace : get traceIdHeader = some context.traceId.toText := by
    rw [hget _ (by decide)]
    rfl
  have hspan : get spanIdHeader = some context.spanId.toText := by
    rw [hget _ (by decide)]
    rfl
  have hparent : get parentIdHeader = context.parentId.map SpanId.toText := by
    rw [hget _ (by decide)]
    exact (lookup_partCalls context).1
  have htraceId : TraceId.ofHex? context.traceId.toText.toList = some context.traceId := by
    unfold TraceId.toText
    rw [String.toList_ofList, TraceId.ofHex?_digits]
  have hspanId : ∀ id : SpanId, SpanId.ofHex? id.toText.toList = some id := by
    intro id
    unfold SpanId.toText
    rw [String.toList_ofList, SpanId.ofHex?_digits]
  unfold extractParts
  rw [partFlags_of_calls hget, htrace, hspan, hparent]
  have hassemble := assemble?_of_valid valid valid.parentId (wireFlags context)
  cases hid : context.parentId with
  | none =>
    rw [hid] at hassemble
    simp [htraceId, hspanId, hassemble, received, hid, bind, Except.bind, pure, Except.pure]
  | some id =>
    rw [hid] at hassemble
    simp [htraceId, hspanId, hassemble, received, hid, bind, Except.bind, pure, Except.pure]

theorem lowercase_header :
    ∀ name ∈ singleHeader :: partHeaders, Text.lowercase name = name := by
  decide +kernel

theorem keys_partCalls (context : TraceContext β) :
    (partCalls context).map (·.1) =
      [traceIdHeader, spanIdHeader] ++ (if context.parentId.isSome then [parentIdHeader] else []) ++
        if context.debug then [flagsHeader]
        else if context.sampled.isSome then [sampledHeader] else [] := by
  unfold partCalls
  rw [List.map_append, List.map_append]
  cases context.parentId <;> cases context.debug <;> cases context.sampled <;> rfl

theorem keys_partCalls_subset (context : TraceContext β) :
    (partCalls context).map (·.1) ⊆ partHeaders := by
  rw [keys_partCalls]
  generalize context.parentId.isSome = parent, context.debug = debug,
    context.sampled.isSome = sampled
  revert parent debug sampled
  decide

theorem nodup_keys_calls (encoding : Encoding) (context : TraceContext β) :
    ((calls encoding context).map (·.1)).Nodup := by
  cases encoding with
  | multi =>
    rw [calls, keys_partCalls]
    generalize context.parentId.isSome = parent, context.debug = debug,
      context.sampled.isSome = sampled
    revert parent debug sampled
    decide
  | single => exact List.nodup_singleton _
  | singleNoParent => exact List.nodup_singleton _
  | singleAndMulti =>
    rw [calls, List.map_cons, keys_partCalls]
    generalize context.parentId.isSome = parent, context.debug = debug,
      context.sampled.isSome = sampled
    dsimp only
    revert parent debug sampled
    decide

theorem key_mem_fields {encoding : Encoding} {context : TraceContext β} {call : String × String}
    (h : call ∈ calls encoding context) : call.1 ∈ encoding.fields := by
  have hparts : ∀ call ∈ partCalls context, call.1 ∈ partHeaders := by
    intro call hcall
    exact keys_partCalls_subset context (List.mem_map_of_mem (f := (·.1)) hcall)
  cases encoding with
  | multi => exact hparts call h
  | single =>
    rw [List.mem_singleton.1 h]
    exact List.mem_cons_self ..
  | singleNoParent =>
    rw [List.mem_singleton.1 h]
    exact List.mem_cons_self ..
  | singleAndMulti =>
    cases List.mem_cons.1 h with
    | inl heq =>
      rw [heq]
      exact List.mem_cons_self ..
    | inr hmem => exact List.mem_cons_of_mem _ (hparts call hmem)

theorem fields_subset (encoding : Encoding) : encoding.fields ⊆ singleHeader :: partHeaders := by
  cases encoding with
  | multi => exact List.subset_cons_self _ _
  | single => simp [Encoding.fields]
  | singleNoParent => simp [Encoding.fields]
  | singleAndMulti => exact List.Subset.refl _

theorem key_mem_headers {encoding : Encoding} {context : TraceContext β}
    {call : String × String} (h : call ∈ calls encoding context) :
    call.1 ∈ singleHeader :: partHeaders :=
  fields_subset encoding (key_mem_fields h)

def Encoding.writesParent : Encoding → Bool
  | .singleNoParent => false
  | _ => true

theorem extract_of_calls {context : TraceContext β} (valid : context.Valid) (encoding : Encoding)
    {get : String → Option String}
    (hget : ∀ name ∈ singleHeader :: partHeaders, get name = (calls encoding context).lookup name) :
    (extract get : Logged (Extraction (TraceContext β) β)).value =
      .ofContext (received context encoding.writesParent) := by
  have hsingle := hget singleHeader (List.mem_cons_self ..)
  unfold extract
  cases encoding with
  | multi =>
    have hnone : get singleHeader = none := by
      rw [hsingle, List.lookup_eq_none_iff]
      intro call hcall
      have hkey := keys_partCalls_subset context (List.mem_map_of_mem (f := (·.1)) hcall)
      rw [bne_iff_ne]
      intro heq
      rw [← heq] at hkey
      revert hkey
      decide
    have hparts : extractParts get = .ok (.ofContext (received context true)) :=
      extractParts_of_calls valid fun name hname => hget name (List.mem_cons_of_mem _ hname)
    rw [hnone, hparts]
    rfl
  | single | singleNoParent | singleAndMulti =>
    rw [calls, List.lookup_cons_self] at hsingle
    rw [hsingle]
    dsimp only [Option.bind_some]
    rw [parseSingle?_writeSingle valid]
    rfl

/--
A context that was written to a carrier without such headers is read back with everything that the
headers carry, and the other keys keep their values. Any encoding reads what another one wrote.
-/
theorem extract_inject {context : Snapshot} (valid : context.Valid)
    (hdebug : context.debug → context.sampled = some true) (encoding reader : Encoding)
    {carrier : Carrier}
    (hfree : ∀ name ∈ singleHeader :: partHeaders, carrier.find? name = none) :
    let written := carrier.setAll ((propagator encoding).inject context)
    (∃ read : Snapshot,
      ((propagator reader).extract written.get?).value = .ofContext read ∧
      read.traceId = context.traceId ∧
      read.spanId = context.spanId ∧
      read.parentId = (if encoding = .singleNoParent then none else context.parentId) ∧
      read.sampled = context.sampled ∧
      read.debug = context.debug ∧
      read.localRootId = none ∧
      read.shared = false ∧
      read.sampledLocal = false ∧
      read.extra = []) ∧
    ∀ key ∉ singleHeader :: partHeaders, written.find? key = carrier.find? key := by
  intro written
  have hlower : ∀ call ∈ calls encoding context, Text.lowercase call.1 = call.1 :=
    fun call hcall => lowercase_header call.1 (key_mem_headers hcall)
  have hfind : ∀ key, written.find? key =
      ((calls encoding context).lookup key).or (carrier.find? key) :=
    Carrier.find?_setAll hlower (nodup_keys_calls encoding context) carrier
  have hget : ∀ name ∈ singleHeader :: partHeaders,
      written.get? name = (calls encoding context).lookup name := by
    intro name hname
    unfold Carrier.get?
    rw [lowercase_header name hname, hfind, hfree name hname, Option.or_none]
  constructor
  . refine ⟨received context encoding.writesParent, extract_of_calls valid encoding hget, rfl, rfl,
      ?_, sampled_wireFlags_of_coherent hdebug, debug_wireFlags context, rfl, rfl,
      sampledLocal_wireFlags context, rfl⟩
    cases encoding <;> rfl
  . intro key hkey
    apply Carrier.find?_setAll_of_not_mem
    intro call hcall heq
    rw [hlower call hcall] at heq
    rw [← heq] at hkey
    exact hkey (key_mem_headers hcall)

theorem extract_inject_deferred :
    let context : Snapshot :=
      { traceId := ⟨1⟩, spanId := ⟨2⟩, parentId := some ⟨3⟩, localRootId := some ⟨2⟩,
        flags := .empty, shared := true, extra := [.marker 7 0] }
    let carrier : Carrier := ⟨[("host", "a"), ("B3", "0")]⟩
    let written := carrier.setAll ((propagator .single).inject context)
    (∃ read : Snapshot,
      ((propagator .multi).extract written.get?).value = .ofContext read ∧
      read.parentId = some ⟨3⟩ ∧ read.sampled = none ∧ read.shared = false) ∧
    written.find? "B3" = some "0" := by
  intro context carrier written
  have valid : context.Valid := ⟨by decide, by decide, by decide⟩
  have hfree : ∀ name ∈ singleHeader :: partHeaders, carrier.find? name = none := by decide
  have ⟨⟨read, hread, _, _, hparent, hsampled, _, _, hshared, _⟩, hkeep⟩ :=
    extract_inject valid (by decide) .single .multi hfree
  exact ⟨⟨read, hread, hparent, hsampled.trans (by decide), hshared⟩, hkeep "B3" (by decide)⟩

end RequestTracing.B3
