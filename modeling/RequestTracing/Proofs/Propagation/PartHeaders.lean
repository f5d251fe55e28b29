import Mathlib
import RequestTracing.Proofs.Propagation.SingleHeader

/-!
This module contains what the B3 headers for single parts stand for, together and beside the single
header. Main statement: reading a carrier gives what the single header stands for, or else what the
others stand for, and nothing else in the carrier has a part in it.
-/

namespace RequestTracing

namespace B3

variable {β : Type}

inductive DecisionWord : String → Bool → Prop where
  | one : DecisionWord "1" true
  | yes : DecisionWord "true" true
  | zero : DecisionWord "0" false
  | no : DecisionWord "false" false

inductive SampledHeader : Option String → Option Bool → Prop where
  | absent : SampledHeader none none
  | present {word decision} : DecisionWord word decision → SampledHeader (some word) (some decision)

def TraceNumeral (cs : List Char) (id : TraceId) : Prop :=
  cs ≠ [] ∧ cs.length ≤ 32 ∧ Hex.Shows cs id.toNat

def SpanNumeral (cs : List Char) (id : SpanId) : Prop :=
  cs ≠ [] ∧ cs.length ≤ 16 ∧ Hex.Shows cs id.toNat

inductive ParentHeader : Option String → Option SpanId → Prop where
  | absent : ParentHeader none none
  | present {digits id} : SpanNumeral digits.toList id →
      ParentHeader (some digits) (SpanId.present (some id))

def headerFlags (flags : Option String) (decision : Option Bool) : SamplingFlags :=
  if flags = some "1" then .forced else .ofDecision decision

inductive ContextHeaders (get : String → Option String) : TraceContext β → Prop where
  | mk {trace traceId span spanId parentId decision} :
      get traceIdHeader = some trace → TraceNumeral trace.toList traceId → traceId ≠ .invalid →
      get spanIdHeader = some span → SpanNumeral span.toList spanId → spanId ≠ .invalid →
      ParentHeader (get parentIdHeader) parentId → SampledHeader (get sampledHeader) decision →
      ContextHeaders get
        { traceId, spanId, parentId, localRootId := none,
          flags := headerFlags (get flagsHeader) decision, shared := false, extra := [] }

inductive FlagHeaders (get : String → Option String) : SamplingFlags → Prop where
  | mk {decision} : get traceIdHeader = none → SampledHeader (get sampledHeader) decision →
      FlagHeaders get (headerFlags (get flagsHeader) decision)

inductive PartHeaders (get : String → Option String) : Extraction (TraceContext β) β → Prop where
  | context {context} : ContextHeaders get context → PartHeaders get (.ofContext context)
  | flags {flags} : FlagHeaders get flags → PartHeaders get (.ofFlags flags)
  | malformed : (∀ context : TraceContext β, ¬ContextHeaders get context) →
      (∀ flags, ¬FlagHeaders get flags) → PartHeaders get .empty

theorem sampledDecision?_eq_some_iff {value : String} {decision : Bool} :
    sampledDecision? value = some decision ↔ DecisionWord value decision := by
  constructor
  . intro h
    unfold sampledDecision? at h
    split at h
    . next hyes =>
      rw [← Option.some.inj h]
      cases hyes with
      | inl heq => rw [heq]; exact .one
      | inr heq => rw [heq]; exact .yes
    . split at h
      . next hno =>
        rw [← Option.some.inj h]
        cases hno with
        | inl heq => rw [heq]; exact .zero
        | inr heq => rw [heq]; exact .no
      . simp at h
  . intro h
    cases h <;> decide

theorem partFlags_eq_ok_iff {get : String → Option String} {flags : SamplingFlags} :
    partFlags get = .ok flags ↔
      ∃ decision, SampledHeader (get sampledHeader) decision ∧
        flags = headerFlags (get flagsHeader) decision := by
  unfold partFlags
  cases hsampled : get sampledHeader with
  | none =>
    constructor
    . intro h
      exact ⟨none, .absent, (Except.ok.inj h).symm⟩
    . intro ⟨decision, hdecision, hflags⟩
      cases hdecision
      rw [hflags]
      rfl
  | some word =>
    dsimp only
    cases hword : sampledDecision? word with
    | none =>
      constructor
      . intro h
        cases h
      . intro ⟨decision, hdecision, _⟩
        cases hdecision with
        | present hmeaning => simp [sampledDecision?_eq_some_iff.2 hmeaning] at hword
    | some decision =>
      have hmeaning := sampledDecision?_eq_some_iff.1 hword
      constructor
      . intro h
        exact ⟨some decision, .present hmeaning, (Except.ok.inj h).symm⟩
      . intro ⟨other, hother, hflags⟩
        cases hother with
        | present hsame =>
          rw [sampledDecision?_eq_some_iff.2 hsame] at hword
          rw [hflags, hword]
          rfl

theorem extractParts_of_contextHeaders {get : String → Option String} {context : TraceContext β}
    (h : ContextHeaders get context) : extractParts get = .ok (.ofContext context) := by
  cases h with
  | mk htrace htraceId htraceNe hspan hspanId hspanNe hparent hsampled =>
    rw [TraceNumeral, ← TraceId.ofHex?_eq_some_iff] at htraceId
    rw [SpanNumeral, ← SpanId.ofHex?_eq_some_iff] at hspanId
    have hflags := partFlags_eq_ok_iff.2 ⟨_, hsampled, rfl⟩
    have hassemble := assemble?_of_ne (β := β) htraceNe hspanNe
    unfold extractParts
    rw [hflags, htrace, hspan]
    generalize get parentIdHeader = header at hparent
    cases hparent with
    | absent =>
      simp [bind, Except.bind, pure, Except.pure, htraceId, hspanId, hassemble, SpanId.present]
    | present hid =>
      rw [SpanNumeral, ← SpanId.ofHex?_eq_some_iff] at hid
      simp [bind, Except.bind, pure, Except.pure, htraceId, hspanId, hassemble, hid]

theorem extractParts_of_flagHeaders {get : String → Option String} {flags : SamplingFlags}
    (h : FlagHeaders get flags) :
    extractParts get = .ok (.ofFlags flags : Extraction (TraceContext β) β) := by
  cases h with
  | mk htrace hsampled =>
    unfold extractParts
    rw [partFlags_eq_ok_iff.2 ⟨_, hsampled, rfl⟩, htrace]
    rfl

theorem contextHeaders_of_assemble? {get : String → Option String} {trace : String}
    {traceId : TraceId} {spanId : SpanId} {parent : Option SpanId} {flags : SamplingFlags}
    {context : TraceContext β} (htrace : get traceIdHeader = some trace)
    (htraceId : TraceId.ofHex? trace.toList = some traceId)
    (hspanId : ((get spanIdHeader).bind fun span => SpanId.ofHex? span.toList) = some spanId)
    (hparent : ParentHeader (get parentIdHeader) (SpanId.present parent))
    (hflags : partFlags get = .ok flags)
    (h : assemble? traceId spanId parent flags = some context) : ContextHeaders get context := by
  obtain ⟨span, hspan, hspanId⟩ := Option.bind_eq_some_iff.1 hspanId
  obtain ⟨decision, hsampled, hflags⟩ := partFlags_eq_ok_iff.1 hflags
  obtain ⟨htraceNe, hspanNe, hcontext⟩ := assemble?_eq_some_iff.1 h
  rw [hcontext, hflags]
  exact .mk htrace (TraceId.ofHex?_eq_some_iff.1 htraceId) htraceNe hspan
    (SpanId.ofHex?_eq_some_iff.1 hspanId) hspanNe hparent hsampled

theorem exists_partFlags {get : String → Option String} {read : Extraction (TraceContext β) β}
    (h : extractParts get = .ok read) : ∃ flags, partFlags get = .ok flags := by
  cases hflags : partFlags get with
  | ok flags => exact ⟨flags, rfl⟩
  | error fault =>
    unfold extractParts at h
    rw [hflags] at h
    cases h

theorem contextHeaders_of_extractParts {get : String → Option String} {trace : String}
    (htrace : get traceIdHeader = some trace) {read : Extraction (TraceContext β) β}
    (h : extractParts get = .ok read) :
    ∃ context, ContextHeaders get context ∧ read = .ofContext context := by
  obtain ⟨flags, hflags⟩ := exists_partFlags h
  unfold extractParts at h
  rw [hflags, htrace] at h
  simp only [bind, Except.bind, pure, Except.pure] at h
  split at h
  . next traceId htraceId =>
    split at h
    . next spanId hspanId =>
      -- the parent is read before it is seen whether the identifiers are usable
      split at h
      . next hparent =>
        have habsent : ParentHeader (get parentIdHeader) (SpanId.present none) := by
          rw [hparent]
          exact .absent
        split at h
        . next context hassemble =>
          have hheaders :=
            contextHeaders_of_assemble? htrace htraceId hspanId habsent hflags hassemble
          exact ⟨context, hheaders, (Except.ok.inj h).symm⟩
        . cases h
      . next parent hparent =>
        split at h
        . next parentId hparentId =>
          have hpresent : ParentHeader (get parentIdHeader) (SpanId.present (some parentId)) := by
            rw [hparent]
            exact .present (SpanId.ofHex?_eq_some_iff.1 hparentId)
          split at h
          . next context hassemble =>
            have hheaders :=
              contextHeaders_of_assemble? htrace htraceId hspanId hpresent hflags hassemble
            exact ⟨context, hheaders, (Except.ok.inj h).symm⟩
          . cases h
        . cases h
    . cases h
  . cases h

theorem flagHeaders_of_extractParts {get : String → Option String}
    (htrace : get traceIdHeader = none) {read : Extraction (TraceContext β) β}
    (h : extractParts get = .ok read) :
    ∃ flags, FlagHeaders get flags ∧ read = .ofFlags flags := by
  obtain ⟨flags, hflags⟩ := exists_partFlags h
  obtain ⟨decision, hsampled, heq⟩ := partFlags_eq_ok_iff.1 hflags
  unfold extractParts at h
  rw [hflags, htrace] at h
  refine ⟨flags, ?_, (Except.ok.inj h).symm⟩
  rw [heq]
  exact .mk htrace hsampled

theorem headers_of_extractParts {get : String → Option String}
    {read : Extraction (TraceContext β) β} (h : extractParts get = .ok read) :
    (∃ context, ContextHeaders get context ∧ read = .ofContext context) ∨
      ∃ flags, FlagHeaders get flags ∧ read = .ofFlags flags := by
  cases htrace : get traceIdHeader with
  | none => exact .inr (flagHeaders_of_extractParts htrace h)
  | some trace => exact .inl (contextHeaders_of_extractParts htrace h)

def LacksSingle (get : String → Option String) : Prop :=
  ∀ value, get singleHeader = some value → (parseSingle? value.toList : Option Reading) = none

theorem value_extract_of_single {get : String → Option String} {value : String} {read : Reading}
    (hvalue : get singleHeader = some value) (hread : parseSingle? value.toList = some read) :
    (extract get).value = read := by
  unfold extract
  dsimp only
  rw [hvalue, Option.bind_some, hread]
  rfl

theorem value_extract_of_lacksSingle {get : String → Option String} (h : LacksSingle get) :
    (extract get : Logged Reading).value = (extractParts get).toOption.getD .empty := by
  have hnone : ((get singleHeader).bind fun value => parseSingle? value.toList) =
      (none : Option Reading) := by
    rw [Option.bind_eq_none_iff]
    exact h
  unfold extract
  dsimp only
  rw [hnone]
  cases get singleHeader <;> cases extractParts get <;> rfl

theorem partHeaders_iff {get : String → Option String} {read : Extraction (TraceContext β) β} :
    PartHeaders get read ↔ (extractParts get).toOption.getD .empty = read := by
  constructor
  . intro h
    cases h with
    | context hheaders =>
      rw [extractParts_of_contextHeaders hheaders]
      rfl
    | flags hheaders =>
      rw [extractParts_of_flagHeaders hheaders]
      rfl
    | malformed hcontext hflags =>
      cases hparts : (extractParts get : Except PartFault (Extraction (TraceContext β) β)) with
      | error fault => rfl
      | ok read =>
        rcases headers_of_extractParts hparts with ⟨context, hheaders, _⟩ | ⟨flags, hheaders, _⟩
        . exact absurd hheaders (hcontext context)
        . exact absurd hheaders (hflags flags)
  . intro h
    cases hparts : (extractParts get : Except PartFault (Extraction (TraceContext β) β)) with
    | error fault =>
      rw [hparts] at h
      rw [← h]
      -- headers that stand for something would have been read
      apply PartHeaders.malformed
      . intro context hheaders
        rw [extractParts_of_contextHeaders hheaders] at hparts
        cases hparts
      . intro flags hheaders
        rw [extractParts_of_flagHeaders hheaders] at hparts
        cases hparts
    | ok result =>
      rw [hparts] at h
      change result = read at h
      rw [← h]
      rcases headers_of_extractParts hparts with ⟨_, hheaders, hread⟩ | ⟨_, hheaders, hread⟩
      . rw [hread]
        exact .context hheaders
      . rw [hread]
        exact .flags hheaders

theorem extractParts_congr_of_partFlags {get other : String → Option String}
    (hflags : partFlags other = partFlags get)
    (h : ∀ name ∈ partHeaders, name ≠ sampledHeader → other name = get name) :
    (extractParts other : Except PartFault Reading) = extractParts get := by
  have htrace := h traceIdHeader (by decide) (by decide)
  have hspan := h spanIdHeader (by decide) (by decide)
  have hparent := h parentIdHeader (by decide) (by decide)
  unfold extractParts
  rw [hflags, htrace, hspan, hparent]

theorem extractParts_congr {get other : String → Option String}
    (h : ∀ name ∈ partHeaders, other name = get name) :
    (extractParts other : Except PartFault Reading) = extractParts get := by
  have hsampled := h sampledHeader (by decide)
  have hflags := h flagsHeader (by decide)
  apply extractParts_congr_of_partFlags
  . unfold partFlags
    rw [hsampled, hflags]
  . intro name hname _
    exact h name hname

theorem lacksSingle_or (get : String → Option String) :
    LacksSingle get ∨ ∃ value read, get singleHeader = some value ∧
      (parseSingle? value.toList : Option Reading) = some read := by
  cases hvalue : get singleHeader with
  | none =>
    left
    intro value h
    rw [hvalue] at h
    cases h
  | some value =>
    cases hread : (parseSingle? value.toList : Option Reading) with
    | none =>
      left
      intro other h
      rw [hvalue, Option.some.injEq] at h
      rw [← h, hread]
    | some read => exact .inr ⟨value, read, rfl, hread⟩

theorem value_extract_eq_iff {get : String → Option String} {read : Reading} :
    (extract get).value = read ↔
      (∃ value, get singleHeader = some value ∧ parseSingle? value.toList = some read) ∨
        (LacksSingle get ∧ PartHeaders get read) := by
  rcases lacksSingle_or get with hlacks | ⟨value, single, hvalue, hsingle⟩
  . rw [value_extract_of_lacksSingle hlacks, ← partHeaders_iff]
    constructor
    . intro h
      exact .inr ⟨hlacks, h⟩
    . intro h
      rcases h with ⟨value, hvalue, hread⟩ | ⟨_, hparts⟩
      . rw [hlacks value hvalue] at hread
        cases hread
      . exact hparts
  . rw [value_extract_of_single hvalue hsingle]
    constructor
    . intro h
      rw [h] at hsingle
      exact .inl ⟨value, hvalue, hsingle⟩
    . intro h
      rcases h with ⟨other, hother, hread⟩ | ⟨hlacks, _⟩
      . rw [hvalue, Option.some.injEq] at hother
        rw [← hother, hsingle] at hread
        exact Option.some.inj hread
      . rw [hlacks value hvalue] at hsingle
        cases hsingle

theorem value_extract_congr {get other : String → Option String} (hget : LacksSingle get)
    (hother : LacksSingle other) (h : ∀ name ∈ partHeaders, other name = get name) :
    (extract other : Logged Reading).value = (extract get).value := by
  rw [value_extract_of_lacksSingle hget, value_extract_of_lacksSingle hother, extractParts_congr h]

/--
A single header that can be read says everything, whatever else the carrier holds. Otherwise the
result is what the other headers stand for, and the single header has no part in it. Keys that are
no such header never matter.
-/
theorem extract_eq_iff (encoding : Encoding) (get : String → Option String) :
    (∀ read, ((propagator encoding).extract get).value = read ↔
      (∃ value, get singleHeader = some value ∧ parseSingle? value.toList = some read) ∨
        (LacksSingle get ∧ PartHeaders get read)) ∧
    (∀ other, LacksSingle get → LacksSingle other →
      (∀ name ∈ partHeaders, other name = get name) →
      ((propagator encoding).extract other).value = ((propagator encoding).extract get).value) ∧
    ∀ other, (∀ name ∈ singleHeader :: partHeaders, other name = get name) →
      ((propagator encoding).extract other).value =
        ((propagator encoding).extract get).value := by
  refine ⟨fun read => value_extract_eq_iff, fun other => value_extract_congr, ?_⟩
  intro other h
  have hsingle := h singleHeader (List.mem_cons_self ..)
  have hparts : ∀ name ∈ partHeaders, other name = get name :=
    fun name hname => h name (List.mem_cons_of_mem _ hname)
  rcases lacksSingle_or get with hlacks | ⟨value, read, hvalue, hread⟩
  . have hother : LacksSingle other := by
      unfold LacksSingle
      rw [hsingle]
      exact hlacks
    exact value_extract_congr hlacks hother hparts
  . have hother := hsingle.trans hvalue
    exact (value_extract_of_single hother hread).trans (value_extract_of_single hvalue hread).symm

theorem extract_eq_iff_debug :
    let get : String → Option String := fun name =>
      [(singleHeader, "80f198ee56343ba8-d"), (traceIdHeader, "a"), (spanIdHeader, "0b"),
        (parentIdHeader, "0"), (sampledHeader, "false"), (flagsHeader, "1")].lookup name
    LacksSingle get ∧ ((propagator .single).extract get).value =
      .ofContext
        { traceId := ⟨10⟩, spanId := ⟨11⟩, parentId := none, localRootId := none, flags := .forced,
          shared := false, extra := [] } := by
  intro get
  have hlacks : LacksSingle get := by
    intro value hvalue
    rw [← Option.some.inj hvalue]
    cbv
  have htrace : TraceNumeral "a".toList ⟨10⟩ := TraceId.ofHex?_eq_some_iff.1 rfl
  have hspan : SpanNumeral "0b".toList ⟨11⟩ := SpanId.ofHex?_eq_some_iff.1 rfl
  have hparent : ParentHeader (get parentIdHeader) (SpanId.present (some ⟨0⟩)) :=
    .present (SpanId.ofHex?_eq_some_iff.1 rfl)
  have hsampled : SampledHeader (get sampledHeader) (some false) := .present .no
  have hheaders : ContextHeaders get
      ({ traceId := ⟨10⟩, spanId := ⟨11⟩, parentId := SpanId.present (some ⟨0⟩),
         localRootId := none, flags := headerFlags (get flagsHeader) (some false), shared := false,
         extra := [] } : Snapshot) :=
    .mk rfl htrace (by decide) rfl hspan (by decide) hparent hsampled
  exact ⟨hlacks, ((extract_eq_iff .single get).1 _).2 (.inr ⟨hlacks, .context hheaders⟩)⟩

def StatesSampling (get : String → Option String) : Prop :=
  ∃ decision, SampledHeader (get sampledHeader) decision

theorem not_statesSampling {get : String → Option String} {word : String}
    (hword : get sampledHeader = some word) (h : sampledDecision? word = none) :
    ¬StatesSampling get := by
  rintro ⟨decision, hdecision⟩
  rw [hword] at hdecision
  cases hdecision with
  | present hmeaning => simp [sampledDecision?_eq_some_iff.2 hmeaning] at h

theorem partFlags_of_debug {get : String → Option String} (hdebug : get flagsHeader = some "1")
    (h : StatesSampling get) : partFlags get = .ok .forced := by
  apply h.elim
  intro decision hdecision
  apply partFlags_eq_ok_iff.2
  refine ⟨decision, hdecision, ?_⟩
  unfold headerFlags
  rw [if_pos hdebug]

theorem extractParts_of_not_statesSampling {get : String → Option String}
    (h : ¬StatesSampling get) :
    ∃ fault, (extractParts get : Except PartFault Reading) = .error fault := by
  cases hflags : partFlags get with
  | ok flags =>
    have hdecision := partFlags_eq_ok_iff.1 hflags
    exact absurd (hdecision.imp fun _ hsampled => hsampled.1) h
  | error fault =>
    -- the flags are read first, so no other header is looked at
    unfold extractParts
    rw [hflags]
    exact ⟨fault, rfl⟩

/--
The debug flag takes the place of any decision that the sampled header states. A sampled header that
states none makes the headers malformed all the same: it is read before the debug flag is.
-/
theorem extract_of_debug (encoding : Encoding) {get other : String → Option String}
    (hget : LacksSingle get) (hother : LacksSingle other) (hdebug : get flagsHeader = some "1")
    (h : ∀ name ∈ partHeaders, name ≠ sampledHeader → other name = get name) :
    (StatesSampling get → StatesSampling other →
      ((propagator encoding).extract other).value = ((propagator encoding).extract get).value) ∧
    (¬StatesSampling other → ((propagator encoding).extract other).value = .empty) := by
  have hvalueGet := value_extract_of_lacksSingle hget
  have hvalueOther := value_extract_of_lacksSingle hother
  constructor
  . intro hstates hstatesOther
    have hdebugOther : other flagsHeader = some "1" :=
      (h flagsHeader (by decide) (by decide)).trans hdebug
    have hflags : partFlags other = partFlags get := by
      rw [partFlags_of_debug hdebugOther hstatesOther, partFlags_of_debug hdebug hstates]
    have hparts := extractParts_congr_of_partFlags hflags h
    rw [hparts] at hvalueOther
    exact hvalueOther.trans hvalueGet.symm
  . intro hstatesOther
    apply (extractParts_of_not_statesSampling hstatesOther).elim
    intro fault hfault
    rw [hfault] at hvalueOther
    exact hvalueOther

theorem extract_of_debug_malformed :
    let headers : Option String → String → Option String := fun sampled name =>
      if name = sampledHeader then sampled
      else [(traceIdHeader, "a"), (spanIdHeader, "0b"), (flagsHeader, "1")].lookup name
    StatesSampling (headers none) ∧ StatesSampling (headers (some "0")) ∧
      ¬StatesSampling (headers (some "x")) ∧
      ((propagator .multi).extract (headers (some "0"))).value =
        ((propagator .multi).extract (headers none)).value ∧
      ((propagator .multi).extract (headers (some "x"))).value = .empty := by
  intro headers
  have hlacks : ∀ sampled, LacksSingle (headers sampled) := by
    intro sampled value hvalue
    cases hvalue
  have hsame : ∀ sampled, ∀ name ∈ partHeaders, name ≠ sampledHeader →
      headers sampled name = headers none name := by
    intro sampled name _ hname
    dsimp only [headers]
    rw [if_neg hname, if_neg hname]
  have hnone : StatesSampling (headers none) := ⟨none, .absent⟩
  have hno : StatesSampling (headers (some "0")) := ⟨some false, .present .zero⟩
  have hmalformed : ¬StatesSampling (headers (some "x")) := not_statesSampling rfl (by decide)
  have hdebug := extract_of_debug .multi (hlacks none) (hlacks (some "0")) rfl (hsame (some "0"))
  have hfault := extract_of_debug .multi (hlacks none) (hlacks (some "x")) rfl (hsame (some "x"))
  exact ⟨hnone, hno, hmalformed, hdebug.1 hnone hno, hfault.2 hmalformed⟩

/--
Two carriers that differ in a malformed sampled header alone, beside the debug flag: one is read as
a context and the other as nothing.
-/
theorem extract_debug_depends_on_sampled :
    let get : String → Option String := fun name =>
      [(traceIdHeader, "a3ce929d0e0e4736"), (spanIdHeader, "00f067aa0ba902b7"),
        (flagsHeader, "1")].lookup name
    let other : String → Option String := fun name =>
      [(traceIdHeader, "a3ce929d0e0e4736"), (spanIdHeader, "00f067aa0ba902b7"),
        (sampledHeader, "x"), (flagsHeader, "1")].lookup name
    LacksSingle get ∧ LacksSingle other ∧ get flagsHeader = some "1" ∧
      (∀ name ∈ partHeaders, name ≠ sampledHeader → other name = get name) ∧
      ((propagator .multi).extract other).value ≠ ((propagator .multi).extract get).value := by
  intro get other
  have hget : LacksSingle get := fun value hvalue => by cases hvalue
  have hother : LacksSingle other := fun value hvalue => by cases hvalue
  have hmalformed : ¬StatesSampling other := not_statesSampling rfl (by decide)
  have hcontext : (extract get : Logged Reading).value.context?.isSome := by
    rw [value_extract_of_lacksSingle hget]
    decide +kernel
  have hempty : (extract other : Logged Reading).value = .empty := by
    apply (extractParts_of_not_statesSampling hmalformed).elim
    intro fault hfault
    rw [value_extract_of_lacksSingle hother, hfault]
    rfl
  refine ⟨hget, hother, rfl, by decide, ?_⟩
  intro hsame
  have hvalueGet : (extract get).value = .empty := hsame.symm.trans hempty
  rw [hvalueGet] at hcontext
  cases hcontext

end B3

end RequestTracing
