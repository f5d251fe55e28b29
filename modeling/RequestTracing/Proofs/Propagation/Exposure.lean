import Mathlib
import RequestTracing.Proofs.Propagation.Baggage

/-!
This module contains what a carrier shows of baggage, and what baggage shows of a carrier. Main
statement: beside the identifiers and flags nothing but the remote fields decides what is written,
and beside the keys of the delegate nothing but their keys decides what is read; local fields take
part in neither.
-/

namespace RequestTracing

def TraceContext.fieldValue? (context : Snapshot) (field : BaggageField) : Option String :=
  context.baggage?.bind (·.get? field)

def Propagator.Bare (propagator : Propagator) : Prop :=
  ∀ context other : Snapshot, (other.withoutExtra : Snapshot) = context.withoutExtra →
    propagator.inject other = propagator.inject context

theorem B3.bare (encoding : Encoding) : (propagator encoding).Bare := by
  intro context other h
  -- whatever the encoding, the extra state of a context is not looked at
  have hcalls : ∀ context : Snapshot,
      calls encoding (context.withoutExtra : Snapshot) = calls encoding context := by
    intro context
    cases encoding with
    | multi => rfl
    | single => rfl
    | singleNoParent => rfl
    | singleAndMulti => rfl
  calc calls encoding other
    _ = calls encoding (other.withoutExtra : Snapshot) := (hcalls other).symm
    _ = calls encoding (context.withoutExtra : Snapshot) := by rw [h]
    _ = calls encoding context := hcalls context

namespace BaggagePolicy

variable {policy : BaggagePolicy} {get other : String → Option String}

theorem inject_propagator (policy : BaggagePolicy) (delegate : Propagator) (context : Snapshot) :
    (policy.propagator delegate).inject context =
      delegate.inject context ++ policy.remoteRules.flatMap fun rule =>
        match context.fieldValue? rule.field with
        | some value => rule.keys.map (·, value)
        | none => [] := by
  unfold propagator TraceContext.fieldValue?
  dsimp only
  cases context.baggage? with
  | some baggage => rfl
  | none => simp

theorem lookUp_congr {rule : BaggageRule} (h : ∀ key ∈ rule.keys, other key = get key) :
    lookUp other rule = lookUp get rule := by
  unfold lookUp
  generalize rule.keys = keys at h
  induction keys with
  | nil => rfl
  | cons key keys ih =>
    rw [List.findSome?_cons, List.findSome?_cons, h key (List.mem_cons_self ..),
      ih fun later hlater => h later (List.mem_cons_of_mem key hlater)]

theorem read_congr (h : ∀ rule ∈ policy.remoteRules, ∀ key ∈ rule.keys, other key = get key) :
    policy.read other = policy.read get := by
  rw [read_eq, read_eq]
  apply List.foldl_ext
  intro baggage rule hrule
  rw [lookUp_congr (h rule hrule)]

theorem isRemote_eq_false_iff {rule : BaggageRule} : rule.isRemote = false ↔ rule.keys = [] := by
  unfold BaggageRule.isRemote
  rw [Bool.not_eq_false', List.isEmpty_iff]

/--
Contexts with the same identifiers and flags that agree on the remote fields are written in the same
way, and carriers that agree on the keys of the delegate and of the remote fields give the same
result, in which no local field has a value.
-/
theorem remote_fields_decide {rules : List BaggageRule} (hpolicy : (ofRules rules).value = policy)
    {delegate : Propagator} {wireKeys : Set String} (hbare : delegate.Bare)
    (hconfined : delegate.Confined wireKeys) (hplain : delegate.Plain) :
    (∀ sent shown : Snapshot, (shown.withoutExtra : Snapshot) = sent.withoutExtra →
      (∀ rule ∈ policy.remoteRules,
        shown.fieldValue? rule.field = sent.fieldValue? rule.field) →
      (policy.propagator delegate).inject shown = (policy.propagator delegate).inject sent) ∧
    ∀ get other : String → Option String, (∀ key ∈ wireKeys, other key = get key) →
      (∀ rule ∈ policy.remoteRules, ∀ key ∈ rule.keys, other key = get key) →
      ((policy.propagator delegate).extract other).value =
        ((policy.propagator delegate).extract get).value ∧
      ∃ received : BaggageFields,
        ((policy.propagator delegate).extract get).value.baggage? = some received ∧
        received.allFields = policy.fields ∧
        ∀ rule ∈ policy.rules, rule.keys = [] → received.get? rule.field = none := by
  have hdistinct : policy.Distinct := by
    rw [← hpolicy]
    exact distinct_ofRules rules
  constructor
  . intro sent shown hsame hvalues
    rw [inject_propagator, inject_propagator, hbare sent shown hsame]
    congr 1
    apply List.flatMap_congr
    intro rule hrule
    rw [hvalues rule hrule]
  . intro get other hwire hkeys
    have hextract : ∀ get, ((policy.propagator delegate).extract get).value =
        (delegate.extract get).value.withExtra (.baggage (policy.read get)) := fun _ => rfl
    refine ⟨?_, policy.read get, ?_, hdistinct.allFields_read get, ?_⟩
    . rw [hextract, hextract, hconfined.reads get other hwire, read_congr hkeys]
    . rw [hextract]
      exact Extraction.baggage?_withExtra (hplain get) _
    . intro rule hrule hlocal
      rw [hdistinct.get?_read get hrule, isRemote_eq_false_iff.2 hlocal]
      rfl

theorem remote_fields_decide_b3 :
    let rules : List BaggageRule :=
      [⟨⟨"Country"⟩, ["country", "x-country"]⟩, .onlyLocal ⟨"region"⟩, .remote ⟨"Region"⟩]
    let policy : BaggagePolicy := (ofRules rules).value
    let propagator := policy.propagator (B3.propagator .multi)
    let context (fields : List (BaggageField × Option String)) : Snapshot :=
      { traceId := ⟨1⟩, spanId := ⟨2⟩, parentId := none, localRootId := none, flags := .sampledYes,
        shared := false, extra := [.marker 7 fields.length, .baggage ⟨fields⟩] }
    let sent := context [(⟨"region"⟩, some "a"), (⟨"COUNTRY"⟩, some "b"), (⟨"user"⟩, some "c")]
    let shown := context [(⟨"country"⟩, some "b"), (⟨"region"⟩, some "d")]
    let carrier : Carrier := ⟨[("x-country", "b"), ("region", "a"), ("b3", "1")]⟩
    let other : Carrier := ⟨[("b3", "1"), ("user", "c"), ("x-country", "b")]⟩
    propagator.inject shown = propagator.inject sent ∧
      (propagator.extract other.get?).value = (propagator.extract carrier.get?).value ∧
      ∃ received : BaggageFields,
        (propagator.extract carrier.get?).value.baggage? = some received ∧
        received.allFields = [⟨"Country"⟩, ⟨"region"⟩] ∧ received.get? ⟨"region"⟩ = none := by
  intro rules policy propagator context sent shown carrier other
  have hpolicy : (ofRules rules).value = policy := rfl
  obtain ⟨hwrites, hreads⟩ :=
    remote_fields_decide hpolicy (B3.bare .multi) (B3.confined .multi) (B3.plain .multi)
  have hwire : ∀ key ∈ B3.singleHeader :: B3.partHeaders, other.get? key = carrier.get? key := by
    decide +kernel
  have hkeys : ∀ rule ∈ policy.remoteRules, ∀ key ∈ rule.keys,
      other.get? key = carrier.get? key := by
    decide +kernel
  have hvalues : ∀ rule ∈ policy.remoteRules,
      shown.fieldValue? rule.field = sent.fieldValue? rule.field := by
    decide +kernel
  obtain ⟨hsame, received, hbaggage, hfields, hlocal⟩ := hreads carrier.get? other.get? hwire hkeys
  exact ⟨hwrites sent shown rfl hvalues, hsame, received, hbaggage, hfields,
    hlocal (.onlyLocal ⟨"region"⟩) (by decide +kernel) rfl⟩

end BaggagePolicy

end RequestTracing
