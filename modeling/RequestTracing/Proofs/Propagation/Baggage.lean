import Mathlib
import RequestTracing.Proofs.Propagation.Carrier
import RequestTracing.Proofs.Propagation.PartHeaders
import RequestTracing.Proofs.Trace.Baggage
import RequestTracing.Propagation.Baggage

/-!
This module contains what becomes of baggage on its way through a carrier. Main statement: where the
keys of the fields are apart from each other and from those of the delegate, every remote field
arrives as it was sent, no local field does, and the delegate reads what it reads alone.
-/

namespace RequestTracing

structure Propagator.Confined (propagator : Propagator) (keys : Set String) : Prop where
  writes : ∀ context, ∀ call ∈ propagator.inject context, call.1 ∈ keys
  reads : ∀ get other : String → Option String, (∀ key ∈ keys, other key = get key) →
    (propagator.extract other).value = (propagator.extract get).value

def Propagator.Plain (propagator : Propagator) : Prop :=
  ∀ get, (propagator.extract get).value.baggage? = none

theorem Extraction.baggage?_withExtra {read : Reading} (h : read.baggage? = none)
    (baggage : BaggageFields) : (read.withExtra (.baggage baggage)).baggage? = some baggage := by
  rcases read with ⟨found, extra⟩
  cases found with
  | context context =>
    unfold baggage? withExtra TraceContext.baggage? TraceContext.withExtra at *
    dsimp only at h ⊢
    rw [List.findSome?_append, h]
    rfl
  | flags flags =>
    unfold baggage? withExtra at *
    dsimp only at h ⊢
    rw [List.findSome?_append, h]
    rfl

namespace B3

theorem confined (encoding : Encoding) :
    (propagator encoding).Confined {name | name ∈ singleHeader :: partHeaders} where
  writes _ _ hcall := key_mem_headers hcall
  reads get other h := by
    have hsingle := h singleHeader (List.mem_cons_self ..)
    have hparts : (extractParts other : Except PartFault Reading) = extractParts get :=
      extractParts_congr fun name hname => h name (List.mem_cons_of_mem _ hname)
    change (extract other : Logged Reading).value = (extract get).value
    unfold extract
    rw [hsingle, hparts]

theorem baggage?_of_parseSingle? {value : List Char} {read : Reading}
    (h : parseSingle? value = some read) : read.baggage? = none := by
  unfold parseSingle? at h
  split at h
  . rw [Option.map_eq_some_iff] at h
    rcases h with ⟨flags, _, hread⟩
    rw [← hread]
    rfl
  . rw [Option.map_eq_some_iff] at h
    rcases h with ⟨context, hcontext, hread⟩
    rw [← hread]
    have hparts := parseParts?_eq_some_iff.1 hcontext
    generalize Text.splitAt '-' (Text.trimBlank value) = parts at hparts
    cases hparts with
    | mk _ _ _ _ _ => rfl

theorem baggage?_of_partHeaders {get : String → Option String} {read : Reading}
    (h : PartHeaders get read) : read.baggage? = none := by
  cases h with
  | context hheaders =>
    cases hheaders with
    | mk _ _ _ _ _ _ _ _ => rfl
  | flags _ => rfl
  | malformed _ _ => rfl

theorem plain (encoding : Encoding) : (propagator encoding).Plain := by
  intro get
  rcases value_extract_eq_iff.1 rfl with ⟨value, _, hread⟩ | ⟨_, hparts⟩
  . exact baggage?_of_parseSingle? hread
  . exact baggage?_of_partHeaders hparts

end B3

namespace BaggagePolicy

def Distinct (policy : BaggagePolicy) : Prop :=
  policy.rules.Pairwise fun a b => a.field.key ≠ b.field.key

theorem Distinct.add {policy : BaggagePolicy} (h : policy.Distinct) (rule : BaggageRule) :
    (policy.add rule).value.Distinct := by
  unfold BaggagePolicy.add
  split
  . exact h
  . next hnew =>
    apply List.pairwise_append.2
    refine ⟨h, List.pairwise_singleton _ _, ?_⟩
    intro known hknown added hadded heq
    rw [List.mem_singleton.1 hadded] at heq
    exact hnew (List.any_eq_true.2 ⟨known, hknown, BaggageField.same_iff.2 heq⟩)

theorem Distinct.addAll {policy : BaggagePolicy} (h : policy.Distinct) (rules : List BaggageRule) :
    (policy.addAll rules).value.Distinct := by
  induction rules generalizing policy with
  | nil => exact h
  | cons rule rules ih => exact ih (h.add rule)

theorem distinct_ofRules (rules : List BaggageRule) : (ofRules rules).value.Distinct :=
  Distinct.addAll List.Pairwise.nil rules

theorem mem_remoteRules {policy : BaggagePolicy} {rule : BaggageRule} :
    rule ∈ policy.remoteRules ↔ rule ∈ policy.rules ∧ rule.isRemote :=
  List.mem_filter

theorem mem_keys {policy : BaggagePolicy} {rule : BaggageRule} {key : String}
    (hrule : rule ∈ policy.rules) (hkey : key ∈ rule.keys) : key ∈ policy.keys :=
  List.mem_flatMap.2 ⟨rule, hrule, hkey⟩

theorem mem_calls {policy : BaggagePolicy} {baggage : BaggageFields} {call : String × String} :
    call ∈ policy.calls baggage ↔ ∃ rule ∈ policy.remoteRules,
      baggage.get? rule.field = some call.2 ∧ call.1 ∈ rule.keys := by
  rcases call with ⟨key, value⟩
  unfold calls
  rw [List.mem_flatMap]
  apply exists_congr
  intro rule
  apply and_congr_right
  intro _
  cases baggage.get? rule.field with
  | none => simp
  | some found => simp [and_comm]

theorem key_mem_of_mem_calls {policy : BaggagePolicy} {baggage : BaggageFields}
    {call : String × String} (h : call ∈ policy.calls baggage) : call.1 ∈ policy.keys := by
  rcases mem_calls.1 h with ⟨rule, hrule, _, hkey⟩
  exact mem_keys (mem_remoteRules.1 hrule).1 hkey

theorem rule_eq_of_key {policy : BaggagePolicy}
    (hkeys : (policy.keys.map Text.lowercase).Nodup) {rule other : BaggageRule}
    (hrule : rule ∈ policy.rules) (hother : other ∈ policy.rules) {key wire : String}
    (hkey : key ∈ rule.keys) (hwire : wire ∈ other.keys)
    (h : Text.lowercase key = Text.lowercase wire) : rule = other := by
  unfold keys at hkeys
  rw [List.map_flatMap, List.nodup_flatMap] at hkeys
  by_contra hne
  have hsymm : Std.Symm (Function.onFun List.Disjoint fun rule : BaggageRule =>
      rule.keys.map Text.lowercase) := ⟨fun _ _ hdisjoint => hdisjoint.symm⟩
  have hdisjoint := hkeys.2.forall hrule hother hne
  exact hdisjoint (List.mem_map_of_mem hkey) (h ▸ List.mem_map_of_mem hwire)

theorem lookUp_setAll_calls {policy : BaggagePolicy}
    (hkeys : (policy.keys.map Text.lowercase).Nodup) (baggage : BaggageFields) {carrier : Carrier}
    (hfree : ∀ key ∈ policy.keys, carrier.get? key = none) {rule : BaggageRule}
    (hrule : rule ∈ policy.remoteRules) :
    lookUp (carrier.setAll (policy.calls baggage)).get? rule = baggage.get? rule.field := by
  have hmem := (mem_remoteRules.1 hrule).1
  -- whatever sets a key of this rule comes from this rule
  have hcall : ∀ key ∈ rule.keys, ∀ call ∈ policy.calls baggage,
      Text.lowercase call.1 = Text.lowercase key → baggage.get? rule.field = some call.2 := by
    intro key hkey call hcalls hsame
    rcases mem_calls.1 hcalls with ⟨other, hother, hvalue, hwire⟩
    have heq := rule_eq_of_key hkeys (mem_remoteRules.1 hother).1 hmem hwire hkey hsame
    rw [← heq, hvalue]
  unfold lookUp
  cases hvalue : baggage.get? rule.field with
  | none =>
    rw [List.findSome?_eq_none_iff]
    intro key hkey
    rw [Carrier.get?_setAll_of_not_mem]
    . exact hfree key (mem_keys hmem hkey)
    . intro call hcalls hsame
      have hfound := hcall key hkey call hcalls hsame
      rw [hvalue] at hfound
      cases hfound
  | some value =>
    have hset : ∀ key ∈ rule.keys,
        (carrier.setAll (policy.calls baggage)).get? key = some value := by
      intro key hkey
      apply Carrier.get?_setAll_of_mem
      . exact ⟨(key, value), mem_calls.2 ⟨rule, hrule, hvalue, hkey⟩, rfl⟩
      . intro call hcalls hsame
        have hfound := hcall key hkey call hcalls hsame
        rw [hvalue] at hfound
        exact (Option.some.inj hfound).symm
    have hremote := (mem_remoteRules.1 hrule).2
    unfold BaggageRule.isRemote at hremote
    cases hnames : rule.keys with
    | nil =>
      rw [hnames] at hremote
      cases hremote
    | cons key names =>
      have hfirst := hset key (by rw [hnames]; exact List.mem_cons_self ..)
      rw [List.findSome?_cons, hfirst]

def store (baggage : BaggageFields) (field : BaggageField) (value? : Option String) :
    BaggageFields :=
  match value? with
  | some value => baggage.update field (some value)
  | none => baggage

theorem read_eq (policy : BaggagePolicy) (get : String → Option String) :
    policy.read get =
      policy.remoteRules.foldl (fun baggage rule => store baggage rule.field (lookUp get rule))
        (.ofFields policy.fields) :=
  rfl

theorem get?_store (baggage : BaggageFields) (field other : BaggageField)
    (value? : Option String) :
    (store baggage field value?).get? other =
      if other.key = field.key then value?.or (baggage.get? other) else baggage.get? other := by
  unfold store
  cases value? with
  | none => simp
  | some value => rw [BaggageFields.get?_update, Option.some_or]

theorem allFields_store {baggage : BaggageFields} {field : BaggageField}
    (h : field ∈ baggage.allFields) (value? : Option String) :
    (store baggage field value?).allFields = baggage.allFields := by
  unfold store
  cases value? with
  | none => rfl
  | some value =>
    apply BaggageFields.allFields_update
    exact (baggage.isSome_find?_iff field).2 ⟨field, h, rfl⟩

theorem allFields_foldl_store {rules : List BaggageRule} (get : String → Option String)
    {baggage : BaggageFields} (h : ∀ rule ∈ rules, rule.field ∈ baggage.allFields) :
    (rules.foldl (fun baggage rule => store baggage rule.field (lookUp get rule))
      baggage).allFields = baggage.allFields := by
  induction rules generalizing baggage with
  | nil => rfl
  | cons rule rules ih =>
    have hrule := allFields_store (h rule (List.mem_cons_self ..)) (lookUp get rule)
    rw [List.foldl_cons, ih, hrule]
    intro other hother
    rw [hrule]
    exact h other (List.mem_cons_of_mem rule hother)

theorem get?_foldl_store_of_not_mem {rules : List BaggageRule} (get : String → Option String)
    {field : BaggageField} (h : ∀ rule ∈ rules, field.key ≠ rule.field.key)
    (baggage : BaggageFields) :
    (rules.foldl (fun baggage rule => store baggage rule.field (lookUp get rule))
      baggage).get? field = baggage.get? field := by
  induction rules generalizing baggage with
  | nil => rfl
  | cons rule rules ih =>
    rw [List.foldl_cons, ih fun other hother => h other (List.mem_cons_of_mem rule hother),
      get?_store, if_neg (h rule (List.mem_cons_self ..))]

theorem get?_foldl_store_of_mem {rules : List BaggageRule}
    (hdistinct : rules.Pairwise fun a b => a.field.key ≠ b.field.key)
    (get : String → Option String) {rule : BaggageRule} (hrule : rule ∈ rules)
    (baggage : BaggageFields) :
    (rules.foldl (fun baggage rule => store baggage rule.field (lookUp get rule))
      baggage).get? rule.field = (lookUp get rule).or (baggage.get? rule.field) := by
  induction rules generalizing baggage with
  | nil => cases hrule
  | cons first rules ih =>
    have ⟨hfirst, hrest⟩ := List.pairwise_cons.1 hdistinct
    rw [List.foldl_cons]
    cases List.mem_cons.1 hrule with
    | inl heq => rw [heq, get?_foldl_store_of_not_mem get hfirst, get?_store, if_pos rfl]
    | inr hmem => rw [ih hrest hmem, get?_store, if_neg (Ne.symm (hfirst rule hmem))]

theorem Distinct.allFields_read {policy : BaggagePolicy} (h : policy.Distinct)
    (get : String → Option String) : (policy.read get).allFields = policy.fields := by
  have hfields : (BaggageFields.ofFields policy.fields).allFields = policy.fields :=
    BaggageFields.allFields_ofFields (List.pairwise_map.2 h)
  rw [read_eq, allFields_foldl_store, hfields]
  intro rule hrule
  rw [hfields]
  exact List.mem_map_of_mem (mem_remoteRules.1 hrule).1

theorem Distinct.get?_read {policy : BaggagePolicy} (h : policy.Distinct)
    (get : String → Option String) {rule : BaggageRule} (hrule : rule ∈ policy.rules) :
    (policy.read get).get? rule.field = if rule.isRemote then lookUp get rule else none := by
  rw [read_eq]
  split
  . next hremote =>
    have hdistinct : policy.remoteRules.Pairwise fun a b => a.field.key ≠ b.field.key :=
      h.sublist List.filter_sublist
    rw [get?_foldl_store_of_mem hdistinct get (mem_remoteRules.2 ⟨hrule, hremote⟩),
      BaggageFields.get?_ofFields, Option.or_none]
  -- no remote rule stores to the field of a local one, since every field has one rule
  . next hlocal =>
    rw [get?_foldl_store_of_not_mem, BaggageFields.get?_ofFields]
    intro other hother heq
    have ⟨hmem, hremote⟩ := mem_remoteRules.1 hother
    have hsymm : Std.Symm fun a b : BaggageRule => a.field.key ≠ b.field.key :=
      ⟨fun _ _ hne => hne.symm⟩
    by_cases hsame : rule = other
    . rw [hsame] at hlocal
      exact hlocal hremote
    . exact h.forall hrule hmem hsame heq

theorem value_extract_setAll_calls {policy : BaggagePolicy} {delegate : Propagator}
    {wireKeys : Set String} (hconfined : delegate.Confined wireKeys)
    (hapart : ∀ key ∈ policy.keys, ∀ wire ∈ wireKeys, Text.lowercase key ≠ Text.lowercase wire)
    (baggage : BaggageFields) (carrier : Carrier) :
    (delegate.extract (carrier.setAll (policy.calls baggage)).get?).value =
      (delegate.extract carrier.get?).value := by
  apply hconfined.reads
  intro wire hwire
  apply Carrier.get?_setAll_of_not_mem
  intro call hcall
  exact hapart call.1 (key_mem_of_mem_calls hcall) wire hwire

/--
What a carrier gives back after a context with baggage was written to it: the result of the delegate
alone, with every configured field in order. A remote field has the value it was sent with, or none;
a local field has none.
-/
theorem extract_propagator_inject {rules : List BaggageRule} {policy : BaggagePolicy}
    (hpolicy : (ofRules rules).value = policy) {delegate : Propagator} {wireKeys : Set String}
    (hconfined : delegate.Confined wireKeys) (hplain : delegate.Plain)
    (hkeys : (policy.keys.map Text.lowercase).Nodup)
    (hapart : ∀ key ∈ policy.keys, ∀ wire ∈ wireKeys, Text.lowercase key ≠ Text.lowercase wire)
    {context : Snapshot} {sent : BaggageFields} (hsent : context.baggage? = some sent)
    {carrier : Carrier} (hfree : ∀ key ∈ policy.keys, carrier.get? key = none) :
    let written := carrier.setAll ((policy.propagator delegate).inject context)
    let alone := (delegate.extract (carrier.setAll (delegate.inject context)).get?).value
    let read := ((policy.propagator delegate).extract written.get?).value
    ∃ received : BaggageFields,
      read = alone.withExtra (.baggage received) ∧
      read.baggage? = some received ∧
      received.allFields = policy.fields ∧
      ∀ rule ∈ policy.rules,
        received.get? rule.field = if rule.isRemote then sent.get? rule.field else none := by
  intro written alone read
  have hdistinct : policy.Distinct := by
    rw [← hpolicy]
    exact distinct_ofRules rules
  have hwritten : written =
      (carrier.setAll (delegate.inject context)).setAll (policy.calls sent) := by
    rw [← Carrier.setAll_append]
    dsimp only [written, propagator]
    rw [hsent]
  -- the delegate writes under keys of its own, so those of the fields stay free for the baggage
  have hstill : ∀ key ∈ policy.keys,
      (carrier.setAll (delegate.inject context)).get? key = none := by
    intro key hkey
    rw [Carrier.get?_setAll_of_not_mem, hfree key hkey]
    intro call hcall heq
    exact hapart key hkey call.1 (hconfined.writes context call hcall) heq.symm
  have hread : read = alone.withExtra (.baggage (policy.read written.get?)) := by
    dsimp only [read, alone]
    rw [← value_extract_setAll_calls hconfined hapart sent, ← hwritten]
    rfl
  refine ⟨policy.read written.get?, hread, ?_, hdistinct.allFields_read _, ?_⟩
  . rw [hread]
    exact Extraction.baggage?_withExtra (hplain _) _
  . intro rule hrule
    rw [hdistinct.get?_read written.get? hrule, hwritten]
    split
    . next hremote =>
      exact lookUp_setAll_calls hkeys sent hstill (mem_remoteRules.2 ⟨hrule, hremote⟩)
    . rfl

theorem extract_propagator_inject_b3 :
    let rules : List BaggageRule :=
      [⟨⟨"Country"⟩, ["country", "x-country"]⟩, .onlyLocal ⟨"region"⟩, .remote ⟨"user"⟩,
        .remote ⟨"COUNTRY"⟩]
    let policy : BaggagePolicy := (ofRules rules).value
    let context : Snapshot :=
      { traceId := ⟨1⟩, spanId := ⟨2⟩, parentId := none, localRootId := none, flags := .sampledYes,
        shared := false,
        extra := [.marker 7 0, .baggage
          ⟨[(⟨"other"⟩, some "a"), (⟨"region"⟩, some "b"), (⟨"COUNTRY"⟩, some "")]⟩] }
    let carrier : Carrier := ⟨[("host", "c"), ("X-Country", "d")]⟩
    let written := carrier.setAll ((policy.propagator (B3.propagator .single)).inject context)
    ∃ received : BaggageFields,
      ((policy.propagator (B3.propagator .single)).extract written.get?).value.baggage? =
        some received ∧
      received.allFields = [⟨"Country"⟩, ⟨"region"⟩, ⟨"user"⟩] ∧
      received.get? ⟨"Country"⟩ = some "" ∧
      received.get? ⟨"region"⟩ = none ∧
      received.get? ⟨"user"⟩ = none := by
  intro rules policy context carrier written
  have hkeys : (policy.keys.map Text.lowercase).Nodup := by decide +kernel
  have hapart : ∀ key ∈ policy.keys, ∀ wire ∈ B3.singleHeader :: B3.partHeaders,
      Text.lowercase key ≠ Text.lowercase wire := by
    decide +kernel
  have hfree : ∀ key ∈ policy.keys, carrier.get? key = none := by decide +kernel
  have hpolicy : (ofRules rules).value = policy := rfl
  have hsent : context.baggage? =
      some ⟨[(⟨"other"⟩, some "a"), (⟨"region"⟩, some "b"), (⟨"COUNTRY"⟩, some "")]⟩ := rfl
  have ⟨received, _, hbaggage, hfields, hvalues⟩ :=
    extract_propagator_inject hpolicy (B3.confined .single) (B3.plain .single) hkeys hapart hsent
      hfree
  have hcountry := hvalues ⟨⟨"Country"⟩, ["country", "x-country"]⟩ (by decide)
  have hregion := hvalues ⟨⟨"region"⟩, []⟩ (by decide)
  have huser := hvalues ⟨⟨"user"⟩, ["user"]⟩ (by decide)
  exact ⟨received, hbaggage, hfields, hcountry, hregion, huser⟩

end BaggagePolicy

end RequestTracing
