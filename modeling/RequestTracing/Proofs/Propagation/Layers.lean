import Mathlib
import RequestTracing.Proofs.Propagation.Baggage

/-!
This module contains which fields propagators say they use. Main statement: baggage propagation in
any number of layers over B3 writes under the fields that it names alone, names each of them once
and those of the layers below first, and leaves all other entries of a carrier as they are.
-/

namespace RequestTracing

structure Propagator.NamesWrites (propagator : Propagator) : Prop where
  writes : ∀ context, ∀ call ∈ propagator.inject context, call.1 ∈ propagator.fields
  nodup : propagator.fields.Nodup

theorem Propagator.NamesWrites.find?_setAll {propagator : Propagator} (h : propagator.NamesWrites)
    (context : Snapshot) (carrier : Carrier) {key : String}
    (hkey : key ∉ propagator.fields.map Text.lowercase) :
    (carrier.setAll (propagator.inject context)).find? key = carrier.find? key := by
  apply Carrier.find?_setAll_of_not_mem
  intro call hcall heq
  apply hkey
  rw [← heq]
  exact List.mem_map_of_mem (h.writes context call hcall)

namespace B3

theorem namesWrites (encoding : Encoding) : (propagator encoding).NamesWrites where
  writes _ _ hcall := key_mem_fields hcall
  nodup := by cases encoding <;> decide

end B3

namespace BaggagePolicy

variable {known keys : List String}

theorem addKeys_cons (known : List String) (key : String) (keys : List String) :
    addKeys known (key :: keys) = addKeys (if key ∈ known then known else known ++ [key]) keys :=
  rfl

theorem prefix_addKeys (known keys : List String) : known <+: addKeys known keys := by
  induction keys generalizing known with
  | nil => exact List.prefix_rfl
  | cons key keys ih =>
    rw [addKeys_cons]
    split
    . exact ih known
    . exact (List.prefix_append known [key]).trans (ih _)

theorem nodup_addKeys (h : known.Nodup) : (addKeys known keys).Nodup := by
  induction keys generalizing known with
  | nil => exact h
  | cons key keys ih =>
    rw [addKeys_cons]
    split
    . exact ih h
    . next hnew =>
      apply ih
      rw [← List.concat_eq_append]
      exact List.Nodup.concat hnew h

theorem mem_addKeys_of_mem {key : String} (h : key ∈ keys) : key ∈ addKeys known keys := by
  induction keys generalizing known with
  | nil => simp at h
  | cons first keys ih =>
    rw [addKeys_cons]
    cases List.mem_cons.1 h with
    | inl heq =>
      apply (prefix_addKeys _ keys).subset
      rw [heq]
      split
      . next hknown => exact hknown
      . simp
    | inr hmem => exact ih hmem

theorem namesWrites {delegate : Propagator} (h : delegate.NamesWrites) (policy : BaggagePolicy) :
    (policy.propagator delegate).NamesWrites where
  writes context call hcall := by
    rw [propagator] at hcall ⊢
    dsimp only at hcall ⊢
    cases List.mem_append.1 hcall with
    | inl hdelegate => exact (prefix_addKeys _ _).subset (h.writes context call hdelegate)
    | inr hbaggage =>
      apply mem_addKeys_of_mem
      split at hbaggage
      . exact key_mem_of_mem_calls hbaggage
      . simp at hbaggage
  nodup := nodup_addKeys h.nodup

end BaggagePolicy

def layered (encoding : B3.Encoding) : List (List BaggageRule) → Propagator
  | [] => B3.propagator encoding
  | rules :: below => (BaggagePolicy.ofRules rules).value.propagator (layered encoding below)

theorem namesWrites_layered (encoding : B3.Encoding) (layers : List (List BaggageRule)) :
    (layered encoding layers).NamesWrites := by
  induction layers with
  | nil => exact B3.namesWrites encoding
  | cons rules below ih => exact BaggagePolicy.namesWrites ih _

theorem fields_layered_prefix (encoding : B3.Encoding) {below layers : List (List BaggageRule)}
    (h : below <:+ layers) :
    (layered encoding below).fields <+: (layered encoding layers).fields := by
  induction layers with
  | nil => rw [List.suffix_nil.1 h]
  | cons rules others ih =>
    cases List.suffix_cons_iff.1 h with
    | inl heq => rw [heq]
    | inr hsuffix => exact (ih hsuffix).trans (BaggagePolicy.prefix_addKeys _ _)

/--
Layers of baggage propagation write under the fields that they name, whatever the rules and the
context are. They name no field twice, and first the fields of what is below any layer, in order. No
entry of a carrier is touched whose key is not the lower-case form of a field.
-/
theorem layers_write_named_fields (encoding : B3.Encoding) (layers : List (List BaggageRule))
    (context : Snapshot) :
    let propagator := layered encoding layers
    (∀ call ∈ propagator.inject context, call.1 ∈ propagator.fields) ∧
    propagator.fields.Nodup ∧
    (∀ below, below <:+ layers → (layered encoding below).fields <+: propagator.fields) ∧
    ∀ (carrier : Carrier) (key : String), key ∉ propagator.fields.map Text.lowercase →
      (carrier.setAll (propagator.inject context)).find? key = carrier.find? key := by
  intro propagator
  have hnames := namesWrites_layered encoding layers
  refine ⟨hnames.writes context, hnames.nodup, ?_, ?_⟩
  . intro below hbelow
    exact fields_layered_prefix encoding hbelow
  . intro carrier key hkey
    exact hnames.find?_setAll context carrier hkey

theorem layers_write_named_fields_shared_key :
    let inner : List BaggageRule :=
      [.remote ⟨"user"⟩, ⟨⟨"USER"⟩, ["login"]⟩, ⟨⟨"city"⟩, ["country"]⟩, .onlyLocal ⟨"region"⟩]
    let outer : List BaggageRule := [⟨⟨"Country"⟩, ["country", "x-b3-traceid"]⟩]
    let propagator := layered .single [outer, inner]
    let context : Snapshot :=
      { traceId := ⟨1⟩, spanId := ⟨2⟩, parentId := none, localRootId := none, flags := .sampledYes,
        shared := false,
        extra := [.baggage ⟨[(⟨"country"⟩, some "fr"), (⟨"city"⟩, some "paris"),
          (⟨"region"⟩, some "idf")]⟩] }
    let carrier : Carrier := ⟨[("region", "a"), ("X-B3-TraceId", "b"), ("country", "c")]⟩
    let written := carrier.setAll (propagator.inject context)
    "x-b3-traceid" ∈ propagator.fields ∧ propagator.fields.Nodup ∧
      ["b3", "user", "country"] <+: propagator.fields ∧
      written.find? "X-B3-TraceId" = some "b" ∧ written.find? "region" = some "a" := by
  intro inner outer propagator context carrier written
  obtain ⟨hwrites, hnodup, hprefix, hkeeps⟩ :=
    layers_write_named_fields .single [outer, inner] context
  have hcall : ("x-b3-traceid", "fr") ∈ propagator.inject context := by decide +kernel
  have hbelow : [inner] <:+ [outer, inner] := List.suffix_cons outer [inner]
  have hfields : (layered .single [inner]).fields = ["b3", "user", "country"] := by decide +kernel
  refine ⟨hwrites _ hcall, hnodup, hfields ▸ hprefix [inner] hbelow, (hkeeps carrier _ ?_).trans ?_,
    (hkeeps carrier _ ?_).trans ?_⟩
  . decide +kernel
  . decide +kernel
  . decide +kernel
  . decide +kernel

end RequestTracing
