import Mathlib
import RequestTracing.Proofs.Lookup
import RequestTracing.Propagation.Carrier

/-!
This module contains what a carrier holds after several values were stored in it. Keys are taken as
they are when they are in lower case already.
-/

namespace RequestTracing.Carrier

theorem find?_setAll_of_not_mem {calls : List (String × String)} {key : String}
    (h : ∀ call ∈ calls, Text.lowercase call.1 ≠ key) (carrier : Carrier) :
    (carrier.setAll calls).find? key = carrier.find? key := by
  unfold setAll
  induction calls generalizing carrier with
  | nil => rfl
  | cons call calls ih =>
    rw [List.foldl_cons, ih fun other hother => h other (List.mem_cons_of_mem call hother)]
    unfold set
    rw [find?_put, if_neg (h call (List.mem_cons_self ..))]

theorem find?_setAll {calls : List (String × String)}
    (hlower : ∀ call ∈ calls, Text.lowercase call.1 = call.1)
    (hnodup : (calls.map (·.1)).Nodup) (carrier : Carrier) (key : String) :
    (carrier.setAll calls).find? key = (calls.lookup key).or (carrier.find? key) := by
  unfold setAll
  induction calls generalizing carrier with
  | nil => rfl
  | cons call calls ih =>
    obtain ⟨k, value⟩ := call
    rw [List.map_cons, List.nodup_cons] at hnodup
    rw [List.foldl_cons, ih (fun other hother => hlower other (List.mem_cons_of_mem _ hother))
      hnodup.2]
    have hk : Text.lowercase k = k := hlower (k, value) (List.mem_cons_self ..)
    unfold set
    rw [hk, find?_put]
    -- no later call has the key again, so none takes this value back
    by_cases hkey : key = k
    . subst hkey
      have hnone : calls.lookup key = none := by
        rw [List.lookup_eq_none_iff]
        intro call hcall
        rw [bne_iff_ne]
        intro heq
        apply hnodup.1
        rw [heq]
        exact List.mem_map_of_mem (f := (·.1)) hcall
      rw [List.lookup_cons_self, hnone, if_pos rfl]
      rfl
    . rw [Lookup.lookup_cons_ne hkey, if_neg (Ne.symm hkey)]

theorem setAll_append (carrier : Carrier) (calls more : List (String × String)) :
    carrier.setAll (calls ++ more) = (carrier.setAll calls).setAll more :=
  List.foldl_append

theorem get?_setAll_of_not_mem {calls : List (String × String)} {key : String}
    (h : ∀ call ∈ calls, Text.lowercase call.1 ≠ Text.lowercase key) (carrier : Carrier) :
    (carrier.setAll calls).get? key = carrier.get? key :=
  find?_setAll_of_not_mem h carrier

theorem get?_setAll_of_mem {calls : List (String × String)} {key value : String}
    (hmem : ∃ call ∈ calls, Text.lowercase call.1 = Text.lowercase key)
    (hvalue : ∀ call ∈ calls, Text.lowercase call.1 = Text.lowercase key → call.2 = value)
    (carrier : Carrier) : (carrier.setAll calls).get? key = some value := by
  induction calls generalizing carrier with
  | nil => simp at hmem
  | cons call calls ih =>
    change ((carrier.set call.1 call.2).setAll calls).get? key = some value
    have hrest : ∀ other ∈ calls, Text.lowercase other.1 = Text.lowercase key → other.2 = value :=
      fun other hother => hvalue other (List.mem_cons_of_mem call hother)
    by_cases hlater : ∃ other ∈ calls, Text.lowercase other.1 = Text.lowercase key
    . exact ih hlater hrest _
    . -- no later call sets the key, so the first one decides
      have hother : ∀ other ∈ calls, Text.lowercase other.1 ≠ Text.lowercase key :=
        fun other hother heq => hlater ⟨other, hother, heq⟩
      have hcall : Text.lowercase call.1 = Text.lowercase key := by
        rcases hmem with ⟨found, hfound, hkey⟩
        cases List.mem_cons.1 hfound with
        | inl heq => rw [← heq, hkey]
        | inr hlate => exact absurd hkey (hother found hlate)
      rw [get?_setAll_of_not_mem hother, get?_set, if_pos hcall,
        hvalue call (List.mem_cons_self ..) hcall]

end RequestTracing.Carrier
