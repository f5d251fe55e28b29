import Mathlib

/-!
This module contains the look-up of keys in lists of entries, of which the library makes its tables:
what is left after a key was removed, and that entries are found where each key occurs once.
-/

namespace RequestTracing.Lookup

variable {κ β : Type} [DecidableEq κ]

theorem lookup_cons_ne {key other : κ} (h : other ≠ key) (value : β) (rest : List (κ × β)) :
    ((key, value) :: rest).lookup other = rest.lookup other := by
  rw [List.lookup_cons, beq_eq_false_iff_ne.2 h]

theorem lookup_filter_ne (entries : List (κ × β)) (key other : κ) :
    (entries.filter fun entry => entry.1 ≠ key).lookup other =
      if other = key then none else entries.lookup other := by
  induction entries with
  | nil => simp
  | cons entry rest ih =>
    obtain ⟨k, value⟩ := entry
    by_cases hk : k = key
    . rw [List.filter_cons_of_neg (by simpa using hk), ih]
      split
      . rfl
      . next hother => rw [lookup_cons_ne (by rwa [hk])]
    . rw [List.filter_cons_of_pos (by simpa using hk)]
      by_cases hother : other = k
      . simp [hother, hk]
      . rw [lookup_cons_ne hother, lookup_cons_ne hother, ih]

theorem mem_of_lookup_eq_some {entries : List (κ × β)} {key : κ} {value : β}
    (h : entries.lookup key = some value) : (key, value) ∈ entries := by
  obtain ⟨before, after, rfl, _⟩ := List.lookup_eq_some_iff.1 h
  simp

theorem lookup_eq_some_of_mem {entries : List (κ × β)} (hnodup : (entries.map (·.1)).Nodup)
    {key : κ} {value : β} (h : (key, value) ∈ entries) : entries.lookup key = some value := by
  induction entries with
  | nil => simp at h
  | cons entry rest ih =>
    obtain ⟨k, v⟩ := entry
    rw [List.map_cons, List.nodup_cons] at hnodup
    cases List.mem_cons.1 h with
    | inl heq =>
      obtain ⟨rfl, rfl⟩ := Prod.mk.inj heq
      rw [List.lookup_cons_self]
    | inr hmem =>
      have hne : key ≠ k := by
        intro heq
        apply hnodup.1
        rw [← heq]
        exact List.mem_map_of_mem (f := (·.1)) hmem
      rw [lookup_cons_ne hne, ih hnodup.2 hmem]

end RequestTracing.Lookup
