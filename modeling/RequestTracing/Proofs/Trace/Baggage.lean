import Mathlib
import RequestTracing.Proofs.Text.Lowercase
import RequestTracing.Trace.Baggage

/-!
This module contains what baggage amounts to: a map from what the spellings of a name have in common
to values. Fields are registered without a value, and an update changes the value of one name.
-/

namespace RequestTracing

namespace BaggageField

theorem same_iff {a b : BaggageField} : a.same b ↔ a.key = b.key := by
  unfold same
  rw [beq_iff_eq]

theorem sameIgnoringCase_key_iff (known field : BaggageField) :
    Text.sameIgnoringCase known.key field.name ↔ known.same field := by
  rw [Text.sameIgnoringCase_iff, same_iff]
  unfold key
  rw [Text.asciiLowercase_asciiLowercase]

theorem key_of_create {name : String} {field : BaggageField} (h : create name = .ok field) :
    field.key = Text.asciiLowercase (Text.trim name) := by
  unfold create at h
  dsimp only at h
  split at h
  . cases h
  . rw [← Except.ok.inj h]
    rfl

end BaggageField

namespace BaggageFields

open BaggageField (same_iff)

theorem find?_congr (fields : BaggageFields) {field other : BaggageField}
    (h : field.key = other.key) : fields.find? field = fields.find? other := by
  unfold find? BaggageField.same
  rw [h]

theorem key_eq_of_find?_eq_some {fields : BaggageFields} {field : BaggageField}
    {entry : BaggageField × Option String} (h : fields.find? field = some entry) :
    entry.1.key = field.key := by
  unfold find? at h
  exact same_iff.1 (by simpa using List.find?_some h)

theorem find?_append (entries : List (BaggageField × Option String))
    (added : BaggageField × Option String) (field : BaggageField) :
    find? ⟨entries ++ [added]⟩ field =
      (find? ⟨entries⟩ field).or (if added.1.key = field.key then some added else none) := by
  unfold find?
  dsimp only
  rw [List.find?_append, List.find?_singleton]
  simp only [same_iff]

theorem get?_register (fields : BaggageFields) (field other : BaggageField) :
    (fields.register field).get? other = fields.get? other := by
  unfold register
  split
  . rfl
  . unfold get?
    rw [find?_append]
    cases fields.find? other with
    | some entry => rfl
    | none =>
      rw [Option.none_or]
      split
      . rfl
      . rfl

theorem get?_ofFields (fields : List BaggageField) (field : BaggageField) :
    (ofFields fields).get? field = none := by
  have hfold : ∀ known : BaggageFields,
      (fields.foldl register known).get? field = known.get? field := by
    induction fields with
    | nil => exact fun _ => rfl
    | cons first fields ih =>
      intro known
      rw [List.foldl_cons, ih, get?_register]
  exact hfold ⟨[]⟩

theorem find?_write (fields : BaggageFields) (field other : BaggageField) (value : Option String) :
    find? ⟨fields.entries.map fun entry => if entry.1.same field then (entry.1, value) else entry⟩
        other =
      (fields.find? other).map fun entry =>
        if entry.1.same field then (entry.1, value) else entry := by
  have hsame : ∀ entry : BaggageField × Option String,
      (if entry.1.same field then (entry.1, value) else entry).1 = entry.1 := by
    intro entry
    split
    . rfl
    . rfl
  unfold find?
  dsimp only
  rw [List.find?_map]
  simp only [Function.comp_def, hsame]

theorem get?_update (fields : BaggageFields) (field other : BaggageField) (value : Option String) :
    (fields.update field value).get? other =
      if other.key = field.key then value else fields.get? other := by
  unfold update get?
  -- a known field is written in its place, and a new one is added where it has a value
  cases hfind : fields.find? field with
  | some entry =>
    dsimp only
    rw [find?_write]
    by_cases hkey : other.key = field.key
    . have hentry : entry.1.same field := same_iff.2 (key_eq_of_find?_eq_some hfind)
      rw [if_pos hkey, fields.find?_congr hkey, hfind]
      simp [hentry]
    . rw [if_neg hkey]
      cases hother : fields.find? other with
      | none => rfl
      | some found =>
        have hsame : ¬found.1.same field := by
          rw [same_iff, key_eq_of_find?_eq_some hother]
          exact hkey
        simp [hsame]
  | none =>
    cases value with
    | some value =>
      dsimp only
      rw [find?_append]
      by_cases hkey : other.key = field.key
      . rw [if_pos hkey, if_pos hkey.symm, fields.find?_congr hkey, hfind]
        rfl
      . rw [if_neg hkey, if_neg (Ne.symm hkey), Option.or_none]
    | none =>
      dsimp only
      by_cases hkey : other.key = field.key
      . rw [if_pos hkey, fields.find?_congr hkey, hfind]
        rfl
      . rw [if_neg hkey]

def Holds (fields : BaggageFields) (map : String → Option String) : Prop :=
  ∀ field, fields.get? field = map field.key

theorem holds_ofFields (fields : List BaggageField) : (ofFields fields).Holds fun _ => none :=
  get?_ofFields fields

theorem Holds.update {fields : BaggageFields} {map : String → Option String} (h : fields.Holds map)
    (field : BaggageField) (value : Option String) :
    (fields.update field value).Holds (Function.update map field.key value) := by
  intro other
  rw [get?_update, Function.update_apply, h other]

theorem isSome_find?_iff (fields : BaggageFields) (field : BaggageField) :
    (fields.find? field).isSome ↔ ∃ known ∈ fields.allFields, known.key = field.key := by
  unfold find? allFields
  simp only [List.find?_isSome, List.mem_map, same_iff]
  constructor
  . rintro ⟨entry, hentry, hkey⟩
    exact ⟨entry.1, ⟨entry, hentry, rfl⟩, hkey⟩
  . rintro ⟨_, ⟨entry, hentry, rfl⟩, hkey⟩
    exact ⟨entry, hentry, hkey⟩

theorem allFields_register {fields : BaggageFields} {field : BaggageField}
    (h : ∀ known ∈ fields.allFields, known.key ≠ field.key) :
    (fields.register field).allFields = fields.allFields ++ [field] := by
  have hnew : ¬(fields.entries.any fun entry => entry.1.same field) := by
    rw [List.any_eq_true]
    rintro ⟨entry, hentry, hsame⟩
    exact h entry.1 (List.mem_map_of_mem hentry) (same_iff.1 hsame)
  unfold register
  rw [if_neg hnew]
  unfold allFields
  rw [List.map_append]
  rfl

theorem allFields_ofFields {fields : List BaggageField}
    (h : fields.Pairwise fun a b => a.key ≠ b.key) : (ofFields fields).allFields = fields := by
  have hfold : ∀ known : BaggageFields,
      ((known.allFields ++ fields).Pairwise fun a b => a.key ≠ b.key) →
        (fields.foldl register known).allFields = known.allFields ++ fields := by
    induction fields with
    | nil =>
      intro known _
      rw [List.append_nil]
      rfl
    | cons first fields ih =>
      intro known hknown
      have hfirst : (known.register first).allFields = known.allFields ++ [first] := by
        apply allFields_register
        intro other hother
        exact (List.pairwise_append.1 hknown).2.2 other hother first (List.mem_cons_self ..)
      rw [List.append_cons, ← hfirst] at hknown
      rw [List.foldl_cons, ih (List.pairwise_cons.1 h).2 _ hknown, hfirst, List.append_assoc,
        List.singleton_append]
  exact hfold ⟨[]⟩ h

theorem allFields_update {fields : BaggageFields} {field : BaggageField}
    (h : (fields.find? field).isSome) (value : Option String) :
    (fields.update field value).allFields = fields.allFields := by
  unfold update
  split
  . unfold allFields
    rw [List.map_map]
    apply List.map_congr_left
    intro entry _
    dsimp only [Function.comp]
    split
    . rfl
    . rfl
  . next hnone =>
    rw [hnone] at h
    cases h

theorem byName_eq (fields : BaggageFields) (name : String) :
    fields.byName name =
      (BaggageField.create name).map fun field => (fields.find? field).map (·.1) := by
  unfold byName
  cases BaggageField.create name with
  | error e => rfl
  | ok field =>
    have hfind : (fields.allFields.find? fun known =>
        Text.sameIgnoringCase known.key field.name) = (fields.find? field).map (·.1) := by
      have hsame : (fun known : BaggageField => Text.sameIgnoringCase known.key field.name) =
          fun known => known.same field := by
        funext known
        rw [Bool.eq_iff_iff, BaggageField.sameIgnoringCase_key_iff]
      rw [hsame]
      exact List.find?_map ..
    exact congrArg Except.ok hfind

end BaggageFields

end RequestTracing
