import Mathlib
import RequestTracing.Json.Value

/-!
This module contains documents as lists of items and of members, and the documents in which no value
is null and no key stands twice in one object.
-/

namespace RequestTracing.Json

theorem Value.toList_toText (value : Value) : value.toText.toList = value.chars :=
  String.toList_ofList

namespace Items

@[simp]
theorem ofList_toList (items : Items) : ofList items.toList = items := by
  match items with
  | .nil => rfl
  | .cons item others => rw [toList, ofList, ofList_toList others]

theorem flatten_pieces_ofList (items : List Value) :
    (ofList items).pieces.flatten = [','].intercalate (items.map Value.chars) := by
  induction items with
  | nil => rfl
  | cons item others ih =>
    cases others with
    | nil => simp [ofList, pieces, Value.chars]
    | cons next others =>
      rw [ofList, ofList, pieces, ← ofList, List.flatten_append, List.flatten_cons, ih]
      . simp [Value.chars]
      . simp

end Items

@[simp]
theorem Members.ofList_toList (members : Members) : ofList members.toList = members := by
  match members with
  | .nil => rfl
  | .cons key value others => rw [toList, ofList, ofList_toList others]

@[simp]
theorem Members.toList_ofList (members : List (String × Value)) :
    (ofList members).toList = members := by
  induction members with
  | nil => rfl
  | cons member others ih => rw [ofList, toList, ih]

def Value.member? : Value → String → Option Value
  | object members, key => members.toList.lookup key
  | _, _ => none

theorem Value.member?_object (members : List (String × Value)) (key : String) :
    (object (.ofList members)).member? key = members.lookup key :=
  congrArg (List.lookup key) (Members.toList_ofList members)

mutual

def Value.Clean : Value → Prop
  | .null => False
  | .bool _ => True
  | .number _ => True
  | .string _ => True
  | .array items => items.Clean
  | .object members => (members.toList.map (·.1)).Nodup ∧ members.Clean

def Items.Clean : Items → Prop
  | .nil => True
  | .cons item rest => item.Clean ∧ rest.Clean

def Members.Clean : Members → Prop
  | .nil => True
  | .cons _ value rest => value.Clean ∧ rest.Clean

end

theorem Items.clean_ofList {items : List Value} :
    (ofList items).Clean ↔ ∀ item ∈ items, item.Clean := by
  induction items with
  | nil => simp [ofList, Clean]
  | cons item others ih => rw [ofList, Clean, ih, List.forall_mem_cons]

theorem Members.clean_ofList {members : List (String × Value)} :
    (ofList members).Clean ↔ ∀ member ∈ members, member.2.Clean := by
  induction members with
  | nil => simp [ofList, Clean]
  | cons member others ih => rw [ofList, Clean, ih, List.forall_mem_cons]

theorem Value.clean_object {members : List (String × Value)}
    (hnodup : (members.map (·.1)).Nodup) (h : ∀ member ∈ members, member.2.Clean) :
    (object (.ofList members)).Clean := by
  rw [Clean, Members.toList_ofList]
  exact ⟨hnodup, Members.clean_ofList.2 h⟩

theorem Value.clean_array {items : List Value} (h : ∀ item ∈ items, item.Clean) :
    (array (.ofList items)).Clean := by
  rw [Clean]
  exact Items.clean_ofList.2 h

end RequestTracing.Json
