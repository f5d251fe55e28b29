import Mathlib
import RequestTracing.Proofs.Trace.Baggage
import RequestTracing.Trace.Heap

/-!
This module contains what baggage is after any history: a map from names to values, in which a name
keeps its first spelling and the place of its first mention. Main statement: that is what
registering fields, updating, reading and forking amount to, for every instance and in every order.
-/

namespace RequestTracing

theorem eraseDups_concat {α : Type} [DecidableEq α] (items : List α) (item : α) :
    (items ++ [item]).eraseDups =
      if item ∈ items then items.eraseDups else items.eraseDups ++ [item] := by
  rw [List.eraseDups_append]
  split
  . next h => simp [List.removeAll, h]
  . next h => simp [List.removeAll, List.eraseDups_cons, h]

theorem nodup_eraseDups {α : Type} [DecidableEq α] (items : List α) : items.eraseDups.Nodup := by
  induction items using List.reverseRecOn with
  | nil => exact List.nodup_nil
  | append_singleton items item ih =>
    rw [eraseDups_concat]
    split
    . exact ih
    . next h =>
      rw [← List.mem_eraseDups] at h
      rw [← List.concat_eq_append]
      exact List.Nodup.concat h ih

namespace BaggageField

def names (fields : List BaggageField) : List String :=
  (fields.map key).eraseDups

def first? (fields : List BaggageField) (name : String) : Option BaggageField :=
  fields.find? fun field => field.key = name

variable {fields : List BaggageField} {field : BaggageField} {name : String}

theorem nodup_names (fields : List BaggageField) : (names fields).Nodup :=
  nodup_eraseDups _

theorem names_concat_of_mem (h : field.key ∈ names fields) :
    names (fields ++ [field]) = names fields := by
  unfold names at h ⊢
  rw [List.mem_eraseDups] at h
  rw [List.map_append, List.map_singleton, eraseDups_concat, if_pos h]

theorem names_concat_of_not_mem (h : field.key ∉ names fields) :
    names (fields ++ [field]) = names fields ++ [field.key] := by
  unfold names at h ⊢
  rw [List.mem_eraseDups] at h
  rw [List.map_append, List.map_singleton, eraseDups_concat, if_neg h]

theorem key_of_first? (h : first? fields name = some field) : field.key = name := by
  simpa using List.find?_some h

theorem mem_names_iff : name ∈ names fields ↔ (first? fields name).isSome := by
  unfold names first?
  rw [List.mem_eraseDups, List.mem_map, List.find?_isSome]
  simp

theorem exists_first? (h : name ∈ names fields) : ∃ field, first? fields name = some field :=
  Option.isSome_iff_exists.1 (mem_names_iff.1 h)

theorem first?_of_not_mem (h : name ∉ names fields) : first? fields name = none :=
  Option.not_isSome_iff_eq_none.1 (mt mem_names_iff.2 h)

theorem first?_concat (fields : List BaggageField) (field : BaggageField) (name : String) :
    first? (fields ++ [field]) name =
      (first? fields name).or (if field.key = name then some field else none) := by
  unfold first?
  rw [List.find?_append, List.find?_singleton]
  simp

theorem first?_concat_of_mem (h : name ∈ names fields) :
    first? (fields ++ [field]) name = first? fields name := by
  obtain ⟨known, hknown⟩ := exists_first? h
  rw [first?_concat, hknown]
  rfl

end BaggageField

namespace BaggageFields

open BaggageField (names first? mem_names_iff exists_first? first?_of_not_mem)

def holding (fields : List BaggageField) (map : String → Option String) : BaggageFields :=
  ⟨(names fields).filterMap fun name => (first? fields name).map fun field => (field, map name)⟩

variable {fields : List BaggageField} {field : BaggageField}

theorem holding_congr {map other : String → Option String}
    (h : ∀ name ∈ names fields, map name = other name) : holding fields map = holding fields other := by
  unfold holding
  congr 1
  apply List.filterMap_congr
  intro name hname
  rw [h name hname]

theorem holding_concat_of_mem (h : field.key ∈ names fields) (map : String → Option String) :
    holding (fields ++ [field]) map = holding fields map := by
  unfold holding
  rw [BaggageField.names_concat_of_mem h]
  congr 1
  apply List.filterMap_congr
  intro name hname
  rw [BaggageField.first?_concat_of_mem hname]

theorem holding_concat_of_not_mem (h : field.key ∉ names fields) (map : String → Option String) :
    holding (fields ++ [field]) map = ⟨(holding fields map).entries ++ [(field, map field.key)]⟩ := by
  have hfirst : first? (fields ++ [field]) field.key = some field := by
    rw [BaggageField.first?_concat, if_pos rfl, first?_of_not_mem h]
    rfl
  unfold holding
  rw [BaggageField.names_concat_of_not_mem h, List.filterMap_append]
  congr 2
  . apply List.filterMap_congr
    intro name hname
    rw [BaggageField.first?_concat_of_mem hname]
  . rw [List.filterMap_cons, hfirst]
    rfl

theorem find?_holding (fields : List BaggageField) (map : String → Option String)
    (field : BaggageField) :
    (holding fields map).find? field =
      (first? fields field.key).map fun known => (known, map field.key) := by
  -- Of the entries that baggage holds, that of the name is the only one that may be found.
  have hsame : ∀ name ∈ names fields,
      (((first? fields name).map fun known => (known, map name)).any fun entry =>
        entry.1.same field) = decide (name = field.key) := by
    intro name hname
    obtain ⟨known, hknown⟩ := exists_first? hname
    rw [hknown, ← BaggageField.key_of_first? hknown]
    rfl
  unfold find? holding
  dsimp only
  rw [List.find?_filterMap]
  cases hfind : (names fields).find? fun name =>
      ((first? fields name).map fun known => (known, map name)).any fun entry =>
        entry.1.same field with
  | some name =>
    have hname := hsame name (List.mem_of_find?_eq_some hfind)
    rw [List.find?_some hfind, eq_comm, decide_eq_true_iff] at hname
    rw [hname]
    rfl
  | none =>
    have hkey : field.key ∉ names fields := by
      intro hmem
      have hmiss := List.find?_eq_none.1 hfind _ hmem
      rw [hsame _ hmem] at hmiss
      simp at hmiss
    rw [first?_of_not_mem hkey]
    rfl

theorem register_holding (fields : List BaggageField) (field : BaggageField) :
    (holding fields fun _ => none).register field = holding (fields ++ [field]) fun _ => none := by
  have hknown : (holding fields fun _ => none).entries.any (fun entry => entry.1.same field) ↔
      field.key ∈ names fields := by
    have hfind := find?_holding fields (fun _ => none) field
    unfold find? at hfind
    rw [List.any_eq_true, ← List.find?_isSome, hfind, Option.isSome_map, mem_names_iff]
  unfold register
  by_cases h : field.key ∈ names fields
  . rw [holding_concat_of_mem h, if_pos (hknown.2 h)]
  . rw [holding_concat_of_not_mem h, if_neg (mt hknown.1 h)]

theorem ofFields_eq_holding (fields : List BaggageField) :
    ofFields fields = holding fields fun _ => none := by
  induction fields using List.reverseRecOn with
  | nil => rfl
  | append_singleton fields field ih =>
    rw [← register_holding, ← ih]
    unfold ofFields
    rw [List.foldl_append]
    rfl

theorem update_holding_of_mem (h : field.key ∈ names fields) (map : String → Option String)
    (value : Option String) :
    (holding fields map).update field value =
      holding fields (Function.update map field.key value) := by
  obtain ⟨known, hknown⟩ := exists_first? h
  unfold update
  rw [find?_holding, hknown, Option.map_some]
  unfold holding
  dsimp only
  rw [List.map_filterMap]
  congr 1
  apply List.filterMap_congr
  intro name hname
  obtain ⟨first, hfirst⟩ := exists_first? hname
  rw [hfirst, Option.map_some, Option.map_some, Option.map_some, Function.update_apply]
  congr 1
  have hiff : first.same field ↔ name = field.key := by
    rw [BaggageField.same_iff, BaggageField.key_of_first? hfirst]
  by_cases hname : name = field.key
  . rw [if_pos (hiff.2 hname), if_pos hname]
  . rw [if_neg (mt hiff.1 hname), if_neg hname]

theorem update_holding_of_not_mem (h : field.key ∉ names fields) (map : String → Option String)
    (value : Option String) :
    (holding fields map).update field value =
      holding (fields ++ (value.map fun _ => field).toList)
        (Function.update map field.key value) := by
  have hfind := find?_holding fields map field
  rw [first?_of_not_mem h] at hfind
  have hothers : ∀ name ∈ names fields, map name = Function.update map field.key value name := by
    intro name hname
    rw [Function.update_of_ne]
    rintro rfl
    exact h hname
  unfold update
  rw [hfind, Option.map_none]
  cases value with
  | none =>
    rw [Option.map_none, Option.toList_none, List.append_nil]
    exact holding_congr hothers
  | some value =>
    rw [Option.map_some, Option.toList_some, holding_concat_of_not_mem h, holding_congr hothers,
      Function.update_self]

end BaggageFields

structure BaggageHistory where
  registered : List BaggageField
  updates : List (BaggageField × Option String)
  deriving DecidableEq

namespace BaggageHistory

instance : Inhabited BaggageHistory :=
  ⟨⟨[], []⟩⟩

def mentions (history : BaggageHistory) : List BaggageField :=
  history.registered ++ history.updates.filterMap fun update => update.2.map fun _ => update.1

def names (history : BaggageHistory) : List String :=
  BaggageField.names history.mentions

def spelling? (history : BaggageHistory) (name : String) : Option BaggageField :=
  BaggageField.first? history.mentions name

def value? (history : BaggageHistory) (name : String) : Option String :=
  (history.updates.findRev? fun update => update.1.key = name).bind (·.2)

def add (history : BaggageHistory) (field : BaggageField) (value : Option String) :
    BaggageHistory :=
  { history with updates := history.updates ++ [(field, value)] }

def baggage (history : BaggageHistory) : BaggageFields :=
  .holding history.mentions history.value?

theorem mentions_add (history : BaggageHistory) (field : BaggageField) (value : Option String) :
    (history.add field value).mentions =
      history.mentions ++ (value.map fun _ => field).toList := by
  unfold mentions add
  dsimp only
  rw [List.filterMap_append, List.append_assoc]
  cases value with
  | none => rfl
  | some value => rfl

theorem value?_add (history : BaggageHistory) (field : BaggageField) (value : Option String) :
    (history.add field value).value? = Function.update history.value? field.key value := by
  funext name
  unfold value? add
  dsimp only
  rw [List.findRev?_eq_find?_reverse, List.reverse_append, List.reverse_singleton,
    List.singleton_append, Function.update_apply]
  by_cases h : name = field.key
  . rw [List.find?_cons_of_pos (by simpa using h.symm), if_pos h]
    rfl
  . rw [List.find?_cons_of_neg (by simpa using Ne.symm h), if_neg h,
      List.findRev?_eq_find?_reverse]

theorem value?_of_not_mem {history : BaggageHistory} {name : String} (h : name ∉ history.names) :
    history.value? name = none := by
  unfold value?
  rw [List.findRev?_eq_find?_reverse]
  cases hfind : history.updates.reverse.find? fun update => update.1.key = name with
  | none => rfl
  | some update =>
    obtain ⟨field, value⟩ := update
    cases value with
    | none => rfl
    | some value =>
      have hkey : field.key = name := by simpa using List.find?_some hfind
      have hmem := List.mem_reverse.1 (List.mem_of_find?_eq_some hfind)
      refine absurd ?_ h
      unfold names BaggageField.names mentions
      rw [List.mem_eraseDups, ← hkey]
      refine List.mem_map_of_mem (List.mem_append_right _ ?_)
      exact List.mem_filterMap.2 ⟨(field, some value), hmem, rfl⟩

theorem baggage_registered (fields : List BaggageField) :
    baggage ⟨fields, []⟩ = .ofFields fields := by
  unfold baggage mentions
  rw [BaggageFields.ofFields_eq_holding, List.filterMap_nil, List.append_nil]
  rfl

theorem baggage_add (history : BaggageHistory) (field : BaggageField) (value : Option String) :
    (history.add field value).baggage = history.baggage.update field value := by
  unfold baggage
  rw [mentions_add, value?_add]
  -- A value for a known name adds a mention, which `holding` does not see.
  by_cases h : field.key ∈ history.names
  . rw [BaggageFields.update_holding_of_mem h]
    cases value with
    | none => rw [Option.map_none, Option.toList_none, List.append_nil]
    | some value => rw [Option.map_some, Option.toList_some, BaggageFields.holding_concat_of_mem h]
  . rw [BaggageFields.update_holding_of_not_mem h]

theorem find?_baggage (history : BaggageHistory) (field : BaggageField) :
    history.baggage.find? field =
      (history.spelling? field.key).map fun known => (known, history.value? field.key) :=
  BaggageFields.find?_holding ..

theorem get?_baggage (history : BaggageHistory) (field : BaggageField) :
    history.baggage.get? field = history.value? field.key := by
  unfold BaggageFields.get?
  rw [find?_baggage]
  by_cases h : field.key ∈ history.names
  . obtain ⟨known, hknown⟩ := BaggageField.exists_first? h
    unfold spelling?
    rw [hknown]
    rfl
  . rw [value?_of_not_mem h]
    cases history.spelling? field.key with
    | none => rfl
    | some known => rfl

theorem allFields_baggage (history : BaggageHistory) :
    history.baggage.allFields = history.names.filterMap history.spelling? := by
  unfold BaggageFields.allFields baggage BaggageFields.holding
  dsimp only
  rw [List.map_filterMap]
  apply List.filterMap_congr
  intro name _
  rw [Option.map_map]
  exact Option.map_id' ..

theorem keys_baggage (history : BaggageHistory) :
    history.baggage.allFields.map BaggageField.key = history.names := by
  rw [allFields_baggage, List.map_filterMap]
  refine Eq.trans (List.filterMap_congr ?_) List.filterMap_some
  intro name hname
  obtain ⟨known, hknown⟩ := BaggageField.exists_first? hname
  unfold spelling?
  rw [hknown, Option.map_some, BaggageField.key_of_first? hknown]

theorem toList_baggage (history : BaggageHistory) :
    history.baggage.toList = history.names.filterMap fun name => do
      return (← history.spelling? name, ← history.value? name) := by
  unfold BaggageFields.toList baggage BaggageFields.holding
  dsimp only
  rw [List.filterMap_filterMap]
  apply List.filterMap_congr
  intro name _
  unfold spelling?
  cases BaggageField.first? history.mentions name with
  | none => rfl
  | some known =>
    cases history.value? name with
    | none => rfl
    | some value => rfl

theorem update_baggage_eq_iff (history : BaggageHistory) (field : BaggageField)
    (value : Option String) :
    history.baggage.update field value = history.baggage ↔ history.value? field.key = value := by
  constructor
  . intro h
    rw [← get?_baggage, ← h, BaggageFields.get?_update, if_pos rfl]
  . intro h
    have hmap : Function.update history.value? field.key value = history.value? := by
      rw [← h, Function.update_eq_self]
    unfold baggage
    by_cases hkey : field.key ∈ history.names
    . rw [BaggageFields.update_holding_of_mem hkey, hmap]
    . rw [value?_of_not_mem hkey] at h
      rw [BaggageFields.update_holding_of_not_mem hkey, hmap, ← h, Option.map_none,
        Option.toList_none, List.append_nil]

theorem allFields_clear (history : BaggageHistory) (field : BaggageField) :
    (history.baggage.update field none).allFields = history.baggage.allFields := by
  rw [← baggage_add, allFields_baggage, allFields_baggage]
  unfold names spelling?
  rw [mentions_add, Option.map_none, Option.toList_none, List.append_nil]

theorem spelling?_eq_some_iff {history : BaggageHistory} {name : String} {field : BaggageField} :
    history.spelling? name = some field ↔
      field ∈ history.baggage.allFields ∧ field.key = name := by
  rw [allFields_baggage, List.mem_filterMap]
  constructor
  . intro h
    refine ⟨⟨name, ?_, h⟩, BaggageField.key_of_first? h⟩
    exact BaggageField.mem_names_iff.2 (Option.isSome_of_eq_some h)
  . rintro ⟨⟨other, _, hother⟩, hkey⟩
    rwa [← hkey, BaggageField.key_of_first? hother]

theorem byName_of_create (history : BaggageHistory) {name : String} {field : BaggageField}
    (h : BaggageField.create name = .ok field) :
    history.baggage.byName name = .ok (history.spelling? field.key) := by
  have hfind : (history.baggage.find? field).map (·.1) = history.spelling? field.key := by
    rw [find?_baggage, Option.map_map]
    exact Option.map_id' ..
  rw [BaggageFields.byName_eq, h, ← hfind]
  rfl

theorem byName_of_refused (history : BaggageHistory) {name : String} {e : TraceError}
    (h : BaggageField.create name = .error e) : history.baggage.byName name = .error e := by
  rw [BaggageFields.byName_eq, h]
  rfl

end BaggageHistory

/--
Holds for baggage that is the map which a history leads to. Its names are those of the history, each
once, in its first spelling and with its last value. An update answers whether it changes anything,
and one that clears a value leaves the names as they are. A name finds the field that equals the one
created from it.
-/
structure BaggageFields.IsMapOf (fields : BaggageFields) (history : BaggageHistory) : Prop where
  keys : fields.allFields.map BaggageField.key = history.names
  nodup : history.names.Nodup
  allFields : fields.allFields = history.names.filterMap history.spelling?
  toList : fields.toList = history.names.filterMap fun name => do
    return (← history.spelling? name, ← history.value? name)
  get? (field : BaggageField) : fields.get? field = history.value? field.key
  changes_iff (field : BaggageField) (value : Option String) :
    fields.changes field value ↔ fields.update field value ≠ fields
  clear (field : BaggageField) : (fields.update field none).allFields = fields.allFields
  byName (name : String) :
    fields.byName name = (BaggageField.create name).map fun _ =>
      history.spelling? (Text.asciiLowercase (Text.trim name))
  byName_iff (name : String) (found : BaggageField) :
    fields.byName name = .ok (some found) ↔
      found ∈ fields.allFields ∧ ∃ field, BaggageField.create name = .ok field ∧ found.same field

theorem BaggageFields.changes_eq (fields : BaggageFields) (field : BaggageField)
    (value : Option String) : fields.changes field value = decide (fields.get? field ≠ value) := by
  unfold changes get?
  rw [Bool.eq_iff_iff]
  cases fields.find? field with
  | some entry => simp
  | none => cases value <;> simp

theorem BaggageHistory.isMapOf_baggage (history : BaggageHistory) :
    history.baggage.IsMapOf history where
  keys := history.keys_baggage
  nodup := BaggageField.nodup_names _
  allFields := history.allFields_baggage
  toList := history.toList_baggage
  get? := history.get?_baggage
  changes_iff field value := by
    rw [BaggageFields.changes_eq, decide_eq_true_iff, get?_baggage, Ne, Ne, update_baggage_eq_iff]
  clear := history.allFields_clear
  byName name := by
    cases hcreate : BaggageField.create name with
    | error e => exact history.byName_of_refused hcreate
    | ok field =>
      rw [history.byName_of_create hcreate, BaggageField.key_of_create hcreate, Except.map]
  byName_iff name found := by
    cases hcreate : BaggageField.create name with
    | error e => simp [history.byName_of_refused hcreate]
    | ok field =>
      rw [history.byName_of_create hcreate, Except.ok.injEq, spelling?_eq_some_iff]
      simp [BaggageField.same_iff]

inductive BaggageCall where
  | create (fields : List BaggageField)
  | update (ref : BaggageRef) (field : BaggageField) (value : Option String)
  | get (ref : BaggageRef) (field : BaggageField)
  | fork (ref : BaggageRef)

inductive BaggageAnswer where
  | made (extra : Extra BaggageRef)
  | changed (value : Bool)
  | value (value : Option String)
  deriving DecidableEq

namespace BaggageCall

def perform (heap : Heap) : BaggageCall → BaggageAnswer × Heap
  | create fields =>
    let (extra, heap) := heap.importExtra (.baggage (.ofFields fields))
    (.made extra, heap)
  | update ref field value =>
    let (changed, heap) := heap.update ref field value
    (.changed changed, heap)
  | get ref field => (.value ((heap.get ref).get? field), heap)
  | fork ref =>
    let (extra, heap) := heap.forkExtra (.baggage ref)
    (.made extra, heap)

/--
Notes a call in the history of the baggage that it is made on. A copy starts with the history of
what it is copied from. The answer is read off the history.
-/
def note (histories : List BaggageHistory) : BaggageCall → BaggageAnswer × List BaggageHistory
  | create fields => (.made (.baggage histories.length), histories ++ [⟨fields, []⟩])
  | update ref field value =>
    (.changed (decide ((histories.getD ref default).value? field.key ≠ value)),
      histories.modify ref fun history => history.add field value)
  | get ref field => (.value ((histories.getD ref default).value? field.key), histories)
  | fork ref => (.made (.baggage histories.length), histories ++ [histories.getD ref default])

def inTurn {σ : Type} (call : σ → BaggageCall → BaggageAnswer × σ) (state : σ) :
    List BaggageCall → List BaggageAnswer × σ
  | [] => ([], state)
  | first :: calls =>
    let (answer, next) := call state first
    let (answers, last) := inTurn call next calls
    (answer :: answers, last)

end BaggageCall

def Heap.Stores (heap : Heap) (histories : List BaggageHistory) : Prop :=
  heap.baggage = histories.map BaggageHistory.baggage

namespace Heap

variable {heap : Heap} {histories : List BaggageHistory}

theorem Stores.get (h : heap.Stores histories) (ref : BaggageRef) :
    heap.get ref = (histories.getD ref default).baggage := by
  unfold Heap.get
  rw [h, List.getD_eq_getElem?_getD, List.getElem?_map, List.getD_eq_getElem?_getD]
  cases histories[ref]? with
  | none => rfl
  | some history => rfl

theorem Stores.allocate (h : heap.Stores histories) (history : BaggageHistory) :
    (heap.allocate history.baggage).2.Stores (histories ++ [history]) := by
  unfold Stores Heap.allocate
  dsimp only
  rw [h, List.map_append, List.map_singleton]

theorem Stores.update (h : heap.Stores histories) (ref : BaggageRef) (field : BaggageField)
    (value : Option String) :
    (heap.update ref field value).2.Stores
      (histories.modify ref fun history => history.add field value) := by
  unfold Stores Heap.update
  dsimp only
  rw [h]
  apply List.ext_getElem?
  intro i
  rw [List.getElem?_modify, List.getElem?_map, List.getElem?_map, List.getElem?_modify]
  cases histories[i]? with
  | none => rfl
  | some history =>
    by_cases hi : ref = i
    . simp [hi, BaggageHistory.baggage_add]
    . simp [hi]

theorem Stores.perform (h : heap.Stores histories) (call : BaggageCall) :
    (call.perform heap).1 = (call.note histories).1 ∧
      (call.perform heap).2.Stores (call.note histories).2 := by
  have hlength : heap.baggage.length = histories.length := by rw [h, List.length_map]
  cases call with
  | create fields =>
    refine ⟨congrArg (fun ref => BaggageAnswer.made (.baggage ref)) hlength, ?_⟩
    have hstores := h.allocate ⟨fields, []⟩
    rwa [BaggageHistory.baggage_registered] at hstores
  | update ref field value =>
    refine ⟨congrArg BaggageAnswer.changed ?_, h.update ref field value⟩
    exact (BaggageFields.changes_eq ..).trans (by rw [h.get, BaggageHistory.get?_baggage])
  | get ref field =>
    refine ⟨congrArg BaggageAnswer.value ?_, h⟩
    rw [h.get, BaggageHistory.get?_baggage]
  | fork ref =>
    refine ⟨congrArg (fun ref => BaggageAnswer.made (.baggage ref)) hlength, ?_⟩
    have hstores := h.allocate (histories.getD ref default)
    rwa [← h.get] at hstores

theorem Stores.inTurn (h : heap.Stores histories) (calls : List BaggageCall) :
    (BaggageCall.inTurn BaggageCall.perform heap calls).1 =
        (BaggageCall.inTurn BaggageCall.note histories calls).1 ∧
      (BaggageCall.inTurn BaggageCall.perform heap calls).2.Stores
        (BaggageCall.inTurn BaggageCall.note histories calls).2 := by
  induction calls generalizing heap histories with
  | nil => exact ⟨rfl, h⟩
  | cons call calls ih =>
    obtain ⟨hanswer, hnext⟩ := h.perform call
    obtain ⟨hanswers, hlast⟩ := ih hnext
    exact ⟨congrArg₂ List.cons hanswer hanswers, hlast⟩

end Heap

/--
Whatever baggage is created, updated, read and forked, in any order: every answer is the one that
the history of that baggage gives, and each of them is at the end the map which its history leads
to.
-/
theorem baggage_is_map_of_history (calls : List BaggageCall) :
    let (answers, heap) := BaggageCall.inTurn BaggageCall.perform .empty calls
    let (expected, histories) := BaggageCall.inTurn BaggageCall.note [] calls
    answers = expected ∧ ∀ ref < heap.baggage.length,
      ∃ history, histories[ref]? = some history ∧ (heap.get ref).IsMapOf history := by
  have hempty : Heap.empty.Stores [] := rfl
  obtain ⟨hanswers, hstores⟩ := hempty.inTurn calls
  refine ⟨hanswers, ?_⟩
  intro ref hlt
  rw [hstores, List.length_map] at hlt
  refine ⟨_, List.getElem?_eq_getElem hlt, ?_⟩
  have hget := hstores.get ref
  rw [List.getD_eq_getElem _ _ hlt] at hget
  rw [hget]
  exact BaggageHistory.isMapOf_baggage _

theorem baggage_is_map_of_history_forked :
    let calls : List BaggageCall := [
      .create [⟨"userId"⟩, ⟨"region"⟩, ⟨"USERID"⟩], .update 0 ⟨"UserId"⟩ (some "romeo"), .fork 0,
      .update 1 ⟨"tenant"⟩ (some "capulet"), .update 1 ⟨"userid"⟩ none, .update 0 ⟨"tenant"⟩ none,
      .get 0 ⟨"USERID"⟩]
    let (answers, heap) := BaggageCall.inTurn BaggageCall.perform .empty calls
    1 < heap.baggage.length ∧
      answers = [.made (.baggage 0), .changed true, .made (.baggage 1), .changed true, .changed true,
        .changed false, .value (some "romeo")] ∧
      (heap.get 1).allFields = [⟨"userId"⟩, ⟨"region"⟩, ⟨"tenant"⟩] ∧
      (heap.get 1).toList = [(⟨"tenant"⟩, "capulet")] ∧
      (heap.get 1).byName " UserID " = .ok (some ⟨"userId"⟩) := by
  intro calls
  obtain ⟨hanswers, hmaps⟩ := baggage_is_map_of_history calls
  have hlt : 1 < (BaggageCall.inTurn BaggageCall.perform .empty calls).2.baggage.length := by
    decide +kernel
  obtain ⟨history, hhistory, hmap⟩ := hmaps 1 hlt
  have heq : (BaggageCall.inTurn BaggageCall.note [] calls).2[1]? = some
      ⟨[⟨"userId"⟩, ⟨"region"⟩, ⟨"USERID"⟩], [(⟨"UserId"⟩, some "romeo"),
        (⟨"tenant"⟩, some "capulet"), (⟨"userid"⟩, none)]⟩ := by
    decide +kernel
  have hlast := Option.some.inj (hhistory.symm.trans heq)
  rw [hlast] at hmap
  refine ⟨hlt, hanswers.trans ?_, hmap.allFields.trans ?_, hmap.toList.trans ?_,
    (hmap.byName _).trans ?_⟩
  . decide +kernel
  . decide +kernel
  . decide +kernel
  . rfl

end RequestTracing
