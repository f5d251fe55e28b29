import Mathlib
import RequestTracing.Trace.Heap

/-!
This module contains what extra state reads from a heap: the values of the first baggage in it. Main
statement: extra state that is forked or imported refers to baggage of its own, with the values that
were there, and what others refer to stays as it is.
-/

namespace RequestTracing

namespace Heap

def valueIn (heap : Heap) (extra : List (Extra BaggageRef)) (field : BaggageField) :
    Option String :=
  (extra.findSome? Extra.baggage?).bind fun ref => (heap.get ref).get? field

def updateIn (heap : Heap) (extra : List (Extra BaggageRef)) (field : BaggageField)
    (value : Option String) : Heap :=
  match extra.findSome? Extra.baggage? with
  | none => heap
  | some ref => (heap.update ref field value).2

structure Fresh (heap other : Heap) (ref : BaggageRef) : Prop where
  le : heap.baggage.length ≤ ref
  lt : ref < other.baggage.length

variable {heap other : Heap} {ref : BaggageRef}

theorem Fresh.grow {last : Heap} (h : Fresh heap other ref) (hgrown : other.baggage <+: last.baggage) :
    Fresh heap last ref :=
  ⟨h.le, h.lt.trans_le hgrown.length_le⟩

theorem Fresh.of_grown {last : Heap} (h : Fresh other last ref)
    (hgrown : heap.baggage <+: other.baggage) : Fresh heap last ref :=
  ⟨hgrown.length_le.trans h.le, h.lt⟩

theorem get_of_grown (h : heap.baggage <+: other.baggage) (hlt : ref < heap.baggage.length) :
    other.get ref = heap.get ref := by
  obtain ⟨added, hadded⟩ := h
  unfold get
  rw [← hadded, List.getD_append _ _ _ _ hlt]

theorem lt_of_get?_eq_some {field : BaggageField} {value : String}
    (h : (heap.get ref).get? field = some value) : ref < heap.baggage.length := by
  by_contra hle
  unfold get at h
  rw [List.getD_eq_default _ _ (Nat.le_of_not_lt hle)] at h
  cases h

theorem grown_allocate (heap : Heap) (fields : BaggageFields) :
    heap.baggage <+: (heap.allocate fields).2.baggage :=
  List.prefix_append ..

theorem fresh_allocate (heap : Heap) (fields : BaggageFields) :
    Fresh heap (heap.allocate fields).2 (heap.allocate fields).1 where
  le := Nat.le_refl _
  lt := by simp [allocate]

theorem get_allocate (heap : Heap) (fields : BaggageFields) :
    (heap.allocate fields).2.get (heap.allocate fields).1 = fields := by
  simp [get, allocate]

theorem valueIn_congr (h : other.baggage = heap.baggage) (extra : List (Extra BaggageRef))
    (field : BaggageField) : other.valueIn extra field = heap.valueIn extra field := by
  unfold valueIn get
  rw [h]

theorem valueIn_append (heap : Heap) (extra others : List (Extra BaggageRef))
    (field : BaggageField) :
    heap.valueIn (extra ++ others) field =
      if (extra.findSome? Extra.baggage?).isSome then heap.valueIn extra field
      else heap.valueIn others field := by
  unfold valueIn
  rw [List.findSome?_append]
  cases extra.findSome? Extra.baggage? with
  | none => rfl
  | some ref => rfl

theorem valueIn_of_grown (h : heap.baggage <+: other.baggage) {extra : List (Extra BaggageRef)}
    {field : BaggageField} {value : String} (hvalue : heap.valueIn extra field = some value) :
    other.valueIn extra field = some value := by
  unfold valueIn at hvalue ⊢
  obtain ⟨ref, href, hget⟩ := Option.bind_eq_some_iff.1 hvalue
  rw [href, Option.bind_some, get_of_grown h (lt_of_get?_eq_some hget)]
  exact hget

theorem get_update_of_ne (heap : Heap) {written : BaggageRef} (h : ref ≠ written)
    (field : BaggageField) (value : Option String) :
    (heap.update written field value).2.get ref = heap.get ref := by
  unfold get update
  dsimp only
  rw [List.getD_eq_getElem?_getD, List.getElem?_modify_ne _ _ h.symm, List.getD_eq_getElem?_getD]

theorem length_updateIn (heap : Heap) (extra : List (Extra BaggageRef)) (field : BaggageField)
    (value : Option String) :
    (heap.updateIn extra field value).baggage.length = heap.baggage.length := by
  unfold updateIn
  split
  . rfl
  . exact List.length_modify ..

theorem valueIn_updateIn (heap : Heap) {extra others : List (Extra BaggageRef)}
    (h : ∀ ref ∈ extra.findSome? Extra.baggage?, ref ∉ others.findSome? Extra.baggage?)
    (field : BaggageField) (value : Option String) (other : BaggageField) :
    (heap.updateIn extra field value).valueIn others other = heap.valueIn others other := by
  unfold updateIn
  split
  . rfl
  . next written hwritten =>
    unfold valueIn
    cases hread : others.findSome? Extra.baggage? with
    | none => rfl
    | some ref =>
      rw [hread] at h
      have hne : ref ≠ written := fun heq => h written hwritten (congrArg some heq)
      rw [Option.bind_some, Option.bind_some, heap.get_update_of_ne hne]

theorem grown_mapList {α β : Type} {f : Heap → α → β × Heap}
    (hf : ∀ heap a, heap.baggage <+: (f heap a).2.baggage) (heap : Heap) (as : List α) :
    heap.baggage <+: (mapList f heap as).2.baggage := by
  induction as generalizing heap with
  | nil => exact List.prefix_refl _
  | cons a as ih => exact (hf heap a).trans (ih (f heap a).2)

theorem fresh_mapList {β : Type} {f : Heap → Extra β → Extra BaggageRef × Heap}
    (hf : ∀ heap a, heap.baggage <+: (f heap a).2.baggage)
    (hfresh : ∀ heap a, ∀ ref ∈ (f heap a).1.baggage?, Fresh heap (f heap a).2 ref) (heap : Heap)
    (extra : List (Extra β)) :
    ∀ ref ∈ (mapList f heap extra).1.findSome? Extra.baggage?,
      Fresh heap (mapList f heap extra).2 ref := by
  induction extra generalizing heap with
  | nil => simp [mapList]
  | cons first extra ih =>
    intro ref href
    unfold mapList at href ⊢
    dsimp only at href ⊢
    rw [List.findSome?_cons] at href
    split at href
    . next own hown =>
      rw [← Option.some.inj href]
      exact (hfresh heap first own hown).grow (grown_mapList hf (f heap first).2 extra)
    . exact (ih (f heap first).2 ref href).of_grown (hf heap first)

theorem grown_forkExtra (heap : Heap) (extra : Extra BaggageRef) :
    heap.baggage <+: (heap.forkExtra extra).2.baggage := by
  cases extra with
  | marker number forks => exact List.prefix_refl _
  | baggage ref => exact heap.grown_allocate (heap.get ref)

theorem grown_importExtra (heap : Heap) (extra : Extra BaggageFields) :
    heap.baggage <+: (heap.importExtra extra).2.baggage := by
  cases extra with
  | marker number forks => exact List.prefix_refl _
  | baggage fields => exact heap.grown_allocate fields

theorem grown_forkAll (heap : Heap) (extra : List (Extra BaggageRef)) :
    heap.baggage <+: (heap.forkAll extra).2.baggage :=
  grown_mapList grown_forkExtra heap extra

theorem grown_importAll (heap : Heap) (extra : List (Extra BaggageFields)) :
    heap.baggage <+: (heap.importAll extra).2.baggage :=
  grown_mapList grown_importExtra heap extra

theorem fresh_forkAll (heap : Heap) (extra : List (Extra BaggageRef)) :
    ∀ ref ∈ (heap.forkAll extra).1.findSome? Extra.baggage?,
      Fresh heap (heap.forkAll extra).2 ref := by
  apply fresh_mapList grown_forkExtra
  intro heap extra ref href
  cases extra with
  | marker number forks => cases href
  | baggage own =>
    rw [← Option.some.inj href]
    exact heap.fresh_allocate (heap.get own)

theorem fresh_importAll (heap : Heap) (extra : List (Extra BaggageFields)) :
    ∀ ref ∈ (heap.importAll extra).1.findSome? Extra.baggage?,
      Fresh heap (heap.importAll extra).2 ref := by
  apply fresh_mapList grown_importExtra
  intro heap extra ref href
  cases extra with
  | marker number forks => cases href
  | baggage fields =>
    rw [← Option.some.inj href]
    exact heap.fresh_allocate fields

theorem grown_importReading (heap : Heap) (reading : Reading) :
    heap.baggage <+: (heap.importReading reading).2.baggage := by
  unfold importReading
  split
  . next context _ =>
    exact (heap.grown_importAll context.extra).trans
      (grown_importAll (heap.importContext context).2 reading.extra)
  . exact heap.grown_importAll reading.extra

theorem fresh_importReading_context {reading : Reading} {source : ContextInstance}
    (h : (heap.importReading reading).1.context? = some source) :
    ∀ ref ∈ source.context.baggage?, Fresh heap (heap.importReading reading).2 ref := by
  unfold importReading at h ⊢
  split at h
  . next context _ =>
    rw [← Option.some.inj h]
    intro ref href
    exact (heap.fresh_importAll context.extra ref href).grow
      (grown_importAll (heap.importContext context).2 reading.extra)
  . cases h

theorem fresh_importReading_extra {reading : Reading}
    (h : (heap.importReading reading).1.context? = none) :
    ∀ ref ∈ (heap.importReading reading).1.extra.findSome? Extra.baggage?,
      Fresh heap (heap.importReading reading).2 ref := by
  unfold importReading at h ⊢
  split at h
  . cases h
  . exact heap.fresh_importAll reading.extra

theorem isSome_forkAll (heap : Heap) (extra : List (Extra BaggageRef)) :
    ((heap.forkAll extra).1.findSome? Extra.baggage?).isSome =
      (extra.findSome? Extra.baggage?).isSome := by
  induction extra generalizing heap with
  | nil => rfl
  | cons first extra ih =>
    cases first with
    | marker number forks => exact ih heap
    | baggage ref => rfl

theorem valueIn_forkAll (heap : Heap) (extra : List (Extra BaggageRef)) (field : BaggageField) :
    (heap.forkAll extra).2.valueIn (heap.forkAll extra).1 field = heap.valueIn extra field := by
  induction extra generalizing heap with
  | nil => rfl
  | cons first extra ih =>
    cases first with
    | marker number forks => exact ih heap
    | baggage ref =>
      let copied := heap.allocate (heap.get ref)
      have hcopy : (copied.2.forkAll extra).2.get copied.1 = heap.get ref :=
        (get_of_grown (copied.2.grown_forkAll extra) (heap.fresh_allocate _).lt).trans
          (heap.get_allocate (heap.get ref))
      exact congrArg (·.get? field) hcopy

end Heap

end RequestTracing
