import Mathlib
import RequestTracing.Proofs.Scope.Correlation

/-!
This module contains what one decorator does to the values that log lines carry, and what is left of
it when its scope closes. Its fields have names of their own, so that all of them go by the values
that were there when the scope opened. Main statement: opening writes the fields that differ,
closing puts these and the dirty ones back, and neither touches anything else, whatever code in the
scope did to the values.
-/

namespace RequestTracing

variable {α : Type}

namespace CorrelationField

def Changes (context : Option Snapshot) (found : CorrelationValues) (field : CorrelationField) :
    Prop :=
  found.get? field.name ≠ field.target context

def PutBack (context : Option Snapshot) (found : CorrelationValues) (field : CorrelationField) :
    Prop :=
  field.Changes context found ∨ field.dirty

/--
The lists of fields that a decorator may have: those that are copied unless others are chosen, with
fields added or all of them removed.
-/
inductive Chosen : List CorrelationField → Prop where
  | new : Chosen defaults
  | clear {fields} : Chosen fields → Chosen []
  | withField {fields} (field : CorrelationField) : Chosen fields →
      Chosen (addTo fields field).value

theorem Chosen.nodup_names {fields : List CorrelationField} (h : Chosen fields) :
    (fields.map (·.name)).Nodup := by
  induction h with
  | new => decide
  | clear => exact List.nodup_nil
  | @withField fields field _ ih =>
    unfold addTo
    split
    . exact ih
    . next hfree =>
      rw [Logged.value_pure, List.map_append, List.map_singleton]
      apply ih.append (List.nodup_singleton _)
      rw [List.disjoint_singleton]
      intro htaken
      apply hfree
      rw [List.any_eq_true]
      obtain ⟨existing, hexisting, hname⟩ := List.mem_map.1 htaken
      exact ⟨existing, hexisting, by simpa using hname⟩

variable (context : Option Snapshot) (values : CorrelationValues)

theorem keep_eq_nil_iff (field : CorrelationField) :
    keep context values field = [] ↔ ¬field.PutBack context values := by
  unfold keep PutBack Changes
  simp

theorem keep_of_putBack {field : CorrelationField} (h : field.PutBack context values) :
    keep context values field = [(field.name, values.get? field.name)] := by
  unfold PutBack Changes at h
  unfold keep
  rw [if_pos (by simpa using h)]

theorem keep_write_of_ne {field other : CorrelationField} (h : field.name ≠ other.name) :
    keep context (write context values other) field = keep context values field := by
  unfold keep
  rw [get?_write, if_neg h]

theorem fst_apply {fields : List CorrelationField} (h : (fields.map (·.name)).Nodup) :
    (apply context values fields).1 = fields.flatMap (keep context values) := by
  induction fields generalizing values with
  | nil => rfl
  | cons field fields ih =>
    rw [List.map_cons, List.nodup_cons] at h
    have hkeep : fields.flatMap (keep context (write context values field)) =
        fields.flatMap (keep context values) := by
      apply List.flatMap_congr
      intro other hother
      apply keep_write_of_ne
      intro hname
      exact h.1 (hname ▸ List.mem_map_of_mem hother)
    rw [apply_cons, List.flatMap_cons, ih _ h.2, hkeep]

variable {fields : List CorrelationField}

theorem mem_fst_apply (h : (fields.map (·.name)).Nodup) {entry : String × Option String} :
    entry ∈ (apply context values fields).1 ↔
      ∃ field ∈ fields, field.PutBack context values ∧
        entry = (field.name, values.get? field.name) := by
  rw [fst_apply context values h, List.mem_flatMap]
  apply exists_congr
  intro field
  apply and_congr_right
  intro _
  by_cases hfield : field.PutBack context values
  . rw [keep_of_putBack context values hfield, List.mem_singleton]
    exact (and_iff_right hfield).symm
  . rw [(keep_eq_nil_iff context values field).2 hfield]
    simp [hfield]

theorem get?_restore_of_putBack (h : (fields.map (·.name)).Nodup) {field : CorrelationField}
    (hmem : field ∈ fields) (hfield : field.PutBack context values) (later : CorrelationValues) :
    (restore later (apply context values fields).1).get? field.name = values.get? field.name := by
  rw [get?_restore]
  cases lookup_apply context values fields field.name with
  | inl hkept => rw [hkept, Option.getD_some]
  | inr hnone =>
    have hentry := (mem_fst_apply context values h).2 ⟨field, hmem, hfield, rfl⟩
    have hne := List.lookup_eq_none_iff.1 hnone.1 _ hentry
    simp at hne

theorem get?_restore_of_not_putBack (h : (fields.map (·.name)).Nodup) {name : String}
    (hname : ∀ field ∈ fields, field.name = name → ¬field.PutBack context values)
    (later : CorrelationValues) :
    (restore later (apply context values fields).1).get? name = later.get? name := by
  have hnone : (apply context values fields).1.lookup name = none := by
    rw [List.lookup_eq_none_iff]
    intro entry hentry
    obtain ⟨field, hmem, hfield, rfl⟩ := (mem_fst_apply context values h).1 hentry
    rw [bne_iff_ne]
    intro heq
    exact hname field hmem heq.symm hfield
  rw [get?_restore, hnone, Option.getD_none]

theorem get?_apply_self (h : (fields.map (·.name)).Nodup) {field : CorrelationField}
    (hmem : field ∈ fields) :
    (apply context values fields).2.get? field.name = field.target context := by
  apply get?_apply_of_mem context values hmem
  intro other hother hname
  rw [List.inj_on_of_nodup_map h hother hmem hname]

theorem get?_apply_of_not_changes {name : String}
    (hname : ∀ field ∈ fields, field.name = name → ¬field.Changes context values) :
    (apply context values fields).2.get? name = values.get? name := by
  apply get?_apply_of_forall context values _ rfl
  intro field hmem heq
  have hsame := hname field hmem heq
  unfold Changes at hsame
  rw [heq, not_not] at hsame
  exact hsame.symm

end CorrelationField

theorem Ambient.isNoop_decorate_iff (view : α → Snapshot) (context : Option α) (ambient : Ambient α)
    (fields : List CorrelationField) :
    (ambient.decorate view context (.correlation fields)).1.isNoop ↔
      (CorrelationField.apply (context.map view) ambient.thread.correlation fields).1 = [] := by
  unfold decorate Decoration.isNoop
  dsimp only
  split
  . next hnil => simp [hnil]
  . next hkept => simp [hkept]

namespace CorrelationField

/--
Opening a scope gives each field its value in the context, and no name changes but those of fields
that differ. Closing puts back what was found under these and under the dirty ones, whatever it was
replaced with since, and every other name keeps what it has by then. There is nothing to undo
exactly where no field differs and none is dirty.
-/
theorem Chosen.decorate_undo {fields : List CorrelationField} (chosen : Chosen fields)
    (view : α → Snapshot) (context : Option α) (ambient later : Ambient α) :
    let found := ambient.thread.correlation
    let decorated := ambient.decorate view context (.correlation fields)
    let opened := decorated.2.thread.correlation
    let closed := (later.undo decorated.1).thread.correlation
    (∀ field ∈ fields, opened.get? field.name = field.target (context.map view)) ∧
    (∀ name, (∀ field ∈ fields, field.name = name → ¬field.Changes (context.map view) found) →
      opened.get? name = found.get? name) ∧
    (∀ field ∈ fields, field.PutBack (context.map view) found →
      closed.get? field.name = found.get? field.name) ∧
    (∀ name, (∀ field ∈ fields, field.name = name → ¬field.PutBack (context.map view) found) →
      closed.get? name = later.thread.correlation.get? name) ∧
    (decorated.1.isNoop ↔ ∀ field ∈ fields, ¬field.PutBack (context.map view) found) := by
  intro found decorated opened closed
  have hnodup := chosen.nodup_names
  obtain ⟨hkept, hopened⟩ : decorated.1.kept = (apply (context.map view) found fields).1 ∧
      opened = (apply (context.map view) found fields).2 :=
    ambient.decorate_correlation view context (.correlation fields)
  have hclosed : closed =
      restore later.thread.correlation (apply (context.map view) found fields).1 := by
    rw [← hkept]
    exact later.correlation_undo decorated.1
  rw [hopened, hclosed]
  refine ⟨?_, ?_, ?_, ?_, ?_⟩
  . intro field hmem
    exact get?_apply_self _ _ hnodup hmem
  . intro name hname
    exact get?_apply_of_not_changes _ _ hname
  . intro field hmem hfield
    exact get?_restore_of_putBack _ _ hnodup hmem hfield _
  . intro name hname
    exact get?_restore_of_not_putBack _ _ hnodup hname _
  . rw [Ambient.isNoop_decorate_iff, fst_apply _ _ hnodup, List.flatMap_eq_nil_iff]
    apply forall₂_congr
    intro field _
    exact keep_eq_nil_iff _ _ field

theorem Chosen.decorate_undo_dirty :
    let plain := ofSource .traceId
    let dirty : CorrelationField := ⟨.spanId, "user", true⟩
    let context : Snapshot := { (default : Snapshot) with traceId := ⟨1⟩, spanId := ⟨2⟩ }
    let thread (traceId user : String) : Ambient Snapshot :=
      ⟨⟨"main", [], ⟨[("traceId", traceId), ("user", user)]⟩⟩, [], []⟩
    let decorated := (thread context.traceId.toText context.spanId.toText).decorate id (some context)
      (.correlation [plain, dirty])
    let closed := ((thread "x" "y").undo decorated.1).thread.correlation
    Chosen [plain, dirty] ∧ decorated.1.isNoop = false ∧
      closed.get? "user" = some context.spanId.toText ∧ closed.get? "traceId" = some "x" := by
  intro plain dirty context thread decorated closed
  have chosen : Chosen [plain, dirty] := (Chosen.new.clear.withField plain).withField dirty
  obtain ⟨_, _, hback, hleft, hnoop⟩ := chosen.decorate_undo id (some context)
    (thread context.traceId.toText context.spanId.toText) (thread "x" "y")
  have hdirty : dirty ∈ [plain, dirty] := by simp
  refine ⟨chosen, ?_, hback dirty hdirty (.inr rfl), ?_⟩
  . rw [← Bool.not_eq_true, hnoop]
    intro hall
    exact hall dirty hdirty (.inr rfl)
  . apply hleft "traceId"
    intro field hmem hname hfield
    rw [List.mem_cons, List.mem_singleton] at hmem
    cases hmem with
    | inl heq =>
      rw [heq] at hfield
      cases hfield with
      | inl hchanges => exact hchanges rfl
      | inr h => cases h
    | inr heq =>
      rw [heq] at hname
      revert hname
      decide

end CorrelationField

end RequestTracing
