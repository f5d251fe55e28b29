import Mathlib
import RequestTracing.Proofs.Lookup
import RequestTracing.Proofs.Span.Reachable

/-!
This module contains what the tags of a span are after any edits. Main statement: they are the keys
that were set and not removed since, each once with its last value, and a key that was set earlier
after it was absent comes earlier.
-/

namespace RequestTracing

def SpanEdit.valueFor? (key : String) : SpanEdit → Option String
  | .tag other value => if other = key ∧ key ≠ "" then some value else none
  | _ => none

namespace SpanData

def lifetime (key : String) (edits : List SpanEdit) : List SpanEdit :=
  (edits.rtakeWhile fun edit => edit ≠ .removeTag key).dropWhile fun edit =>
    (edit.valueFor? key).isNone

def lastValue? (key : String) (edits : List SpanEdit) : Option String :=
  (lifetime key edits).reverse.findSome? (SpanEdit.valueFor? key)

def age (key : String) (edits : List SpanEdit) : Nat :=
  (lifetime key edits).length

inductive EditedBy : List SpanEdit → SpanData → Prop where
  | empty : EditedBy [] .empty
  | ofContext {β : Type} (context : TraceContext β) {edits : List SpanEdit} {template : SpanData}
      (h : EditedBy edits template) : EditedBy edits (.ofContext context template)
  | perform {edits : List SpanEdit} {span : SpanData} (h : EditedBy edits span) (edit : SpanEdit) :
      EditedBy (edits ++ [edit]) (span.perform edit).2

structure Standing (edits : List SpanEdit) (tags : List (String × String)) : Prop where
  lookup (key : String) : tags.lookup key = lastValue? key edits
  ordered : (tags.map (·.1)).Pairwise fun a b => age b edits < age a edits

variable {key : String} {edits : List SpanEdit} {edit : SpanEdit} {tags : List (String × String)}

theorem lifetime_concat_of_remove : lifetime key (edits ++ [.removeTag key]) = [] := by
  unfold lifetime
  rw [List.rtakeWhile_concat_neg _ _ _ (by simp)]
  rfl

theorem lifetime_concat (h : edit ≠ .removeTag key) :
    lifetime key (edits ++ [edit]) =
      if lifetime key edits = [] ∧ edit.valueFor? key = none then []
      else lifetime key edits ++ [edit] := by
  unfold lifetime
  rw [List.rtakeWhile_concat_pos _ _ _ (by simpa using h), List.dropWhile_append]
  simp only [List.isEmpty_iff]
  split
  . next hnone =>
    rw [hnone]
    cases hvalue : edit.valueFor? key <;> simp [hvalue]
  . next hsome => rw [if_neg fun hnone => hsome hnone.1]

theorem age_concat_of_pos (hpos : 0 < age key edits) (h : edit ≠ .removeTag key) :
    age key (edits ++ [edit]) = age key edits + 1 := by
  unfold age at *
  rw [lifetime_concat h, if_neg]
  . simp
  . intro hnone
    simp [hnone.1] at hpos

theorem age_concat_of_zero (hzero : age key edits = 0) {value : String}
    (h : edit.valueFor? key = some value) : age key (edits ++ [edit]) = 1 := by
  unfold age at *
  have hedit : edit ≠ .removeTag key := by
    rintro rfl
    simp [SpanEdit.valueFor?] at h
  rw [lifetime_concat hedit, if_neg (by simp [h])]
  simpa using hzero

theorem lastValue?_concat_of_remove : lastValue? key (edits ++ [.removeTag key]) = none := by
  unfold lastValue?
  rw [lifetime_concat_of_remove]
  rfl

theorem lastValue?_concat (h : edit ≠ .removeTag key) :
    lastValue? key (edits ++ [edit]) = (edit.valueFor? key).or (lastValue? key edits) := by
  unfold lastValue?
  rw [lifetime_concat h]
  split
  . next hnone => simp [hnone]
  . cases hvalue : edit.valueFor? key <;> simp [hvalue]

theorem isSome_lastValue?_iff : (lastValue? key edits).isSome ↔ 0 < age key edits := by
  unfold lastValue? age
  rw [List.findSome?_isSome_iff, List.length_pos_iff_ne_nil]
  constructor
  . rintro ⟨edit, hmem, _⟩ hnil
    simp [hnil] at hmem
  . intro hne
    refine ⟨(lifetime key edits).head hne, List.mem_reverse.2 (List.head_mem hne), ?_⟩
    rw [← Option.isNone_eq_false_iff]
    exact List.head_dropWhile_not (fun edit : SpanEdit => (edit.valueFor? key).isNone) hne

theorem lookup_putTag (tags : List (String × String)) (key value other : String) :
    (putTag key value tags).lookup other =
      if other = key then some value else tags.lookup other := by
  induction tags with
  | nil =>
    unfold putTag
    split
    . next h => simp [h]
    . next h => rw [Lookup.lookup_cons_ne h]
  | cons entry rest ih =>
    obtain ⟨k, v⟩ := entry
    unfold putTag
    by_cases hk : k = key
    . rw [if_pos hk]
      split
      . next h => simp [h, hk]
      . next h => rw [Lookup.lookup_cons_ne (hk ▸ h), Lookup.lookup_cons_ne (hk ▸ h)]
    . rw [if_neg hk, List.lookup_cons, List.lookup_cons, ih]
      split
      . next h =>
        rw [beq_iff_eq] at h
        rw [if_neg (h ▸ hk)]
      . rfl

theorem eraseTag_eq_filter (h : (tags.map (·.1)).Nodup) (key : String) :
    eraseTag key tags = tags.filter fun entry => entry.1 ≠ key := by
  induction tags with
  | nil => rfl
  | cons entry rest ih =>
    obtain ⟨k, v⟩ := entry
    rw [List.map_cons, List.nodup_cons] at h
    unfold eraseTag
    split
    . next hk =>
      rw [List.filter_cons_of_neg (by simpa using hk), eq_comm, List.filter_eq_self]
      intro other hother
      apply decide_eq_true
      intro heq
      apply h.1
      rw [hk, ← heq]
      exact List.mem_map_of_mem (f := (·.1)) hother
    . next hk => rw [List.filter_cons_of_pos (by simpa using hk), ih h.2]

theorem putTag_filter (tags : List (String × String)) (key value : String) :
    (putTag key value tags).filter (fun entry => entry.1 ≠ key) =
      tags.filter fun entry => entry.1 ≠ key := by
  induction tags with
  | nil => simp [putTag]
  | cons entry rest ih =>
    obtain ⟨k, v⟩ := entry
    unfold putTag
    split
    . next hk => simp [hk]
    . next hk => simp only [List.filter_cons, ih]

theorem filter_onTags (h : (tags.map (·.1)).Nodup)
    (hedit : edit = .removeTag key ∨ ∃ value, edit = .tag key value) :
    (onTags tags edit).filter (fun entry => entry.1 ≠ key) =
      tags.filter fun entry => entry.1 ≠ key := by
  rcases hedit with rfl | ⟨value, rfl⟩
  . unfold onTags
    dsimp only
    rw [eraseTag_eq_filter h, List.filter_filter]
    simp
  . unfold onTags
    dsimp only
    split
    . rfl
    . exact putTag_filter tags key value

theorem ordered_concat {keys : List String} (h : keys.Pairwise fun a b => age b edits < age a edits)
    (edit : SpanEdit) (hkeys : ∀ key ∈ keys, 0 < age key edits ∧ edit ≠ .removeTag key) :
    keys.Pairwise fun a b => age b (edits ++ [edit]) < age a (edits ++ [edit]) := by
  apply h.imp_of_mem
  intro a b ha hb hlt
  rw [age_concat_of_pos (hkeys a ha).1 (hkeys a ha).2,
    age_concat_of_pos (hkeys b hb).1 (hkeys b hb).2]
  omega

namespace Standing

theorem nodup (h : Standing edits tags) : (tags.map (·.1)).Nodup := by
  apply h.ordered.imp
  rintro a _ hlt rfl
  exact Nat.lt_irrefl _ hlt

theorem age_pos_iff (h : Standing edits tags) : 0 < age key edits ↔ key ∈ tags.map (·.1) := by
  rw [← isSome_lastValue?_iff, ← h.lookup, List.lookup_isSome_iff, List.mem_map]
  apply exists_congr
  intro entry
  rw [beq_iff_eq, eq_comm]

theorem tag (h : Standing edits tags) (hkey : key ≠ "") (value : String) :
    Standing (edits ++ [.tag key value]) (putTag key value tags) where
  lookup other := by
    rw [lookup_putTag, lastValue?_concat (by simp), h.lookup]
    unfold SpanEdit.valueFor?
    dsimp only
    split
    . next hother => simp [hother, hkey]
    . next hother => simp [Ne.symm hother]
  ordered := by
    have hold := ordered_concat h.ordered (.tag key value) fun other hother =>
      ⟨h.age_pos_iff.2 hother, by simp⟩
    rw [keys_putTag]
    split
    . exact hold
    . next hnew =>
      -- a key that was absent is set by this edit alone, every other one was set before
      have hvalue : (SpanEdit.tag key value).valueFor? key = some value := by
        simp [SpanEdit.valueFor?, hkey]
      have hset : age key (edits ++ [.tag key value]) = 1 := by
        apply age_concat_of_zero _ hvalue
        rw [← h.age_pos_iff] at hnew
        omega
      apply List.pairwise_append.2
      refine ⟨hold, List.pairwise_singleton _ _, ?_⟩
      intro other hother last hlast
      have hpos := h.age_pos_iff.2 hother
      rw [List.mem_singleton.1 hlast, hset, age_concat_of_pos hpos (by simp)]
      omega

theorem removeTag (h : Standing edits tags) (key : String) :
    Standing (edits ++ [.removeTag key]) (eraseTag key tags) where
  lookup other := by
    rw [eraseTag_eq_filter h.nodup, Lookup.lookup_filter_ne]
    split
    . next hother => rw [hother, lastValue?_concat_of_remove]
    . next hother =>
      rw [h.lookup, lastValue?_concat (by simpa using Ne.symm hother)]
      rfl
  ordered := by
    rw [eraseTag_eq_filter h.nodup]
    apply ordered_concat
    . exact h.ordered.sublist (List.filter_sublist.map _)
    . intro other hother
      obtain ⟨entry, hentry, rfl⟩ := List.mem_map.1 hother
      rw [List.mem_filter] at hentry
      have hne : entry.1 ≠ key := by simpa using hentry.2
      exact ⟨h.age_pos_iff.2 (List.mem_map_of_mem hentry.1), by simpa using hne.symm⟩

theorem spared (h : Standing edits tags) (hvalue : ∀ key, edit.valueFor? key = none)
    (hremove : ∀ key, edit ≠ .removeTag key) : Standing (edits ++ [edit]) tags where
  lookup key := by
    rw [h.lookup, lastValue?_concat (hremove key), hvalue]
    rfl
  ordered := ordered_concat h.ordered edit fun key hkey => ⟨h.age_pos_iff.2 hkey, hremove key⟩

theorem onTags (h : Standing edits tags) (edit : SpanEdit) :
    Standing (edits ++ [edit]) (SpanData.onTags tags edit) := by
  cases edit with
  | tag key value =>
    unfold SpanData.onTags
    dsimp only
    split
    . next hkey =>
      apply h.spared
      . intro other
        unfold SpanEdit.valueFor?
        dsimp only
        rw [if_neg]
        rintro ⟨rfl, hne⟩
        exact hne hkey
      . intro other
        simp
    . next hkey => exact h.tag hkey value
  | removeTag key => exact h.removeTag key
  | _ => exact h.spared (fun _ => rfl) fun _ => by simp

end Standing

variable {span : SpanData}

theorem EditedBy.standing (h : EditedBy edits span) : Standing edits span.tags := by
  induction h with
  | empty => exact ⟨fun _ => rfl, List.Pairwise.nil⟩
  | ofContext context h ih => exact ih
  | perform h edit ih =>
    rw [tags_perform]
    exact ih.onTags edit

theorem EditedBy.performAll (h : EditedBy edits span) (more : List SpanEdit) :
    EditedBy (edits ++ more) (span.performAll more).2 := by
  induction more generalizing edits span with
  | nil =>
    rw [List.append_nil]
    exact h
  | cons edit more ih =>
    rw [List.append_cons]
    exact ih (h.perform edit)

/--
Whatever edits led to a span: its tags are the keys that were set and not removed since, each once
with its last value, those that have been there longer first. Looking a tag up and removing it
answer that value, and what is done to one key leaves the values and the order of all others.
-/
theorem tags_follow_edits (h : EditedBy edits span) :
    (∀ key value, (key, value) ∈ span.tags ↔ lastValue? key edits = some value) ∧
    (span.tags.map (·.1)).Nodup ∧
    (span.tags.map (·.1)).Pairwise (fun a b => age b edits < age a edits) ∧
    (∀ key, span.tagValue? key = lastValue? key edits) ∧
    (∀ key, (span.perform (.removeTag key)).1 = .text (lastValue? key edits)) ∧
    ∀ key edit, (edit = .removeTag key ∨ ∃ value, edit = .tag key value) →
      (span.perform edit).2.tags.filter (fun entry => entry.1 ≠ key) =
        span.tags.filter fun entry => entry.1 ≠ key := by
  have hstanding := h.standing
  have hnodup := hstanding.nodup
  refine ⟨?_, hnodup, hstanding.ordered, hstanding.lookup, ?_, ?_⟩
  . intro key value
    rw [← hstanding.lookup]
    exact ⟨Lookup.lookup_eq_some_of_mem hnodup, Lookup.mem_of_lookup_eq_some⟩
  . intro key
    rw [← hstanding.lookup]
    rfl
  . intro key edit hedit
    rw [tags_perform]
    exact filter_onTags hnodup hedit

theorem tags_follow_edits_set_again :
    let defaults : List SpanEdit := [.tag "env" "test", .tag "http.path" "/"]
    let edits : List SpanEdit := [.tag "http.path" "/users", .tag "" "left out", .setName "get",
      .removeTag "env", .removeTag "error", .tag "error" "timeout", .tag "env" "prod",
      .tag "http.path" "/users/7"]
    let context : TraceContext Nat :=
      { traceId := ⟨10⟩, spanId := ⟨11⟩, parentId := none, localRootId := none, flags := .empty,
        shared := false, extra := [] }
    let span := ((ofContext context (empty.performAll defaults).2).performAll edits).2
    EditedBy (defaults ++ edits) span ∧
      ("env", "prod") ∈ span.tags ∧ ("env", "test") ∉ span.tags ∧
      span.tagValue? "http.path" = some "/users/7" ∧ span.tagValue? "" = none ∧
      (span.perform (.removeTag "error")).1 = .text (some "timeout") ∧
      span.tags.map (·.1) = ["http.path", "error", "env"] := by
  intro defaults edits context span
  have hdefaults : EditedBy defaults (empty.performAll defaults).2 :=
    EditedBy.empty.performAll defaults
  have hspan : EditedBy (defaults ++ edits) span := (hdefaults.ofContext context).performAll edits
  obtain ⟨hmem, _, _, hvalue, hremove, _⟩ := tags_follow_edits hspan
  refine ⟨hspan, (hmem _ _).2 ?_, fun h => ?_, (hvalue _).trans ?_, (hvalue _).trans ?_,
    (hremove _).trans ?_, ?_⟩
  . decide +kernel
  . have hold := (hmem _ _).1 h
    revert hold
    decide +kernel
  . decide +kernel
  . decide +kernel
  . decide +kernel
  . decide +kernel

end SpanData

end RequestTracing
