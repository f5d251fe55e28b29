import Mathlib
import RequestTracing.Span.Edit

/-!
This module contains the spans that can be recorded, which are those that edits make of an empty
span or of a span for a context. Main statement: no two tags of such a span have the same key.
-/

namespace RequestTracing.SpanData

inductive Reachable : SpanData → Prop where
  | empty : Reachable .empty
  | ofContext {β : Type} (context : TraceContext β) {template : SpanData}
      (h : Reachable template) : Reachable (.ofContext context template)
  | perform {span : SpanData} (h : Reachable span) (edit : SpanEdit) :
      Reachable (span.perform edit).2

theorem keys_putTag (key value : String) (tags : List (String × String)) :
    (putTag key value tags).map (·.1) =
      if key ∈ tags.map (·.1) then tags.map (·.1) else tags.map (·.1) ++ [key] := by
  induction tags with
  | nil => rfl
  | cons entry rest ih =>
    obtain ⟨k, v⟩ := entry
    rw [putTag]
    by_cases hk : k = key
    . rw [if_pos hk, hk]
      simp
    . rw [if_neg hk, List.map_cons, ih]
      by_cases hmem : key ∈ rest.map (·.1)
      . rw [if_pos hmem, if_pos (by simp [hmem])]
        rfl
      . rw [if_neg hmem, if_neg (by simp [hmem, Ne.symm hk])]
        rfl

theorem nodup_keys_putTag {tags : List (String × String)} (h : (tags.map (·.1)).Nodup)
    (key value : String) : ((putTag key value tags).map (·.1)).Nodup := by
  rw [keys_putTag]
  split
  . exact h
  . next hkey =>
    rw [← List.concat_eq_append]
    exact List.Nodup.concat hkey h

theorem eraseTag_sublist (key : String) (tags : List (String × String)) :
    (eraseTag key tags).Sublist tags := by
  induction tags with
  | nil => exact List.Sublist.refl _
  | cons entry rest ih =>
    obtain ⟨k, v⟩ := entry
    rw [eraseTag]
    split
    . exact List.sublist_cons_self _ rest
    . exact ih.cons_cons _

theorem nodup_keys_eraseTag {tags : List (String × String)} (h : (tags.map (·.1)).Nodup)
    (key : String) : ((eraseTag key tags).map (·.1)).Nodup :=
  h.sublist ((eraseTag_sublist key tags).map _)

theorem tags_settle {span : SpanData} {f : String → SpanData} (h : ∀ id, (f id).tags = span.tags)
    (id : Except TraceError String) :
    (span.settle (id >>= fun id => pure (f id))).2.tags = span.tags := by
  cases id with
  | ok id => exact h id
  | error e => rfl

theorem tags_judge {span : SpanData} {f : Address → SpanData} (h : ∀ a, (f a).tags = span.tags)
    (address : Option Address) : (span.judge (address.map f)).2.tags = span.tags := by
  cases address with
  | some address => exact h address
  | none => rfl

def onTags (tags : List (String × String)) : SpanEdit → List (String × String)
  | .tag key value => if key = "" then tags else putTag key value tags
  | .removeTag key => eraseTag key tags
  | _ => tags

theorem tags_perform (span : SpanData) (edit : SpanEdit) :
    (span.perform edit).2.tags = onTags span.tags edit := by
  cases edit with
  | tag key value =>
    unfold perform tag onTags
    dsimp only
    split <;> rfl
  | setTraceId given =>
    unfold perform setTraceId
    apply tags_settle
    intro id
    rfl
  | setLocalRootId given =>
    unfold perform setLocalRootId
    apply tags_settle
    intro id
    rfl
  | setParentId given =>
    cases given with
    | none => rfl
    | some given =>
      unfold perform setParentId
      apply tags_settle
      intro id
      rfl
  | setId given =>
    unfold perform setId
    apply tags_settle
    intro id
    rfl
  | setLocalAddress text =>
    unfold perform setLocalAddress?
    apply tags_judge
    intro address
    rfl
  | setRemoteAddress text port =>
    unfold perform setRemoteAddress?
    apply tags_judge
    intro address
    rfl
  | annotate time text =>
    unfold perform annotate
    dsimp only
    split <;> rfl
  | _ => rfl

theorem nodup_keys_onTags {tags : List (String × String)} (h : (tags.map (·.1)).Nodup)
    (edit : SpanEdit) : ((onTags tags edit).map (·.1)).Nodup := by
  cases edit with
  | tag key value =>
    unfold onTags
    dsimp only
    split
    . exact h
    . exact nodup_keys_putTag h key value
  | removeTag key => exact nodup_keys_eraseTag h key
  | _ => exact h

theorem Reachable.nodup_tags {span : SpanData} (h : span.Reachable) :
    (span.tags.map (·.1)).Nodup := by
  induction h with
  | empty => exact List.nodup_nil
  | ofContext context h ih => exact ih
  | perform h edit ih =>
    rw [tags_perform]
    exact nodup_keys_onTags ih edit

end RequestTracing.SpanData
