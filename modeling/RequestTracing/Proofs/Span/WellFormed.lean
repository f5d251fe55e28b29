import Mathlib
import RequestTracing.Proofs.Span.Identifier
import RequestTracing.Proofs.Span.Reachable

/-!
This module contains what holds of every span that is recorded, whatever edits it went through. Main
statement: its identifiers are digits of full width and not zeros alone, no text in it is there and
empty, its addresses are unmapped, its annotations and tags can be placed, and an edit that is
rejected leaves all of it as it was.
-/

namespace RequestTracing

def IdentifierRole.widths : IdentifierRole → List Nat
  | .trace => [16, 32]
  | _ => [16]

structure IsIdentifier (role : IdentifierRole) (text : String) : Prop where
  length_mem : text.length ∈ role.widths
  isDigit : ∀ c ∈ text.toList, Hex.isDigit c
  ne_zeros : ∃ c ∈ text.toList, c ≠ '0'

theorem storedWidth_mem_widths {role : IdentifierRole} {given : String}
    (h : given.length ≤ role.maxDigits) : storedWidth given ∈ role.widths := by
  unfold storedWidth
  split
  . cases role <;> decide
  . next hlong =>
    cases role with
    | trace => decide
    | _ => exact absurd h hlong

theorem isIdentifier_of_normalized {role : IdentifierRole} {given text : String}
    (h : normalizedIdentifier role given = .ok text) : IsIdentifier role text := by
  have hlength := length_normalizedIdentifier h
  -- The stored text is accepted itself, so it passes the checks.
  have hagain := normalizedIdentifier_of_normalized h
  unfold normalizedIdentifier at hagain
  dsimp only at hagain
  split at hagain
  . next haccepted =>
    obtain ⟨_, hle, hdigits, hany⟩ := haccepted
    rw [String.length_toList] at hle
    have hmem := storedWidth_mem_widths hle
    rw [storedWidth_of_length hlength, ← hlength] at hmem
    exact ⟨hmem, List.all_eq_true.1 hdigits, by simpa using hany⟩
  . cases hagain

theorem isIdentifier_traceId {id : TraceId} (h : id ≠ .invalid) : IsIdentifier .trace id.toText :=
  isIdentifier_of_normalized (normalizedIdentifier_traceId h)

theorem isIdentifier_spanId (role : IdentifierRole) {id : SpanId} (h : id ≠ .invalid) :
    IsIdentifier role id.toText :=
  isIdentifier_of_normalized (normalizedIdentifier_spanId role h)

namespace Address

def IsMapped : Address → Prop
  | .v4 _ _ _ _ => False
  | .v6 groups => (∀ i < 5, groups[i]? = some 0) ∧ groups[5]? = some 0xffff

theorem not_isMapped_unmapped (address : Address) : ¬address.unmapped.IsMapped := by
  cases address with
  | v4 a b c d => exact id
  | v6 groups =>
    unfold unmapped
    dsimp only
    split
    . exact id
    . next hcarries =>
      rintro ⟨hzeros, hmark⟩
      have hzero (i : Nat) (hi : i < 5) : groups[i] = 0 := by
        obtain ⟨_, hgroup⟩ := Vector.getElem?_eq_some_iff.1 (hzeros i hi)
        exact hgroup
      exact hcarries ⟨hzero 0 (by decide), hzero 1 (by decide), hzero 2 (by decide),
        hzero 3 (by decide), hzero 4 (by decide), by simpa using hmark⟩

theorem not_isMapped_of_parse? {text : String} {address : Address}
    (h : parse? text = some address) : ¬address.IsMapped := by
  obtain ⟨read, _, rfl⟩ := Option.map_eq_some_iff.1 h
  exact not_isMapped_unmapped read

end Address

theorem nonempty?_ne (text : String) : nonempty? text ≠ some "" := by
  unfold nonempty?
  split
  . simp
  . next h => simpa using h

structure Endpoint.WellFormed (endpoint : Endpoint) : Prop where
  serviceName : endpoint.serviceName ≠ some ""
  address : ∀ address ∈ endpoint.address, ¬address.IsMapped

namespace SpanData

structure WellFormed (span : SpanData) : Prop where
  traceId : ∀ id ∈ span.traceId, IsIdentifier .trace id
  localRootId : ∀ id ∈ span.localRootId, IsIdentifier .localRoot id
  parentId : ∀ id ∈ span.parentId, IsIdentifier .parent id
  id : ∀ id ∈ span.id, IsIdentifier .span id
  name : span.name ≠ some ""
  localEndpoint : span.localEndpoint.WellFormed
  remoteEndpoint : span.remoteEndpoint.WellFormed
  annotations : ∀ note ∈ span.annotations, note.1 ≠ 0 ∧ note.2 ≠ ""
  tags : "" ∉ span.tags.map (·.1)
  nodup_tags : (span.tags.map (·.1)).Nodup

theorem wellFormed_empty : WellFormed empty where
  traceId := by simp [empty]
  localRootId := by simp [empty]
  parentId := by simp [empty]
  id := by simp [empty]
  name := by simp [empty]
  localEndpoint := ⟨by simp [empty], by simp [empty]⟩
  remoteEndpoint := ⟨by simp [empty], by simp [empty]⟩
  annotations := by simp [empty]
  tags := by simp [empty]
  nodup_tags := List.nodup_nil

variable {span : SpanData}

theorem WellFormed.ofContext {β : Type} {context : TraceContext β} {template : SpanData}
    (h : template.WellFormed) (hvalid : context.Valid) (hroot : context.localRootId ≠ some .invalid) :
    (SpanData.ofContext context template).WellFormed where
  traceId := by
    intro text htext
    rw [← Option.some.inj htext]
    exact isIdentifier_traceId hvalid.traceId
  localRootId := by
    intro text htext
    obtain ⟨root, hid, rfl⟩ := Option.map_eq_some_iff.1 htext
    refine isIdentifier_spanId .localRoot ?_
    rintro rfl
    exact hroot hid
  parentId := by
    intro text htext
    obtain ⟨parent, hid, rfl⟩ := Option.map_eq_some_iff.1 htext
    refine isIdentifier_spanId .parent ?_
    rintro rfl
    exact hvalid.parentId hid
  id := by
    intro text htext
    rw [← Option.some.inj htext]
    exact isIdentifier_spanId .span hvalid.spanId
  name := h.name
  localEndpoint := h.localEndpoint
  remoteEndpoint := h.remoteEndpoint
  annotations := h.annotations
  tags := h.tags
  nodup_tags := h.nodup_tags

theorem WellFormed.settle (h : span.WellFormed) (role : IdentifierRole) (given : String)
    {put : String → SpanData} (hput : ∀ text, IsIdentifier role text → (put text).WellFormed) :
    (span.settle ((normalizedIdentifier role given).map put)).2.WellFormed := by
  cases hstored : normalizedIdentifier role given with
  | ok text => exact hput text (isIdentifier_of_normalized hstored)
  | error e => exact h

theorem WellFormed.judge (h : span.WellFormed) (text : String) {put : Address → SpanData}
    (hput : ∀ address : Address, ¬address.IsMapped → (put address).WellFormed) :
    (span.judge ((Address.parse? text).map put)).2.WellFormed := by
  cases hparse : Address.parse? text with
  | some address => exact hput address (Address.not_isMapped_of_parse? hparse)
  | none => exact h

theorem WellFormed.annotate (h : span.WellFormed) (time : UInt64) (text : String) :
    (span.annotate time text).WellFormed := by
  unfold SpanData.annotate
  split
  . exact h
  . next hgiven =>
    refine { h with annotations := ?_ }
    intro note hnote
    cases List.mem_append.1 hnote with
    | inl hold => exact h.annotations note hold
    | inr hnew =>
      rw [List.mem_singleton.1 hnew]
      exact not_or.1 hgiven

theorem WellFormed.tag (h : span.WellFormed) (key value : String) :
    (span.tag key value).WellFormed := by
  unfold SpanData.tag
  split
  . exact h
  . next hkey =>
    refine { h with tags := ?_, nodup_tags := nodup_keys_putTag h.nodup_tags key value }
    dsimp only
    rw [keys_putTag]
    split
    . exact h.tags
    . rw [List.mem_append, List.mem_singleton]
      rintro (hold | hnew)
      . exact h.tags hold
      . exact hkey hnew.symm

theorem WellFormed.removeTag (h : span.WellFormed) (key : String) :
    (span.removeTag key).WellFormed :=
  { h with
    tags := fun hmem => h.tags (((eraseTag_sublist key span.tags).map _).subset hmem)
    nodup_tags := nodup_keys_eraseTag h.nodup_tags key }

theorem WellFormed.perform (h : span.WellFormed) (edit : SpanEdit) :
    (span.perform edit).2.WellFormed := by
  cases edit with
  | setTraceId given =>
    refine h.settle .trace given fun text htext => { h with traceId := ?_ }
    rintro _ ⟨⟩
    exact htext
  | setLocalRootId given =>
    refine h.settle .localRoot given fun text htext => { h with localRootId := ?_ }
    rintro _ ⟨⟩
    exact htext
  | setParentId given =>
    cases given with
    | none => exact { h with parentId := fun _ hid => absurd hid (Option.not_mem_none _) }
    | some given =>
      refine h.settle .parent given fun text htext => { h with parentId := ?_ }
      rintro _ ⟨⟩
      exact htext
  | setId given =>
    refine h.settle .span given fun text htext => { h with id := ?_ }
    rintro _ ⟨⟩
    exact htext
  | setName name => exact { h with name := nonempty?_ne name }
  | setLocalServiceName name =>
    exact { h with localEndpoint := ⟨nonempty?_ne name, h.localEndpoint.address⟩ }
  | setRemoteServiceName name =>
    exact { h with remoteEndpoint := ⟨nonempty?_ne name, h.remoteEndpoint.address⟩ }
  | setLocalAddress text =>
    refine h.judge text fun address haddress =>
      { h with localEndpoint := ⟨h.localEndpoint.serviceName, ?_⟩ }
    rintro _ ⟨⟩
    exact haddress
  | setRemoteAddress text port =>
    refine h.judge text fun address haddress =>
      { h with remoteEndpoint := ⟨h.remoteEndpoint.serviceName, ?_⟩ }
    rintro _ ⟨⟩
    exact haddress
  | setLocalPort port =>
    exact { h with localEndpoint := ⟨h.localEndpoint.serviceName, h.localEndpoint.address⟩ }
  | annotate time text => exact h.annotate time text
  | tag key value => exact h.tag key value
  | removeTag key => exact h.removeTag key
  | isAnnotatedWith text => exact h
  | tagValue key => exact h
  | isEmpty => exact h
  | _ => exact { h with }

theorem WellFormed.performAll (h : span.WellFormed) (edits : List SpanEdit) :
    (span.performAll edits).2.WellFormed := by
  induction edits generalizing span with
  | nil => exact h
  | cons edit edits ih => exact ih (h.perform edit)

/--
The spans that edits make, from nothing or for a context without an identifier that stands for
nothing.
-/
inductive Made : SpanData → Prop where
  | empty : Made .empty
  | ofContext {β : Type} {context : TraceContext β} (valid : context.Valid)
      (root : context.localRootId ≠ some .invalid) {template : SpanData} (h : Made template) :
      Made (.ofContext context template)
  | performAll {span : SpanData} (h : Made span) (edits : List SpanEdit) :
      Made (span.performAll edits).2

theorem Made.wellFormed (h : span.Made) : span.WellFormed := by
  induction h with
  | empty => exact wellFormed_empty
  | ofContext valid root h ih => exact ih.ofContext valid root
  | performAll h edits ih => exact ih.performAll edits

/--
Holds for edits that ask for something that is left out: an annotation without a time or a text, or
a tag without a key.
-/
def LeftOut : SpanEdit → Prop
  | .annotate time text => time = 0 ∨ text = ""
  | .tag key _ => key = ""
  | _ => False

def Rejects (span : SpanData) (edit : SpanEdit) : Prop :=
  (∃ e, (span.perform edit).1 = .refused e) ∨ (span.perform edit).1 = .verdict false ∨ LeftOut edit

theorem judge_of_verdict {result : Option SpanData}
    (h : (span.judge result).1 = .verdict false) : (span.judge result).2 = span := by
  cases result with
  | some edited => simp [judge] at h
  | none => rfl

theorem settle_ne_verdict (result : Except TraceError SpanData) (value : Bool) :
    (span.settle result).1 ≠ .verdict value := by
  cases result <;> simp [settle]

theorem perform_of_verdict {edit : SpanEdit} (h : (span.perform edit).1 = .verdict false) :
    (span.perform edit).2 = span := by
  cases edit with
  | setLocalAddress text => exact judge_of_verdict h
  | setRemoteAddress text port => exact judge_of_verdict h
  | isAnnotatedWith text => rfl
  | isEmpty => rfl
  | setTraceId given => exact absurd h (settle_ne_verdict _ _)
  | setLocalRootId given => exact absurd h (settle_ne_verdict _ _)
  | setParentId given => exact absurd h (settle_ne_verdict _ _)
  | setId given => exact absurd h (settle_ne_verdict _ _)
  | _ => simp [perform] at h

theorem perform_of_leftOut {edit : SpanEdit} (h : LeftOut edit) : (span.perform edit).2 = span := by
  cases edit with
  | annotate time text => exact if_pos h
  | tag key value => exact if_pos h
  | _ => exact h.elim

theorem perform_of_rejects {edit : SpanEdit} (h : span.Rejects edit) :
    (span.perform edit).2 = span := by
  rcases h with ⟨e, hrefused⟩ | hfalse | hleft
  . exact perform_of_refused hrefused
  . exact perform_of_verdict hfalse
  . exact perform_of_leftOut hleft

/--
Whatever edits made a span, it is well-formed, and a further edit that is rejected leaves the whole
of it as it was.
-/
theorem edits_keep_wellFormed (h : span.Made) :
    span.WellFormed ∧ ∀ edit, span.Rejects edit → (span.perform edit).2 = span :=
  ⟨h.wellFormed, fun _ hrejects => perform_of_rejects hrejects⟩

theorem edits_keep_wellFormed_mapped :
    let context : TraceContext Nat :=
      { traceId := ⟨10⟩, spanId := ⟨0xb0⟩, parentId := none, localRootId := some ⟨0xb0⟩,
        flags := .empty, shared := false, extra := [] }
    let template := (empty.performAll [.setLocalAddress "::ffff:1.2.3.4", .setName ""]).2
    let span := ((ofContext context template).performAll [.annotate 7 "sent", .setId "0"]).2
    let edit := SpanEdit.setRemoteAddress "localhost" 80
    span.Made ∧ span.Rejects edit ∧
      (span.WellFormed ∧ span.localEndpoint.address = some (.v4 1 2 3 4)) ∧
      (span.perform edit).2 = span := by
  intro context template span edit
  have hvalid : context.Valid := ⟨by decide, by decide, by decide⟩
  have hmade : span.Made := (Made.empty.performAll _).ofContext hvalid (by decide) |>.performAll _
  have hrejects : span.Rejects edit := .inr (.inl (by decide +kernel))
  obtain ⟨hwellFormed, hkept⟩ := edits_keep_wellFormed hmade
  exact ⟨hmade, hrejects, ⟨hwellFormed, by decide +kernel⟩, hkept edit hrejects⟩

end SpanData

end RequestTracing
