import Mathlib
import RequestTracing.Proofs.Trace.Context
import RequestTracing.Proofs.Trace.Identifier
import RequestTracing.Span.Data

/-!
This module contains the identifiers of a recorded span, which are stored as text. Main statement: a
setter accepts exactly the texts that read as an identifier of its kind, other than the one that
stands for nothing, and stores a text of full width that reads as the same identifier. What is
stored for a context is what the setters store for its identifiers as they are displayed.
-/

namespace RequestTracing

def storedWidth (given : String) : Nat :=
  if given.length ≤ 16 then 16 else 32

theorem length_le_storedWidth {role : IdentifierRole} {given : String}
    (h : given.length ≤ role.maxDigits) : given.length ≤ storedWidth given := by
  have hmost : role.maxDigits ≤ 32 := by cases role <;> decide
  unfold storedWidth
  split
  . assumption
  . omega

theorem storedWidth_le {role : IdentifierRole} {given : String}
    (h : given.length ≤ role.maxDigits) : storedWidth given ≤ role.maxDigits := by
  have hmost : role.maxDigits = 16 ∨ role.maxDigits = 32 := by cases role <;> decide
  unfold storedWidth
  split
  . omega
  . omega

theorem storedWidth_pos (given : String) : 0 < storedWidth given := by
  unfold storedWidth
  split
  . decide
  . decide

theorem storedWidth_of_length {given text : String} (h : text.length = storedWidth given) :
    storedWidth text = storedWidth given := by
  unfold storedWidth at h ⊢
  rw [h]
  split
  . rfl
  . rfl

theorem normalizedIdentifier_eq_ok_iff {role : IdentifierRole} {given text : String} :
    normalizedIdentifier role given = .ok text ↔
      ∃ n, Hex.read? role.maxDigits given.toList = some n ∧ n ≠ 0 ∧
        text = String.ofList (Hex.fixed (storedWidth given) n) := by
  have hstored {n : Nat} (hle : given.toList.length ≤ role.maxDigits)
      (hshows : Hex.Shows given.toList n) :
      Hex.fixed (storedWidth given) n =
        List.replicate (storedWidth given - given.toList.length) '0' ++ given.toList := by
    apply hshows.fixed_eq
    rw [String.length_toList] at hle ⊢
    exact length_le_storedWidth hle
  unfold normalizedIdentifier
  dsimp only
  constructor
  . intro h
    split at h
    . next haccepted =>
      obtain ⟨hne, hle, hdigits, hany⟩ := haccepted
      have hshows := Hex.shows_value hdigits
      refine ⟨_, Hex.read?_eq_some_iff.2 ⟨hne, hle, hshows⟩, hshows.any_ne_zero_iff.1 hany, ?_⟩
      rw [hstored hle hshows]
      exact (Except.ok.inj h).symm
    . cases h
  . rintro ⟨n, hread, hn, rfl⟩
    obtain ⟨hne, hle, hshows⟩ := Hex.read?_eq_some_iff.1 hread
    have hdigits : given.toList.all Hex.isDigit :=
      List.all_eq_true.2 fun c hc => hshows.isDigit_of_mem hc
    rw [if_pos ⟨hne, hle, hdigits, hshows.any_ne_zero_iff.2 hn⟩, hstored hle hshows]
    rfl

theorem length_normalizedIdentifier {role : IdentifierRole} {given text : String}
    (h : normalizedIdentifier role given = .ok text) : text.length = storedWidth given := by
  obtain ⟨n, _, _, rfl⟩ := normalizedIdentifier_eq_ok_iff.1 h
  rw [String.length_ofList, Hex.length_fixed]

theorem read?_normalizedIdentifier {role : IdentifierRole} {given text : String}
    (h : normalizedIdentifier role given = .ok text) :
    Hex.read? role.maxDigits text.toList = Hex.read? role.maxDigits given.toList := by
  obtain ⟨n, hread, _, rfl⟩ := normalizedIdentifier_eq_ok_iff.1 h
  obtain ⟨_, hle, hlt, _⟩ := Hex.read?_eq_some_iff.1 hread
  rw [String.length_toList] at hle hlt
  have hpow := Nat.pow_le_pow_right (n := 16) (by decide) (length_le_storedWidth hle)
  rw [String.toList_ofList, Hex.read?_fixed (storedWidth_pos given) (storedWidth_le hle), hread,
    Nat.mod_eq_of_lt (hlt.trans_le hpow)]

theorem normalizedIdentifier_of_normalized {role : IdentifierRole} {given text : String}
    (h : normalizedIdentifier role given = .ok text) : normalizedIdentifier role text = .ok text := by
  have hread := read?_normalizedIdentifier h
  have hwidth := storedWidth_of_length (length_normalizedIdentifier h)
  obtain ⟨n, hgiven, hn, htext⟩ := normalizedIdentifier_eq_ok_iff.1 h
  refine normalizedIdentifier_eq_ok_iff.2 ⟨n, ?_, hn, ?_⟩
  . rw [hread, hgiven]
  . rw [hwidth, ← htext]

theorem normalizedIdentifier_ofList {role : IdentifierRole} {width n : Nat}
    (hwidth : width = 16 ∨ width = 32) (hle : width ≤ role.maxDigits) (hlt : n < 16 ^ width)
    (hn : n ≠ 0) :
    normalizedIdentifier role (String.ofList (Hex.fixed width n)) =
      .ok (String.ofList (Hex.fixed width n)) := by
  refine normalizedIdentifier_eq_ok_iff.2 ⟨n, ?_, hn, ?_⟩
  . rw [String.toList_ofList, Hex.read?_fixed (by omega) hle, Nat.mod_eq_of_lt hlt]
  . unfold storedWidth
    rw [String.length_ofList, Hex.length_fixed]
    cases hwidth with
    | inl h => rw [h, if_pos (Nat.le_refl _)]
    | inr h => rw [h, if_neg (by decide)]

theorem normalizedIdentifier_traceId {id : TraceId} (h : id ≠ .invalid) :
    normalizedIdentifier .trace id.toText = .ok id.toText := by
  have hn : id.toNat ≠ 0 := mt (TraceId.ofNat_eq_iff (by decide)).2 h.symm
  have hlt : id.toNat < 16 ^ 32 := id.bits.isLt
  unfold TraceId.toText
  rw [TraceId.digits_eq]
  split
  . next hshort => exact normalizedIdentifier_ofList (.inl rfl) (by decide) hshort hn
  . exact normalizedIdentifier_ofList (.inr rfl) (by decide) hlt hn

theorem normalizedIdentifier_spanId (role : IdentifierRole) {id : SpanId} (h : id ≠ .invalid) :
    normalizedIdentifier role id.toText = .ok id.toText := by
  have hn : id.toNat ≠ 0 := mt (SpanId.ofNat_eq_iff (by decide)).2 h.symm
  have hlt : id.toNat < 16 ^ 16 := id.bits.isLt
  exact normalizedIdentifier_ofList (.inl rfl) (by cases role <;> decide) hlt hn

theorem map_eq_ok_iff {ε α β : Type} {result : Except ε α} {f : α → β} {b : β} :
    result.map f = .ok b ↔ ∃ a, result = .ok a ∧ f a = b := by
  cases result <;> simp [Except.map]

namespace SpanData

/--
Holds for a setter that accepts the texts which read as an identifier, other than the one that
stands for nothing. What it stores reads as the same identifier, has 16 digits or 32, and is stored
as it is when it is given again.
-/
structure StoresIdentifier {ι : Type} (read? : List Char → Option ι) (invalid : ι)
    (set : SpanData → String → Except TraceError SpanData) (stored : SpanData → Option String) :
    Prop where
  accepts_iff (span : SpanData) (given : String) :
    (∃ edited, set span given = .ok edited) ↔ ∃ id, read? given.toList = some id ∧ id ≠ invalid
  stores {span edited : SpanData} {given : String} (h : set span given = .ok edited) :
    ∃ text, stored edited = some text ∧ read? text.toList = read? given.toList ∧
      text.length = (if given.length ≤ 16 then 16 else 32) ∧ set edited text = .ok edited

theorem storesIdentifier {ι : Type} {read? : List Char → Option ι} {invalid : ι}
    {stored : SpanData → Option String} (role : IdentifierRole) (ofNat : Nat → ι)
    (put : SpanData → String → SpanData)
    (hread : ∀ cs, read? cs = (Hex.read? role.maxDigits cs).map ofNat)
    (hinvalid : ∀ n < 16 ^ role.maxDigits, ofNat n = invalid ↔ n = 0)
    (hstored : ∀ span text, stored (put span text) = some text)
    (hput : ∀ span text, put (put span text) text = put span text) :
    StoresIdentifier read? invalid
      (fun span given => (normalizedIdentifier role given).map (put span)) stored where
  accepts_iff span given := by
    have hzero {n : Nat} (hgiven : Hex.read? role.maxDigits given.toList = some n) :
        ofNat n = invalid ↔ n = 0 := by
      obtain ⟨_, hle, hlt, _⟩ := Hex.read?_eq_some_iff.1 hgiven
      exact hinvalid n (hlt.trans_le (Nat.pow_le_pow_right (by decide) hle))
    constructor
    . rintro ⟨edited, h⟩
      obtain ⟨text, htext, _⟩ := map_eq_ok_iff.1 h
      obtain ⟨n, hgiven, hn, _⟩ := normalizedIdentifier_eq_ok_iff.1 htext
      refine ⟨ofNat n, ?_, mt (hzero hgiven).1 hn⟩
      rw [hread, hgiven, Option.map_some]
    . rintro ⟨id, hid, hne⟩
      rw [hread] at hid
      obtain ⟨n, hgiven, rfl⟩ := Option.map_eq_some_iff.1 hid
      have htext := normalizedIdentifier_eq_ok_iff.2 ⟨n, hgiven, mt (hzero hgiven).2 hne, rfl⟩
      exact ⟨_, map_eq_ok_iff.2 ⟨_, htext, rfl⟩⟩
  stores := by
    intro span edited given h
    obtain ⟨text, htext, rfl⟩ := map_eq_ok_iff.1 h
    refine ⟨text, hstored span text, ?_, length_normalizedIdentifier htext, ?_⟩
    . rw [hread, hread, read?_normalizedIdentifier htext]
    . exact map_eq_ok_iff.2 ⟨text, normalizedIdentifier_of_normalized htext, hput span text⟩

theorem ofNat_traceId_eq_invalid_iff {n : Nat} (h : n < 16 ^ 32) :
    TraceId.ofNat n = .invalid ↔ n = 0 := by
  rw [TraceId.ofNat_eq_iff h, eq_comm]
  rfl

theorem ofNat_spanId_eq_invalid_iff {n : Nat} (h : n < 16 ^ 16) :
    SpanId.ofNat n = .invalid ↔ n = 0 := by
  rw [SpanId.ofNat_eq_iff h, eq_comm]
  rfl

theorem stores_traceId : StoresIdentifier TraceId.ofHex? .invalid setTraceId traceId :=
  storesIdentifier .trace TraceId.ofNat (fun span text => { span with traceId := some text })
    (fun _ => rfl) (fun _ => ofNat_traceId_eq_invalid_iff) (fun _ _ => rfl) (fun _ _ => rfl)

theorem stores_localRootId : StoresIdentifier SpanId.ofHex? .invalid setLocalRootId localRootId :=
  storesIdentifier .localRoot SpanId.ofNat (fun span text => { span with localRootId := some text })
    (fun _ => rfl) (fun _ => ofNat_spanId_eq_invalid_iff) (fun _ _ => rfl) (fun _ _ => rfl)

theorem stores_parentId :
    StoresIdentifier SpanId.ofHex? .invalid (fun span given => span.setParentId (some given))
      parentId :=
  storesIdentifier .parent SpanId.ofNat (fun span text => { span with parentId := some text })
    (fun _ => rfl) (fun _ => ofNat_spanId_eq_invalid_iff) (fun _ _ => rfl) (fun _ _ => rfl)

theorem stores_id : StoresIdentifier SpanId.ofHex? .invalid setId id :=
  storesIdentifier .span SpanId.ofNat (fun span text => { span with id := some text })
    (fun _ => rfl) (fun _ => ofNat_spanId_eq_invalid_iff) (fun _ _ => rfl) (fun _ _ => rfl)

/--
Each setter of an identifier accepts exactly the texts that read as one, and stores its text of full
width. A span of a context holds the texts that the setters store for the displayed identifiers.
-/
theorem identifiers_stored :
    StoresIdentifier TraceId.ofHex? .invalid setTraceId traceId ∧
    StoresIdentifier SpanId.ofHex? .invalid setId id ∧
    StoresIdentifier SpanId.ofHex? .invalid setLocalRootId localRootId ∧
    StoresIdentifier SpanId.ofHex? .invalid (fun span given => span.setParentId (some given))
      parentId ∧
    ∀ {β : Type} {context : TraceContext β}, context.Valid → context.localRootId ≠ some .invalid →
      ∀ span template : SpanData,
        span.setTraceId context.traceId.toText =
          .ok { span with traceId := (ofContext context template).traceId } ∧
        span.setId context.spanId.toText =
          .ok { span with id := (ofContext context template).id } ∧
        span.setParentId (context.parentId.map SpanId.toText) =
          .ok { span with parentId := (ofContext context template).parentId } ∧
        match context.localRootId with
        | none => (ofContext context template).localRootId = none
        | some root => span.setLocalRootId root.toText =
            .ok { span with localRootId := (ofContext context template).localRootId } := by
  refine ⟨stores_traceId, stores_id, stores_localRootId, stores_parentId, ?_⟩
  intro β context hvalid hroot span template
  refine ⟨?_, ?_, ?_, ?_⟩
  . unfold setTraceId ofContext
    rw [normalizedIdentifier_traceId hvalid.traceId]
    rfl
  . unfold setId ofContext
    rw [normalizedIdentifier_spanId .span hvalid.spanId]
    rfl
  . have hparent := hvalid.parentId
    unfold ofContext
    cases h : context.parentId with
    | none => rfl
    | some parent =>
      rw [h] at hparent
      unfold setParentId
      dsimp only [Option.map_some]
      rw [normalizedIdentifier_spanId .parent fun heq => hparent (congrArg some heq)]
      rfl
  . unfold ofContext
    cases h : context.localRootId with
    | none => rfl
    | some root =>
      rw [h] at hroot
      unfold setLocalRootId
      dsimp only [Option.map_some]
      rw [normalizedIdentifier_spanId .localRoot fun heq => hroot (congrArg some heq)]
      rfl

theorem identifiers_stored_long :
    let context : TraceContext Nat :=
      { traceId := ⟨0x1000000000000000a⟩, spanId := ⟨0xb0⟩, parentId := none,
        localRootId := some ⟨0xb0⟩, flags := .empty, shared := false, extra := [] }
    context.Valid ∧ context.localRootId ≠ some .invalid ∧
      empty.setTraceId "1000000000000000a" =
        .ok { empty with traceId := some "0000000000000001000000000000000a" } ∧
      empty.setTraceId context.traceId.toText =
        .ok { empty with traceId := (ofContext context empty).traceId } := by
  intro context
  have hvalid : context.Valid := ⟨by decide, by decide, by decide⟩
  have hroot : context.localRootId ≠ some .invalid := by decide
  obtain ⟨_, _, _, _, hcontext⟩ := identifiers_stored
  exact ⟨hvalid, hroot, by decide +kernel, (hcontext hvalid hroot empty empty).1⟩

end SpanData

end RequestTracing
