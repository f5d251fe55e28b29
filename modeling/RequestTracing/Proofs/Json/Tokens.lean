import Mathlib
import RequestTracing.Proofs.Json.Reader
import RequestTracing.Proofs.Text.Numeral

/-!
This module contains the tokens of documents. Main statement: cutting the text of a document into
tokens gives those of the document, followed by those of what comes after it.
-/

namespace RequestTracing.Json

def written (c : Char) : List Char :=
  ((standardEscape? c).or (separatorEscape? c)).getD [c]

theorem flatten_fragmentPieces (run cs : List Char) :
    (fragmentPieces run cs).flatten = run ++ cs.flatMap fun c => (separatorEscape? c).getD [c] := by
  induction cs generalizing run with
  | nil => simp [fragmentPieces]
  | cons c cs ih =>
    rw [fragmentPieces, List.flatMap_cons]
    split
    . next escape h => simp [ih, h]
    . next h => simp [ih, h]

theorem flatten_bodyPieces {run : List Char} (hrun : ∀ c ∈ run, standardEscape? c = none)
    (cs : List Char) : (bodyPieces run cs).flatten = (run ++ cs).flatMap written := by
  -- the run holds nothing that the format escapes, so it is enough to look at separators there
  have hfragment : ∀ run : List Char, (∀ c ∈ run, standardEscape? c = none) →
      (fragmentPieces [] run).flatten = run.flatMap written := by
    intro run hrun
    rw [flatten_fragmentPieces, List.nil_append]
    apply List.flatMap_congr
    intro c hc
    unfold written
    rw [hrun c hc, Option.none_or]
  induction cs generalizing run with
  | nil => rw [bodyPieces, hfragment run hrun, List.append_nil]
  | cons c cs ih =>
    rw [bodyPieces, List.flatMap_append, List.flatMap_cons]
    split
    . next escape h =>
      have hwritten : written c = escape := by
        unfold written
        rw [h, Option.some_or, Option.getD_some]
      rw [List.flatten_append, hfragment run hrun, List.flatten_cons, ih (by simp), hwritten,
        List.nil_append]
    . next h =>
      have hsnoc : ∀ d ∈ run ++ [c], standardEscape? d = none := by
        intro d hd
        cases List.mem_append.1 hd with
        | inl hmem => exact hrun d hmem
        | inr heq => rw [List.mem_singleton.1 heq, h]
      rw [ih hsnoc, List.append_assoc, List.flatMap_append, List.singleton_append,
        List.flatMap_cons]

theorem flatten_stringPieces (s : String) :
    (stringPieces s).flatten = '"' :: (s.toList.flatMap written ++ ['"']) := by
  unfold stringPieces
  rw [List.cons_append, List.flatten_cons, List.flatten_append,
    flatten_bodyPieces (by simp), List.nil_append]
  rfl

namespace Reader

theorem codeUnit?_fixed {n : Nat} (h : n < 65536) :
    ∃ a b c d, Hex.fixed 4 n = [a, b, c, d] ∧ codeUnit? a b c d = some n := by
  have hdigit : ∀ k, hexValue? (Hex.digit k) = some (k % 16) := by
    intro k
    unfold hexValue?
    rw [Hex.digitValue?_digit, Option.some_or]
  refine ⟨_, _, _, _, rfl, ?_⟩
  simp only [codeUnit?, hdigit, Option.bind_eq_bind, Option.bind_some, Option.pure_def]
  congr 1
  omega

theorem text?_code {c : Char} (h : c.toNat < 0xD800) (units : List TextUnit) :
    text? (.code c.toNat :: units) = (text? units).map (c :: ·) := by
  rw [text?.eq_def]
  dsimp only
  rw [if_pos (.inl h), Char.ofNat_toNat]

theorem lexText_unitEscape {n : Nat} (h : n < 65536) (rest : List Char) :
    lexText (unitEscape n ++ rest) = (lexText rest).map (withUnit (.code n)) := by
  have ⟨a, b, c, d, hfixed, hcode⟩ := codeUnit?_fixed h
  unfold unitEscape
  rw [hfixed]
  simp only [List.cons_append, List.nil_append]
  rw [lexText, hcode, Option.bind_some]

theorem lexText_written (c : Char) :
    ∃ unit, (∀ rest, lexText (written c ++ rest) = (lexText rest).map (withUnit unit)) ∧
      ∀ units, text? (unit :: units) = (text? units).map (c :: ·) := by
  unfold written standardEscape?
  split
  . exact ⟨.char '"', fun _ => rfl, fun _ => rfl⟩
  . exact ⟨.char '\\', fun _ => rfl, fun _ => rfl⟩
  . exact ⟨.char '\n', fun _ => rfl, fun _ => rfl⟩
  . exact ⟨.char '\r', fun _ => rfl, fun _ => rfl⟩
  . exact ⟨.char '\t', fun _ => rfl, fun _ => rfl⟩
  . next hquote hslash hn hr ht =>
    split
    . next h =>
      rw [← Char.ofNat_toNat c, h]
      exact ⟨.char (Char.ofNat 8), fun _ => rfl, fun _ => rfl⟩
    . split
      . next h =>
        rw [← Char.ofNat_toNat c, h]
        exact ⟨.char (Char.ofNat 12), fun _ => rfl, fun _ => rfl⟩
      . split
        . next h =>
          exact ⟨.code c.toNat, lexText_unitEscape (by omega), text?_code (by omega)⟩
        . next hcontrol =>
          unfold separatorEscape?
          split
          . next h =>
            exact ⟨.code c.toNat, lexText_unitEscape (by omega), text?_code (by omega)⟩
          -- a character that stands for itself is left to the last case of the reader
          . refine ⟨.char c, ?_, fun _ => rfl⟩
            intro rest
            have hraw : ¬(c.toNat < 32 ∨ c = '\\') := by
              rintro (h | h)
              . exact hcontrol h
              . exact hslash h
            simp only [Option.or_none, Option.getD_none, List.singleton_append]
            rw [lexText]
            . rw [if_neg hraw]
            . intro h
              exact hquote h
            . intro a b c d rest h _
              exact hslash h
            . intro d rest h _
              exact hslash h

theorem lexText_flatMap_written (cs : List Char) :
    ∃ units, text? units = some cs ∧ ∀ rest, lexText (cs.flatMap written ++ rest) =
      (lexText rest).map fun read => (units ++ read.1, read.2) := by
  induction cs with
  | nil => exact ⟨[], rfl, fun rest => by simp⟩
  | cons c cs ih =>
    have ⟨unit, hunit, htext⟩ := lexText_written c
    have ⟨units, hcs, hunits⟩ := ih
    refine ⟨unit :: units, ?_, ?_⟩
    . rw [htext, hcs, Option.map_some]
    . intro rest
      rw [List.flatMap_cons, List.append_assoc, hunit, hunits, Option.map_map]
      rfl

theorem lex_stringPieces (s : String) (rest : List Char) :
    lex [] ((stringPieces s).flatten ++ rest) = (lex [] rest).map (.string s :: ·) := by
  have ⟨units, htext, hunits⟩ := lexText_flatMap_written s.toList
  rw [flatten_stringPieces, List.cons_append, List.append_assoc, lex, hunits, List.singleton_append,
    lexText, Option.map_map]
  cases lex [] rest with
  | none => rfl
  | some tokens => simp [htext, endNumber]

theorem number?_toDigits (n : Nat) : number? (Nat.toDigits 10 n) = some n := by
  unfold number?
  split
  . next h => exact absurd h Nat.toDigits_ne_nil
  . next h =>
    have hzero : n = 0 := by
      apply Hex.eq_zero_of_head?_toDigits (b := 10) (by omega) (by omega)
      rw [h, List.head?_cons]
    rw [hzero] at h
    simp at h
  . rw [Nat.ofDigitChars_toDigits (by omega) (by omega)]

theorem lex_digits {cs : List Char} (h : ∀ c ∈ cs, c.isDigit) (digits rest : List Char) :
    lex digits (cs ++ rest) = lex (digits ++ cs) rest := by
  induction cs generalizing digits with
  | nil => rw [List.nil_append, List.append_nil]
  | cons c cs ih =>
    have hc := h c (List.mem_cons_self ..)
    have hne : ∀ other, other.isDigit = false → c ≠ other := by
      intro other hother heq
      rw [heq, hother] at hc
      exact Bool.false_ne_true hc
    rw [List.cons_append, lex]
    . rw [if_pos hc, ih fun d hd => h d (List.mem_cons_of_mem _ hd), List.append_assoc,
        List.singleton_append]
    . exact hne '"' (by decide)
    . exact fun _ heq _ => hne 'n' (by decide) heq
    . exact fun _ heq _ => hne 't' (by decide) heq
    . exact fun _ heq _ => hne 'f' (by decide) heq

@[simp]
theorem endNumber_nil (tokens : List Token) : endNumber [] tokens = some tokens := rfl

theorem lex_of_not_digit {rest : List Char} (h : ∀ c ∈ rest.head?, c.isDigit = false)
    (digits : List Char) : lex digits rest = (lex [] rest).bind (endNumber digits) := by
  rw [lex.eq_def, lex.eq_def []]
  split
  . rfl
  . simp [Option.bind_assoc]
  . simp [Option.bind_assoc]
  . simp [Option.bind_assoc]
  . simp [Option.bind_assoc]
  . next c rest hquote hn ht hf =>
    have hc : ¬c.isDigit = true := Bool.eq_false_iff.1 (h c rfl)
    rw [if_neg hc, if_neg hc]
    split
    . simp [Option.bind_assoc]
    . simp [Option.bind_assoc]

theorem lex_toDigits (n : Nat) {rest : List Char} (h : ∀ c ∈ rest.head?, c.isDigit = false) :
    lex [] (Nat.toDigits 10 n ++ rest) = (lex [] rest).map (.number n :: ·) := by
  have hdigits : ∀ c ∈ Nat.toDigits 10 n, c.isDigit := fun c hc =>
    Nat.isDigit_of_mem_toDigits (by omega) (by omega) hc
  rw [lex_digits hdigits, List.nil_append, lex_of_not_digit h]
  cases lex [] rest with
  | none => rfl
  | some tokens => simp [endNumber, number?_toDigits, Nat.toDigits_ne_nil]

end Reader

mutual

def Value.tokens : Value → List Token
  | .null => [.null]
  | .bool value => [.bool value]
  | .number n => [.number n]
  | .string s => [.string s]
  | .array items => .openBracket :: items.tokens ++ [.closeBracket]
  | .object members => .openBrace :: members.tokens ++ [.closeBrace]

def Items.tokens : Items → List Token
  | .nil => []
  | .cons item .nil => item.tokens
  | .cons item rest => item.tokens ++ .comma :: rest.tokens

def Members.tokens : Members → List Token
  | .nil => []
  | .cons key value .nil => .string key :: .colon :: value.tokens
  | .cons key value rest => .string key :: .colon :: value.tokens ++ .comma :: rest.tokens

end

theorem Items.tokens_cons_cons (item next : Value) (others : Items) :
    (cons item (cons next others)).tokens = item.tokens ++ .comma :: (cons next others).tokens :=
  rfl

theorem Members.tokens_cons_cons (key next : String) (value other : Value) (others : Members) :
    (cons key value (cons next other others)).tokens =
      .string key :: .colon :: value.tokens ++ .comma :: (cons next other others).tokens :=
  rfl

namespace Reader

theorem lex_punctuation {c : Char} {token : Token} (h : punctuation? c = some token)
    (rest : List Char) : lex [] (c :: rest) = (lex [] rest).map (token :: ·) := by
  rw [Option.map_eq_bind]
  unfold punctuation? at h
  split at h
  . rw [← Option.some.inj h]
    rfl
  . rw [← Option.some.inj h]
    rfl
  . rw [← Option.some.inj h]
    rfl
  . rw [← Option.some.inj h]
    rfl
  . rw [← Option.some.inj h]
    rfl
  . rw [← Option.some.inj h]
    rfl
  . simp at h

mutual

theorem lex_value (value : Value) {rest : List Char} (h : ∀ c ∈ rest.head?, c.isDigit = false) :
    lex [] (value.pieces.flatten ++ rest) = (lex [] rest).map (value.tokens ++ ·) := by
  cases value with
  | null => exact Option.map_eq_bind.symm
  | bool value =>
    cases value with
    | false => exact Option.map_eq_bind.symm
    | true => exact Option.map_eq_bind.symm
  | number n =>
    rw [Value.pieces, List.flatten_singleton]
    exact lex_toDigits n h
  | string s =>
    rw [Value.pieces]
    exact lex_stringPieces s rest
  -- the bracket that follows is no digit, so a number right before it ends there
  | array items =>
    have hend : ∀ c ∈ (']' :: rest).head?, c.isDigit = false := by simp
    rw [Value.pieces, List.cons_append, List.flatten_cons, List.flatten_append,
      List.flatten_singleton, List.append_assoc, List.append_assoc, List.singleton_append,
      lex_punctuation rfl, List.singleton_append, lex_items items hend, lex_punctuation rfl]
    simp [Value.tokens, Function.comp_def]
  | object members =>
    have hend : ∀ c ∈ ('\x7d' :: rest).head?, c.isDigit = false := by simp
    rw [Value.pieces, List.cons_append, List.flatten_cons, List.flatten_append,
      List.flatten_singleton, List.append_assoc, List.append_assoc, List.singleton_append,
      lex_punctuation rfl, List.singleton_append, lex_members members hend, lex_punctuation rfl]
    simp [Value.tokens, Function.comp_def]

theorem lex_items (items : Items) {rest : List Char} (h : ∀ c ∈ rest.head?, c.isDigit = false) :
    lex [] (items.pieces.flatten ++ rest) = (lex [] rest).map (items.tokens ++ ·) := by
  match items with
  | .nil => simp [Items.pieces, Items.tokens]
  | .cons item .nil =>
    rw [Items.pieces, Items.tokens]
    exact lex_value item h
  | .cons item (.cons next others) =>
    have hcomma : ∀ c ∈ (',' :: ((Items.cons next others).pieces.flatten ++ rest)).head?,
        c.isDigit = false := by simp
    rw [Items.pieces, List.flatten_append, List.flatten_cons, List.append_assoc, List.append_assoc,
      List.singleton_append, lex_value item hcomma, lex_punctuation rfl,
      lex_items (.cons next others) h, Items.tokens_cons_cons]
    . simp [Function.comp_def]
    . simp

theorem lex_members (members : Members) {rest : List Char}
    (h : ∀ c ∈ rest.head?, c.isDigit = false) :
    lex [] (members.pieces.flatten ++ rest) = (lex [] rest).map (members.tokens ++ ·) := by
  match members with
  | .nil => simp [Members.pieces, Members.tokens]
  | .cons key value .nil =>
    rw [Members.pieces, Members.tokens, List.flatten_append, List.flatten_cons, List.append_assoc,
      List.append_assoc, List.singleton_append, lex_stringPieces, lex_punctuation rfl,
      lex_value value h]
    simp [Function.comp_def]
  | .cons key value (.cons next other others) =>
    have hcomma : ∀ c ∈ (',' :: ((Members.cons next other others).pieces.flatten ++ rest)).head?,
        c.isDigit = false := by simp
    rw [Members.pieces]
    simp only [List.flatten_append, List.flatten_cons, List.append_assoc, List.cons_append,
      List.nil_append]
    rw [lex_stringPieces, lex_punctuation rfl, lex_value value hcomma, lex_punctuation rfl,
      lex_members (.cons next other others) h, Members.tokens_cons_cons]
    . simp [Function.comp_def]
    . simp

end

end Reader

end RequestTracing.Json
