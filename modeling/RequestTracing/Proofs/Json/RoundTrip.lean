import Mathlib
import RequestTracing.Proofs.Json.Tokens
import RequestTracing.Proofs.Json.Value

/-!
This module contains the way of a document through its text. Main statement: reading the text of a
document gives the document.
-/

namespace RequestTracing.Json

theorem Value.tokens_ne_closeBracket (value : Value) (before after : List Token) :
    value.tokens ++ before ≠ .closeBracket :: after := by
  cases value <;> simp [tokens]

theorem Items.tokens_ne_closeBracket {items : Items} (h : items ≠ .nil)
    (before after : List Token) : items.tokens ++ before ≠ .closeBracket :: after := by
  match items with
  | .nil => exact absurd rfl h
  | .cons item .nil => exact item.tokens_ne_closeBracket before after
  | .cons item (.cons next others) =>
    rw [tokens_cons_cons, List.append_assoc]
    exact item.tokens_ne_closeBracket _ after

theorem Members.exists_tokens_cons (key : String) (value : Value) (others : Members) :
    ∃ tail, (cons key value others).tokens = .string key :: .colon :: tail := by
  cases others <;> exact ⟨_, rfl⟩

namespace Reader

theorem startValue_openBracket {tokens : List Token} (h : ∀ rest, tokens ≠ .closeBracket :: rest)
    (stack : List Frame) :
    startValue stack (.openBracket :: tokens) = startValue (.array [] :: stack) tokens := by
  rw [startValue]
  exact h

mutual

theorem startValue_tokens (value : Value) (stack : List Frame) (rest : List Token) :
    startValue stack (value.tokens ++ rest) = endValue stack value rest := by
  match value with
  | .null => rfl
  | .bool value => rfl
  | .number n => rfl
  | .string s => rfl
  | .array .nil => rfl
  | .array (.cons item others) =>
    have hitems : Items.cons item others ≠ .nil := by simp
    rw [Value.tokens, List.append_assoc, List.cons_append, List.singleton_append,
      startValue_openBracket (Items.tokens_ne_closeBracket hitems _),
      startValue_items (.cons item others) hitems, List.nil_append, Items.ofList_toList]
  | .object .nil => rfl
  | .object (.cons key value others) =>
    have ⟨tail, htail⟩ := Members.exists_tokens_cons key value others
    rw [Value.tokens, List.append_assoc, List.cons_append, List.singleton_append, htail,
      List.cons_append, List.cons_append, startValue,
      startValue_members (.cons key value others) htail, List.nil_append, Members.ofList_toList]

theorem startValue_items (items : Items) (h : items ≠ .nil) (before : List Value)
    (stack : List Frame) (rest : List Token) :
    startValue (.array before :: stack) (items.tokens ++ .closeBracket :: rest) =
      endValue stack (.array (.ofList (before ++ items.toList))) rest := by
  match items with
  | .nil => exact absurd rfl h
  | .cons item .nil =>
    rw [Items.tokens, startValue_tokens item, endValue]
    rfl
  | .cons item (.cons next others) =>
    rw [Items.tokens_cons_cons, List.append_assoc, List.cons_append, startValue_tokens item,
      endValue, startValue_items (.cons next others) (by simp), List.append_assoc]
    rfl

theorem startValue_members (members : Members) {key : String} {tail : List Token}
    (h : members.tokens = .string key :: .colon :: tail) (before : List (String × Value))
    (stack : List Frame) (rest : List Token) :
    startValue (.object before key :: stack) (tail ++ .closeBrace :: rest) =
      endValue stack (.object (.ofList (before ++ members.toList))) rest := by
  match members with
  | .nil => simp [Members.tokens] at h
  | .cons _ value .nil =>
    simp only [Members.tokens, List.cons.injEq, Token.string.injEq, true_and] at h
    rw [← h.1, ← h.2, startValue_tokens value, endValue]
    rfl
  | .cons _ value (.cons next other others) =>
    have ⟨tail, htail⟩ := Members.exists_tokens_cons next other others
    simp only [Members.tokens_cons_cons, List.cons_append, List.cons.injEq, Token.string.injEq,
      true_and] at h
    rw [← h.1, ← h.2, List.append_assoc, startValue_tokens value, htail, List.cons_append,
      List.cons_append, List.cons_append, endValue,
      startValue_members (.cons next other others) htail, List.append_assoc]
    rfl

end

end Reader

theorem read?_toText (value : Value) : read? value.toText = some value := by
  have hnil : ∀ c ∈ ([] : List Char).head?, c.isDigit = false := by simp
  have hlex := Reader.lex_value value hnil
  have hlast : Reader.lex [] [] = some [] := rfl
  have hparse := Reader.startValue_tokens value [] []
  rw [List.append_nil, hlast, Option.map_some] at hlex
  unfold read?
  rw [value.toList_toText, Value.chars, hlex, Option.bind_some, hparse]
  rfl

-- Texts with blanks and with other escapes read as well.
example : read? "\x7b \"a\" : [1, \"\\u00E9\\uD83D\\ude00\\/\"] \x7d" =
    some (.object (.ofList [("a", .array (.ofList [.number 1, .string "é😀/"]))])) := by
  decide +kernel

end RequestTracing.Json
