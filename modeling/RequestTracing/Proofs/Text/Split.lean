import Mathlib
import RequestTracing.Text.Split

/-!
This module contains the reading of text that was joined with a separator: parts that do not hold
the separator are found again, and trimming takes nothing from text without white space at its ends.
-/

namespace RequestTracing.Text

theorem splitAt_of_not_mem {separator : Char} {cs : List Char} (h : separator ∉ cs) :
    splitAt separator cs = [cs] := by
  induction cs with
  | nil => rfl
  | cons c rest ih =>
    rw [List.mem_cons, not_or] at h
    rw [splitAt, if_neg (Ne.symm h.1), ih h.2]

theorem splitAt_append {separator : Char} {cs : List Char} (h : separator ∉ cs)
    (rest : List Char) :
    splitAt separator (cs ++ separator :: rest) = cs :: splitAt separator rest := by
  induction cs with
  | nil =>
    rw [List.nil_append, splitAt, if_pos rfl]
  | cons c cs ih =>
    rw [List.mem_cons, not_or] at h
    rw [List.cons_append, splitAt, if_neg (Ne.symm h.1), ih h.2]

theorem splitAt_join {separator : Char} {parts : List (List Char)} (hne : parts ≠ [])
    (h : ∀ part ∈ parts, separator ∉ part) : splitAt separator (join separator parts) = parts := by
  induction parts with
  | nil => exact absurd rfl hne
  | cons part parts ih =>
    have hpart := h part (List.mem_cons_self ..)
    cases parts with
    | nil =>
      rw [join]
      exact splitAt_of_not_mem hpart
    | cons next parts =>
      specialize ih (List.cons_ne_nil _ _) fun p hp => h p (List.mem_cons_of_mem part hp)
      rw [join, splitAt_append hpart, ih]
      simp

theorem mem_join {separator c : Char} {parts : List (List Char)} (h : c ∈ join separator parts) :
    c = separator ∨ ∃ part ∈ parts, c ∈ part := by
  induction parts with
  | nil => simp [join] at h
  | cons part parts ih =>
    cases parts with
    | nil => exact .inr ⟨part, by simp, by simpa [join] using h⟩
    | cons next parts =>
      rw [join, List.mem_append, List.mem_cons] at h
      . rcases h with h | h | h
        . exact .inr ⟨part, List.mem_cons_self .., h⟩
        . exact .inl h
        . cases ih h with
          | inl heq => exact .inl heq
          | inr hmem =>
            obtain ⟨p, hp, hc⟩ := hmem
            exact .inr ⟨p, List.mem_cons_of_mem part hp, hc⟩
      . simp

theorem trimBlank_of_not_blank {cs : List Char} (h : ∀ c ∈ cs, isBlank c = false) :
    trimBlank cs = cs := by
  have hdrop : ∀ cs : List Char, (∀ c ∈ cs, isBlank c = false) → cs.dropWhile isBlank = cs := by
    intro cs hcs
    rw [List.dropWhile_eq_self_iff]
    intro hpos
    rw [hcs _ (List.getElem_mem hpos)]
    exact Bool.false_ne_true
  unfold trimBlank
  rw [hdrop cs h, hdrop cs.reverse fun c hc => h c (List.mem_reverse.1 hc), List.reverse_reverse]

end RequestTracing.Text
