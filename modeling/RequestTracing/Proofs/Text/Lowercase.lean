import Mathlib
import RequestTracing.Text.Lowercase

/-!
This module contains the lower-case form of text in which only the letters `A` to `Z` change. Main
statement: texts have the same form exactly when they differ in nothing but the case of those
letters.
-/

namespace RequestTracing.Text

theorem asciiLowercase_asciiLowercase (text : String) :
    asciiLowercase (asciiLowercase text) = asciiLowercase text := by
  unfold asciiLowercase
  rw [String.toList_ofList, List.map_map]
  congr 1
  apply List.map_congr_left
  intro c _
  exact Char.toLower_toLower_eq_toLower c

theorem all_zip_toLower_iff (cs others : List Char) :
    (cs.length == others.length &&
      (cs.zip others).all fun (x, y) => x.toLower == y.toLower) = true ↔
      cs.map Char.toLower = others.map Char.toLower := by
  induction cs generalizing others with
  | nil => cases others <;> simp
  | cons c cs ih =>
    cases others with
    | nil => simp
    | cons other others =>
      have hrest := ih others
      simp only [Bool.and_eq_true, beq_iff_eq] at hrest
      simp only [List.length_cons, List.zip_cons_cons, List.all_cons, List.map_cons,
        List.cons.injEq, Bool.and_eq_true, beq_iff_eq, Nat.add_right_cancel_iff, ← hrest]
      tauto

theorem sameIgnoringCase_iff {a b : String} :
    sameIgnoringCase a b ↔ asciiLowercase a = asciiLowercase b := by
  unfold sameIgnoringCase asciiLowercase
  rw [String.ofList_inj]
  exact all_zip_toLower_iff a.toList b.toList

end RequestTracing.Text
