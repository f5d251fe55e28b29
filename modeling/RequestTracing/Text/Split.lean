/-!
This module contains the cutting of text at a separator and the trimming of white space. Main
statement: joining the parts with the separator gives the text back.
-/

namespace RequestTracing.Text

def isBlank (c : Char) : Bool :=
  let n := c.toNat
  (0x9 ≤ n && n ≤ 0xd) || n == 0x20 || n == 0x85 || n == 0xa0 || n == 0x1680
    || (0x2000 ≤ n && n ≤ 0x200a) || n == 0x2028 || n == 0x2029 || n == 0x202f || n == 0x205f
    || n == 0x3000

def trimBlank (cs : List Char) : List Char :=
  ((cs.dropWhile isBlank).reverse.dropWhile isBlank).reverse

def trim (s : String) : String :=
  String.ofList (trimBlank s.toList)

def splitAt (separator : Char) : List Char → List (List Char)
  | [] => [[]]
  | c :: rest =>
    if c = separator then
      [] :: splitAt separator rest
    else
      match splitAt separator rest with
      | [] => [[c]]
      | part :: parts => (c :: part) :: parts

def join (separator : Char) : List (List Char) → List Char
  | [] => []
  | [part] => part
  | part :: parts => part ++ separator :: join separator parts

def splitOnce? (separator : Char) : List Char → Option (List Char × List Char)
  | [] => none
  | c :: rest =>
    if c = separator then
      some ([], rest)
    else
      (splitOnce? separator rest).map fun (before, after) => (c :: before, after)

theorem splitAt_ne_nil (separator : Char) (cs : List Char) : splitAt separator cs ≠ [] := by
  cases cs with
  | nil => simp [splitAt]
  | cons c rest =>
    simp only [splitAt]
    split
    . simp
    . split <;> simp

theorem join_splitAt (separator : Char) (cs : List Char) :
    join separator (splitAt separator cs) = cs := by
  induction cs with
  | nil => rfl
  | cons c rest ih =>
    simp only [splitAt]
    split
    . next h =>
      subst h
      cases hs : splitAt c rest with
      | nil => exact absurd hs (splitAt_ne_nil c rest)
      | cons part parts => simp [join, ← hs, ih]
    . cases hs : splitAt separator rest with
      | nil => exact absurd hs (splitAt_ne_nil separator rest)
      | cons part parts =>
        rw [hs] at ih
        cases parts with
        | nil => simpa [join] using ih
        | cons next parts => simpa [join] using ih

end RequestTracing.Text
