import Scaffold.Text.Basic
import Scaffold.Text.Ranges

/-!
Blanks are the characters with the Unicode property White_Space: besides the ASCII ones also the
next-line and the no-break space, but neither the zero-width space nor the byte-order mark.
-/

namespace Scaffold

/-- The code points of white space. -/
def blankRanges : Ranges := [
    (0x9, 0xD), (0x20, 0x20), (0x85, 0x85), (0xA0, 0xA0), (0x1680, 0x1680), (0x2000, 0x200A),
    (0x2028, 0x2029), (0x202F, 0x202F), (0x205F, 0x205F), (0x3000, 0x3000)]

/-- Whether the character is white space. -/
def isBlank (c : Char) : Bool :=
  blankRanges.holds c.toNat

namespace Text

/-- The text without the blanks at its start. -/
def trimStart (t : Text) : Text :=
  t.dropWhile isBlank

/-- The text without the blanks at its end. -/
def trimEnd (t : Text) : Text :=
  (t.reverse.dropWhile isBlank).reverse

/-- The text without the blanks at both ends. -/
def trim (t : Text) : Text :=
  trimEnd (trimStart t)

/-- The trimmed text, unless nothing is left of it. -/
def nonBlank? (t : Text) : Option Text :=
  if trim t = [] then none else some (trim t)

/-- The words of the text: its longest pieces without a blank. -/
def words : Text → List Text
  | [] => []
  | c :: rest =>
    if isBlank c then words rest
    else
      match rest with
      | [] => [[c]]
      | d :: _ =>
        if isBlank d then [c] :: words rest
        else
          match words rest with
          | [] => [[c]]
          | w :: ws => (c :: w) :: ws

/-- The text without the characters `c` at its start. -/
def dropLeading (c : Char) (t : Text) : Text :=
  t.dropWhile (· == c)

/-- The text without the characters `c` at both ends. -/
def stripChar (c : Char) (t : Text) : Text :=
  ((dropLeading c t).reverse.dropWhile (· == c)).reverse

theorem isBlank_of_isWhitespace {c : Char} (h : c.isWhitespace) : isBlank c := by
  simp only [Char.isWhitespace, Bool.or_eq_true, decide_eq_true_eq] at h
  rcases h with ((rfl | rfl) | rfl) | rfl <;> rfl

theorem head?_dropLeading_ne (c : Char) (t : Text) : (dropLeading c t).head? ≠ some c := by
  intro h
  have hNot := List.head?_dropWhile_not (· == c) t
  rw [dropLeading] at h
  rw [h] at hNot
  simp at hNot

example : trim "\u3000 a b\u0085\u00a0".toList = "a b".toList := by decide
example : trim "\u200ba\ufeff".toList = "\u200ba\ufeff".toList := by decide
example : words " module  a/b // x".toList = ["module".toList, "a/b".toList, "//".toList, "x".toList] := by
  decide

end Text

end Scaffold
