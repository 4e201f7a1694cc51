import Scaffold.Text.Basic

/-!
The lines of a text. A line ends after a newline, and the last one also where the text ends. As a
value a line has lost its newline and one carriage return before it; a carriage return elsewhere is
a character like any other, and so is one at the very end of a last line without a newline.
-/

namespace Scaffold

/-- A line of a text without its end. -/
abbrev Line := Text

namespace Text

/-- The pieces of the text that end after a newline, and what is left after the last newline. -/
def segments : Text → List Text
  | [] => []
  | c :: rest =>
    if c = '\n' then ['\n'] :: segments rest
    else
      match segments rest with
      | [] => [[c]]
      | s :: more => (c :: s) :: more

/-- The piece without its newline and one carriage return before the newline. -/
def chomp (s : Text) : Line :=
  match s.reverse with
  | '\n' :: '\r' :: line => line.reverse
  | '\n' :: line => line.reverse
  | _ => s

/-- The lines of the text. -/
def lines (t : Text) : List Line :=
  (segments t).map chomp

/-- The text that has the given lines, each with a newline after it. -/
def ofLines (ls : List Line) : Text :=
  ls.flatMap (· ++ ['\n'])

theorem flatten_segments (t : Text) : (segments t).flatten = t := by
  induction t with
  | nil => rfl
  | cons c rest ih =>
    unfold segments
    split
    · simp_all
    · split <;> simp_all

@[simp] theorem ofLines_nil : ofLines [] = [] := rfl

@[simp] theorem ofLines_cons (l : Line) (ls : List Line) :
    ofLines (l :: ls) = l ++ '\n' :: ofLines ls := by
  simp [ofLines]

theorem ofLines_append (as bs : List Line) : ofLines (as ++ bs) = ofLines as ++ ofLines bs := by
  simp [ofLines]

example : lines "a\r\n\n\rb\n\nc\r".toList = ["a".toList, [], "\rb".toList, [], "c\r".toList] := by decide
example : lines "a\r\r\n".toList = ["a\r".toList] := by decide
example : lines [] = [] := rfl

end Text

end Scaffold
