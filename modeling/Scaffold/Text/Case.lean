import Scaffold.Text.Basic
import Scaffold.Text.Alphanumeric
import Scaffold.Text.CaseMapping

/-!
Lower case and title case of whole texts. The two rules differ in more than the first letter: the
lower case of a text writes a sigma at the end of a word in its final form, while the title case
maps character by character and knows nothing of that form.
-/

namespace Scaffold

/-- A character of a word: a letter, a number or the low line. -/
def isWordChar (c : Char) : Bool :=
  isAlphanumeric c || c == '_'

namespace Text

/-- Whether the next character that counts, reading `t` from its start, has a case. -/
def meetsCased (t : Text) : Bool :=
  (t.dropWhile isCaseIgnorable).head?.any isCased

/-- The lower case of the rest of a text, given the characters `before` it in reverse order. -/
def lowerAfter (before : Text) : Text → Text
  | [] => []
  | c :: rest =>
    (if c = 'Σ' then [if meetsCased before && !meetsCased rest then 'ς' else 'σ'] else lowerCase c)
      ++ lowerAfter (c :: before) rest

/-- The lower case of the text. A capital sigma that ends a word becomes a final sigma. -/
def lower (t : Text) : Text :=
  lowerAfter [] t

/-- The title case of the rest of a text, where `inWord` says that a word is going on. -/
def titleFrom (inWord : Bool) : Text → Text
  | [] => []
  | c :: rest =>
    if isWordChar c then
      (if inWord then lowerCase c else upperCase c) ++ titleFrom true rest
    else
      c :: titleFrom (inWord && (c == '.' || c == '\'') && rest.head?.any isWordChar) rest

/-- The title case of the text: the first character of each word in upper case and the others in
lower case. A point or an apostrophe between two word characters does not end the word. -/
def title (t : Text) : Text :=
  titleFrom false t

example : title "blog post v1.users o'neil user_role users.".toList
    = "Blog Post V1.users O'neil User_role Users.".toList := by decide +kernel
example : lower "ΟΔΟΣ ΣΑΣ'Σ Σ".toList = "οδος σασ'ς σ".toList := by decide +kernel

end Text

end Scaffold
