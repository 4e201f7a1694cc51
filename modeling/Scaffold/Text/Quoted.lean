import Scaffold.Text.Basic
import Scaffold.Text.Visible

/-!
A quoted text stands between double quotes on one line and shows every character: the quote and the
backslash behind a backslash, tab, newline and carriage return by their letters, and what cannot be
seen by its number. An apostrophe is left alone.
-/

namespace Scaffold.Text

/-- The number of the code point between braces, in lower-case hexadecimal digits. -/
def codePointEscape (c : Char) : Text :=
  ['\\', 'u', '\x7b'] ++ Nat.toDigits 16 c.toNat ++ ['\x7d']

/-- The form of one character in a quoted text. -/
def quotedChar (c : Char) : Text :=
  match c with
  | '\x00' => ['\\', '0']
  | '\t' => ['\\', 't']
  | '\n' => ['\\', 'n']
  | '\r' => ['\\', 'r']
  | '"' => ['\\', '"']
  | '\\' => ['\\', '\\']
  | c => if isVisible c then [c] else codePointEscape c

/-- The quoted form of the text. -/
def quoted (t : Text) : Text :=
  '"' :: t.flatMap quotedChar ++ ['"']

example : quoted "it's \"é\"\t\u0301\u200b\\".toList = "\"it's \\\"é\\\"\\t\\u\x7b301\x7d\\u\x7b200b\x7d\\\\\"".toList := by
  decide +kernel

end Scaffold.Text
