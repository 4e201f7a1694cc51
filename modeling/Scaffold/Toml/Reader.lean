import Scaffold.Text.Basic

/-!
A reader takes what it can use from the front of a text and leaves the rest, or refuses the text. This
module holds the readers of single characters, of given words and of what satisfies a condition. Where
a reader refuses the text, another can be tried in its place on the same text.
-/

namespace Scaffold.Toml

/-- A reader takes a value from the front of a text, or refuses the text. -/
abbrev Reader := StateT Text Option

namespace Reader

/-- The next character, which stays in the text. -/
def peek? : Reader (Option Char) := do
  return (← get).head?

/-- Takes the next character. -/
def next : Reader Char := do
  match ← get with
  | [] => failure
  | c :: rest =>
    set rest
    return c

/-- Takes the word if the text starts with it, and says whether it did. -/
def accept (word : Text) : Reader Bool := do
  let t ← get
  if word.isPrefixOf t then
    set (t.drop word.length)
    return true
  else
    return false

/-- Takes the word, with which the text has to start. -/
def expect (word : Text) : Reader Unit := do
  guard (← accept word)

/-- Takes the characters up to the first that does not satisfy `p`. -/
def takeWhile (p : Char → Bool) : Reader Text := do
  let t ← get
  set (t.dropWhile p)
  return t.takeWhile p

/-- What the reader takes, if it takes anything, else nothing. -/
def optional (reader : Reader Unit) : Reader Unit :=
  reader <|> return ()

/-- The characters that the reader takes. -/
def written (reader : Reader Unit) : Reader Text := do
  let t ← get
  reader
  return t.take (t.length - (← get).length)

/-- Takes blanks and tabs. -/
def blanks : Reader Text :=
  takeWhile fun c => c == ' ' || c == '\t'

/-- Takes a newline, with a carriage return before it or without, and says whether there was one. -/
def newline : Reader Bool := do
  if ← accept ['\n'] then
    return true
  else
    accept ['\r', '\n']

/-- Of two newlines only the first is taken. -/
example : newline.run ['\n', '\r', '\n', 'a'] = some (true, ['\r', '\n', 'a']) := rfl

end Reader

end Scaffold.Toml
