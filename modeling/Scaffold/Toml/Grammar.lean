import Scaffold.Toml.Document
import Scaffold.Toml.Moment

/-!
The grammar of TOML documents. Loops are bounded by a number that starts above the length of the
document, and each round of a loop takes at least one character. Values that stand one inside the other
are bounded by a number of levels, which belongs to the grammar.
-/

namespace Scaffold.Toml.Reader

/-- Whether the character may stand in a comment and in a text on one line. -/
def isPlain (c : Char) : Bool :=
  c == '\t' || (' ' ≤ c && c != '\x7f')

/-- Takes a comment, if there is one. -/
def comment : Reader Unit := do
  if ← accept ['#'] then
    discard (takeWhile isPlain)

/-- Takes the rest of a line on which nothing follows but a comment. -/
def endOfLine : Reader Unit := do
  discard blanks
  comment
  unless (← get).isEmpty do
    guard (← newline)

/-- Takes blanks, comments and newlines. -/
def spacing : Nat → Reader Unit
  | 0 => return
  | n + 1 => do
    discard blanks
    comment
    if ← newline then
      spacing n

/-- Takes blanks and newlines. -/
def emptyLines : Nat → Reader Unit
  | 0 => return
  | n + 1 => do
    discard blanks
    if ← newline then
      emptyLines n

/-- Takes the number of a character in the given count of digits. -/
def codePoint (count : Nat) : Reader Char := do
  let n ← number 16 count
  guard n.isValidChar
  return Char.ofNat n

/-- Takes what follows a backslash. -/
def escaped : Reader Char := do
  match ← next with
  | 'b' => return '\x08'
  | 't' => return '\t'
  | 'n' => return '\n'
  | 'f' => return '\x0c'
  | 'r' => return '\r'
  | '"' => return '"'
  | '\\' => return '\\'
  | 'u' => codePoint 4
  | 'U' => codePoint 8
  | _ => failure

/-- Takes the rest of a text on one line and the quote that ends it. -/
def shortText (quote : Char) (escapes : Bool) : Nat → Reader Text
  | 0 => failure
  | n + 1 => do
    let c ← next
    if c = quote then
      return []
    else if escapes && c == '\\' then
      let e ← escaped
      return e :: (← shortText quote escapes n)
    else
      guard (isPlain c)
      return c :: (← shortText quote escapes n)

/-- Takes the rest of a text on several lines and the three quotes that end it. Up to two further
quotes before those belong to the text. -/
def longText (quote : Char) (escapes : Bool) : Nat → Reader Text
  | 0 => failure
  | n + 1 => do
    if ← accept [quote, quote, quote] then
      if ← accept [quote, quote] then
        return [quote, quote]
      else if ← accept [quote] then
        return [quote]
      else
        return []
    else if ← newline then
      return '\n' :: (← longText quote escapes n)
    else
      let c ← next
      if escapes && c == '\\' then
        let skipped ← blanks
        if ← newline then
          emptyLines n
          longText quote escapes n
        else
          guard skipped.isEmpty
          let e ← escaped
          return e :: (← longText quote escapes n)
      else
        guard (isPlain c)
        return c :: (← longText quote escapes n)

/-- Takes a text between the given quotes, of which it has taken none yet. -/
def quotedText (quote : Char) (escapes : Bool) (n : Nat) : Reader Text := do
  if ← accept [quote, quote, quote] then
    discard newline
    longText quote escapes n
  else
    expect [quote]
    shortText quote escapes n

/-- Whether the character may stand in a key without quotes. -/
def isKeyChar (c : Char) : Bool :=
  c.isAlphanum || c == '_' || c == '-'

/-- Takes one part of a key. -/
def keyPart (n : Nat) : Reader Text := do
  match ← peek? with
  | some '"' =>
    expect ['"']
    shortText '"' true n
  | some '\'' =>
    expect ['\'']
    shortText '\'' false n
  | _ =>
    let part ← takeWhile isKeyChar
    guard !part.isEmpty
    return part

/-- Takes the parts of a key and the blanks behind each. -/
def keyParts : Nat → Reader Key
  | 0 => failure
  | n + 1 => do
    let part ← keyPart n
    discard blanks
    if ← accept ['.'] then
      discard blanks
      return part :: (← keyParts n)
    else
      return [part]

/-- The greatest number of parts of a key, and of values that stand one inside the other. -/
def deepest : Nat := 79

/-- Takes a key and the blanks behind it. -/
def key (n : Nat) : Reader Key := do
  let parts ← keyParts n
  guard (parts.length ≤ deepest)
  return parts

/-- Takes the rest of an array whose items `item` reads. -/
def arrayItems (item : Reader Value) : Nat → Reader (List Value)
  | 0 => failure
  | n + 1 => do
    spacing n
    if ← accept [']'] then
      return []
    let first ← item
    spacing n
    if ← accept [','] then
      return first :: (← arrayItems item n)
    else
      expect [']']
      return [first]

/-- Takes a key and its value, which `value` reads. -/
def keyValue (value : Reader Value) (n : Nat) : Reader (Key × Value) := do
  let k ← key n
  expect ['=']
  discard blanks
  return (k, ← value)

/-- Takes the rest of a table on one line, of which at least one entry is left. -/
def tableEntries (value : Reader Value) : Nat → Reader (List (Key × Value))
  | 0 => failure
  | n + 1 => do
    discard blanks
    let first ← keyValue value n
    discard blanks
    if ← accept [','] then
      return first :: (← tableEntries value n)
    else
      expect ['\x7d']
      return [first]

/-- Whether no key is the beginning of another one. -/
def areApart : List Key → Bool
  | [] => true
  | k :: rest => rest.all (fun l => !k.isPrefixOf l && !l.isPrefixOf k) && areApart rest

/-- Whether the character may stand in a number or a truth value. -/
def isWordChar (c : Char) : Bool :=
  c.isAlphanum || c == '_' || c == '-' || c == '+' || c == '.'

/-- Takes a number, a truth value or a moment. -/
def bareWord : Reader Text :=
  written moment <|> do
    let word ← takeWhile isWordChar
    guard (word = "true".toList ∨ word = "false".toList ∨ isWhole word ∨ isFloat word)
    return word

/-- Takes a value in which no other value stands. -/
def scalar (n : Nat) : Reader Value := do
  match ← peek? with
  | some '"' => return .text (← quotedText '"' true n)
  | some '\'' => return .text (← quotedText '\'' false n)
  | _ => return .bare (← bareWord)

/-- Takes a value in which others stand at most as deep as the levels allow. -/
def value (n : Nat) : (levels : Nat) → Reader Value
  | 0 => scalar n
  | levels + 1 => do
    if ← accept ['['] then
      return .array (← arrayItems (value n levels) n)
    else if ← accept ['\x7b'] then
      discard blanks
      if ← accept ['\x7d'] then
        return .table []
      let entries ← tableEntries (value n levels) n
      guard (areApart (entries.map (·.1)))
      return .table entries
    else
      scalar n

/-- Takes one statement with the rest of its line. -/
def item (n : Nat) : Reader Item := do
  if ← accept ['[', '['] then
    discard blanks
    let k ← key n
    expect [']', ']']
    endOfLine
    return .arrayHeader k
  else if ← accept ['['] then
    discard blanks
    let k ← key n
    expect [']']
    endOfLine
    return .header k
  else
    let (k, v) ← keyValue (value n deepest) n
    endOfLine
    return .entry k v

/-- Takes all statements. -/
def items : Nat → Reader Document
  | 0 => failure
  | n + 1 => do
    spacing n
    if (← get).isEmpty then
      return []
    let first ← item n
    return first :: (← items n)

end Scaffold.Toml.Reader

namespace Scaffold.Toml

/-- The document that the text holds. A byte-order mark before it is passed over. -/
def Document.read? (t : Text) : Option Document :=
  let body := if t.head? = some '\ufeff' then t.drop 1 else t
  ((Reader.items (body.length + 1)).run body).map (·.1)

end Scaffold.Toml
