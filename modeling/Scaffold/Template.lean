import Scaffold.Failure
import Scaffold.Text.Json

/-!
Templates are literal text with gaps for named values. A value goes into its gap as it is: nothing
of it is escaped, and a value that looks like a gap is not filled again. In the written form a gap
is a name between double braces, with blanks allowed around the name. A few names are words of their
own: the two truth values, the negation, and the name for all values together.
-/

namespace Scaffold

/-- A piece of a template whose values are named by `ν`. -/
inductive Piece (ν : Type) where
  | literal (text : Text)
  | gap (name : ν)

/-- A template whose values are named by `ν`. -/
abbrev Template (ν : Type) := List (Piece ν)

namespace Template

/-- The text of one piece. -/
def fillPiece {ν : Type} (value : ν → Text) : Piece ν → Text
  | .literal text => text
  | .gap name => value name

/-- The text with every gap filled. -/
def fill {ν : Type} (value : ν → Text) (template : Template ν) : Text :=
  template.flatMap (fillPiece value)

@[simp] theorem fill_nil {ν : Type} (value : ν → Text) : fill value [] = [] := rfl

@[simp] theorem fill_literal {ν : Type} (value : ν → Text) (text : Text) (rest : Template ν) :
    fill value (.literal text :: rest) = text ++ fill value rest := rfl

@[simp] theorem fill_gap {ν : Type} (value : ν → Text) (name : ν) (rest : Template ν) :
    fill value (.gap name :: rest) = value name ++ fill value rest := rfl

/-- The text with every gap filled, if every name has a value. -/
def fill? {ν : Type} (value : ν → Option Text) : Template ν → Option Text
  | [] => some []
  | .literal text :: rest => (fill? value rest).map (text ++ ·)
  | .gap name :: rest => do return (← value name) ++ (← fill? value rest)

/-- A blank inside the braces of a gap. -/
def isBlankInGap (c : Char) : Bool :=
  c == ' ' || c == '\t' || c == '\n' || c == '\r'

/-- Whether the text is a name: ASCII letters, digits and low lines, with no digit in front. -/
def isName : Text → Bool
  | [] => false
  | c :: rest => (c.isAlpha || c == '_') && rest.all fun d => d.isAlphanum || d == '_'

/-- What a written gap asks for. -/
inductive Request where
  /-- The value with the name. -/
  | named (name : Text)
  /-- The word for a truth value, whatever has that name. -/
  | truth (b : Bool)
  /-- All values with their names. -/
  | everything

/-- The spellings of the truth values. -/
def truthWords : List (Text × Bool) :=
  [("true".toList, true), ("True".toList, true), ("false".toList, false), ("False".toList, false)]

/-- What the text between the braces asks for. A truth value ends where its word ends, so no longer
name can begin with it. The blank behind the negation announces it, and what it would negate is not
there. -/
def request? (inside : Text) : Option Request := do
  let fromName := inside.dropWhile isBlankInGap
  let name := (fromName.reverse.dropWhile isBlankInGap).reverse
  if let some b := truthWords.lookup name then
    return .truth b
  guard (isName name)
  guard (truthWords.all fun (word, _) => !word.isPrefixOf name)
  guard (name ≠ "not".toList ∨ fromName = name)
  return if name = "__tera_context".toList then .everything else .named name

example : (request? " not".toList).isSome ∧ (request? " not ".toList).isNone := by decide

example : (request? "nothing".toList).isSome ∧ (request? "truth".toList).isSome ∧
    (request? "trueish".toList).isNone := by decide

/-- The template written as the text, if it has at most `n` gaps and each is well formed. -/
def readWithin : Nat → Text → Option (Template Request)
  | 0, _ => none
  | n + 1, source =>
    match source.cutAtFirst ['\x7b', '\x7b'] with
    | none => some [.literal source]
    | some (before, opened) => do
      let (inside, closed) ← Text.cutAtFirst (opened.drop 2) ['\x7d', '\x7d']
      let request ← request? inside
      return .literal before :: .gap request :: (← readWithin n (closed.drop 2))

/-- The template written as the text, if each of its gaps is well formed. -/
def read (source : Text) : Option (Template Request) :=
  readWithin (source.length + 1) source

/-- The answer to a request, if there is one. -/
def answer? (values : List (Text × Text)) : Request → Option Text
  | .named name => values.lookup name
  | .truth b => some (if b then "true".toList else "false".toList)
  | .everything => some (Text.jsonObject values)

/-- The text that the written template gives with the named values. The label names the template in
the failure. -/
def render (label : String) (source : Text) (values : List (Text × Text)) : Except Failure Text :=
  match read source with
  | none => .error ⟨[context], .template "the template cannot be read"⟩
  | some template =>
    match fill? (answer? values) template with
    | none => .error ⟨[context], .template "a value is missing"⟩
    | some text => .ok text
where
  context := s!"Tera rendering failed for template '{label}'"

end Template

end Scaffold
