import Scaffold.Toml.Reader

/-!
The words of a TOML document that are numbers, and the numbers of a fixed width inside other words. A
word is a whole number or a number with a decimal part, by its form and by the range to which numbers of
its form are bound. Between two digits one low line may stand, and it has no meaning.
-/

namespace Scaffold.Toml

/-- The value of a hexadecimal digit. -/
def hexDigit? (c : Char) : Option Nat :=
  if '0' ≤ c ∧ c ≤ '9' then some (c.toNat - '0'.toNat)
  else if 'a' ≤ c ∧ c ≤ 'f' then some (c.toNat - 'a'.toNat + 10)
  else if 'A' ≤ c ∧ c ≤ 'F' then some (c.toNat - 'A'.toNat + 10)
  else none

/-- The value of a digit in the given base, which is at most sixteen. -/
def digit? (base : Nat) (c : Char) : Option Nat :=
  (hexDigit? c).filter (· < base)

/-- The values of the digits of a word, if it is made of digits and of low lines between them. -/
def digits? (base : Nat) : Text → Option (List Nat)
  | [] => none
  | [c] => do return [← digit? base c]
  | c :: '_' :: rest => do return (← digit? base c) :: (← digits? base rest)
  | c :: rest => do return (← digit? base c) :: (← digits? base rest)

/-- The number that the digits make, the first of them the most significant. -/
def numberOf (base : Nat) (digits : List Nat) : Nat :=
  digits.foldl (fun n d => n * base + d) 0

namespace Reader

/-- Takes the given count of digits. -/
def digits (base : Nat) : (count : Nat) → Reader (List Nat)
  | 0 => return []
  | count + 1 => do
    let digit ← digit? base (← next)
    return digit :: (← digits base count)

/-- Takes a number that is written with the given count of digits. -/
def number (base count : Nat) : Reader Nat := do
  return numberOf base (← digits base count)

end Reader

/-- Whether the word has a minus sign, and the word without its sign. -/
def cutSign : Text → Bool × Text
  | '-' :: rest => (true, rest)
  | '+' :: rest => (false, rest)
  | t => (false, t)

/-- The digits before the decimal point. A zero stands alone there. -/
def wholeDigits? (t : Text) : Option (List Nat) := do
  let digits ← digits? 10 t
  guard (digits.head? ≠ some 0 ∨ digits.length = 1)
  return digits

/-- The magnitude from which on a whole number above zero takes more than 64 bits with its sign. -/
def wholeLimit : Nat := Nat.pow 2 63

/-- Whether the word is a whole number of 64 bits, one of them for the sign. Only in base ten a sign may
stand before it. -/
def isWhole : Text → Bool
  | '0' :: 'x' :: t => (digits? 16 t).any (numberOf 16 · < wholeLimit)
  | '0' :: 'o' :: t => (digits? 8 t).any (numberOf 8 · < wholeLimit)
  | '0' :: 'b' :: t => (digits? 2 t).any (numberOf 2 · < wholeLimit)
  | t =>
    let (negative, t) := cutSign t
    (wholeDigits? t).any fun digits => numberOf 10 digits < wholeLimit + negative.toNat

/-- A number in decimal notation. -/
structure Decimal where
  isNegative : Bool
  /-- All digits, those behind the point too. -/
  digits : List Nat
  /-- The power of ten for which the last digit counts. -/
  exponent : Int

namespace Decimal

/-- The number behind the letter that announces an exponent. Without the letter it is zero. -/
def exponent? : Text → Option Int
  | [] => some 0
  | letter :: t => do
    guard (letter = 'e' ∨ letter = 'E')
    let (negative, t) := cutSign t
    let n : Int := numberOf 10 (← digits? 10 t)
    return if negative then -n else n

/-- The digits and low lines at the front of the text, and the rest. -/
def cutDigits (t : Text) : Text × Text :=
  let inNumber (c : Char) : Bool := c.isDigit || c == '_'
  (t.takeWhile inNumber, t.dropWhile inNumber)

/-- The digits behind a decimal point, and the text behind them. Without the point there are none. -/
def fraction? : Text → Option (List Nat × Text)
  | '.' :: t => do
    let (front, rest) := cutDigits t
    return (← digits? 10 front, rest)
  | t => some ([], t)

/-- The number that the word writes with a decimal point, an exponent or both. -/
def read? (word : Text) : Option Decimal := do
  let (isNegative, t) := cutSign word
  let (front, t) := cutDigits t
  guard (t ≠ [])
  let whole ← wholeDigits? front
  let (fraction, t) ← fraction? t
  let exponent ← exponent? t
  return { isNegative, digits := whole ++ fraction, exponent := exponent - fraction.length }

/-- The magnitude from which on a number has no floating-point number of 64 bits next to it. -/
def limit : Nat := Nat.pow 2 1024 - Nat.pow 2 970

/-- Whether the magnitude is below the limit. The limit has 309 digits, so only of a number with as many
digits before the point it is computed. -/
def isFinite (d : Decimal) : Bool :=
  let digits := d.digits.dropWhile (· = 0)
  let places : Int := digits.length + d.exponent
  digits = [] || places < 309 ||
    (places = 309 &&
      numberOf 10 digits * Nat.pow 10 d.exponent.toNat < limit * Nat.pow 10 (-d.exponent).toNat)

end Decimal

/-- Whether the word is a number with a decimal part. Numbers too great are refused above zero and not
below it. -/
def isFloat (word : Text) : Bool :=
  let magnitude := (cutSign word).2
  magnitude = "inf".toList || magnitude = "nan".toList ||
    (Decimal.read? word).any fun d => d.isNegative || d.isFinite

example : ["0", "-0", "+1_0", "0x7f", "-9223372036854775808"].all (isWhole ·.toList) := by decide

example : ["", "_1", "1_", "1__0", "01", "0x", "-0x1", "9223372036854775808"].all
    (!isWhole ·.toList) := by decide

example : ["1.5", "0e0", "1_0.0_1E+0_1", "-1e400", "+nan", "0e400"].all (isFloat ·.toList) := by
  decide +kernel

example : ["1", "1.", ".5", "1.e1", "1e", "01.5", "1e400", "0.1e310"].all (!isFloat ·.toList) := by
  decide +kernel

end Scaffold.Toml
