/-!
A character property is a sorted list of closed ranges of code points, and a case mapping a sorted
list of runs that all move by the same distance. Both searches stop at the first entry that begins
beyond the code point, so a decision about an ASCII character looks at the first entries only.
-/

namespace Scaffold

/-- Closed ranges of code points, in increasing order. -/
abbrev Ranges := List (Nat × Nat)

/-- Whether some range holds the code point `n`. -/
def Ranges.holds : Ranges → Nat → Bool
  | [], _ => false
  | (first, last) :: rest, n =>
    if n < first then false else n ≤ last || holds rest n

/-- The code points `first`, `first + step`, … up to `last`, each of which moves by `shift`. -/
structure CaseRun where
  first : Nat
  last : Nat
  step : Nat
  shift : Int

/-- Where the run takes the code point `n`, if it is one of the run's. -/
def CaseRun.image? (run : CaseRun) (n : Nat) : Option Nat :=
  if run.first ≤ n ∧ n ≤ run.last ∧ (n - run.first) % run.step = 0 then
    some ((n : Int) + run.shift).toNat
  else none

/-- Where the first run that has the code point `n` takes it. -/
def CaseRun.find? : List CaseRun → Nat → Option Nat
  | [], _ => none
  | run :: rest, n =>
    if n < run.first then none
    else
      match run.image? n with
      | some m => some m
      | none => find? rest n

end Scaffold
