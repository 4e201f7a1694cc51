import Scaffold.Toml.Number

/-!
Dates and times of day in a TOML document. A moment is a date, a date with a time of day and perhaps its
distance from universal time, or a time of day alone. Every number in it has its own count of digits and
its own range, and a date is one of the calendar.
-/

namespace Scaffold.Toml

/-- The number of days in the month. -/
def daysInMonth (year month : Nat) : Nat :=
  if month = 2 then
    if year % 4 = 0 ∧ (year % 100 ≠ 0 ∨ year % 400 = 0) then 29 else 28
  else if month ∈ [4, 6, 9, 11] then 30
  else 31

namespace Reader

/-- Takes a date of the calendar. -/
def date : Reader Unit := do
  let year ← number 10 4
  expect ['-']
  let month ← number 10 2
  expect ['-']
  let day ← number 10 2
  guard (1 ≤ month ∧ month ≤ 12 ∧ 1 ≤ day ∧ day ≤ daysInMonth year month)

/-- Takes an hour and a minute. -/
def hourAndMinute : Reader Unit := do
  guard ((← number 10 2) ≤ 23)
  expect [':']
  guard ((← number 10 2) ≤ 59)

/-- Takes a time of day. A second may be the sixtieth, and it may have a fraction. -/
def timeOfDay : Reader Unit := do
  hourAndMinute
  expect [':']
  guard ((← number 10 2) ≤ 60)
  optional do
    expect ['.']
    guard !(← takeWhile Char.isDigit).isEmpty

/-- Takes the distance from universal time. -/
def offset : Reader Unit := do
  match ← next with
  | 'Z' | 'z' => return
  | '+' | '-' => hourAndMinute
  | _ => failure

/-- Takes a moment. -/
def moment : Reader Unit :=
  withDate <|> timeOfDay
where
  withDate : Reader Unit := do
    date
    optional do
      guard ((← next) ∈ ['T', 't', ' '])
      timeOfDay
      optional offset

example : ["1979-05-27", "1979-05-27 07:32:00", "0000-02-29t00:00:60.5-23:59", "07:32:00.25"].all
    fun t => moment.run t.toList = some ((), []) := by decide +kernel

example : ["1979-02-29", "1979-13-01", "24:00:00", "07:32", "197-01-01", "1900-02-29"].all
    fun t => moment.run t.toList = none := by decide +kernel

/-- What is no time of day is left behind the date. -/
example : moment.run "1979-05-27 7".toList = some ((), [' ', '7']) := by decide +kernel

end Reader

end Scaffold.Toml
