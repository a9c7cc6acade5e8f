import Gatehouse.Text.Digits
import Gatehouse.Text.Reader

/-!
# Dates and times in TOML

A date, a time, or both with a letter or a blank between them; both together may be followed by an
offset.  Months, days, hours, minutes and seconds have to be in range, the day also for its month and
year.
-/

namespace Gatehouse.Toml

open Reader (expect)

/-- A number of exactly so many decimal digits within bounds. -/
def fixedNumber (digits least most : Nat) : Reader Nat := fun cs => do
  let (ds, rest) ← Digits.takeExactly 10 digits cs
  let n := Digits.toNat 10 ds
  if least ≤ n ∧ n ≤ most then some (n, rest) else none

/-- Is the year one with a day in February more? -/
def isLeapYear (year : Nat) : Bool := year % 4 == 0 && (year % 100 != 0 || year % 400 == 0)

/-- How many days a month has. -/
def daysInMonth (year month : Nat) : Nat :=
  if month = 2 then if isLeapYear year then 29 else 28
  else if month ∈ [4, 6, 9, 11] then 30
  else 31

/-- Take a date. -/
def date (cs : List Char) : Option (List Char) := do
  let (year, cs) ← fixedNumber 4 0 9999 cs
  let (month, cs) ← fixedNumber 2 1 12 (← expect '-' cs)
  let (_, cs) ← fixedNumber 2 1 (daysInMonth year month) (← expect '-' cs)
  pure cs

/-- Take a time of day. -/
def timeOfDay (cs : List Char) : Option (List Char) := do
  let (_, cs) ← fixedNumber 2 0 23 cs
  let (_, cs) ← fixedNumber 2 0 59 (← expect ':' cs)
  let (_, cs) ← fixedNumber 2 0 60 (← expect ':' cs)
  match cs with
  | '.' :: rest =>
    let (ds, rest) := Digits.take 10 rest
    if ds.isEmpty then none else some rest
  | cs => some cs

/-- Take an offset. -/
def offset : List Char → Option (List Char)
  | [] => none
  | c :: rest =>
    if c = 'Z' ∨ c = 'z' then some rest
    else if c = '+' ∨ c = '-' then do
      let (_, cs) ← fixedNumber 2 0 23 rest
      let (_, cs) ← fixedNumber 2 0 59 (← expect ':' cs)
      pure cs
    else none

/-- Take the time that follows a date. -/
def timeAfterDate : List Char → Option (List Char)
  | [] => none
  | c :: rest =>
    if c = 'T' ∨ c = 't' ∨ c = ' ' then (timeOfDay rest).map fun cs => (offset cs).getD cs
    else none

/-- Take a date, a time or both. -/
def moment (cs : List Char) : Option (List Char) :=
  match date cs with
  | some rest => some ((timeAfterDate rest).getD rest)
  | none => timeOfDay cs

end Gatehouse.Toml
