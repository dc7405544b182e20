import ReleaseGate.Toml.Scan

/-!
# Moments

Dates, times of day, and dates with a time and perhaps an offset. A date has to exist in its year;
a minute may have a sixty-first second.
-/

namespace ReleaseGate.Toml

/-- Whether a year has a leap day. -/
def isLeapYear (year : Nat) : Bool := year % 4 == 0 && (year % 100 != 0 || year % 400 == 0)

/-- The length of a month. -/
def daysIn (year month : Nat) : Nat :=
  if month = 2 then if isLeapYear year then 29 else 28
  else if month = 4 ∨ month = 6 ∨ month = 9 ∨ month = 11 then 30
  else 31

/-- Take a date. -/
def takeDate : Scan Unit := fun s => do
  let (year, s) ← takeDigits 4 s
  let (_, s) ← takeChar '-' s
  let (month, s) ← takeDigits 2 s
  let (_, s) ← takeChar '-' s
  let (day, s) ← takeDigits 2 s
  if 1 ≤ month ∧ month ≤ 12 ∧ 1 ≤ day ∧ day ≤ daysIn year month then return ((), s) else none

/-- The text after a fraction of a second, if there is one. -/
def dropSecondFraction : List Char → List Char
  | '.' :: d :: s => if isDigit d then s.dropWhile isDigit else '.' :: d :: s
  | s => s

/-- Take hours and minutes. -/
def takeClock : Scan Unit := fun s => do
  let (hour, s) ← takeDigits 2 s
  let (_, s) ← takeChar ':' s
  let (minute, s) ← takeDigits 2 s
  if hour ≤ 23 ∧ minute ≤ 59 then return ((), s) else none

/-- Take a time of day. -/
def takeTime : Scan Unit := fun s => do
  let (_, s) ← takeClock s
  let (_, s) ← takeChar ':' s
  let (second, s) ← takeDigits 2 s
  if second ≤ 60 then return ((), dropSecondFraction s) else none

/-- The text after an offset, if there is one. -/
def dropOffset : List Char → List Char
  | [] => []
  | c :: s =>
    if c = 'Z' ∨ c = 'z' then s
    else if c = '+' ∨ c = '-' then
      match takeClock s with
      | some (_, rest) => rest
      | none => c :: s
    else c :: s

/-- The text after the time that follows a date, if one follows. -/
def dropTimeOfDate : List Char → List Char
  | [] => []
  | c :: s =>
    if c = 'T' ∨ c = 't' ∨ c = ' ' then
      match takeTime s with
      | some (_, rest) => dropOffset rest
      | none => c :: s
    else c :: s

/-- Take a moment. -/
def takeMoment : Scan Unit := fun s =>
  match takeDate s with
  | some (_, rest) => some ((), dropTimeOfDate rest)
  | none => takeTime s

end ReleaseGate.Toml
