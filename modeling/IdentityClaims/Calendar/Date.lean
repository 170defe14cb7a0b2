/-!
# Dates

Dates of the Gregorian calendar, extended to all years from 1 to 9999, and their day numbers. Day
number 0 is 1 January of year 1. A year's days before it and a month's days before it are counted
in closed form; the inverse takes a day number apart into periods of 400, 100, 4 and 1 years.
-/

namespace IdentityClaims

structure Date where
  year : Nat
  month : Nat
  day : Nat
  deriving DecidableEq, Repr

namespace Date

/-- Every fourth year is a leap year, except three of four centuries. -/
def isLeap (year : Nat) : Bool := year % 4 == 0 && (year % 100 != 0 || year % 400 == 0)

def daysInMonth (year month : Nat) : Nat :=
  if month = 2 then (if isLeap year then 29 else 28)
  else if month = 4 ∨ month = 6 ∨ month = 9 ∨ month = 11 then 30
  else 31

def daysBeforeYear (year : Nat) : Nat :=
  let y := year - 1
  365 * y + y / 4 - y / 100 + y / 400

def daysBeforeMonth (year month : Nat) : Nat :=
  (List.range (month - 1)).foldl (fun n m => n + daysInMonth year (m + 1)) 0

def toDays (d : Date) : Nat := daysBeforeYear d.year + daysBeforeMonth d.year d.month + (d.day - 1)

/-- The year that a day number lies in. The last day of a period of four or of 400 years is not
the first day of a fifth part. -/
def yearOfDays (n : Nat) : Nat :=
  let n400 := n / 146097
  let r400 := n % 146097
  let n100 := min (r400 / 36524) 3
  let r100 := r400 - 36524 * n100
  let n4 := r100 / 1461
  let r4 := r100 % 1461
  let n1 := min (r4 / 365) 3
  400 * n400 + 100 * n100 + 4 * n4 + n1 + 1

def monthAndDay (year : Nat) : Nat → Nat → Nat → Nat × Nat
  | 0, month, rest => (month, rest + 1)
  | fuel + 1, month, rest =>
    let size := daysInMonth year month
    if rest < size then (month, rest + 1) else monthAndDay year fuel (month + 1) (rest - size)

def ofDays (n : Nat) : Date :=
  let year := yearOfDays n
  let (month, day) := monthAndDay year 11 1 (n - daysBeforeYear year)
  { year, month, day }

end Date

end IdentityClaims
