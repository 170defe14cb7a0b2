import IdentityClaims.Calendar.Instant

/-!
# Dates and moments that do not exist

A date has a year from 1 to 9999, a month of its year and a day of its month; a moment also has a
time of day and an offset of less than a day. What is wrong is found in a fixed order: the offset
first, then the date from the year down, then the time of day.
-/

namespace IdentityClaims

inductive CalendarFault
  | year (n : Int)
  | month
  | day
  | hour
  | minute
  | second
  | micro
  | offset (o : Offset)
  deriving DecidableEq, Repr

/-- An offset as messages show it: whole days toward the past, and the seconds and microseconds that
are left, unless there are none. -/
def Offset.display (o : Offset) : String :=
  let rest := o.micros.fmod (secondsPerDay * microsPerSecond)
  let seconds := rest.fdiv microsPerSecond
  let micros := rest.fmod microsPerSecond
  "datetime.timedelta(days=" ++ toString (o.micros.fdiv (secondsPerDay * microsPerSecond))
    ++ (if seconds = 0 then "" else ", seconds=" ++ toString seconds)
    ++ (if micros = 0 then "" else ", microseconds=" ++ toString micros) ++ ")"

def CalendarFault.message : CalendarFault → String
  | .year n => "year " ++ toString n ++ " is out of range"
  | .month => "month must be in 1..12"
  | .day => "day is out of range for month"
  | .hour => "hour must be in 0..23"
  | .minute => "minute must be in 0..59"
  | .second => "second must be in 0..59"
  | .micro => "microsecond must be in 0..999999"
  | .offset o =>
    "offset must be a timedelta strictly between -timedelta(hours=24) and timedelta(hours=24), not "
      ++ o.display ++ "."

def Date.fault? (d : Date) : Option CalendarFault :=
  if d.year = 0 ∨ 9999 < d.year then some (.year d.year)
  else if d.month = 0 ∨ 12 < d.month then some .month
  else if d.day = 0 ∨ Date.daysInMonth d.year d.month < d.day then some .day
  else none

def Offset.isTooFar (o : Offset) : Bool := secondsPerDay * microsPerSecond ≤ (o.micros.natAbs : Int)

namespace Moment

def offsetFault? (m : Moment) : Option CalendarFault :=
  (m.offset.filter Offset.isTooFar).map .offset

/-- What is wrong with the time of day of a moment, if anything is. -/
def clockFault? (m : Moment) : Option CalendarFault :=
  if 23 < m.hour then some .hour
  else if 59 < m.minute then some .minute
  else if 59 < m.second then some .second
  else if 999999 < m.micro then some .micro
  else none

def fault? (m : Moment) : Option CalendarFault :=
  (m.offsetFault?.or m.date.fault?).or m.clockFault?

end Moment

end IdentityClaims
