import IdentityClaims.Calendar.Date

/-!
# Instants

An instant is a whole number of microseconds since the start of 1970 in universal time, within the
years 1 to 9999. A moment is what a calendar and a clock show, with or without an offset from
universal time; one without an offset is taken to be in universal time.
-/

namespace IdentityClaims

def epochDay : Nat := 719162

def microsPerSecond : Int := 1000000

def secondsPerDay : Int := 86400

/-- A point of time, in microseconds since the start of 1970, within the years 1 to 9999. -/
structure Instant where
  micros : Int
  inRange : -62135596800000000 ≤ micros ∧ micros ≤ 253402300799999999

instance : DecidableEq Instant := fun a b =>
  if h : a.micros = b.micros then
    isTrue (by cases a; cases b; simp_all)
  else isFalse fun e => h (e ▸ rfl)

namespace Instant

def ofMicros? (micros : Int) : Option Instant :=
  if h : -62135596800000000 ≤ micros ∧ micros ≤ 253402300799999999 then some ⟨micros, h⟩ else none

def dayNumber (t : Instant) : Nat :=
  (t.micros / (secondsPerDay * microsPerSecond) + epochDay).toNat

def microsOfDay (t : Instant) : Nat := (t.micros % (secondsPerDay * microsPerSecond)).toNat

end Instant

/-- How far a clock is ahead of universal time, in microseconds. West of there it is behind, and its
offset is below zero. -/
structure Offset where
  micros : Int
  deriving DecidableEq, Repr

namespace Offset

def ofSeconds (seconds : Int) : Offset := ⟨seconds * microsPerSecond⟩

/-- A numeral is an offset of so many seconds. -/
instance (n : Nat) : OfNat Offset n := ⟨ofSeconds n⟩

@[simp] theorem micros_zero : (0 : Offset).micros = 0 := rfl

end Offset

/-- What calendar and clock show: a date, a time of day, and the offset from universal time, if it
is known. -/
structure Moment where
  date : Date
  hour : Nat
  minute : Nat
  second : Nat
  micro : Nat
  offset : Option Offset
  deriving DecidableEq, Repr

structure ClockTime where
  hour : Nat
  minute : Nat
  second : Nat
  micro : Nat
  deriving DecidableEq, Repr

def padded (width n : Nat) : String :=
  let digits := toString n
  String.ofList (List.replicate (width - digits.length) '0') ++ digits

namespace Moment

def micros (m : Moment) : Int :=
  let days : Int := (m.date.toDays : Int) - epochDay
  let seconds : Int := days * secondsPerDay + (m.hour * 3600 + m.minute * 60 + m.second : Nat)
  seconds * microsPerSecond - (m.offset.getD 0).micros + m.micro

/-- The instant of a moment, unless universal time there is outside the years 1 to 9999. -/
def toInstant? (m : Moment) : Option Instant := Instant.ofMicros? m.micros

/-- Date and time of day; the fraction of a second has six digits and is left out when it is
zero. -/
def render (m : Moment) : String :=
  padded 4 m.date.year ++ "-" ++ padded 2 m.date.month ++ "-" ++ padded 2 m.date.day ++ "T"
    ++ padded 2 m.hour ++ ":" ++ padded 2 m.minute ++ ":" ++ padded 2 m.second
    ++ (if m.micro = 0 then "" else "." ++ padded 6 m.micro)

end Moment

namespace Instant

def toMoment (t : Instant) : Moment where
  date := Date.ofDays t.dayNumber
  hour := t.microsOfDay / 3600000000
  minute := t.microsOfDay / 60000000 % 60
  second := t.microsOfDay / 1000000 % 60
  micro := t.microsOfDay % 1000000
  offset := some 0

def render (t : Instant) : String := t.toMoment.render ++ "+00:00"

end Instant

end IdentityClaims
