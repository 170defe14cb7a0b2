import IdentityClaims.Calendar.Instant
import IdentityClaims.Data.Display
import IdentityClaims.Number.IntegerText

/-!
# Seconds since 1970

Claims carry points of time as seconds since the start of 1970. Reading takes integers and binary64
numbers; of a number that is not whole, the fraction becomes the nearest microsecond. Writing gives
whole seconds, and the rounding decides how the fraction goes.
-/

namespace IdentityClaims

inductive Rounding
  | truncate
  | floor
  | nearest
  deriving DecidableEq, Repr, Inhabited

namespace Rounding

def ofName (name : String) : Rounding :=
  if name = "truncate" then .truncate else if name = "floor" then .floor else .nearest

end Rounding

/-- The time since the start of 1970. Before 1970 the days are below zero; what comes on top of them
never is. -/
structure Span where
  days : Int
  seconds : Nat
  micros : Nat
  deriving DecidableEq, Repr

def Moment.sinceEpoch (m : Moment) : Span where
  days := (m.date.toDays : Int) - epochDay
  seconds := m.hour * 3600 + m.minute * 60 + m.second
  micros := m.micro

/-- Whole seconds of a span. To leave the microseconds off is to round down, so below zero it is the
next second that lies toward zero, and a half goes away from zero when it is left off. -/
def Span.round (d : Span) (rounding : Rounding) : Int :=
  let whole := d.days * secondsPerDay + d.seconds
  if d.micros = 0 ∨ rounding = .floor then whole
  else if rounding = .truncate then if whole < 0 then whole + 1 else whole
  else if whole < 0 then if 500000 < d.micros then whole + 1 else whole
  else if 500000 ≤ d.micros then whole + 1 else whole

def Instant.toSeconds (t : Instant) (rounding : Rounding) : Int :=
  t.toMoment.sinceEpoch.round rounding

inductive SecondsError
  | notSeconds (kind : String)
  | notANumber
  | outOfRange (seconds : Data)
  deriving Repr

def Data.isPrintable : Data → Bool
  | .int n => (Nat.toDigits 10 n.natAbs).length ≤ IntegerText.maxLength
  | _ => true

def SecondsError.message : SecondsError → String
  | .notSeconds kind => "expected seconds since the epoch, got " ++ kind
  | .notANumber => "cannot convert float NaN to integer"
  | .outOfRange seconds =>
    if seconds.isPrintable then "timestamp " ++ seconds.display ++ " is out of range"
    else IntegerText.unprintableMessage

/-- The microseconds of a finite number of seconds, given as a ratio: whole seconds are exact, and
the fraction is scaled in binary64 before it goes to the nearest microsecond, ties to even. -/
def microsOfRatio (num den : Nat) : Nat :=
  let whole := num / den
  let scaled := Binary64.ofRatio false (num % den * 1000000) den
  let fraction :=
    match scaled.magnitude? with
    | some (n, d) => divNearestEven n d
    | none => 0
  whole * 1000000 + fraction

def Binary64.secondsToMicros? (x : Binary64) : Option Int :=
  x.magnitude?.map fun (num, den) =>
    let micros : Int := microsOfRatio num den
    if x.isNegative then -micros else micros

def Instant.ofSeconds (seconds : Data) : Except SecondsError Instant :=
  let located (micros : Int) : Except SecondsError Instant :=
    match Instant.ofMicros? micros with
    | some t => .ok t
    | none => .error (.outOfRange seconds)
  match seconds with
  | .int n => located (n * microsPerSecond)
  | .float .nan => .error .notANumber
  | .float x =>
    match x.secondsToMicros? with
    | some micros => located micros
    | none => .error (.outOfRange seconds)
  | d => .error (.notSeconds d.kind)

end IdentityClaims
