import IdentityClaims.Calendar.Fault
import IdentityClaims.Calendar.Seconds
import IdentityClaims.Number.MachineWord

/-!
# Moments from parts

A moment is put together from parts that may be any data. Each part has to be an integer of machine
size before it is looked at whether the moment exists. The offset is dealt with before all else.
-/

namespace IdentityClaims

/-- The parts of a moment. The offset is in seconds, which may have a fraction, and null if there is
none. -/
structure MomentParts where
  year : Data
  month : Data
  day : Data
  hour : Data
  minute : Data
  second : Data
  micro : Data
  offset : Data
  deriving Repr

/-- Why parts make no moment. -/
inductive PartFault
  | notInteger (kind : String)
  | tooGreat
  | tooSmall
  | tooLong
  | offsetNotNumber (kind : String)
  | offsetNan
  | offsetInfinite
  | offsetTooLong
  | offsetDays (days : Int)
  | calendar (fault : CalendarFault)
  deriving DecidableEq, Repr

def PartFault.message : PartFault → String
  | .notInteger kind => "'" ++ kind ++ "' object cannot be interpreted as an integer"
  | .tooGreat => "signed integer is greater than maximum"
  | .tooSmall => "signed integer is less than minimum"
  | .tooLong => "Python int too large to convert to C long"
  | .offsetNotNumber kind => "unsupported type for timedelta seconds component: " ++ kind
  | .offsetNan => SecondsError.notANumber.message
  | .offsetInfinite => "cannot convert float infinity to integer"
  | .offsetTooLong => "Python int too large to convert to C int"
  | .offsetDays days => "days=" ++ toString days ++ "; must have magnitude <= 999999999"
  | .calendar fault => fault.message

namespace MomentParts

def ofList? : List Data → Option MomentParts
  | [year, month, day, hour, minute, second, micro, offset] =>
    some { year, month, day, hour, minute, second, micro, offset }
  | _ => none

def integer? : Data → Option Int
  | .int n => some n
  | .bool b => some (if b then 1 else 0)
  | _ => none

def part (d : Data) : Except PartFault Int :=
  match integer? d with
  | none => .error (.notInteger d.kind)
  | some n =>
    if !MachineWord.fits 64 n then .error .tooLong
    else if MachineWord.fits 32 n then .ok n
    else .error (if 0 ≤ n then .tooGreat else .tooSmall)

def maxDays : Nat := 999999999

def offsetMicros : Data → Except PartFault Int
  | .float .nan => .error .offsetNan
  | .float x =>
    match x.secondsToMicros? with
    | some micros => .ok micros
    | none => .error .offsetInfinite
  | d =>
    match integer? d with
    | some seconds => .ok (seconds * microsPerSecond)
    | none => .error (.offsetNotNumber d.kind)

def offsetOf (d : Data) : Except PartFault (Option Offset) :=
  match d with
  | .null => .ok none
  | d => do
    let micros ← offsetMicros d
    let days := micros.fdiv (secondsPerDay * microsPerSecond)
    if !MachineWord.fits 32 days then .error .offsetTooLong
    else if maxDays < days.natAbs then .error (.offsetDays days)
    else if Offset.isTooFar ⟨micros⟩ then .error (.calendar (.offset ⟨micros⟩))
    else .ok (some ⟨micros⟩)

/-- A count that no part of a moment reaches; an integer below zero is as wrong as this one. -/
def beyondAll : Nat := 1000000

def count (n : Int) : Nat := if n < 0 then beyondAll else n.toNat

def moment (p : MomentParts) : Except PartFault Moment := do
  let offset ← offsetOf p.offset
  let year ← part p.year
  let month ← part p.month
  let day ← part p.day
  let hour ← part p.hour
  let minute ← part p.minute
  let second ← part p.second
  let micro ← part p.micro
  if year < 0 then .error (.calendar (.year year))
  else
    let m : Moment :=
      { date := { year := count year, month := count month, day := count day }
        hour := count hour
        minute := count minute
        second := count second
        micro := count micro
        offset }
    match m.fault? with
    | some fault => .error (.calendar fault)
    | none => .ok m

end MomentParts

end IdentityClaims
