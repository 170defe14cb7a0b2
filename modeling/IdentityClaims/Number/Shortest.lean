import IdentityClaims.Number.Binary64

/-!
# The shortest decimal that reads back

`Binary64.shortest` gives the decimal `digits · 10 ^ power` with the fewest digits among those
that round to a given number, and of those the nearest to it. A decimal rounds to a number when it
lies between the two half-way points around it, which belong to the number exactly when its
coefficient is even.
-/

namespace IdentityClaims

def digitCount (n : Nat) : Nat := if n = 0 then 0 else (Nat.toDigits 10 n).length

def log10Ratio (num den : Nat) : Int :=
  if den ≤ num then (digitCount (num / den) : Int) - 1
  else -(digitCount ((den + num - 1) / num - 1) : Int)

def decimalScale (num den : Nat) (p : Int) : Nat × Nat :=
  if 0 ≤ p then (num, den * Nat.pow 10 p.toNat) else (num * Nat.pow 10 (-p).toNat, den)

/-- The decimals that round to one number: those between two half-way points, which are included
or not together. -/
structure RoundingInterval where
  low : Nat
  high : Nat
  den : Nat
  closed : Bool

namespace RoundingInterval

/-- The interval around `coefficient · 2 ^ exponent`. Below a power of two the numbers lie twice
as close. -/
def around (coefficient : Nat) (exponent : Int) : RoundingInterval :=
  let isPower := coefficient = Nat.pow 2 (Binary64.precision - 1)
  let below := if isPower ∧ Binary64.minExponent < exponent then 1 else 2
  let (low, den) := Binary64.scaleRatio (4 * coefficient - below) 4 exponent
  let (high, _) := Binary64.scaleRatio (4 * coefficient + 2) 4 exponent
  { low, high, den, closed := coefficient % 2 = 0 }

def holds (i : RoundingInterval) (digits : Nat) (power : Int) : Bool :=
  let (n, d) := decimalScale digits 1 (-power)
  let low := i.low * d
  let high := i.high * d
  let value := n * i.den
  if i.closed then low ≤ value && value ≤ high else low < value && value < high

end RoundingInterval

def trimZeros : Nat → Nat → Int → Nat × Int
  | 0, digits, power => (digits, power)
  | fuel + 1, digits, power =>
    if digits ≠ 0 ∧ digits % 10 = 0 then trimZeros fuel (digits / 10) (power + 1)
    else (digits, power)

def decimalOfSize? (i : RoundingInterval) (num den size : Nat) (top : Int) : Option (Nat × Int) :=
  let power := top - size + 1
  let (n, d) := decimalScale num den power
  let low := n / d
  match i.holds low power, i.holds (low + 1) power with
  | true, true => some (divNearestEven n d, power)
  | true, false => some (low, power)
  | false, true => some (low + 1, power)
  | false, false => none

/-- The first size from `size` on that has a decimal in the interval. Seventeen digits always
suffice, so the last resort is never reached by a number of the format. -/
def firstDecimal (i : RoundingInterval) (num den : Nat) (top : Int) : Nat → Nat → Nat × Int
  | 0, _ => (num / den, 0)
  | fuel + 1, size =>
    match decimalOfSize? i num den size top with
    | some found => found
    | none => firstDecimal i num den top fuel (size + 1)

namespace Binary64

def shortest (coefficient : Nat) (exponent : Int) : Nat × Int :=
  if coefficient = 0 then (0, 0)
  else
    let (num, den) := scaleRatio coefficient 1 exponent
    let (digits, power) :=
      firstDecimal (.around coefficient exponent) num den (log10Ratio num den) 17 1
    trimZeros 20 digits power

end Binary64

/-- How a decimal is laid out: which powers of ten of the leading digit are written without an
exponent, and the texts of what is not finite. -/
structure DecimalLayout where
  lowest : Int
  highest : Int
  nan : String
  infinity : String

namespace DecimalLayout

def plain : DecimalLayout := { lowest := -4, highest := 15, nan := "nan", infinity := "inf" }

def interchange : DecimalLayout := { plain with nan := "NaN", infinity := "Infinity" }

def exponentText (e : Int) : String :=
  let digits := toString e.natAbs
  (if e < 0 then "-" else "+") ++ (if digits.length < 2 then "0" ++ digits else digits)

def digitsText (layout : DecimalLayout) (digits : Nat) (power : Int) : String :=
  let cs := Nat.toDigits 10 digits
  let top : Int := power + cs.length - 1
  if digits = 0 then "0.0"
  else if top < layout.lowest ∨ layout.highest < top then
    let fraction := cs.drop 1
    String.ofList (cs.take 1) ++ (if fraction.isEmpty then "" else "." ++ String.ofList fraction)
      ++ "e" ++ exponentText top
  else if 0 ≤ power then
    String.ofList (cs ++ List.replicate power.toNat '0') ++ ".0"
  else if 0 ≤ top then
    let whole := (top + 1).toNat
    String.ofList (cs.take whole) ++ "." ++ String.ofList (cs.drop whole)
  else
    "0." ++ String.ofList (List.replicate (-top - 1).toNat '0' ++ cs)

end DecimalLayout

def Binary64.render (layout : DecimalLayout) : Binary64 → String
  | .nan => layout.nan
  | .infinite negative => (if negative then "-" else "") ++ layout.infinity
  | .finite negative m q =>
    let (digits, power) := shortest m q
    (if negative then "-" else "") ++ layout.digitsText digits power

end IdentityClaims
