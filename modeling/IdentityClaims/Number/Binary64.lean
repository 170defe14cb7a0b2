/-!
# Binary64 numbers

A number of the 64-bit binary format is kept as a sign, a coefficient and a power of two, so that
every operation here is exact arithmetic on natural numbers followed by one rounding. The only
rounding is `Binary64.ofRatio`: to the nearest representable number, ties to the even coefficient.
-/

namespace IdentityClaims

/-- A binary64 number: no number at all, an infinity, or `± coefficient · 2 ^ exponent`. -/
inductive Binary64
  | nan
  | infinite (negative : Bool)
  | finite (negative : Bool) (coefficient : Nat) (exponent : Int)
  deriving DecidableEq, Repr, Inhabited

def divNearestEven (num den : Nat) : Nat :=
  let low := num / den
  let twice := 2 * (num % den)
  if twice < den then low
  else if den < twice then low + 1
  else if low % 2 = 0 then low else low + 1

namespace Binary64

def precision : Nat := 53

def minExponent : Int := -1074

def maxExponent : Int := 971

def zero (negative : Bool) : Binary64 := .finite negative 0 minExponent

def scaleRatio (num den : Nat) (p : Int) : Nat × Nat :=
  if 0 ≤ p then (num * Nat.pow 2 p.toNat, den) else (num, den * Nat.pow 2 (-p).toNat)

def log2Ratio (num den : Nat) : Int :=
  let e : Int := (num.log2 : Int) - (den.log2 : Int)
  let (n, d) := scaleRatio num den (-e)
  if d ≤ n then e else e - 1

/-- The number nearest to `± num / den`, ties to the even coefficient; too large a ratio gives an
infinity. -/
def ofRatio (negative : Bool) (num den : Nat) : Binary64 :=
  if num = 0 then zero negative
  else
    let q := max (log2Ratio num den - (precision - 1)) minExponent
    let (n, d) := scaleRatio num den (-q)
    let m := divNearestEven n d
    let (m, q) := if m = Nat.pow 2 precision then (Nat.pow 2 (precision - 1), q + 1) else (m, q)
    if maxExponent < q then .infinite negative else .finite negative m q

def magnitude? : Binary64 → Option (Nat × Nat)
  | .finite _ m q => some (scaleRatio m 1 q)
  | _ => none

def isNegative : Binary64 → Bool
  | .nan => false
  | .infinite negative => negative
  | .finite negative _ _ => negative

def toInt? : Binary64 → Option Int
  | .finite negative m q =>
    let (n, d) := scaleRatio m 1 q
    if n % d = 0 then some (if negative then -((n / d : Nat) : Int) else ((n / d : Nat) : Int))
    else none
  | _ => none

def ofInt (n : Int) : Binary64 := ofRatio (decide (n < 0)) n.natAbs 1

def negate : Binary64 → Binary64
  | .nan => .nan
  | .infinite negative => .infinite (!negative)
  | .finite negative m q => .finite (!negative) m q

def signedRatio (negative : Bool) (m : Nat) (q : Int) : Int × Nat :=
  let (n, d) := scaleRatio m 1 q
  (if negative then -(n : Int) else (n : Int), d)

/-- The sum of two numbers. A sum of zero is negative only if both numbers are. -/
def add : Binary64 → Binary64 → Binary64
  | .nan, _ => .nan
  | _, .nan => .nan
  | .infinite a, .infinite b => if a == b then .infinite a else .nan
  | .infinite a, .finite _ _ _ => .infinite a
  | .finite _ _ _, .infinite b => .infinite b
  | .finite a m p, .finite b n q =>
    let (m, d) := signedRatio a m p
    let (n, e) := signedRatio b n q
    let sum := m * e + n * d
    if sum = 0 then zero (a && b) else ofRatio (decide (sum < 0)) sum.natAbs (d * e)

def mul : Binary64 → Binary64 → Binary64
  | .nan, _ => .nan
  | _, .nan => .nan
  | .infinite a, .infinite b => .infinite (a != b)
  | .infinite a, .finite b n _ => if n = 0 then .nan else .infinite (a != b)
  | .finite a m _, .infinite b => if m = 0 then .nan else .infinite (a != b)
  | .finite a m p, .finite b n q =>
    let (m, d) := scaleRatio m 1 p
    let (n, e) := scaleRatio n 1 q
    ofRatio (a != b) (m * n) (d * e)

/-- Numbers count as equal when they are the same real number: both zeros are equal, and what is
no number is equal to nothing. -/
def same : Binary64 → Binary64 → Bool
  | .nan, _ => false
  | _, .nan => false
  | .infinite a, .infinite b => a == b
  | .finite a m p, .finite b n q =>
    let (m1, m2) := scaleRatio m 1 p
    let (n1, n2) := scaleRatio n 1 q
    (m1 * n2 == n1 * m2) && (a == b || m1 == 0)
  | _, _ => false

/-- The number nearest to `± digits · 10 ^ power`. Powers far outside the range of the format are
settled by counting digits. -/
def ofDecimal (negative : Bool) (digits : Nat) (power : Int) : Binary64 :=
  if digits = 0 then zero negative
  else
    let size : Int := power + ((Nat.toDigits 10 digits).length : Int)
    if 310 < size then .infinite negative
    else if size < -330 then zero negative
    else if 0 ≤ power then ofRatio negative (digits * Nat.pow 10 power.toNat) 1
    else ofRatio negative digits (Nat.pow 10 (-power).toNat)

end Binary64

end IdentityClaims
