/-!
# Runs of case pairs

The case mappings of the Unicode Character Database are regular over long stretches: neighbouring
characters, or every second one, go to neighbouring images. A run is such a stretch.
-/

namespace IdentityClaims

/-- The code points `first`, `first + step`, … up to `last`, mapped in step to `image`,
`image + step`, …. -/
structure CaseRun where
  first : Nat
  last : Nat
  step : Nat
  image : Nat

namespace CaseRun

def covers (r : CaseRun) (code : Nat) : Bool :=
  r.first ≤ code && code ≤ r.last && (code - r.first) % r.step == 0

def image? (runs : List CaseRun) (code : Nat) : Option Nat :=
  (runs.find? fun r => r.covers code).map fun r => r.image + (code - r.first)

end CaseRun

end IdentityClaims
