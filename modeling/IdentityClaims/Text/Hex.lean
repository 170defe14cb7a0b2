/-!
# Hexadecimal digits

Numbers written with a fixed count of hexadecimal digits, the most significant first. Letters are
written small and read in either case. Main statement: reading gives back the number that was
written, as far as the count of digits can hold it.
-/

namespace IdentityClaims.Hex

def value? (c : Char) : Option Nat :=
  if '0' ≤ c ∧ c ≤ '9' then some (c.toNat - '0'.toNat)
  else if 'a' ≤ c ∧ c ≤ 'f' then some (c.toNat - 'a'.toNat + 10)
  else if 'A' ≤ c ∧ c ≤ 'F' then some (c.toNat - 'A'.toNat + 10)
  else none

def isDigit (c : Char) : Bool := (value? c).isSome

/-- The number that digits stand for, read behind a number that was read before. -/
def readFrom (n : Nat) : List Char → Option Nat
  | [] => some n
  | c :: cs =>
    match value? c with
    | some d => readFrom (16 * n + d) cs
    | none => none

def read? (cs : List Char) : Option Nat := readFrom 0 cs

def digits : Nat → Nat → List Char
  | 0, _ => []
  | width + 1, n => digits width (n / 16) ++ [Nat.digitChar (n % 16)]

@[simp] theorem length_digits (width n : Nat) : (digits width n).length = width := by
  induction width generalizing n with
  | zero => rfl
  | succ width ih => simp [digits, ih]

theorem value?_digitChar {d : Nat} (h : d < 16) : value? (Nat.digitChar d) = some d := by
  have hall : ∀ d < 16, value? (Nat.digitChar d) = some d := by decide
  exact hall d h

theorem readFrom_append (n : Nat) (cs ds : List Char) :
    readFrom n (cs ++ ds) = (readFrom n cs).bind fun m => readFrom m ds := by
  induction cs generalizing n with
  | nil => rfl
  | cons c cs ih =>
    simp only [List.cons_append, readFrom]
    cases value? c with
    | none => rfl
    | some d => exact ih _

/-- Digits are read as the number they were written for. -/
theorem read?_digits (width n : Nat) : read? (digits width n) = some (n % Nat.pow 16 width) := by
  induction width generalizing n with
  | zero => simp [digits, read?, readFrom, Nat.mod_one]
  | succ width ih =>
    have hd : n % 16 < 16 := Nat.mod_lt _ (by omega)
    have hp : Nat.pow 16 (width + 1) = 16 * Nat.pow 16 width := by
      simp [Nat.pow_succ, Nat.mul_comm]
    simp only [read?] at ih
    simp only [read?, digits, readFrom_append, ih, Option.bind_some, readFrom,
      value?_digitChar hd, hp, Option.some.injEq]
    rw [Nat.mod_mul]
    omega

end IdentityClaims.Hex
