import IdentityClaims.Data.Key
import Mathlib.Logic.Basic

/-!
# What keys stand for

Keys are the same when they stand for the same thing. A truth value, an integer and a finite float
stand for a number, whichever of the three they are, and null, text, bytes and an infinity stand for
themselves. What is no number and an object stand for nothing: they are the same as no key, not even
as themselves. So among keys being the same is symmetric and transitive, and in a look-up one can
stand for the other. Main statements: `same_iff` and `same_congr`.
-/

namespace IdentityClaims

/-- What a key stands for. -/
inductive KeyValue
  | null
  | number (x : Rat)
  | infinite (negative : Bool)
  | text (s : String)
  | bytes (bs : List UInt8)

namespace Binary64

def exact (negative : Bool) (m : Nat) (q : Int) : Rat :=
  mkRat (signedRatio negative m q).1 (signedRatio negative m q).2

def keyValue? : Binary64 → Option KeyValue
  | .nan => none
  | .infinite negative => some (.infinite negative)
  | .finite negative m q => some (.number (exact negative m q))

variable {a b negative : Bool} {m n : Nat} {p q k : Int} {x y : Binary64}

theorem scaleRatio_snd_ne_zero (m : Nat) (q : Int) : (scaleRatio m 1 q).2 ≠ 0 := by
  unfold scaleRatio
  split
  · exact Nat.one_ne_zero
  · exact Nat.mul_ne_zero Nat.one_ne_zero (Nat.ne_of_gt (Nat.two_pow_pos _))

theorem exact_eq (negative : Bool) (m : Nat) (q : Int) :
    exact negative m q =
      mkRat (if negative then -((scaleRatio m 1 q).1 : Int) else (scaleRatio m 1 q).1)
        (scaleRatio m 1 q).2 := rfl

theorem signed_mul (negative : Bool) (m n : Nat) :
    (if negative then -((m * n : Nat) : Int) else (m * n : Nat)) =
      (if negative then -(m : Int) else m) * n := by
  cases negative with
  | false => exact Int.natCast_mul m n
  | true =>
      show -((m * n : Nat) : Int) = -(m : Int) * n
      rw [Int.natCast_mul, Int.neg_mul]

theorem natAbs_signed (negative : Bool) (m : Nat) :
    (if negative then -(m : Int) else m).natAbs = m := by
  cases negative <;> simp

theorem signed_eq_signed_iff :
    (if a then -(m : Int) else m) = (if b then -(n : Int) else n) ↔ m = n ∧ (a = b ∨ m = 0) := by
  cases a <;> cases b <;> simp <;> omega

/-- Finite numbers are the same exactly when they have the same value, zeros of either sign
included. -/
theorem same_finite_iff :
    (finite a m p).same (finite b n q) = true ↔ exact a m p = exact b n q := by
  have hp := scaleRatio_snd_ne_zero m p
  have hq := scaleRatio_snd_ne_zero n q
  rw [exact_eq, exact_eq, Rat.mkRat_eq_iff hp hq, ← signed_mul, ← signed_mul,
    signed_eq_signed_iff, Nat.mul_eq_zero, or_iff_left hq]
  simp only [same, Bool.and_eq_true, Bool.or_eq_true, beq_iff_eq]

theorem same_iff : x.same y = true ↔ x.keyValue?.isSome ∧ x.keyValue? = y.keyValue? := by
  cases x with
  | finite a m p =>
      cases y with
      | finite b n q =>
          rw [same_finite_iff]
          simp [keyValue?]
      | _ => simp [same, keyValue?]
  | _ => cases y <;> simp [same, keyValue?]

/-- A finite number is the same as an integer exactly when the integer is its value. -/
theorem sameAsInt_finite_iff :
    Data.sameAsInt (finite negative m q) k = true ↔ exact negative m q = k := by
  have hd := scaleRatio_snd_ne_zero m q
  rw [exact_eq, ← Rat.mkRat_one, Rat.mkRat_eq_iff hd Nat.one_ne_zero, Int.natCast_one, Int.mul_one]
  simp only [Data.sameAsInt, toInt?, beq_iff_eq]
  generalize (scaleRatio m 1 q).1 = n, (scaleRatio m 1 q).2 = d at *
  by_cases hdvd : n % d = 0
  · obtain ⟨j, rfl⟩ := Nat.dvd_of_mod_eq_zero hdvd
    rw [if_pos hdvd, Option.some.injEq, Nat.mul_div_cancel_left j (Nat.pos_of_ne_zero hd),
      Nat.mul_comm d j, signed_mul, Int.mul_eq_mul_right_iff (Int.natCast_ne_zero.2 hd)]
  · rw [if_neg hdvd]
    refine iff_of_false (Option.some_ne_none k).symm fun h => hdvd ?_
    rw [← natAbs_signed negative n, h, Int.natAbs_mul, Int.natAbs_natCast, Nat.mul_mod_left]

theorem sameAsInt_iff : Data.sameAsInt x k = true ↔ x.keyValue? = some (.number k) := by
  cases x with
  | finite negative m q => simp [sameAsInt_finite_iff, keyValue?]
  | _ => simp [Data.sameAsInt, toInt?, keyValue?]

end Binary64

namespace Data

/-- What data stands for as a key. -/
def keyValue? : Data → Option KeyValue
  | .null => some .null
  | .bool b => some (.number ((if b then 1 else 0 : Int) : Rat))
  | .int n => some (.number n)
  | .float x => x.keyValue?
  | .text s => some (.text s)
  | .bytes bs => some (.bytes bs)
  | .list _ | .map _ | .object _ => none

variable {d e k : Data} {x y : Binary64}

theorem sameScalar_float_left :
    sameScalar (.float x) d = true ↔ x.keyValue?.isSome ∧ x.keyValue? = d.keyValue? := by
  have hint : ∀ n : Int, sameAsInt x n = true ↔
      x.keyValue?.isSome ∧ x.keyValue? = some (.number n) := fun n => by
    rw [Binary64.sameAsInt_iff, iff_and_self]
    exact Option.isSome_of_eq_some
  cases d with
  | float y => exact Binary64.same_iff
  | bool b => exact hint _
  | int n => exact hint n
  | _ => cases x <;> simp [sameScalar, keyValue?, Binary64.keyValue?]

theorem sameScalar_float_right :
    sameScalar d (.float y) = true ↔ d.keyValue?.isSome ∧ d.keyValue? = y.keyValue? := by
  have hint : ∀ n : Int, sameAsInt y n = true ↔
      (some (KeyValue.number n)).isSome ∧ some (.number n) = y.keyValue? := fun n =>
    Binary64.sameAsInt_iff.trans ⟨fun h => ⟨rfl, h.symm⟩, fun h => h.2.symm⟩
  cases d with
  | float x => exact Binary64.same_iff
  | bool b => exact hint _
  | int n => exact hint n
  | _ => cases y <;> simp [sameScalar, keyValue?, Binary64.keyValue?]

theorem some_number_inj {m n : Int} :
    some (KeyValue.number m) = some (.number n) ↔ m = n := by
  rw [Option.some.injEq, KeyValue.number.injEq, Rat.intCast_inj]

theorem sameScalar_iff :
    sameScalar d e = true ↔ d.keyValue?.isSome ∧ d.keyValue? = e.keyValue? := by
  cases d with
  | float x => exact sameScalar_float_left
  | bool b =>
      cases e with
      | float y => exact sameScalar_float_right
      | bool c =>
          simp only [sameScalar, keyValue?, Option.isSome_some, true_and, some_number_inj]
          cases b <;> cases c <;> decide
      | int n =>
          simp only [sameScalar, keyValue?, Option.isSome_some, true_and, some_number_inj, beq_iff_eq]
          exact eq_comm
      | _ => simp [sameScalar, keyValue?]
  | int m =>
      cases e with
      | float y => exact sameScalar_float_right
      | bool c =>
          simp only [sameScalar, keyValue?, Option.isSome_some, true_and, some_number_inj, beq_iff_eq]
      | int n =>
          simp only [sameScalar, keyValue?, Option.isSome_some, true_and, some_number_inj, beq_iff_eq]
      | _ => simp [sameScalar, keyValue?]
  | _ =>
      cases e with
      | float y => exact sameScalar_float_right
      | _ => simp [sameScalar, keyValue?]

/-- Data is the same as a key exactly when it stands for the same thing. -/
theorem same_iff (he : e.keyFault? = none) :
    d.same e = true ↔ d.keyValue?.isSome ∧ d.keyValue? = e.keyValue? := by
  rw [← sameScalar_iff]
  cases e with
  | list items => cases he
  | map entries => cases he
  | _ => cases d <;> rfl

theorem keyFault?_of_isSome (h : d.keyValue?.isSome) : d.keyFault? = none := by
  cases d with
  | list items => cases h
  | map entries => cases h
  | _ => rfl

theorem keyValue?_eq_of_same (h : d.same e = true) : d.keyValue? = e.keyValue? := by
  cases e with
  | list items =>
      cases d with
      | list items' => rfl
      | _ => cases h
  | map entries =>
      cases d with
      | map entries' => rfl
      | _ => cases h
  | _ => exact ((same_iff rfl).1 h).2

theorem same_congr (hk : k.keyFault? = none) (h : d.same e = true) : d.same k = e.same k := by
  rw [Bool.eq_iff_iff, same_iff hk, same_iff hk, keyValue?_eq_of_same h]

/-- Two keys that are the same as a third one are the same. -/
theorem same_of_same (hk : k.keyFault? = none) (hd : d.same k = true) (he : e.same k = true) :
    d.same e = true := by
  rw [same_iff hk] at hd he
  rw [same_iff (keyFault?_of_isSome he.1)]
  exact ⟨hd.1, hd.2.trans he.2.symm⟩

end Data

end IdentityClaims
