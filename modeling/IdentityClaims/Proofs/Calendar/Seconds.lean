import IdentityClaims.Calendar.Seconds
import IdentityClaims.Proofs.Calendar.Moment
import Mathlib.Algebra.Order.Group.Abs
import Mathlib.Algebra.Order.Group.Int

/-!
# Whole seconds and the points of time they give

What is rounded is a span of days, seconds and microseconds; that comes to the same as dividing all
of its microseconds (`Instant.toSeconds_eq`). Whole seconds are less than a second away from the
microseconds that they are rounded from, and the nearest ones no more than half a second. Reading
whole seconds gives a point of time exactly within the years 1 to 9999, and what is written can be
read unless the last half second of the year 9999 is rounded to the nearest second
(`Instant.exists_ofSeconds_toSeconds_iff`).
-/

namespace IdentityClaims

namespace Rounding

/-- Whole seconds of a number of microseconds: toward zero, toward the past, or the nearest with a
half going away from zero. -/
def seconds : Rounding → Int → Int
  | .truncate, micros => micros.tdiv microsPerSecond
  | .floor, micros => micros.fdiv microsPerSecond
  | .nearest, micros =>
    if 0 ≤ micros then (2 * micros + microsPerSecond) / (2 * microsPerSecond)
    else -((microsPerSecond - 2 * micros) / (2 * microsPerSecond))

variable (micros : Int)

theorem seconds_floor : floor.seconds micros = micros / 1000000 :=
  Int.fdiv_eq_ediv_of_nonneg micros (by decide)

theorem seconds_truncate_of_nonneg {micros : Int} (h : 0 ≤ micros) :
    truncate.seconds micros = micros / 1000000 :=
  Int.tdiv_eq_ediv_of_nonneg h

theorem seconds_truncate_of_neg {micros : Int} (h : micros < 0) :
    truncate.seconds micros = -(-micros / 1000000) := by
  have hneg : (-micros).tdiv microsPerSecond = -micros / 1000000 :=
    Int.tdiv_eq_ediv_of_nonneg (by omega)
  rw [← hneg, Int.neg_tdiv, Int.neg_neg]
  rfl

theorem abs_seconds_sub_lt (rounding : Rounding) :
    |rounding.seconds micros * microsPerSecond - micros| < microsPerSecond := by
  rw [microsPerSecond, abs_lt]
  cases rounding with
  | floor =>
      rw [seconds_floor]
      omega
  | truncate =>
      rcases Int.lt_or_le micros 0 with h | h
      · rw [seconds_truncate_of_neg h]
        omega
      · rw [seconds_truncate_of_nonneg h]
        omega
  | nearest =>
      simp only [seconds, microsPerSecond]
      split <;> omega

theorem seconds_mul (rounding : Rounding) (n : Int) :
    rounding.seconds (n * microsPerSecond) = n := by
  have hclose := rounding.abs_seconds_sub_lt (n * microsPerSecond)
  rw [microsPerSecond, abs_lt] at hclose
  rw [microsPerSecond]
  omega

theorem abs_seconds_nearest_sub_le :
    2 * |nearest.seconds micros * microsPerSecond - micros| ≤ microsPerSecond := by
  have hbounds : |nearest.seconds micros * 1000000 - micros| ≤ 500000 := by
    rw [abs_le]
    simp only [seconds, microsPerSecond]
    split <;> omega
  rw [microsPerSecond]
  omega

end Rounding

namespace Span

def total (d : Span) : Int :=
  (d.days * secondsPerDay + d.seconds) * microsPerSecond + d.micros

/-- The microseconds of a span that come on top of its seconds are less than a second, so the
seconds are the total rounded down, and the branches correct that as the division does. -/
theorem round_eq {d : Span} (h : d.micros < 1000000) (rounding : Rounding) :
    d.round rounding = rounding.seconds d.total := by
  rw [round, total]
  generalize d.days * secondsPerDay + d.seconds = whole
  have htotal : whole * microsPerSecond + d.micros = whole * 1000000 + d.micros := rfl
  rw [htotal]
  cases rounding with
  | floor =>
      rw [Rounding.seconds_floor]
      simp only [or_true, if_true]
      omega
  | truncate =>
      simp only [reduceCtorEq, or_false, if_true]
      rcases Int.lt_or_le (whole * 1000000 + d.micros) 0 with hneg | hnonneg
      · rw [Rounding.seconds_truncate_of_neg hneg]
        split_ifs <;> omega
      · rw [Rounding.seconds_truncate_of_nonneg hnonneg]
        split_ifs <;> omega
  | nearest =>
      simp only [reduceCtorEq, or_false, if_false, Rounding.seconds, microsPerSecond]
      split_ifs <;> omega

end Span

theorem Moment.total_sinceEpoch {m : Moment} (h : m.offset = some 0) :
    m.sinceEpoch.total = m.micros := by
  simp only [Span.total, sinceEpoch, micros, h, Option.getD_some, Offset.micros_zero]
  omega

namespace Instant

theorem toSeconds_eq (t : Instant) (rounding : Rounding) :
    t.toSeconds rounding = rounding.seconds t.micros := by
  have hmicros : t.toMoment.sinceEpoch.micros < 1000000 := Nat.mod_lt _ (by decide)
  rw [toSeconds, Span.round_eq hmicros, Moment.total_sinceEpoch rfl, micros_toMoment]

def SecondsInRange (n : Int) : Prop := -62135596800 ≤ n ∧ n ≤ 253402300799

instance (n : Int) : Decidable (SecondsInRange n) :=
  inferInstanceAs (Decidable (-62135596800 ≤ n ∧ n ≤ 253402300799))

theorem ofSeconds_of_inRange {n : Int} (h : SecondsInRange n) :
    ∃ t, ofSeconds (.int n) = .ok t ∧ t.micros = n * microsPerSecond := by
  obtain ⟨hlo, hhi⟩ := h
  have hin : -62135596800000000 ≤ n * microsPerSecond ∧
      n * microsPerSecond ≤ 253402300799999999 := by
    rw [microsPerSecond]
    omega
  exact ⟨⟨_, hin⟩, by simp [ofSeconds, ofMicros?, hin], rfl⟩

theorem ofSeconds_of_not_inRange {n : Int} (h : ¬ SecondsInRange n) :
    ofSeconds (.int n) = .error (.outOfRange (.int n)) := by
  have hout : ¬ (-62135596800000000 ≤ n * microsPerSecond ∧
      n * microsPerSecond ≤ 253402300799999999) := by
    rw [SecondsInRange] at h
    rw [microsPerSecond]
    omega
  simp [ofSeconds, ofMicros?, hout]

theorem exists_ofSeconds_iff {n : Int} : (∃ t, ofSeconds (.int n) = .ok t) ↔ SecondsInRange n := by
  constructor
  · rintro ⟨t, ht⟩
    by_contra hout
    rw [ofSeconds_of_not_inRange hout] at ht
    cases ht
  · intro h
    obtain ⟨t, ht, -⟩ := ofSeconds_of_inRange h
    exact ⟨t, ht⟩

/-- Reading whole seconds gives the point of time that is so many seconds away from 1970. -/
theorem micros_of_ofSeconds {n : Int} {t : Instant} (h : ofSeconds (.int n) = .ok t) :
    t.micros = n * microsPerSecond := by
  by_cases hn : SecondsInRange n
  · obtain ⟨u, hu, hmicros⟩ := ofSeconds_of_inRange hn
    rw [hu, Except.ok.injEq] at h
    rw [← h, hmicros]
  · rw [ofSeconds_of_not_inRange hn] at h
    cases h

def lastHalfSecond : Int := 253402300799500000

/-- Rounding leaves the year 9999: its last half second goes to the nearest second. -/
def RoundsOut (rounding : Rounding) (micros : Int) : Prop :=
  rounding = .nearest ∧ lastHalfSecond ≤ micros

theorem toSeconds_of_roundsOut {t : Instant} {rounding : Rounding}
    (h : RoundsOut rounding t.micros) : t.toSeconds rounding = 253402300800 := by
  obtain ⟨rfl, hlast⟩ := h
  obtain ⟨-, hhi⟩ := t.inRange
  rw [lastHalfSecond] at hlast
  simp only [toSeconds_eq, Rounding.seconds, microsPerSecond]
  split <;> omega

theorem inRange_toSeconds_iff (t : Instant) (rounding : Rounding) :
    SecondsInRange (t.toSeconds rounding) ↔ ¬ RoundsOut rounding t.micros := by
  constructor
  · rintro ⟨-, hhi⟩ hout
    rw [toSeconds_of_roundsOut hout] at hhi
    omega
  · intro hin
    obtain ⟨hlo, hhi⟩ := t.inRange
    rw [SecondsInRange, toSeconds_eq]
    cases rounding with
    | floor =>
        rw [Rounding.seconds_floor]
        omega
    | truncate =>
        rcases Int.lt_or_le t.micros 0 with h | h
        · rw [Rounding.seconds_truncate_of_neg h]
          omega
        · rw [Rounding.seconds_truncate_of_nonneg h]
          omega
    | nearest =>
        have hlast : t.micros < 253402300799500000 := by
          simpa [RoundsOut, lastHalfSecond] using hin
        simp only [Rounding.seconds, microsPerSecond]
        split <;> omega

/-- The seconds that are written for a point of time can be read back unless they were rounded out
of the year 9999. -/
theorem exists_ofSeconds_toSeconds_iff (t : Instant) (rounding : Rounding) :
    (∃ u, ofSeconds (.int (t.toSeconds rounding)) = .ok u) ↔ ¬ RoundsOut rounding t.micros := by
  rw [exists_ofSeconds_iff, inRange_toSeconds_iff]

end Instant

end IdentityClaims
