import IdentityClaims.Proofs.Calendar.Seconds
import IdentityClaims.Proofs.Calendar.Universal
import Mathlib.Order.Bounds.Defs

/-!
# Exact rounding

The whole seconds of a moment are its microseconds divided by a million and rounded: down, toward
zero, or to the nearest integer with halves going away from zero. They depend on the instant only,
and a later instant has no fewer of them. Main statement: `Moment.toSeconds_exact`.
-/

namespace IdentityClaims

namespace Rounding

def RoundsDown (micros s : Int) : Prop := IsGreatest {n : Int | n * microsPerSecond ≤ micros} s

def RoundsUp (micros s : Int) : Prop := IsLeast {n : Int | micros ≤ n * microsPerSecond} s

def RoundsTowardZero (micros s : Int) : Prop :=
  if 0 ≤ micros then RoundsDown micros s else RoundsUp micros s

/-- An integer is a number of microseconds in seconds, rounded to the nearest integer: no other one
is nearer, and one that is as near is not farther from zero. -/
structure RoundsToNearest (micros s : Int) : Prop where
  nearest : ∀ n : Int, |s * microsPerSecond - micros| ≤ |n * microsPerSecond - micros|
  half : ∀ n : Int, |n * microsPerSecond - micros| = |s * microsPerSecond - micros| → |n| ≤ |s|

variable (micros : Int)

theorem roundsDown_ediv : RoundsDown micros (micros / 1000000) := by
  rw [RoundsDown, microsPerSecond]
  constructor
  · show micros / 1000000 * 1000000 ≤ micros
    omega
  · intro n (hn : n * 1000000 ≤ micros)
    omega

theorem roundsUp_neg_ediv : RoundsUp micros (-(-micros / 1000000)) := by
  rw [RoundsUp, microsPerSecond]
  constructor
  · show micros ≤ -(-micros / 1000000) * 1000000
    omega
  · intro n (hn : micros ≤ n * 1000000)
    omega

theorem roundsDown_floor : RoundsDown micros (floor.seconds micros) := by
  rw [seconds_floor]
  exact roundsDown_ediv micros

theorem roundsTowardZero_truncate : RoundsTowardZero micros (truncate.seconds micros) := by
  unfold RoundsTowardZero
  split_ifs with h
  · rw [seconds_truncate_of_nonneg h]
    exact roundsDown_ediv micros
  · rw [seconds_truncate_of_neg (by omega)]
    exact roundsUp_neg_ediv micros

theorem roundsToNearest_nearest : RoundsToNearest micros (nearest.seconds micros) := by
  constructor
  · intro n
    simp only [seconds, microsPerSecond, abs_eq_max_neg]
    split <;> omega
  · intro n hn
    simp only [seconds, microsPerSecond, abs_eq_max_neg] at hn ⊢
    split at hn <;> omega

/-- More microseconds are no fewer whole seconds. -/
theorem seconds_mono (rounding : Rounding) {micros later : Int} (h : micros ≤ later) :
    rounding.seconds micros ≤ rounding.seconds later := by
  cases rounding with
  | floor =>
      rw [seconds_floor, seconds_floor]
      omega
  | truncate =>
      -- the sign decides which way each of the two is rounded
      rcases Int.lt_or_le micros 0 with hneg | hnonneg
      · rw [seconds_truncate_of_neg hneg]
        rcases Int.lt_or_le later 0 with hneg' | hnonneg'
        · rw [seconds_truncate_of_neg hneg']
          omega
        · rw [seconds_truncate_of_nonneg hnonneg']
          omega
      · rw [seconds_truncate_of_nonneg hnonneg, seconds_truncate_of_nonneg (by omega)]
        omega
  | nearest =>
      simp only [seconds, microsPerSecond]
      split <;> split <;> omega

theorem ofName_of_ne {name : String} (hfloor : name ≠ "floor") (htruncate : name ≠ "truncate") :
    ofName name = nearest := by
  rw [ofName, if_neg htruncate, if_neg hfloor]

end Rounding

/-- The whole seconds of a moment that is within the years 1 to 9999 in universal time are its
microseconds rounded as the name says. They are the same however the instant is written, and no more
than those of a later instant. -/
theorem Moment.toSeconds_exact (m : Moment) (hm : m.HasUniversal) :
    ∃ t, m.toInstant? = some t ∧
      Rounding.RoundsDown m.micros (t.toSeconds (.ofName "floor")) ∧
      Rounding.RoundsTowardZero m.micros (t.toSeconds (.ofName "truncate")) ∧
      (∀ name, name ≠ "floor" → name ≠ "truncate" →
        Rounding.RoundsToNearest m.micros (t.toSeconds (.ofName name))) ∧
      ∀ (other : Moment) (u : Instant), other.toInstant? = some u → ∀ name,
        (m.micros = other.micros → t.toSeconds (.ofName name) = u.toSeconds (.ofName name)) ∧
        (m.micros ≤ other.micros → t.toSeconds (.ofName name) ≤ u.toSeconds (.ofName name)) := by
  obtain ⟨t, ht⟩ := m.exists_toInstant?_iff.2 hm
  have hmicros := toInstant?_eq_some_iff.1 ht
  refine ⟨t, ht, ?_, ?_, ?_, ?_⟩
  · rw [← hmicros, t.toSeconds_eq]
    exact Rounding.roundsDown_floor t.micros
  · rw [← hmicros, t.toSeconds_eq]
    exact Rounding.roundsTowardZero_truncate t.micros
  · intro name hfloor htruncate
    rw [← hmicros, t.toSeconds_eq, Rounding.ofName_of_ne hfloor htruncate]
    exact Rounding.roundsToNearest_nearest t.micros
  · intro other u hu name
    rw [← hmicros, ← toInstant?_eq_some_iff.1 hu, t.toSeconds_eq, u.toSeconds_eq]
    exact ⟨fun h => congrArg _ h, fun h => Rounding.seconds_mono _ h⟩

/-- A second and a half before 1970 in universal time, which is in the new year already on a clock
that is five and a half hours and half a second ahead. -/
def newYearAbroad : Moment where
  date := ⟨1970, 1, 1⟩
  hour := 5
  minute := 29
  second := 59
  micro := 0
  offset := some ⟨19800500000⟩

theorem Moment.toSeconds_exact_newYear :
    newYearAbroad.micros = -1500000 ∧
      ∃ t, newYearAbroad.toInstant? = some t ∧
        Rounding.RoundsDown (-1500000) (t.toSeconds (.ofName "floor")) ∧
        Rounding.RoundsTowardZero (-1500000) (t.toSeconds (.ofName "truncate")) ∧
        Rounding.RoundsToNearest (-1500000) (t.toSeconds (.ofName "round")) ∧
        t.toSeconds (.ofName "floor") = -2 ∧ t.toSeconds (.ofName "truncate") = -1 ∧
        t.toSeconds (.ofName "round") = -2 := by
  have huniversal : newYearAbroad.HasUniversal :=
    ⟨⟨⟨1969, 12, 31⟩, 23, 59, 58, 500000, some 0⟩, ⟨by decide, rfl⟩, by decide⟩
  have hmicros : newYearAbroad.micros = -1500000 := by decide
  obtain ⟨t, ht, hfloor, htruncate, hnearest, -⟩ := toSeconds_exact newYearAbroad huniversal
  have hround := hnearest "round" (by decide) (by decide)
  have htime : t.micros = -1500000 := (toInstant?_eq_some_iff.1 ht).trans hmicros
  rw [hmicros] at hfloor htruncate hround
  refine ⟨hmicros, t, ht, hfloor, htruncate, hround, ?_, ?_, ?_⟩ <;>
    rw [t.toSeconds_eq, htime] <;> decide

end IdentityClaims
