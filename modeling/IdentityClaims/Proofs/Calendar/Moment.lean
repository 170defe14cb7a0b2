import IdentityClaims.Calendar.Instant

/-!
# What calendar and clock show at an instant

An instant is taken apart into a date and a time of day, and these are put together again. Main
statement: `Instant.toInstant?_toMoment`, every instant is the instant of its moment.
-/

namespace IdentityClaims

namespace Date

theorem daysBeforeYear_of_periods {year a b c d : Nat}
    (hyear : year = 400 * a + 100 * b + 4 * c + d + 1) (hb : b ≤ 3) (hc : c ≤ 24) (hd : d ≤ 3) :
    daysBeforeYear year = 146097 * a + 36524 * b + 1461 * c + 365 * d := by
  have h4 : (400 * a + 100 * b + 4 * c + d) / 4 = 100 * a + 25 * b + c := by omega
  have h100 : (400 * a + 100 * b + 4 * c + d) / 100 = 4 * a + b := by omega
  have h400 : (400 * a + 100 * b + 4 * c + d) / 400 = a := by omega
  simp only [daysBeforeYear, hyear, Nat.add_sub_cancel, h4, h100, h400]
  omega

/-- No day comes before the first day of its year. -/
theorem daysBeforeYear_yearOfDays_le (n : Nat) : daysBeforeYear (yearOfDays n) ≤ n := by
  rw [yearOfDays, daysBeforeYear_of_periods rfl (by omega) (by omega) (by omega)]
  omega

theorem daysBeforeMonth_succ (year month : Nat) (h : 1 ≤ month) :
    daysBeforeMonth year (month + 1) = daysBeforeMonth year month + daysInMonth year month := by
  obtain ⟨m, rfl⟩ : ∃ m, month = m + 1 := ⟨month - 1, by omega⟩
  simp [daysBeforeMonth, List.range_succ]

theorem daysBeforeMonth_monthAndDay (year fuel month rest : Nat) (h : 1 ≤ month) :
    daysBeforeMonth year (monthAndDay year fuel month rest).1 +
        ((monthAndDay year fuel month rest).2 - 1) =
      daysBeforeMonth year month + rest := by
  induction fuel generalizing month rest with
  | zero => rfl
  | succ fuel ih =>
    rw [monthAndDay]
    by_cases hr : rest < daysInMonth year month
    · simp [hr]
    · have hnext := ih (month + 1) (rest - daysInMonth year month) (by omega)
      have hdays := daysBeforeMonth_succ year month h
      simp only [hr, if_false]
      omega

theorem toDays_ofDays (n : Nat) : toDays (ofDays n) = n := by
  have hyear := daysBeforeYear_yearOfDays_le n
  have hmonth := daysBeforeMonth_monthAndDay (yearOfDays n) 11 1
    (n - daysBeforeYear (yearOfDays n)) (by omega)
  have hfirst : daysBeforeMonth (yearOfDays n) 1 = 0 := rfl
  simp only [toDays, ofDays]
  omega

end Date

namespace Instant

theorem ext_micros {t u : Instant} (h : t.micros = u.micros) : t = u := by
  cases t
  cases u
  cases h
  rfl

theorem micros_toMoment (t : Instant) : t.toMoment.micros = t.micros := by
  obtain ⟨hlo, -⟩ := t.inRange
  simp only [Moment.micros, toMoment, Date.toDays_ofDays, dayNumber, microsOfDay, epochDay,
    secondsPerDay, microsPerSecond, Option.getD_some, Offset.micros_zero]
  omega

theorem toInstant?_toMoment (t : Instant) : t.toMoment.toInstant? = some t := by
  rw [Moment.toInstant?, micros_toMoment, ofMicros?, dif_pos t.inRange]

end Instant

/-- The instant of a moment is the one that is as far from 1970. -/
theorem Moment.toInstant?_eq_some_iff {m : Moment} {t : Instant} :
    m.toInstant? = some t ↔ t.micros = m.micros := by
  rw [toInstant?, Instant.ofMicros?]
  constructor
  · intro h
    split at h
    · rw [← Option.some.inj h]
    · cases h
  · intro h
    rw [dif_pos (h ▸ t.inRange)]
    exact congrArg some (Instant.ext_micros h.symm)

end IdentityClaims
