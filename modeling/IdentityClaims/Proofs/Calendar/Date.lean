import IdentityClaims.Calendar.Fault
import IdentityClaims.Proofs.Calendar.Moment
import Mathlib.Order.Monotone.Basic

/-!
# The days of the calendar

The dates of the years 1 to 9999 are numbered one after the other. A later date has a greater number,
the day after a date has the next one, and every number below that of the first day of the year 10000
is the number of one date. Main statements: `Date.ofDays_toDays`, `Date.fields_lt_iff` and
`Date.toDays_next`.
-/

namespace IdentityClaims

namespace Date

/-- A date has a year from 1 to 9999, a month of the year and a day of the month. -/
structure OnCalendar (d : Date) : Prop where
  year : 1 ≤ d.year ∧ d.year ≤ 9999
  month : 1 ≤ d.month ∧ d.month ≤ 12
  day : 1 ≤ d.day ∧ d.day ≤ daysInMonth d.year d.month

theorem fault?_eq_none_iff {d : Date} : d.fault? = none ↔ d.OnCalendar := by
  constructor
  · intro h
    unfold fault? at h
    split_ifs at h with hyear hmonth hday
    exact ⟨by omega, by omega, by omega⟩
  · rintro ⟨hyear, hmonth, hday⟩
    unfold fault?
    rw [if_neg (by omega), if_neg (by omega), if_neg (by omega)]

/-! ## Years and months -/

def daysInYear (year : Nat) : Nat := if isLeap year then 366 else 365

theorem isLeap_iff (year : Nat) : isLeap year = true ↔ 4 ∣ year ∧ (100 ∣ year → 400 ∣ year) := by
  simp only [isLeap, Bool.and_eq_true, Bool.or_eq_true, beq_iff_eq, bne_iff_ne,
    Nat.dvd_iff_mod_eq_zero, imp_iff_not_or, ne_eq]

theorem daysBeforeYear_succ {year : Nat} (h : 1 ≤ year) :
    daysBeforeYear (year + 1) = daysBeforeYear year + daysInYear year := by
  obtain ⟨y, rfl⟩ : ∃ y, year = y + 1 := ⟨year - 1, by omega⟩
  have hleap := isLeap_iff (y + 1)
  simp only [daysBeforeYear, daysInYear, Nat.add_sub_cancel, Nat.succ_div]
  -- every 400th year is a 100th one, and every 100th year is a fourth one
  by_cases h4 : 4 ∣ y + 1
  · by_cases h100 : 100 ∣ y + 1
    · by_cases h400 : 400 ∣ y + 1
      · simp only [h4, h100, h400, true_and, imp_self, iff_true] at hleap
        simp only [h4, h100, h400, hleap, if_true]
        omega
      · simp only [h4, h100, h400, true_and, imp_false, not_true, iff_false] at hleap
        simp only [h4, h100, h400, hleap, if_true, if_false, Bool.false_eq_true]
        omega
    · have h400 : ¬ 400 ∣ y + 1 := by omega
      simp only [h4, h100, true_and, false_imp_iff, iff_true] at hleap
      simp only [h4, h100, h400, hleap, if_true, if_false]
      omega
  · have h100 : ¬ 100 ∣ y + 1 := by omega
    have h400 : ¬ 400 ∣ y + 1 := by omega
    simp only [h4, false_and, iff_false] at hleap
    simp only [h4, h100, h400, hleap, if_false, Bool.false_eq_true]
    omega

theorem daysBeforeYear_le {year later : Nat} (h : 1 ≤ year) (hle : year ≤ later) :
    daysBeforeYear year ≤ daysBeforeYear later := by
  induction later, hle using Nat.le_induction with
  | base => exact le_rfl
  | succ later hle ih =>
      rw [daysBeforeYear_succ (by omega)]
      omega

theorem daysInMonth_pos (year month : Nat) : 1 ≤ daysInMonth year month := by
  unfold daysInMonth
  split_ifs <;> omega

theorem daysBeforeMonth_thirteen (year : Nat) : daysBeforeMonth year 13 = daysInYear year := by
  cases h : isLeap year <;>
    simp [daysBeforeMonth, List.range_succ, daysInMonth, daysInYear, h]

theorem daysBeforeMonth_le {year month later : Nat} (h : 1 ≤ month) (hle : month ≤ later) :
    daysBeforeMonth year month ≤ daysBeforeMonth year later := by
  induction later, hle using Nat.le_induction with
  | base => exact le_rfl
  | succ later hle ih =>
      rw [daysBeforeMonth_succ year later (by omega)]
      omega

theorem toDays_newYear (year : Nat) : toDays ⟨year, 1, 1⟩ = daysBeforeYear year := rfl

/-! ## The order of dates -/

/-- Year, month and day, in the order in which dates are compared. -/
def fields (d : Date) : List Nat := [d.year, d.month, d.day]

variable {d e : Date}

theorem OnCalendar.lt_next_month (h : d.OnCalendar) :
    daysBeforeMonth d.year d.month + (d.day - 1) < daysBeforeMonth d.year (d.month + 1) := by
  obtain ⟨-, ⟨hmonth, -⟩, hfirst, hlast⟩ := h
  rw [daysBeforeMonth_succ d.year d.month hmonth]
  omega

theorem OnCalendar.toDays_lt_next_year (h : d.OnCalendar) :
    d.toDays < daysBeforeYear (d.year + 1) := by
  have hday := h.lt_next_month
  have hmonth : daysBeforeMonth d.year (d.month + 1) ≤ daysBeforeMonth d.year 13 :=
    daysBeforeMonth_le (Nat.le_add_left 1 d.month) (Nat.succ_le_succ h.month.2)
  rw [daysBeforeMonth_thirteen] at hmonth
  rw [daysBeforeYear_succ h.year.1, toDays]
  omega

theorem OnCalendar.toDays_lt_toDays (hd : d.OnCalendar) (h : d.fields < e.fields) :
    d.toDays < e.toDays := by
  simp only [fields, List.cons_lt_cons_iff, List.not_lt_nil, and_false, or_false] at h
  rcases h with hyear | ⟨hyear, hmonth | ⟨hmonth, hday⟩⟩
  · calc d.toDays < daysBeforeYear (d.year + 1) := hd.toDays_lt_next_year
      _ ≤ daysBeforeYear e.year := daysBeforeYear_le (by omega) hyear
      _ ≤ e.toDays := by rw [toDays]; omega
  · have hnext : daysBeforeMonth d.year (d.month + 1) ≤ daysBeforeMonth d.year e.month :=
      daysBeforeMonth_le (by omega) hmonth
    have hday := hd.lt_next_month
    rw [toDays, toDays, ← hyear]
    omega
  · have hfirst := hd.day.1
    rw [toDays, toDays, ← hyear, ← hmonth]
    omega

theorem fields_lt_or_eq_or_lt (d e : Date) :
    d.fields < e.fields ∨ d = e ∨ e.fields < d.fields := by
  obtain ⟨y, m, a⟩ := d
  obtain ⟨z, n, b⟩ := e
  simp only [fields, List.cons_lt_cons_iff, List.not_lt_nil, and_false, or_false, mk.injEq]
  omega

/-- A date is earlier than another one exactly when its number is less. -/
theorem fields_lt_iff (hd : d.OnCalendar) (he : e.OnCalendar) :
    d.fields < e.fields ↔ d.toDays < e.toDays := by
  refine ⟨hd.toDays_lt_toDays, fun h => ?_⟩
  rcases fields_lt_or_eq_or_lt d e with hlt | rfl | hlt
  · exact hlt
  · omega
  · have := he.toDays_lt_toDays hlt
    omega

theorem eq_of_toDays_eq (hd : d.OnCalendar) (he : e.OnCalendar) (h : d.toDays = e.toDays) :
    d = e := by
  rcases fields_lt_or_eq_or_lt d e with hlt | heq | hlt
  · have := hd.toDays_lt_toDays hlt
    omega
  · exact heq
  · have := he.toDays_lt_toDays hlt
    omega

/-! ## The date of a number -/

def dayCount : Nat := daysBeforeYear 10000

theorem OnCalendar.toDays_lt (h : d.OnCalendar) : d.toDays < dayCount :=
  h.toDays_lt_next_year.trans_le
    (daysBeforeYear_le (Nat.le_add_left 1 d.year) (Nat.succ_le_succ h.year.2))

/-- A day comes before the year after the one that it is said to lie in. -/
theorem lt_daysBeforeYear_succ_yearOfDays (n : Nat) : n < daysBeforeYear (yearOfDays n + 1) := by
  rw [yearOfDays]
  generalize ha : n / 146097 = a
  generalize hb : min (n % 146097 / 36524) 3 = b
  generalize hc : (n % 146097 - 36524 * b) / 1461 = c
  generalize hd : min ((n % 146097 - 36524 * b) % 1461 / 365) 3 = d
  -- the next year is in the same period of four years, or else it starts another period
  by_cases hd3 : d < 3
  · calc n < 146097 * a + 36524 * b + 1461 * c + 365 * (d + 1) := by omega
      _ = daysBeforeYear (400 * a + 100 * b + 4 * c + d + 1 + 1) :=
        (daysBeforeYear_of_periods (by omega) (by omega) (by omega) (by omega)).symm
  · by_cases hc24 : c < 24
    · calc n < 146097 * a + 36524 * b + 1461 * (c + 1) + 365 * 0 := by omega
        _ = daysBeforeYear (400 * a + 100 * b + 4 * c + d + 1 + 1) :=
          (daysBeforeYear_of_periods (by omega) (by omega) (by omega) (by omega)).symm
    · by_cases hb3 : b < 3
      · calc n < 146097 * a + 36524 * (b + 1) + 1461 * 0 + 365 * 0 := by omega
          _ = daysBeforeYear (400 * a + 100 * b + 4 * c + d + 1 + 1) :=
            (daysBeforeYear_of_periods (by omega) (by omega) (by omega) (by omega)).symm
      · calc n < 146097 * (a + 1) + 36524 * 0 + 1461 * 0 + 365 * 0 := by omega
          _ = daysBeforeYear (400 * a + 100 * b + 4 * c + d + 1 + 1) :=
            (daysBeforeYear_of_periods (by omega) (by omega) (by omega) (by omega)).symm

/-- A day that comes before the end of the month up to which it is looked for is found in a month
between, and it is a day of that month. -/
theorem monthAndDay_of_lt {year fuel month rest : Nat} (h : 1 ≤ month)
    (hrest : daysBeforeMonth year month + rest < daysBeforeMonth year (month + fuel + 1)) :
    month ≤ (monthAndDay year fuel month rest).1 ∧
      (monthAndDay year fuel month rest).1 ≤ month + fuel ∧
      1 ≤ (monthAndDay year fuel month rest).2 ∧
      (monthAndDay year fuel month rest).2 ≤
        daysInMonth year (monthAndDay year fuel month rest).1 := by
  have hdays := daysBeforeMonth_succ year month h
  induction fuel generalizing month rest with
  | zero =>
      rw [Nat.add_zero] at hrest
      simp only [monthAndDay]
      omega
  | succ fuel ih =>
      rw [monthAndDay]
      by_cases hr : rest < daysInMonth year month
      · simp only [hr, if_true]
        omega
      · have hnext : daysBeforeMonth year (month + 1) + (rest - daysInMonth year month) <
            daysBeforeMonth year (month + 1 + fuel + 1) := by
          rw [show month + 1 + fuel + 1 = month + (fuel + 1) + 1 by omega]
          omega
        have hfound := ih (by omega) hnext (daysBeforeMonth_succ year (month + 1) (by omega))
        simp only [hr, if_false]
        omega

theorem onCalendar_ofDays {n : Nat} (h : n < dayCount) : (ofDays n).OnCalendar := by
  have hle := daysBeforeYear_yearOfDays_le n
  have hlt := lt_daysBeforeYear_succ_yearOfDays n
  have hfirst : 1 ≤ yearOfDays n := by simp [yearOfDays]
  have hlast : yearOfDays n ≤ 9999 := by
    by_contra hyear
    have := daysBeforeYear_le (by omega) (show 10000 ≤ yearOfDays n by omega)
    rw [dayCount] at h
    omega
  have hrest : daysBeforeMonth (yearOfDays n) 1 + (n - daysBeforeYear (yearOfDays n)) <
      daysBeforeMonth (yearOfDays n) (1 + 11 + 1) := by
    rw [daysBeforeMonth_thirteen]
    rw [daysBeforeYear_succ hfirst] at hlt
    have hjanuary : daysBeforeMonth (yearOfDays n) 1 = 0 := rfl
    omega
  obtain ⟨hmonth, hdecember, hday⟩ := monthAndDay_of_lt (le_refl 1) hrest
  exact ⟨⟨hfirst, hlast⟩, ⟨hmonth, hdecember⟩, hday⟩

theorem ofDays_toDays (h : d.OnCalendar) : ofDays d.toDays = d :=
  eq_of_toDays_eq (onCalendar_ofDays h.toDays_lt) h (toDays_ofDays _)

/-! ## The next day -/

def next (d : Date) : Date :=
  if d.day < daysInMonth d.year d.month then { d with day := d.day + 1 }
  else if d.month < 12 then { d with month := d.month + 1, day := 1 }
  else { year := d.year + 1, month := 1, day := 1 }

theorem toDays_next (h : d.OnCalendar) : d.next.toDays = d.toDays + 1 := by
  obtain ⟨⟨hyear, -⟩, ⟨hmonth, hdecember⟩, hday, hlast⟩ := h
  have hend := daysBeforeMonth_succ d.year d.month hmonth
  unfold next
  split_ifs with hsame hmore
  · simp only [toDays]
    omega
  · simp only [toDays]
    omega
  · -- the year ends with its twelfth month
    have htwelve : d.month = 12 := by omega
    rw [htwelve] at hend hlast hsame
    rw [daysBeforeMonth_thirteen] at hend
    rw [toDays_newYear, daysBeforeYear_succ hyear, toDays, htwelve]
    omega

/-- The day after a date is on the calendar unless the calendar ends. -/
theorem onCalendar_next (h : d.OnCalendar) (hn : d.toDays + 1 < dayCount) :
    d.next.OnCalendar := by
  have hnext := toDays_next h
  obtain ⟨⟨hyear, hyear'⟩, ⟨hmonth, hdecember⟩, hday, hlast⟩ := h
  unfold next at hnext ⊢
  split_ifs at hnext ⊢ with hsame hmore
  · exact ⟨⟨hyear, hyear'⟩, ⟨hmonth, hdecember⟩, Nat.le_add_left 1 d.day, hsame⟩
  · exact ⟨⟨hyear, hyear'⟩, ⟨Nat.le_add_left 1 d.month, hmore⟩, le_rfl, daysInMonth_pos _ _⟩
  · -- the year 10000 starts with a number that is not below the count
    rw [toDays_newYear] at hnext
    have hover : d.year + 1 ≤ 9999 := by
      by_contra hover
      have hyears := daysBeforeYear_le (by omega) (show 10000 ≤ d.year + 1 by omega)
      rw [dayCount] at hn
      omega
    exact ⟨⟨Nat.le_add_left 1 d.year, hover⟩, ⟨le_rfl, Nat.le_add_left 1 11⟩, le_rfl,
      daysInMonth_pos _ _⟩

end Date

end IdentityClaims
