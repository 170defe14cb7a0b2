import IdentityClaims.Proofs.Calendar.Date

/-!
# Moments in universal time

Calendar and clock in universal time show one moment at every instant, and a later one at a later
instant. From one second to the next the clock goes on, and the calendar with it at midnight. Main
statements: `Moment.IsUniversal.eq_toMoment`, `Moment.IsUniversal.fields_lt` and
`Moment.micros_next`.
-/

namespace IdentityClaims

namespace Moment

/-- A date of the years 1 to 9999 and a time of day, shown in universal time. -/
structure IsUniversal (m : Moment) : Prop where
  exists_ : m.fault? = none
  offset : m.offset = some 0

theorem clockFault?_eq_none_iff {m : Moment} :
    m.clockFault? = none ↔ m.hour ≤ 23 ∧ m.minute ≤ 59 ∧ m.second ≤ 59 ∧ m.micro ≤ 999999 := by
  constructor
  · intro h
    unfold clockFault? at h
    split_ifs at h
    omega
  · rintro ⟨hhour, hminute, hsecond, hmicro⟩
    unfold clockFault?
    rw [if_neg (by omega), if_neg (by omega), if_neg (by omega), if_neg (by omega)]

theorem isUniversal_iff {m : Moment} :
    m.IsUniversal ↔ m.date.OnCalendar ∧
      (m.hour ≤ 23 ∧ m.minute ≤ 59 ∧ m.second ≤ 59 ∧ m.micro ≤ 999999) ∧ m.offset = some 0 := by
  rw [← Date.fault?_eq_none_iff, ← clockFault?_eq_none_iff]
  constructor
  · rintro ⟨hfault, hoffset⟩
    rw [fault?, Option.or_eq_none_iff, Option.or_eq_none_iff] at hfault
    exact ⟨hfault.1.2, hfault.2, hoffset⟩
  · rintro ⟨hdate, hclock, hoffset⟩
    refine ⟨?_, hoffset⟩
    have hnear : m.offsetFault? = none := by
      rw [offsetFault?, hoffset]
      rfl
    rw [fault?, hnear, hdate, hclock]
    rfl

def microsOfDay (m : Moment) : Nat :=
  (m.hour * 3600 + m.minute * 60 + m.second) * 1000000 + m.micro

def dayLength : Int := 86400000000

variable {m u : Moment}

theorem IsUniversal.micros_eq (h : m.IsUniversal) :
    m.micros = (m.date.toDays - epochDay) * dayLength + m.microsOfDay := by
  simp only [micros, h.offset, microsOfDay, dayLength, secondsPerDay, microsPerSecond,
    Option.getD_some, Offset.micros_zero]
  omega

theorem IsUniversal.microsOfDay_lt (h : m.IsUniversal) : (m.microsOfDay : Int) < dayLength := by
  obtain ⟨-, hclock, -⟩ := isUniversal_iff.1 h
  rw [microsOfDay, dayLength]
  omega

/-- An earlier moment is on an earlier day, or earlier on the same day. -/
theorem IsUniversal.micros_lt_iff (hm : m.IsUniversal) (hu : u.IsUniversal) :
    m.micros < u.micros ↔ m.date.toDays < u.date.toDays ∨
      m.date.toDays = u.date.toDays ∧ m.microsOfDay < u.microsOfDay := by
  have hmday := hm.microsOfDay_lt
  have huday := hu.microsOfDay_lt
  rw [hm.micros_eq, hu.micros_eq]
  rw [dayLength] at *
  omega

/-! ## The moment of an instant -/

theorem IsUniversal.inRange (h : m.IsUniversal) :
    -62135596800000000 ≤ m.micros ∧ m.micros ≤ 253402300799999999 := by
  obtain ⟨hdate, -, -⟩ := isUniversal_iff.1 h
  have hlast : m.date.toDays < 3652059 := hdate.toDays_lt
  have hday := h.microsOfDay_lt
  rw [h.micros_eq, epochDay]
  rw [dayLength] at *
  omega

theorem isUniversal_toMoment (t : Instant) : t.toMoment.IsUniversal := by
  obtain ⟨hlo, hhi⟩ := t.inRange
  refine isUniversal_iff.2 ⟨Date.onCalendar_ofDays ?_, ?_, rfl⟩
  · have hcount : Date.dayCount = 3652059 := rfl
    rw [hcount, Instant.dayNumber, epochDay, secondsPerDay, microsPerSecond]
    omega
  · simp only [Instant.toMoment, Instant.microsOfDay, secondsPerDay, microsPerSecond]
    omega

theorem IsUniversal.eq_of_micros_eq (hm : m.IsUniversal) (hu : u.IsUniversal)
    (h : m.micros = u.micros) : m = u := by
  have hmday := hm.microsOfDay_lt
  have huday := hu.microsOfDay_lt
  rw [hm.micros_eq, hu.micros_eq] at h
  rw [dayLength] at *
  obtain ⟨hmdate, hmclock, hmoffset⟩ := isUniversal_iff.1 hm
  obtain ⟨hudate, huclock, huoffset⟩ := isUniversal_iff.1 hu
  have hdate : m.date = u.date := Date.eq_of_toDays_eq hmdate hudate (by omega)
  have hclock : m.microsOfDay = u.microsOfDay := by
    rw [hdate] at h
    omega
  rw [microsOfDay, microsOfDay] at hclock
  obtain ⟨d, h1, h2, h3, h4, o⟩ := m
  obtain ⟨e, k1, k2, k3, k4, p⟩ := u
  simp only [mk.injEq]
  dsimp only at *
  exact ⟨hdate, by omega, by omega, by omega, by omega, hmoffset.trans huoffset.symm⟩

/-- Calendar and clock show no other moment at an instant than the one as far from 1970. -/
theorem IsUniversal.eq_toMoment (h : m.IsUniversal) {t : Instant} (ht : t.micros = m.micros) :
    m = t.toMoment :=
  h.eq_of_micros_eq (isUniversal_toMoment t) (ht.symm.trans t.micros_toMoment.symm)

/-- In universal time, the moment is within the years 1 to 9999. -/
def HasUniversal (m : Moment) : Prop := ∃ u : Moment, u.IsUniversal ∧ u.micros = m.micros

theorem exists_toInstant?_iff (m : Moment) : (∃ t, m.toInstant? = some t) ↔ m.HasUniversal := by
  constructor
  · rintro ⟨t, ht⟩
    exact ⟨t.toMoment, isUniversal_toMoment t,
      t.micros_toMoment.trans (toInstant?_eq_some_iff.1 ht)⟩
  · rintro ⟨u, hu, hmicros⟩
    exact ⟨⟨u.micros, hu.inRange⟩, toInstant?_eq_some_iff.2 hmicros⟩

/-! ## The order of moments -/

def fields (m : Moment) : List Nat := m.date.fields ++ [m.hour, m.minute, m.second]

/-- Of two moments with the same fraction of a second, the earlier one comes first by its fields. -/
theorem IsUniversal.fields_lt (hm : m.IsUniversal) (hu : u.IsUniversal)
    (hfraction : m.micro = u.micro) (h : m.micros < u.micros) : m.fields < u.fields := by
  obtain ⟨hmdate, hmclock, -⟩ := isUniversal_iff.1 hm
  obtain ⟨hudate, huclock, -⟩ := isUniversal_iff.1 hu
  rcases (hm.micros_lt_iff hu).1 h with hday | ⟨hday, hclock⟩
  · have hdate := (Date.fields_lt_iff hmdate hudate).2 hday
    simp only [fields, Date.fields, List.cons_append, List.nil_append, List.cons_lt_cons_iff,
      List.not_lt_nil, and_false, or_false] at hdate ⊢
    omega
  · have hdate : m.date = u.date := Date.eq_of_toDays_eq hmdate hudate hday
    rw [microsOfDay, microsOfDay] at hclock
    simp only [fields, Date.fields, hdate, List.cons_append, List.nil_append,
      List.cons_lt_cons_iff, lt_irrefl, false_or, true_and]
    omega

/-! ## The next second -/

def next (m : Moment) : Moment :=
  if m.second < 59 then { m with second := m.second + 1 }
  else if m.minute < 59 then { m with minute := m.minute + 1, second := 0 }
  else if m.hour < 23 then { m with hour := m.hour + 1, minute := 0, second := 0 }
  else { m with date := m.date.next, hour := 0, minute := 0, second := 0 }

theorem micros_next (h : m.IsUniversal) : m.next.micros = m.micros + microsPerSecond := by
  obtain ⟨hdate, hclock, -⟩ := isUniversal_iff.1 h
  have hday := Date.toDays_next hdate
  unfold next
  simp only [micros, microsPerSecond, secondsPerDay]
  split_ifs <;> dsimp only <;> omega

theorem isUniversal_next (h : m.IsUniversal)
    (hlast : m.micros + microsPerSecond ≤ 253402300799999999) : m.next.IsUniversal := by
  obtain ⟨hdate, hclock, hoffset⟩ := isUniversal_iff.1 h
  rw [h.micros_eq, microsPerSecond, dayLength, epochDay, microsOfDay] at hlast
  unfold next
  split_ifs with hsecond hminute hhour
  · exact isUniversal_iff.2 ⟨hdate, by dsimp only; omega, hoffset⟩
  · exact isUniversal_iff.2 ⟨hdate, by dsimp only; omega, hoffset⟩
  · exact isUniversal_iff.2 ⟨hdate, by dsimp only; omega, hoffset⟩
  · have hnext : m.date.next.OnCalendar := by
      have hcount : Date.dayCount = 3652059 := rfl
      exact Date.onCalendar_next hdate (by omega)
    exact isUniversal_iff.2 ⟨hnext, by dsimp only; omega, hoffset⟩

end Moment

end IdentityClaims
