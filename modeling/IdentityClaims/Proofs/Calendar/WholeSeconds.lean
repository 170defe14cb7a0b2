import IdentityClaims.Proofs.Calendar.Rounding

/-!
# Whole seconds and moments in universal time

Whole seconds since the start of 1970 and the moments of the years 1 to 9999 without a fraction of a
second, in universal time, are in one to one correspondence. It keeps the order, and a second more is
the next moment. Main statement: `Instant.ofSeconds_one_to_one`.
-/

namespace IdentityClaims

namespace Moment

/-- A moment in universal time without a fraction of a second. -/
structure IsWhole (m : Moment) : Prop where
  universal : m.IsUniversal
  fraction : m.micro = 0

def epoch : Moment where
  date := ⟨1970, 1, 1⟩
  hour := 0
  minute := 0
  second := 0
  micro := 0
  offset := some 0

theorem IsWhole.exists_seconds {m : Moment} (h : m.IsWhole) :
    ∃ n : Int, m.micros = n * microsPerSecond := by
  refine ⟨(m.date.toDays - epochDay) * secondsPerDay +
    (m.hour * 3600 + m.minute * 60 + m.second), ?_⟩
  rw [h.universal.micros_eq, dayLength, microsOfDay, h.fraction, secondsPerDay, microsPerSecond]
  omega

end Moment

namespace Instant

variable {n : Int} {t : Instant}

theorem ofSeconds_eq_ok_iff : ofSeconds (.int n) = .ok t ↔ t.micros = n * microsPerSecond := by
  refine ⟨micros_of_ofSeconds, fun h => ?_⟩
  have hin : SecondsInRange n := by
    obtain ⟨hlo, hhi⟩ := t.inRange
    rw [h, microsPerSecond] at hlo hhi
    exact ⟨by omega, by omega⟩
  obtain ⟨u, hu, hmicros⟩ := ofSeconds_of_inRange hin
  rw [hu, ext_micros (hmicros.trans h.symm)]

theorem isWhole_toMoment (h : ofSeconds (.int n) = .ok t) : t.toMoment.IsWhole := by
  refine ⟨Moment.isUniversal_toMoment t, ?_⟩
  simp only [toMoment, microsOfDay, micros_of_ofSeconds h, secondsPerDay, microsPerSecond]
  omega

theorem exists_ofSeconds_of_isWhole {m : Moment} (hm : m.IsWhole) :
    ∃ n t, ofSeconds (.int n) = .ok t ∧ t.toMoment = m := by
  obtain ⟨t, ht⟩ := m.exists_toInstant?_iff.2 ⟨m, hm.universal, rfl⟩
  have hmicros := Moment.toInstant?_eq_some_iff.1 ht
  obtain ⟨n, hn⟩ := hm.exists_seconds
  exact ⟨n, t, ofSeconds_eq_ok_iff.2 (hmicros.trans hn), (hm.universal.eq_toMoment hmicros).symm⟩

theorem fields_lt_of_lt {k : Int} {u : Instant} (ht : ofSeconds (.int n) = .ok t)
    (hu : ofSeconds (.int k) = .ok u) (h : n < k) : t.toMoment.fields < u.toMoment.fields := by
  have htw := isWhole_toMoment ht
  have huw := isWhole_toMoment hu
  refine htw.universal.fields_lt huw.universal (htw.fraction.trans huw.fraction.symm) ?_
  rw [micros_toMoment, micros_toMoment, micros_of_ofSeconds ht, micros_of_ofSeconds hu,
    microsPerSecond]
  omega

theorem toMoment_next {u : Instant} (ht : ofSeconds (.int n) = .ok t)
    (hu : ofSeconds (.int (n + 1)) = .ok u) : u.toMoment = t.toMoment.next := by
  have huniversal := Moment.isUniversal_toMoment t
  have hmicros : t.toMoment.micros + microsPerSecond = u.micros := by
    rw [micros_toMoment, micros_of_ofSeconds ht, micros_of_ofSeconds hu, microsPerSecond]
    omega
  have hnext := Moment.isUniversal_next huniversal (hmicros ▸ u.inRange.2)
  exact (hnext.eq_toMoment (hmicros.symm.trans (Moment.micros_next huniversal).symm)).symm

/-- An integer is taken as seconds since 1970 exactly if they lie within the years 1 to 9999, and
refused as out of range otherwise. What it gives is a moment in universal time without a fraction of
a second, and its whole seconds are the integer again, whatever the rounding. Every such moment comes
from one integer, a greater integer gives a later moment, and the next one the next moment. -/
theorem ofSeconds_one_to_one (n : Int) :
    ((∃ t, ofSeconds (.int n) = .ok t) ↔ -62135596800 ≤ n ∧ n ≤ 253402300799) ∧
    (¬ (-62135596800 ≤ n ∧ n ≤ 253402300799) →
      ofSeconds (.int n) = .error (.outOfRange (.int n))) ∧
    (∀ t, ofSeconds (.int n) = .ok t →
      t.toMoment.IsWhole ∧ t.toMoment.toInstant? = some t ∧
      (∀ name, t.toSeconds (.ofName name) = n) ∧
      (∀ k u, ofSeconds (.int k) = .ok u → n < k → t.toMoment.fields < u.toMoment.fields) ∧
      (∀ u, ofSeconds (.int (n + 1)) = .ok u → u.toMoment = t.toMoment.next) ∧
      (n = 0 → t.toMoment = Moment.epoch)) ∧
    ∀ m : Moment, m.IsWhole → ∃! k, ∃ t, ofSeconds (.int k) = .ok t ∧ t.toMoment = m := by
  refine ⟨exists_ofSeconds_iff, ofSeconds_of_not_inRange, ?_, ?_⟩
  · intro t ht
    refine ⟨isWhole_toMoment ht, toInstant?_toMoment t, ?_, ?_, ?_, ?_⟩
    · intro name
      rw [toSeconds_eq, micros_of_ofSeconds ht, Rounding.seconds_mul]
    · intro k u hu hlt
      exact fields_lt_of_lt ht hu hlt
    · intro u hu
      exact toMoment_next ht hu
    · rintro rfl
      have hepoch : Moment.epoch.IsUniversal := ⟨by decide, rfl⟩
      exact (hepoch.eq_toMoment (micros_of_ofSeconds ht)).symm
  · intro m hm
    obtain ⟨k, t, ht, hshown⟩ := exists_ofSeconds_of_isWhole hm
    refine ⟨k, ⟨t, ht, hshown⟩, ?_⟩
    rintro l ⟨u, hu, hshown'⟩
    -- two integers that give the same moment are the same number of microseconds
    have hmicros : u.micros = t.micros := by
      rw [← micros_toMoment, ← micros_toMoment, hshown, hshown']
    rw [micros_of_ofSeconds ht, micros_of_ofSeconds hu] at hmicros
    exact Int.eq_of_mul_eq_mul_right (by decide) hmicros

end Instant

end IdentityClaims
