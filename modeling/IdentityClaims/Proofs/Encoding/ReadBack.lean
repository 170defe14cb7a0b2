import IdentityClaims.Proofs.Calendar.Moment
import IdentityClaims.Proofs.Calendar.Seconds
import IdentityClaims.Proofs.Encoding.Collision

/-!
# Times that are read back

The time of the last update travels as whole seconds. What was written for it is read again, less
than a second away, unless it was in the last half second of the year 9999 and went to the nearest
second. Main statement: `times_read_back`.
-/

namespace IdentityClaims

namespace ClaimSet

variable {s : ClaimSet} {policy : Policy} {standard es : FlatMap}

theorem mem_standardEntries (h : s.standardEntries policy = .ok standard) {c : Claim} {m : FlatMap}
    (hm : s.claimEntries policy c = .ok m) {e : TextPair} (he : e ∈ m) : e ∈ standard := by
  have hall : ∀ c, ∃ m, s.claimEntries policy c = .ok m := fun c =>
    exists_claimEntries_of_entriesOf h c (Claim.mem_all c)
  choose f hf using hall
  have hflat : s.standardEntries policy = .ok (Claim.all.flatMap f) :=
    entriesOf_eq_ok fun c _ => hf c
  obtain rfl := Except.ok.inj (h.symm.trans hflat)
  obtain rfl := Except.ok.inj ((hf c).symm.trans hm)
  exact List.mem_flatMap.2 ⟨c, Claim.mem_all c, he⟩

theorem exists_entries_of_encode (h : s.encode policy = .ok es) :
    ∃ standard dumped, s.standardEntries policy = .ok standard ∧ s.DumpsTo dumped ∧
      es = Entries.putAll standard dumped := by
  cases hs : s.standardEntries policy with
  | error e => simp [encode, hs] at h
  | ok standard =>
      cases hd : s.additionalEntries with
      | error e => simp [encode, hs, hd] at h
      | ok dumped =>
          have hdumps := additionalEntries_eq_ok_iff.1 hd
          rw [encode_eq_merge hs hdumps] at h
          exact ⟨standard, dumped, rfl, hdumps, merge_eq_ok h⟩

theorem get?_updatedAt_of_encode {t : Instant} (ht : s.updatedAt = some t)
    (h : s.encode policy = .ok es)
    (hfree : ∀ extra, s.DumpsTo extra → Claim.updatedAt.key ∉ pairKeys extra) :
    Entries.get? es Claim.updatedAt.key = some (writeTime policy t) := by
  obtain ⟨standard, dumped, hs, hd, rfl⟩ := exists_entries_of_encode h
  have hnone : Entries.get? dumped Claim.updatedAt.key = none :=
    (Entries.get?_eq_none_iff _ _).2 (hfree dumped hd)
  have hentries : s.claimEntries policy .updatedAt =
      .ok [(Claim.updatedAt.key, writeTime policy t)] := by
    simp [claimEntries, ht]
  have hmem : (Claim.updatedAt.key, writeTime policy t) ∈ standard :=
    mem_standardEntries hs hentries (List.mem_singleton.2 rfl)
  rw [Entries.get?_putAll hd.nodup, hnone, Option.none_or]
  exact Entries.get?_of_mem (nodup_of_standardEntries hs) hmem

end ClaimSet

theorem exists_readTime_writeTime_iff (policy reading : Policy) (t : Instant) :
    (∃ u, readTime reading (writeTime policy t) = .ok u) ↔
      ¬ Instant.RoundsOut policy.rounding t.micros := by
  rw [← Instant.exists_ofSeconds_toSeconds_iff, writeTime, readTime_int]
  exact exists_congr fun _ => Checked.mapError_eq_ok_iff

/-- The whole seconds of a moment in the years 1 to 9999 are read back as a point of time less than
a second away, and no more than half a second if they were the nearest, unless they were rounded out
of the year 9999: then they are refused as out of range. So does a claim set that is encoded have a
time of the last update that is read under any policy, unless it was rounded out or an additional
claim took its place. -/
theorem times_read_back (m : Moment) (t : Instant) (hm : m.toInstant? = some t)
    (rounding : Rounding) :
    ((∃ u, Instant.ofSeconds (.int (t.toSeconds rounding)) = .ok u) ↔
      ¬ Instant.RoundsOut rounding m.micros) ∧
    (∀ u, Instant.ofSeconds (.int (t.toSeconds rounding)) = .ok u →
      |u.micros - m.micros| < microsPerSecond ∧
        (rounding = .nearest → 2 * |u.micros - m.micros| ≤ microsPerSecond)) ∧
    (Instant.RoundsOut rounding m.micros →
      Instant.ofSeconds (.int (t.toSeconds rounding)) =
        .error (.outOfRange (.int 253402300800))) ∧
    ∀ (s : ClaimSet) (policy reading : Policy) (es : FlatMap), policy.rounding = rounding →
      s.updatedAt = some t → s.encode policy = .ok es →
      (∀ extra, s.DumpsTo extra → Claim.updatedAt.key ∉ pairKeys extra) →
      ∃ d, Entries.get? es Claim.updatedAt.key = some d ∧
        ((∃ u, readTime reading d = .ok u) ↔ ¬ Instant.RoundsOut rounding m.micros) := by
  have hmicros : m.micros = t.micros := (Moment.toInstant?_eq_some_iff.1 hm).symm
  rw [hmicros]
  refine ⟨t.exists_ofSeconds_toSeconds_iff rounding, ?_, ?_, ?_⟩
  · intro u hu
    rw [Instant.micros_of_ofSeconds hu, Instant.toSeconds_eq]
    refine ⟨Rounding.abs_seconds_sub_lt t.micros rounding, ?_⟩
    rintro rfl
    exact Rounding.abs_seconds_nearest_sub_le t.micros
  · intro hout
    rw [Instant.toSeconds_of_roundsOut hout]
    exact Instant.ofSeconds_of_not_inRange (by decide)
  · rintro s policy reading es rfl ht hs hfree
    exact ⟨_, ClaimSet.get?_updatedAt_of_encode ht hs hfree,
      exists_readTime_writeTime_iff policy reading t⟩

/-- Three quarters into the first second of the year 1, shown an hour and a half east of universal
time. -/
def firstSecond : Moment where
  date := ⟨1, 1, 1⟩
  hour := 1
  minute := 30
  second := 0
  micro := 750000
  offset := some 5400

def updatedUser (t : Instant) : ClaimSet :=
  { ClaimSet.empty with
    plain := fun c => if c = .sub then some (.data (.text "u-1")) else none
    updatedAt := some t }

theorem times_read_back_firstSecond :
    ∃ t u es d, firstSecond.toInstant? = some t ∧
      Instant.ofSeconds (.int (t.toSeconds .nearest)) = .ok u ∧
      2 * |u.micros - firstSecond.micros| ≤ microsPerSecond ∧
      (updatedUser t).encode { rounding := .nearest } = .ok es ∧
      Entries.get? es Claim.updatedAt.key = some d ∧
      ∃ v, readTime { strictness := .lenient } d = .ok v := by
  let t : Instant := ⟨-62135596799250000, by decide⟩
  have ht : firstSecond.toInstant? = some t := by decide
  have hin : ¬ Instant.RoundsOut .nearest firstSecond.micros := by
    rintro ⟨-, h⟩
    exact absurd h (by decide)
  have hs : (updatedUser t).encode { rounding := .nearest } =
      .ok [("sub", .text "u-1"), ("updated_at", writeTime { rounding := .nearest } t)] := rfl
  have hfree : ∀ extra, (updatedUser t).DumpsTo extra → Claim.updatedAt.key ∉ pairKeys extra := by
    intro extra h
    have hextra := ClaimSet.additionalEntries_eq_ok_iff.2 h
    have hnone : (updatedUser t).additionalEntries = .ok [] := rfl
    rw [hnone, Except.ok.injEq] at hextra
    simp [← hextra, pairKeys]
  obtain ⟨hread, hclose, -, hclaims⟩ := times_read_back firstSecond t ht .nearest
  obtain ⟨u, hu⟩ := hread.2 hin
  obtain ⟨d, hd, hagain⟩ :=
    hclaims (updatedUser t) { rounding := .nearest } { strictness := .lenient } _ rfl rfl hs hfree
  exact ⟨t, u, _, d, ht, hu, (hclose u hu).2 rfl, hs, hd, hagain.2 hin⟩

def lastSecond : Moment where
  date := ⟨9999, 12, 31⟩
  hour := 23
  minute := 59
  second := 59
  micro := 500000
  offset := none

/-- A moment of the year 9999 is written as a number of seconds that no reader takes: its claim set
is encoded, and what it is encoded to is refused. -/
theorem nearest_second_not_read_back :
    ∃ t es, lastSecond.toInstant? = some t ∧
      Instant.ofSeconds (.int (t.toSeconds .nearest)) = .error (.outOfRange (.int 253402300800)) ∧
      (updatedUser t).encode { rounding := .nearest } = .ok es ∧
      ({ policy := { rounding := .nearest } } : Decoder).decode (textPairs es) =
        .error (.mismatch .updatedAt (.noTime (.outOfRange (.int 253402300800)))) := by
  let t : Instant := ⟨253402300799500000, by decide⟩
  have hseconds : t.toSeconds .nearest = 253402300800 := by
    rw [Instant.toSeconds_eq]
    decide
  have hs : (updatedUser t).encode { rounding := .nearest } =
      .ok [("sub", .text "u-1"), ("updated_at", .int (t.toSeconds .nearest))] := rfl
  rw [hseconds] at hs
  exact ⟨t, _, by decide, by rw [hseconds]; rfl, hs, rfl⟩

end IdentityClaims
