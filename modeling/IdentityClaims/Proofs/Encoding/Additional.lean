import IdentityClaims.Proofs.Values.TextPairs

/-!
# What additional claims travel as

The portable form of additional claims that travel is a map. Its keys are text, whatever the keys
were before, and a key that came twice is there once. `ClaimSet.DumpsTo` names the entries of that
map. Main statement: `ClaimSet.additionalEntries_eq_ok_iff`.
-/

namespace IdentityClaims

theorem exists_textPairs_of_portableEntries {entries es : List (Data × Data)}
    (h : Data.portableEntries entries = .ok es) : ∃ pairs, es = textPairs pairs := by
  induction entries generalizing es with
  | nil =>
      cases h
      exact ⟨[], rfl⟩
  | cons e entries ih =>
      rw [Data.portableEntries] at h
      cases hk : e.1.portableKey with
      | error err => simp [hk] at h
      | ok key =>
          cases hv : e.2.portable with
          | error err => simp [hk, hv] at h
          | ok v =>
              simp only [hk, hv] at h
              obtain ⟨rest, hrest, rfl⟩ := Checked.map_eq_ok_iff.1 h
              obtain ⟨pairs, rfl⟩ := ih hrest
              exact ⟨(key, v) :: pairs, rfl⟩

theorem exists_ofEntries_of_portableEntries {entries : List (Data × Data)} {d : Data}
    (h : (Data.portableEntries entries).map .ofPairs = .ok d) :
    ∃ pairs, d = .ofEntries pairs ∧ (pairKeys pairs).Nodup := by
  obtain ⟨es, hes, rfl⟩ := Checked.map_eq_ok_iff.1 h
  obtain ⟨pairs, rfl⟩ := exists_textPairs_of_portableEntries hes
  exact ⟨_, ofPairs_textPairs pairs, Entries.nodup_keys_ofPairs pairs⟩

theorem exists_ofEntries_of_portable_data {d : Data} {es : List (Data × Data)}
    (h : d.portable = .ok (.map es)) :
    ∃ pairs, es = textPairs pairs ∧ (pairKeys pairs).Nodup := by
  cases d with
  | map entries =>
      rw [Data.portable] at h
      obtain ⟨pairs, hpairs, hn⟩ := exists_ofEntries_of_portableEntries h
      exact ⟨pairs, Data.map.inj hpairs, hn⟩
  | float x => cases x <;> cases h
  | bytes bs =>
      obtain ⟨s, -, hs⟩ := Checked.map_eq_ok_iff.1 h
      cases hs
  | list items =>
      obtain ⟨ds, -, hds⟩ := Checked.map_eq_ok_iff.1 h
      cases hds
  | _ => cases h

theorem exists_textPairs_of_portable {h : Held} {keepNull : Bool} {es : List (Data × Data)}
    (hport : h.portable keepNull = .ok (.map es)) :
    ∃ pairs, es = textPairs pairs ∧ (pairKeys pairs).Nodup := by
  cases h with
  | data d =>
      cases d with
      | float x => cases hport
      | _ => exact exists_ofEntries_of_portable_data hport
  | record r =>
      obtain ⟨pairs, hpairs, hn⟩ := exists_ofEntries_of_portableEntries hport
      exact ⟨pairs, Data.map.inj hpairs, hn⟩
  | _ => cases hport

namespace ClaimSet

variable {s : ClaimSet} {extra : FlatMap}

/-- What the additional claims of a claim set travel as: nothing if there are none, and the entries
of a map otherwise. -/
inductive DumpsTo (s : ClaimSet) : FlatMap → Prop
  | absent (h : s.additional = .data .null) : DumpsTo s []
  | mapping {extra : FlatMap} (h : s.additional.portable true = .ok (.ofEntries extra)) :
      DumpsTo s extra

theorem DumpsTo.nodup (h : s.DumpsTo extra) : (pairKeys extra).Nodup := by
  cases h with
  | absent h => exact .nil
  | mapping h =>
      obtain ⟨pairs, hpairs, hn⟩ := exists_textPairs_of_portable h
      exact textPairs_injective hpairs ▸ hn

/-- Encoding finds the entries that the additional claims travel as, and no others. -/
theorem additionalEntries_eq_ok_iff : s.additionalEntries = .ok extra ↔ s.DumpsTo extra := by
  unfold additionalEntries
  constructor
  · intro h
    split at h
    · rename_i habsent
      cases h
      exact .absent habsent
    · split at h
      · cases h
      · rename_i entries hport
        cases h
        obtain ⟨pairs, rfl, -⟩ := exists_textPairs_of_portable hport
        rw [textEntries_textPairs]
        exact .mapping hport
      · cases h
  · intro h
    cases h with
    | absent h => simp only [h]
    | mapping h =>
        have hne : s.additional ≠ .data .null := by
          intro habsent
          rw [habsent] at h
          cases h
        split
        · contradiction
        · rw [h, ofEntries_eq]
          simp only [textEntries_textPairs]

end ClaimSet

end IdentityClaims
