import IdentityClaims.Proofs.Values.Record
import IdentityClaims.Schema.Basic
import Mathlib.Data.List.Perm.Basic

/-!
# Checking and the order of entries

The entries of a map with distinct keys are checked one by one or found by their keys, so a check
does not depend on their order: it succeeds in one order if it does in another, and what it returns
lists the same entries. `Held.Reorders` relates two such values. Nothing is known of a type of the
caller's own, which may look at the order; main statement: `Schema.ignoresOrder_of_ne_own`, every
other type does not.
-/

namespace IdentityClaims

namespace Held

/-- Two values that differ at most in the order in which a map, the variants of a localized claim or
the members and extra keys of a record are listed. -/
inductive Reorders : Held → Held → Prop
  | refl (h : Held) : Reorders h h
  | map {es fs : List (Data × Data)} (h : es.Perm fs) : Reorders (.data (.map es)) (.data (.map fs))
  | variants {l l' : Localized Data} (h : l.variants.Perm l'.variants) :
      Reorders (.variants l) (.variants l')
  | record {r r' : Record} (ht : r.type = r'.type) (hv : r.values.Perm r'.values)
      (he : r.extras.Perm r'.extras) : Reorders (.record r) (.record r')

end Held

section Same

/-- A map that is the same as itself is the same in any order of its entries. -/
theorem Data.same_map_of_perm_self {es fs : List (Data × Data)} (h : es.Perm fs)
    (hself : (Data.map fs).same (.map fs) = true) : (Data.map es).same (.map fs) = true := by
  rw [Data.same, Bool.and_eq_true, Data.sameEntries_iff] at hself ⊢
  constructor
  · simp [h.length_eq]
  · intro e he
    exact hself.2 e (h.mem_iff.1 he)

theorem Data.same_ofEntries_of_perm_self {ps qs : List TextPair} (h : ps.Perm qs)
    (hself : (Data.ofEntries qs).same (.ofEntries qs) = true) :
    (Data.ofEntries ps).same (.ofEntries qs) = true := by
  apply Data.same_map_of_perm_self _ hself
  exact h.map _

theorem Localized.same_of_perm_self {eq : Data → Data → Bool} {l l' : Localized Data}
    (h : l.variants.Perm l'.variants) (hself : l'.same eq l' = true) : l.same eq l' = true := by
  rw [Localized.same, Bool.and_eq_true, List.all_eq_true] at hself ⊢
  constructor
  · simp [Localized.size, h.length_eq]
  · intro v hv
    exact hself.2 v (h.mem_iff.1 hv)

/-- Values that differ in order only are the same, if they can be the same as anything. -/
theorem Held.Reorders.same {a b : Held} (h : a.Reorders b) (hb : b.same b = true) :
    a.same b = true := by
  cases h with
  | refl => exact hb
  | map h => exact Data.same_map_of_perm_self h hb
  | variants h => exact Localized.same_of_perm_self h hb
  | record ht hv he =>
      simp only [Held.same, Record.same, Bool.and_eq_true] at hb ⊢
      refine ⟨⟨?_, ?_⟩, ?_⟩
      · simp [ht]
      · exact Data.same_ofEntries_of_perm_self hv hb.1.2
      · exact Data.same_ofEntries_of_perm_self he hb.2

end Same

def Schema.IgnoresOrder (A : Schema) : Prop :=
  ∀ ps qs : List TextPair, ps.Perm qs → (pairKeys ps).Nodup → ∀ h,
    A.check .lenient (.ofEntries ps) = .ok h →
      ∃ k, A.check .lenient (.ofEntries qs) = .ok k ∧ h.Reorders k

variable {ps qs : List TextPair} {mode : Strictness}

theorem Checked.all_map_perm {α β : Type} {check : α → Checked β} {xs ys : List α} {vs : List β}
    (h : xs.Perm ys) (hvs : Checked.all (xs.map check) = .ok vs) :
    ∃ ws, Checked.all (ys.map check) = .ok ws ∧ vs.Perm ws := by
  rw [Checked.all_map_eq_ok_iff] at hvs
  obtain ⟨ws, hws, hperm⟩ := List.perm_comp_forall₂ h.symm hvs
  exact ⟨ws, Checked.all_map_eq_ok_iff.2 hws, hperm.symm⟩

/-! ## Maps -/

theorem checkEntries_perm {check : Data → Checked Data} {vs : List TextPair} (h : ps.Perm qs)
    (hvs : checkEntries mode check (textPairs ps) = .ok (textPairs vs)) :
    ∃ ws, checkEntries mode check (textPairs qs) = .ok (textPairs ws) ∧ vs.Perm ws := by
  rw [checkEntries_textPairs] at hvs
  obtain ⟨ws, hws, hperm⟩ := List.perm_comp_forall₂ h.symm hvs
  exact ⟨ws, checkEntries_textPairs.2 hws, hperm.symm⟩

theorem Shape.check_perm {s : Shape} {v : Data} (hp : ps.Perm qs) (hn : (pairKeys ps).Nodup)
    (h : s.check mode (.map (textPairs ps)) = .ok v) :
    ∃ w, s.check mode (.map (textPairs qs)) = .ok w ∧ (Held.data v).Reorders (.data w) := by
  induction s with
  | any =>
      cases h
      exact ⟨_, rfl, .map (hp.map _)⟩
  | optional s ih =>
      rw [check_optional_of_ne_null (by nofun)] at h
      obtain ⟨w, hw, hvw⟩ := ih h
      exact ⟨w, by rwa [check_optional_of_ne_null (by nofun)], hvw⟩
  | mapOf s =>
      obtain ⟨es, hes, rfl⟩ := Checked.map_eq_ok_iff.1 h
      obtain ⟨vs, rfl, -⟩ := exists_textPairs_of_checkEntries hes
      obtain ⟨ws, hws, hperm⟩ := checkEntries_perm hp hes
      have hvs : (pairKeys vs).Nodup := pairKeys_of_checkEntries hes ▸ hn
      have hnws : (pairKeys ws).Nodup := (pairKeys_perm hperm).nodup_iff.1 hvs
      refine ⟨_, Checked.map_eq_ok_iff.2 ⟨_, hws, rfl⟩, ?_⟩
      rw [ofPairs_textPairs_of_nodup hvs, ofPairs_textPairs_of_nodup hnws]
      exact .map (hperm.map _)
  | _ => cases mode <;> cases h

/-! ## Records -/

section Records

variable {t : RecordType} {m : Member} {byName : Bool}

theorem valueOf?_perm (hp : ps.Perm qs) (hn : (pairKeys ps).Nodup) (key : String) :
    Data.valueOf? (textPairs ps) key = Data.valueOf? (textPairs qs) key := by
  rw [valueOf?_textPairs, valueOf?_textPairs, Entries.get?_perm hp hn]

theorem Member.find?_perm (hp : ps.Perm qs) (hn : (pairKeys ps).Nodup) :
    m.find? byName (textPairs ps) = m.find? byName (textPairs qs) := by
  rw [find?, find?, valueOf?_perm hp hn, valueOf?_perm hp hn]

theorem Member.check_perm (hp : ps.Perm qs) (hn : (pairKeys ps).Nodup) :
    m.check mode byName (textPairs ps) = m.check mode byName (textPairs qs) := by
  rw [check, check, find?_perm hp hn]

theorem RecordType.usedKeys_perm (hp : ps.Perm qs) (hn : (pairKeys ps).Nodup) :
    t.usedKeys (textPairs ps) = t.usedKeys (textPairs qs) := by
  simp only [usedKeys, Member.find?_perm hp hn]

theorem RecordType.checkExtras_perm {es : List TextPair} (hp : ps.Perm qs)
    (hn : (pairKeys ps).Nodup) (h : t.checkExtras (textPairs ps) = .ok es) :
    ∃ fs, t.checkExtras (textPairs qs) = .ok fs ∧ es.Perm fs := by
  by_cases hd : t.extras = .dropped
  · rw [checkExtras, if_pos hd] at h ⊢
    exact ⟨es, h, .refl es⟩
  · -- the members use the same keys in both orders, so the same entries are left
    rw [checkExtras, if_neg hd, unused_textPairs, usedKeys_perm hp hn] at h
    rw [checkExtras, if_neg hd, unused_textPairs]
    exact Checked.all_map_perm ((hp.filter _).map _) h

theorem RecordType.check_perm {r : Record} (hp : ps.Perm qs) (hn : (pairKeys ps).Nodup)
    (h : t.check mode (.map (textPairs ps)) = .ok r) :
    ∃ r', t.check mode (.map (textPairs qs)) = .ok r' ∧
      (Held.record r).Reorders (.record r') := by
  rw [check, checkEntries, Checked.map_eq_ok_iff] at h
  obtain ⟨⟨values, extras⟩, hboth, rfl⟩ := h
  obtain ⟨hvalues, hextras⟩ := Checked.both_eq_ok_iff.1 hboth
  obtain ⟨extras', hextras', hperm⟩ := checkExtras_perm hp hn hextras
  simp only [Member.check_perm hp hn] at hvalues
  refine ⟨{ type := t, values, extras := extras' }, ?_, .record rfl (.refl _) hperm⟩
  rw [check, checkEntries, Checked.map_eq_ok_iff]
  exact ⟨(values, extras'), Checked.both_eq_ok_iff.2 ⟨hvalues, hextras'⟩, rfl⟩

end Records

/-- Every type but one of the caller's own ignores the order of the entries. -/
theorem Schema.ignoresOrder_of_ne_own {A : Schema} (hA : ∀ name check, A ≠ .own name check) :
    A.IgnoresOrder := by
  intro ps qs hp hn h hcheck
  cases A with
  | shape s =>
      obtain ⟨v, hv, rfl⟩ := Checked.map_eq_ok_iff.1 hcheck
      obtain ⟨w, hw, hvw⟩ := Shape.check_perm hp hn hv
      exact ⟨_, Checked.map_eq_ok_iff.2 ⟨w, hw, rfl⟩, hvw⟩
  | wrapped name => cases hcheck
  | choice name options => cases hcheck
  | record t =>
      obtain ⟨r, hr, rfl⟩ := Checked.map_eq_ok_iff.1 hcheck
      obtain ⟨r', hr', hrr⟩ := RecordType.check_perm hp hn hr
      exact ⟨_, Checked.map_eq_ok_iff.2 ⟨r', hr', rfl⟩, hrr⟩
  | own name check => exact absurd rfl (hA name check)

end IdentityClaims
