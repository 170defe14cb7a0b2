import IdentityClaims.Proofs.Encoding.Layout
import IdentityClaims.Proofs.Values.Shape

/-!
# What a standard claim travels as

`ClaimSet.TravelsAs` says which entries a standard claim puts into a flat map, claim by claim and
without a look at the other claims. Main statement: `TravelsAs.claimEntries_eq`, encoding writes
exactly these entries, because tags that differ make keys that differ.
-/

namespace IdentityClaims

namespace ClaimSet

variable {s : ClaimSet} {policy : Policy}

structure VariantTravels (c : LocalizedClaim) (v : Label × Data) (e : TextPair) : Prop where
  key : ∃ tag, v.1 = .tag tag ∧ e.1 = FlatKey.join c.key tag
  value : writeVariant v.2 = .ok e.2

/-- The entries of a standard claim in a flat map: none if it is not set, one for a plain claim or
the time of the last update, and one for each variant of a localized claim, in order. -/
inductive TravelsAs (s : ClaimSet) (policy : Policy) : Claim → FlatMap → Prop
  | unset {c : PlainClaim} (h : s.plain c = none) (hr : c.isRequired = false) :
      TravelsAs s policy (.plain c) []
  | plain {c : PlainClaim} {v : Held} {d : Data} (h : s.plain c = some v) (hd : c.write v = .ok d) :
      TravelsAs s policy (.plain c) [(c.key, d)]
  | localized {c : LocalizedClaim} {m : FlatMap}
      (h : List.Forall₂ (VariantTravels c) (s.localized c).variants m) :
      TravelsAs s policy (.localized c) m
  | untimed (h : s.updatedAt = none) : TravelsAs s policy .updatedAt []
  | timed {t : Instant} (h : s.updatedAt = some t) :
      TravelsAs s policy .updatedAt [(Claim.updatedAt.key, .int (t.toSeconds policy.rounding))]

/-- A claim that a claim set with a subject does not have is one that it need not have. -/
theorem isRequired_eq_false_of_unset {c : PlainClaim} (hsub : (s.plain .sub).isSome = true)
    (h : s.plain c = none) : c.isRequired = false := by
  simp only [PlainClaim.isRequired, decide_eq_false_iff_not]
  rintro rfl
  simp [h] at hsub

theorem variantEntries_of_travelling {c : LocalizedClaim} {vs : List (Label × Data)} {m : FlatMap}
    (h : List.Forall₂ (VariantTravels c) vs m) : variantEntries c vs = .ok m := by
  induction h with
  | nil => rfl
  | @cons v e vs m hve _ ih =>
      obtain ⟨⟨tag, htag, hkey⟩, hd⟩ := hve
      rw [variantEntries, hd, ih]
      refine congrArg (fun e => Except.ok (e :: m)) (Prod.ext ?_ rfl)
      rw [htag, hkey]
      rfl

theorem TravelsAs.claimEntries_eq {c : Claim} {m : FlatMap} (h : s.TravelsAs policy c m) :
    s.claimEntries policy c = .ok m := by
  cases h with
  | unset h hr => simp [claimEntries, h, hr]
  | plain h hd => simp [claimEntries, h, hd]
  | @localized c m h =>
      have htags : ∀ v ∈ (s.localized c).variants, ∃ tag, v.1 = .tag tag := by
        intro v hv
        obtain ⟨e, -, hve⟩ := exists_of_forall₂ h.flip v hv
        obtain ⟨tag, htag, -⟩ := hve.key
        exact ⟨tag, htag⟩
      have hentries := variantEntries_of_travelling h
      -- so the map of the entries keeps every one of them
      have hn : (pairKeys m).Nodup := by
        rw [keys_variantEntries hentries]
        exact nodup_join_travelling c htags
      rw [claimEntries, hentries]
      exact congrArg Except.ok (Entries.ofPairs_of_nodup hn)
  | untimed h => simp [claimEntries, h]
  | timed h => simp [claimEntries, h, writeTime]

end ClaimSet

end IdentityClaims
