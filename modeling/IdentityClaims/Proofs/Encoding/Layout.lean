import IdentityClaims.Proofs.Decoding.Intake

/-!
# How a flat map is laid out

Encoding puts the entries of the standard claims one claim after the other, in the order of
`Claim.all`, and the additional entries behind them. Every entry of a claim has a key that belongs
to the claim, so a flat map comes apart again: the pairs that belong to a claim are its entries, the
pairs that belong to none are the additional entries, and no key is repeated.
-/

namespace IdentityClaims

section FlatOf

variable {es : Claim → FlatMap} {extra : FlatMap} {cs : List Claim} {c : Claim}

def flatOf (es : Claim → FlatMap) (extra : FlatMap) : FlatMap := Claim.all.flatMap es ++ extra

/-- Every claim has entries under distinct keys of its own, and the additional keys belong to no
claim. -/
structure LaidOut (es : Claim → FlatMap) (extra : FlatMap) : Prop where
  owned : ∀ c, ∀ e ∈ es c, Claim.owner? e.1 = some c
  free : ∀ e ∈ extra, Claim.owner? e.1 = none
  distinct : ∀ c, (pairKeys (es c)).Nodup
  distinct_extra : (pairKeys extra).Nodup

theorem pairsOf_flatMap (hown : ∀ c, ∀ e ∈ es c, Claim.owner? e.1 = some c) (hn : cs.Nodup) :
    pairsOf c (cs.flatMap es) = if c ∈ cs then es c else [] := by
  induction cs with
  | nil => rfl
  | cons c' cs ih =>
      obtain ⟨hc', hcs⟩ := List.nodup_cons.1 hn
      have hrest := ih hcs
      rw [pairsOf] at hrest
      rw [List.flatMap_cons, pairsOf, List.filter_append, hrest]
      by_cases hcc : c = c'
      · subst hcc
        have hall : (es c).filter (fun e => Claim.owner? e.1 = some c) = es c :=
          List.filter_eq_self.2 fun e he => decide_eq_true (hown c e he)
        simp [hall, hc']
      · have hnone : (es c').filter (fun e => Claim.owner? e.1 = some c) = [] := by
          refine List.filter_eq_nil_iff.2 fun e he => ?_
          simp [hown c' e he, Ne.symm hcc]
        simp [hnone, hcc]

theorem owner?_of_mem_flatMap (hown : ∀ c, ∀ e ∈ es c, Claim.owner? e.1 = some c) {e : TextPair}
    (he : e ∈ cs.flatMap es) : ∃ c, Claim.owner? e.1 = some c := by
  obtain ⟨c, -, hc⟩ := List.mem_flatMap.1 he
  exact ⟨c, hown c e hc⟩

namespace LaidOut

variable (h : LaidOut es extra)

include h

theorem pairsOf_flatOf (c : Claim) : pairsOf c (flatOf es extra) = es c := by
  have hextra : pairsOf c extra = [] :=
    List.filter_eq_nil_iff.2 fun e he => by simp [h.free e he]
  have hall := pairsOf_flatMap h.owned Claim.nodup_all (c := c)
  rw [pairsOf] at hall hextra
  rw [flatOf, pairsOf, List.filter_append, hall, hextra, if_pos (Claim.mem_all c), List.append_nil]

theorem unrecognized_flatOf : unrecognized (flatOf es extra) = extra := by
  have hstandard : (Claim.all.flatMap es).filter (fun e => Claim.owner? e.1 = none) = [] := by
    refine List.filter_eq_nil_iff.2 fun e he => ?_
    obtain ⟨c, hc⟩ := owner?_of_mem_flatMap h.owned he
    simp [hc]
  have hextra : extra.filter (fun e => Claim.owner? e.1 = none) = extra :=
    List.filter_eq_self.2 fun e he => decide_eq_true (h.free e he)
  rw [flatOf, unrecognized, List.filter_append, hstandard, hextra, List.nil_append]

theorem nodup_flatOf : (pairKeys (flatOf es extra)).Nodup := by
  have hkeys : pairKeys (flatOf es extra) =
      (Claim.all.flatMap fun c => pairKeys (es c)) ++ pairKeys extra := by
    simp [flatOf, pairKeys, List.map_flatMap]
  rw [hkeys, List.nodup_append, List.nodup_flatMap]
  refine ⟨⟨fun c _ => h.distinct c, Claim.nodup_all.imp fun {c c'} hcc => ?_⟩, h.distinct_extra,
    fun k hk k' hk' hkk => ?_⟩
  · -- a key in the entries of two claims would belong to both
    intro k hk hk'
    obtain ⟨e, he, rfl⟩ := List.mem_map.1 hk
    obtain ⟨e', he', hee⟩ := List.mem_map.1 hk'
    have howner := h.owned c' e' he'
    rw [hee, h.owned c e he, Option.some_inj] at howner
    exact hcc howner
  · obtain ⟨c, -, hc⟩ := List.mem_flatMap.1 hk
    obtain ⟨e, he, rfl⟩ := List.mem_map.1 hc
    obtain ⟨e', he', rfl⟩ := List.mem_map.1 hk'
    have howner := h.owned c e he
    rw [hkk, h.free e' he'] at howner
    cases howner

end LaidOut

end FlatOf

namespace ClaimSet

variable {s : ClaimSet} {policy : Policy} {es : Claim → FlatMap} {extra : FlatMap}

/-- The keys of the variants of a claim are the claim's key joined with the tags they travel
under. -/
theorem keys_variantEntries {c : LocalizedClaim} {vs : List (Label × Data)} {m : FlatMap}
    (h : variantEntries c vs = .ok m) :
    pairKeys m = vs.map fun v => FlatKey.join c.key v.1.travelling := by
  induction vs generalizing m with
  | nil =>
      cases h
      rfl
  | cons v vs ih =>
      cases hv : writeVariant v.2 with
      | error e => simp [variantEntries, hv] at h
      | ok d =>
          cases hvs : variantEntries c vs with
          | error e => simp [variantEntries, hv, hvs, Except.map] at h
          | ok rest =>
              simp only [variantEntries, hv, hvs, Except.map, Except.ok.injEq] at h
              have hrest := ih hvs
              rw [pairKeys] at hrest
              rw [← h, pairKeys, List.map_cons, List.map_cons, hrest]

theorem nodup_join_travelling (c : LocalizedClaim) {l : Localized Data}
    (h : ∀ v ∈ l.variants, ∃ tag, v.1 = .tag tag) :
    (l.variants.map fun v => FlatKey.join c.key v.1.travelling).Nodup := by
  refine List.pairwise_map.2 (l.distinct.imp_of_mem fun {v w} hv hw hvw => ?_)
  obtain ⟨tag, htag⟩ := h v hv
  obtain ⟨tag', htag'⟩ := h w hw
  rw [htag, htag', Label.same_tag] at hvw
  rw [htag, htag']
  intro hkey
  have heq : tag = tag' := (Claim.join_key_inj (c := .localized c)).1 hkey
  simp [heq] at hvw

theorem owned_claimEntries {c : Claim} {m : FlatMap} (h : s.claimEntries policy c = .ok m) :
    (∀ e ∈ m, Claim.owner? e.1 = some c) ∧ (pairKeys m).Nodup := by
  have hone (d : Data) : (∀ e ∈ [(c.key, d)], Claim.owner? e.1 = some c) ∧
      (pairKeys [(c.key, d)]).Nodup := by
    refine ⟨fun e he => ?_, by simp [pairKeys]⟩
    rw [List.mem_singleton.1 he]
    exact Claim.owner?_key c
  rcases c with c | c | _
  · rw [claimEntries] at h
    cases hv : s.plain c with
    | none =>
        by_cases hr : c.isRequired = true
        · simp [hv, hr] at h
        · simp only [hv, hr] at h
          cases h
          simp [pairKeys]
    | some v =>
        cases hw : c.write v with
        | error e => simp [hv, hw] at h
        | ok d =>
            simp only [hv, hw] at h
            cases h
            exact hone d
  · rw [claimEntries] at h
    cases hv : variantEntries c (s.localized c).variants with
    | error e => simp [hv, Except.map] at h
    | ok vs =>
        simp only [hv, Except.map, Except.ok.injEq] at h
        subst h
        refine ⟨fun e he => ?_, Entries.nodup_keys_ofPairs vs⟩
        have hkey : e.1 ∈ pairKeys vs := mem_pairKeys_of_mem (Entries.mem_of_mem_ofPairs he)
        rw [keys_variantEntries hv] at hkey
        obtain ⟨v, -, hve⟩ := List.mem_map.1 hkey
        rw [← hve]
        exact Claim.owner?_join (.localized c) v.1.travelling
  · rw [claimEntries] at h
    cases ht : s.updatedAt with
    | none =>
        simp only [ht] at h
        cases h
        simp [pairKeys]
    | some t =>
        simp only [ht] at h
        cases h
        exact hone _

theorem entriesOf_eq_ok {cs : List Claim} (h : ∀ c ∈ cs, s.claimEntries policy c = .ok (es c)) :
    s.entriesOf policy cs = .ok (cs.flatMap es) := by
  induction cs with
  | nil => rfl
  | cons c cs ih =>
      rw [entriesOf, h c List.mem_cons_self, ih fun c' hc' => h c' (List.mem_cons_of_mem _ hc'),
        List.flatMap_cons]
      rfl

theorem collisions_eq_nil (h : ∀ e ∈ extra, Claim.owner? e.1 = none) : collisions extra = [] := by
  refine List.filterMap_eq_nil_iff.2 fun e he => ?_
  have howner := h e he
  rw [Claim.owner?] at howner
  simp [howner]

/-- A claim set whose claims can all be written, and whose additional keys belong to no claim, is
encoded to the flat map of its entries. -/
theorem encode_eq_flatOf (hes : ∀ c, s.claimEntries policy c = .ok (es c))
    (hextra : s.additionalEntries = .ok extra) (hfree : ∀ e ∈ extra, Claim.owner? e.1 = none)
    (hn : (pairKeys extra).Nodup) :
    LaidOut es extra ∧ s.encode policy = .ok (flatOf es extra) := by
  have hlaid : LaidOut es extra :=
    ⟨fun c => (owned_claimEntries (hes c)).1, hfree, fun c => (owned_claimEntries (hes c)).2, hn⟩
  refine ⟨hlaid, ?_⟩
  have hstandard : s.standardEntries policy = .ok (Claim.all.flatMap es) :=
    entriesOf_eq_ok fun c _ => hes c
  have hput : Entries.putAll (Claim.all.flatMap es) extra = flatOf es extra :=
    Entries.putAll_of_nodup hlaid.nodup_flatOf
  have hmerge : merge policy.collisions (Claim.all.flatMap es) extra =
      .ok (Entries.putAll (Claim.all.flatMap es) extra) := by
    unfold merge
    rw [collisions_eq_nil hfree]
    cases policy.collisions <;> rfl
  rw [hput] at hmerge
  simp only [encode, hstandard, hextra, hmerge]

end ClaimSet

end IdentityClaims
