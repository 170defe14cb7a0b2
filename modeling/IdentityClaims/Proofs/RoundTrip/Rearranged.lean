import IdentityClaims.Proofs.Decoding.Acceptance
import IdentityClaims.Proofs.RoundTrip.Domain

/-!
# Decoding a rearranged flat map

What a claim set is encoded to may be rearranged before it is decoded again: its pairs may come in
any order, and so may the entries of the maps in it. `Decoder.Restores` says what comes back. Main
statement: `Decoder.Types.exists_restored`.
-/

namespace IdentityClaims

/-- What decoding gives back of a claim set, from pairs that list its entries with their values
rearranged: every value rearranged, and variants and additional entries in the order of the pairs. -/
structure Decoder.Restores (d : Decoder) (f : Data → Data) (x : ClaimSet) (pairs : List TextPair)
    (y : ClaimSet) : Prop where
  plain : ∀ c, y.plain c = (x.plain c).map (Held.mapData f)
  localized : ∀ c, (y.localized c).variants =
    (pairsOf (.localized c) pairs).map fun e => (.tag (FlatKey.split e.1).2, e.2)
  updatedAt : y.updatedAt.map Instant.micros =
    x.updatedAt.map fun t => t.toSeconds d.policy.rounding * microsPerSecond
  additional : y.additional = x.additional.refill f (unrecognized pairs)

section Perm

variable {ps qs : List TextPair} {f : Data → Data}

theorem pairsOf_perm (h : ps.Perm (mapValues f qs)) (c : Claim) :
    (pairsOf c ps).Perm (mapValues f (pairsOf c qs)) := by
  have hfilter := h.filter fun e => Claim.owner? e.1 = some c
  rwa [filter_mapValues fun k => decide (Claim.owner? k = some c)] at hfilter

theorem unrecognized_perm (h : ps.Perm (mapValues f qs)) :
    (unrecognized ps).Perm (mapValues f (unrecognized qs)) := by
  have hfilter := h.filter fun e => Claim.owner? e.1 = none
  rwa [filter_mapValues fun k => decide (Claim.owner? k = none)] at hfilter

end Perm

namespace Decoder.Types

variable {num : Binary64 → Prop} {d : Decoder} {x y : ClaimSet} {f : Data → Data}
  {ps : List TextPair}

section Entries

/-! The pairs that belong to a claim are what the claim travels as, rearranged. -/

variable (h : d.Types num x) (hd : d.Faithful) (hnum : ∀ z, num z → z.magnitude?.isSome = true)
  (hps : ps.Perm (mapValues f (flatOf (x.carried d.policy) x.additional.entries)))

include h hd hnum hps

theorem pairsOf_perm_carried (c : Claim) :
    (pairsOf c ps).Perm (mapValues f (x.carried d.policy c)) := by
  have hperm := pairsOf_perm hps c
  rwa [(h.encode_eq hd hnum).1.pairsOf_flatOf] at hperm

theorem unrecognized_perm_entries :
    (unrecognized ps).Perm (mapValues f x.additional.entries) := by
  have hperm := unrecognized_perm hps
  rwa [(h.encode_eq hd hnum).1.unrecognized_flatOf] at hperm

theorem nodup_rearranged : (pairKeys ps).Nodup :=
  nodup_of_perm_mapValues hps (h.encode_eq hd hnum).1.nodup_flatOf

theorem mem_iff_of_owner {key : String} {raw : Data} {c : Claim}
    (ho : Claim.owner? key = some c) :
    (key, raw) ∈ ps ↔ (key, raw) ∈ mapValues f (x.carried d.policy c) := by
  rw [← (h.pairsOf_perm_carried hd hnum hps c).mem_iff]
  exact ⟨fun he => List.mem_filter.2 ⟨he, decide_eq_true ho⟩, fun he => (List.mem_filter.1 he).1⟩

/-- The pairs of a plain claim: what its value travels as. -/
theorem mem_plain_iff (c : PlainClaim) (raw : Data) :
    (c.key, raw) ∈ ps ↔ ∃ v, x.plain c = some v ∧ raw = f v.carried := by
  rw [h.mem_iff_of_owner hd hnum hps (Decoder.owner?_plain_key c), ClaimSet.carried]
  cases x.plain c <;> simp [mapValues]

theorem mem_time_iff (hf : Data.Rearranging f) (raw : Data) :
    (Claim.updatedAt.key, raw) ∈ ps ↔
      ∃ t, x.updatedAt = some t ∧ raw = writeTime d.policy t := by
  rw [h.mem_iff_of_owner hd hnum hps (Claim.owner?_key .updatedAt), ClaimSet.carried]
  cases x.updatedAt <;> simp [mapValues, writeTime, hf.int]

theorem of_mem_localized (hf : Data.Rearranging f) {key : String} {raw : Data}
    {c : LocalizedClaim} (he : (key, raw) ∈ ps) (ho : Claim.owner? key = some (.localized c)) :
    ∃ tag text, key = FlatKey.join c.key tag ∧ raw = .text text ∧
      Intake.acceptsTag d.policy tag = true := by
  rw [h.mem_iff_of_owner hd hnum hps ho, ClaimSet.carried] at he
  obtain ⟨w, hw, hwe⟩ := List.mem_map.1 he
  obtain ⟨v, hv, rfl⟩ := List.mem_map.1 hw
  obtain ⟨tag, text, rfl, htag⟩ := h.variants c v hv
  rw [Prod.mk.injEq, hf.text] at hwe
  exact ⟨tag, text, hwe.1.symm, hwe.2.symm, htag⟩

end Entries

/-- The pairs that a localized claim travels as give back its variants. -/
theorem variants_carried (h : d.Types num x) (hf : Data.Rearranging f) (c : LocalizedClaim) :
    (mapValues f (x.carried d.policy (.localized c))).map
      (fun e => (Label.tag (FlatKey.split e.1).2, e.2)) = (x.localized c).variants := by
  rw [ClaimSet.carried, mapValues, List.map_map, List.map_map]
  refine (List.map_congr_left fun v hv => ?_).trans (List.map_id _)
  obtain ⟨tag, text, rfl, -⟩ := h.variants c v hv
  have hsplit := Claim.split_join_key (.localized c) tag
  rw [Claim.key_localized] at hsplit
  simp [Label.travelling, hsplit, hf.text]

/-- What a plain claim travels as, rearranged, is read as the rearranged value. -/
theorem read_carried (h : d.Types num x) (hd : d.Faithful) (hf : Data.Rearranging f)
    {c : PlainClaim} {v : Held} (hv : x.plain c = some v) :
    c.read d.policy d.genderType (f v.carried) = .ok (v.mapData f) :=
  PlainClaim.read_eq_ok_iff.2 ((h.plain c v hv).check_carried (restoresNull_schema hd.gender c) hf
    (strictness_or_shape c d.policy d.genderType))

theorem isAbsence_carried (h : d.Types num x) (hd : d.Faithful) (hf : Data.Rearranging f)
    {c : PlainClaim} {v : Held} (hv : x.plain c = some v) :
    c.isAbsence (f v.carried) = false := by
  have hnull := (h.plain c v hv).isNull_carried (restoresNull_schema hd.gender c) hf
  rw [PlainClaim.isAbsence, hnull, Bool.false_and]

theorem readVariant_text (policy : Policy) (text : String) :
    readVariant policy (.text text) = .ok (.text text) := by
  rw [readVariant_eq_ok_iff, Shape.check, checkText_text]
  rfl

section Decoding

variable (h : d.Types num x) (hd : d.Faithful) (hnum : ∀ z, num z → z.magnitude?.isSome = true)
  (hf : Data.Rearranging f)
  (hps : ps.Perm (mapValues f (flatOf (x.carried d.policy) x.additional.entries)))

include h hd hnum hf hps

theorem accepts_rearranged : d.Accepts ps where
  distinct := h.nodup_rearranged hd hnum hps
  untagged e he c ho hc := by
    obtain ⟨w, hw, -⟩ := mem_mapValues.1 ((h.mem_iff_of_owner hd hnum hps ho).1 he)
    rw [ClaimSet.key_of_mem_carried hc hw, Claim.split_key]
  tags e he c tag ho ht := by
    obtain ⟨tag', text, hkey, -, htag⟩ := h.of_mem_localized hd hnum hps hf he ho
    rw [hkey, ← Claim.key_localized, Claim.split_join_key] at ht
    rwa [show tag' = some tag from ht] at htag
  variants e he c ho := by
    obtain ⟨tag, text, -, hraw, -⟩ := h.of_mem_localized hd hnum hps hf he ho
    exact ⟨_, hraw ▸ readVariant_text d.policy text⟩
  plain c raw he _ := by
    obtain ⟨v, hv, rfl⟩ := (h.mem_plain_iff hd hnum hps c raw).1 he
    exact ⟨_, h.read_carried hd hf hv⟩
  time raw he _ := by
    obtain ⟨t, -, rfl⟩ := (h.mem_time_iff hd hnum hps hf raw).1 he
    obtain ⟨u, hu, -⟩ := readTime_writeTime hd.rounding t
    exact ⟨u, hu⟩
  subject := by
    obtain ⟨v, hv⟩ := Option.isSome_iff_exists.1 h.subject
    exact mem_pairKeys_of_mem ((h.mem_plain_iff hd hnum hps .sub _).2 ⟨v, hv, rfl⟩)
  additional := ⟨_, h.additional.check_entries hd.additional hf
    (h.unrecognized_perm_entries hd hnum hps) .lenient⟩

theorem restores_of_yields (hy : d.Yields ps y) : d.Restores f x ps y where
  plain c := by
    obtain ⟨v?, hv, hyc⟩ := hy.plain c
    cases hx : x.plain c with
    | none =>
        have hunset := hv.unset fun raw hr => by
          obtain ⟨v, hv, -⟩ := (h.mem_plain_iff hd hnum hps c raw).1 hr
          simp [hx] at hv
        rw [hyc, hunset]
        rfl
    | some v =>
        obtain ⟨w, hw, rfl⟩ := hv.set _ ((h.mem_plain_iff hd hnum hps c _).2 ⟨v, hx, rfl⟩)
          (h.isAbsence_carried hd hf hx)
        rw [h.read_carried hd hf hx, Except.ok.injEq] at hw
        rw [hyc, ← hw]
        exact (h.plain c v hx).settled_mapData (restoresNull_schema hd.gender c) hf
  localized c := by
    have hraw : ∀ e ∈ pairsOf (.localized c) ps, readVariant d.policy e.2 = .ok e.2 := by
      intro e he
      obtain ⟨hmem, ho⟩ := List.mem_filter.1 he
      obtain ⟨tag, text, -, hraw, -⟩ :=
        h.of_mem_localized hd hnum hps hf hmem (of_decide_eq_true ho)
      exact hraw ▸ readVariant_text d.policy text
    rw [eq_comm, ← List.forall₂_eq_eq_eq, List.forall₂_map_left_iff]
    refine ((List.forall₂_and_left _ _).2 ⟨hraw, hy.variants c⟩).imp ?_
    rintro e v ⟨hread, hlabel, hv⟩
    rw [hread, Except.ok.injEq] at hv
    exact Prod.ext hlabel.symm hv
  updatedAt := by
    cases hx : x.updatedAt with
    | none =>
        have hunset := hy.time.unset fun raw hr => by
          obtain ⟨t, ht, -⟩ := (h.mem_time_iff hd hnum hps hf raw).1 hr
          simp [hx] at ht
        rw [hunset]
        rfl
    | some t =>
        obtain ⟨u, hu, hmicros⟩ := readTime_writeTime hd.rounding t
        obtain ⟨w, hw, hyt⟩ :=
          hy.time.set _ ((h.mem_time_iff hd hnum hps hf _).2 ⟨t, hx, rfl⟩) rfl
        rw [hu, Except.ok.injEq] at hw
        rw [hyt, ← hw]
        exact congrArg some hmicros
  additional := by
    have hcheck := h.additional.check_entries hd.additional hf
      (h.unrecognized_perm_entries hd hnum hps) .lenient
    exact Except.ok.inj (hy.additional.symm.trans hcheck)

theorem exists_restored : ∃ y, d.decode (textPairs ps) = .ok y ∧ d.Restores f x ps y := by
  obtain ⟨y, hy⟩ := Decoder.decode_ok_iff_accepts.2 (h.accepts_rearranged hd hnum hf hps)
  exact ⟨y, hy, h.restores_of_yields hd hnum hf hps (Decoder.yields_of_decode hy)⟩

end Decoding

end Decoder.Types

end IdentityClaims
