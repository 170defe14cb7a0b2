import IdentityClaims.Proofs.Decoding.Intake
import IdentityClaims.Proofs.Values.Shape

/-!
# Which pairs are decoded, and to what

`Decoder.Accepts` lists what decoding asks of the pairs of a flat map, and `Decoder.Yields` says
which claim set they amount to; neither looks at an intake. Main statement: the pairs are decoded to
a claim set exactly when the decoder accepts them and they yield that claim set, and accepted pairs
always yield one.
-/

namespace IdentityClaims

namespace Decoder

variable {d : Decoder} {pairs : List TextPair} {s t : ClaimSet} {p : Intake}

structure Accepts (d : Decoder) (pairs : List TextPair) : Prop where
  /-- No key occurs twice. -/
  distinct : (pairs.map Prod.fst).Nodup
  /-- A claim that is not localized has no tag. -/
  untagged : ∀ e ∈ pairs, ∀ c, Claim.owner? e.1 = some c → c.layout ≠ .localized →
    (FlatKey.split e.1).2 = none
  /-- The tags of a localized claim pass the check. -/
  tags : ∀ e ∈ pairs, ∀ c tag, Claim.owner? e.1 = some (.localized c) →
    (FlatKey.split e.1).2 = some tag → d.policy.tagCheck.accepts tag = true
  /-- The values of a localized claim are valid. -/
  variants : ∀ e ∈ pairs, ∀ c, Claim.owner? e.1 = some (.localized c) →
    ∃ v, readVariant d.policy e.2 = .ok v
  /-- The value of a plain claim is valid, unless it is null and the claim may be left out. -/
  plain : ∀ (c : PlainClaim) raw, (c.key, raw) ∈ pairs → c.isAbsence raw = false →
    ∃ v, c.read d.policy d.genderType raw = .ok v
  /-- The time of the last update is valid, unless it is null. -/
  time : ∀ raw, (Claim.updatedAt.key, raw) ∈ pairs → raw.isNull = false →
    ∃ t, readTime d.policy raw = .ok t
  /-- The subject is there. -/
  subject : PlainClaim.sub.key ∈ pairs.map Prod.fst
  /-- The map of the remaining pairs is valid as the additional claims. -/
  additional : ∃ h, d.additionalType.check .lenient (.ofEntries (unrecognized pairs)) = .ok h

/-- The claim set that the pairs of a flat map amount to. -/
structure Yields (d : Decoder) (pairs : List TextPair) (s : ClaimSet) : Prop where
  plain : ∀ c, ∃ v?, d.GivesPlain pairs c v? ∧ s.plain c = v?.bind ClaimSet.settled
  time : d.GivesTime pairs s.updatedAt
  variants : ∀ c, d.GivesVariants pairs c (s.localized c).variants
  additional :
    d.additionalType.check .lenient (.ofEntries (unrecognized pairs)) = .ok s.additional

/-! ## Pairs that fit -/

theorem owner?_plain_key (c : PlainClaim) : Claim.owner? c.key = some (.plain c) :=
  Claim.owner?_key (.plain c)

theorem fits_of_accepts (h : d.Accepts pairs) {e : TextPair} (he : e ∈ pairs) :
    d.Fits e.1 e.2 := by
  obtain ⟨key, raw⟩ := e
  unfold Fits
  rcases ho : Claim.owner? key with _ | ⟨c⟩ | ⟨c⟩ | _
  · trivial
  · have ht := h.untagged _ he _ ho (layout_plain_ne c)
    refine ⟨ht, ?_⟩
    have hkey : c.key = key := Claim.key_of_owner? ho ht
    subst hkey
    by_cases ha : c.isAbsence raw = true
    · exact .inl ha
    · exact .inr (h.plain c raw he (Bool.eq_false_iff.2 ha))
  · refine ⟨?_, h.variants _ he c ho⟩
    cases ht : (FlatKey.split key).2 with
    | none => rfl
    | some tag => exact h.tags _ he c tag ho ht
  · have ht := h.untagged _ he _ ho (by decide)
    refine ⟨ht, ?_⟩
    have hkey : Claim.updatedAt.key = key := Claim.key_of_owner? ho ht
    subst hkey
    by_cases hn : raw.isNull = true
    · exact .inl hn
    · exact .inr (h.time raw he (Bool.eq_false_iff.2 hn))

theorem accepts_of_fits (hn : (pairKeys pairs).Nodup) (hf : ∀ e ∈ pairs, d.Fits e.1 e.2)
    (hs : PlainClaim.sub.key ∈ pairKeys pairs)
    (ha : ∃ h, d.additionalType.check .lenient (.ofEntries (unrecognized pairs)) = .ok h) :
    d.Accepts pairs where
  distinct := hn
  untagged e he c ho hc := by
    have hfit := hf e he
    rw [Fits, ho] at hfit
    rcases c with c | c | _
    · exact hfit.1
    · exact absurd rfl hc
    · exact hfit.1
  tags e he c tag ho ht := by
    have hfit := hf e he
    rw [Fits, ho] at hfit
    simpa [ht, Intake.acceptsTag] using hfit.1
  variants e he c ho := by
    have hfit := hf e he
    rw [Fits, ho] at hfit
    exact hfit.2
  plain c raw he hr := by
    have hfit : d.Fits c.key raw := hf (c.key, raw) he
    rw [Fits, owner?_plain_key] at hfit
    simpa [hr] using hfit.2
  time raw he hr := by
    have hfit : d.Fits Claim.updatedAt.key raw := hf (Claim.updatedAt.key, raw) he
    rw [Fits, Claim.owner?_key .updatedAt] at hfit
    simpa [hr] using hfit.2
  subject := hs
  additional := ha

/-! ## The subject -/

theorem isAbsence_sub (raw : Data) : PlainClaim.sub.isAbsence raw = false := by
  simp [PlainClaim.isAbsence, PlainClaim.isRequired]

theorem missing?_eq_none_iff : p.missing? = none ↔ (p.plain .sub).isSome = true := by
  rw [Intake.missing?, List.find?_eq_none]
  constructor
  · intro h
    simpa [PlainClaim.isRequired, Option.isSome_iff_ne_none] using
      h .sub (PlainClaim.mem_all .sub)
  · intro h c _
    by_cases hc : c = .sub
    · subst hc
      simp [Option.isNone_iff_eq_none, Option.ne_none_iff_isSome.2 h]
    · simp [PlainClaim.isRequired, hc]

theorem isSome_sub_iff (h : d.Reflects pairs p) :
    (p.plain .sub).isSome = true ↔ PlainClaim.sub.key ∈ pairKeys pairs := by
  constructor
  · intro hs
    by_contra hk
    simp [givesPlain_none_of_not_mem (h.plain .sub) hk] at hs
  · intro hk
    obtain ⟨e, he, hkey⟩ := List.mem_map.1 hk
    obtain ⟨v, -, hv⟩ := (h.plain .sub).set e.2 (hkey ▸ he) (isAbsence_sub _)
    simp [hv]

/-! ## Decoding -/

theorem yields_claimSet (h : d.Reflects pairs p) {additional : Held}
    (ha : d.additionalType.check .lenient (.ofEntries (unrecognized pairs)) = .ok additional) :
    d.Yields pairs (p.claimSet additional) where
  plain c := ⟨p.plain c, h.plain c, rfl⟩
  time := h.time
  variants := h.variants
  additional := ha

theorem gather_ok_iff :
    (∃ p, d.gather (textPairs pairs) = .ok p) ↔
      (pairKeys pairs).Nodup ∧ (∀ e ∈ pairs, d.Fits e.1 e.2) ∧
        PlainClaim.sub.key ∈ pairKeys pairs := by
  have hrun : (∃ p, Intake.start.takeAll d.policy d.genderType (textPairs pairs) = .ok p) ↔
      (pairKeys ([] ++ pairs)).Nodup ∧ ∀ e ∈ pairs, d.Fits e.1 e.2 :=
    reflects_start.takeAll_ok_iff .nil
  rw [List.nil_append] at hrun
  rw [← and_assoc, ← hrun, gather]
  cases hq : Intake.start.takeAll d.policy d.genderType (textPairs pairs) with
  | error e => simp
  | ok p =>
      have href : d.Reflects pairs p := by simpa using reflects_start.of_takeAll hq
      rw [← isSome_sub_iff href, ← missing?_eq_none_iff]
      cases hm : p.missing? <;> simp [hm]

theorem reflects_of_gather (h : d.gather (textPairs pairs) = .ok p) : d.Reflects pairs p := by
  rw [gather] at h
  cases hq : Intake.start.takeAll d.policy d.genderType (textPairs pairs) with
  | error e => simp [hq] at h
  | ok q =>
      have href : d.Reflects pairs q := by simpa using reflects_start.of_takeAll hq
      cases hm : q.missing? <;> simp [hq, hm] at h
      exact h ▸ href

theorem yields_of_decode (h : d.decode (textPairs pairs) = .ok s) : d.Yields pairs s := by
  rw [decode] at h
  cases hg : d.gather (textPairs pairs) with
  | error e => simp [hg] at h
  | ok p =>
      have href := reflects_of_gather hg
      rw [hg] at h
      simp only [assemble, href.leftover] at h
      cases ha : d.additionalType.check .lenient (.ofEntries (unrecognized pairs)) with
      | error ps => simp [ha] at h
      | ok additional =>
          rw [ha] at h
          cases h
          exact yields_claimSet href ha

theorem decode_ok_iff_accepts :
    (∃ s, d.decode (textPairs pairs) = .ok s) ↔ d.Accepts pairs := by
  constructor
  · rintro ⟨s, hs⟩
    have hy := yields_of_decode hs
    rw [decode] at hs
    cases hg : d.gather (textPairs pairs) with
    | error e => simp [hg] at hs
    | ok p =>
        obtain ⟨hn, hf, hsub⟩ := gather_ok_iff.1 ⟨p, hg⟩
        exact accepts_of_fits hn hf hsub ⟨s.additional, hy.additional⟩
  · intro h
    obtain ⟨p, hp⟩ :=
      gather_ok_iff.2 ⟨h.distinct, fun e he => fits_of_accepts h he, h.subject⟩
    obtain ⟨additional, ha⟩ := h.additional
    refine ⟨p.claimSet additional, ?_⟩
    simp only [decode, hp, assemble, (reflects_of_gather hp).leftover, ha]

/-! ## What is yielded is one claim set -/

theorem GivesPlain.unique {c : PlainClaim} {v? w? : Option Held} (hv : d.GivesPlain pairs c v?)
    (hw : d.GivesPlain pairs c w?) : v? = w? := by
  by_cases h : ∀ raw, (c.key, raw) ∈ pairs → c.isAbsence raw = true
  · rw [hv.unset h, hw.unset h]
  · push Not at h
    obtain ⟨raw, hr, ha⟩ := h
    obtain ⟨v, hrv, rfl⟩ := hv.set raw hr (Bool.eq_false_iff.2 ha)
    obtain ⟨w, hrw, rfl⟩ := hw.set raw hr (Bool.eq_false_iff.2 ha)
    rw [hrv, Except.ok.injEq] at hrw
    rw [hrw]

theorem GivesTime.unique {t? u? : Option Instant} (ht : d.GivesTime pairs t?)
    (hu : d.GivesTime pairs u?) : t? = u? := by
  by_cases h : ∀ raw, (Claim.updatedAt.key, raw) ∈ pairs → raw.isNull = true
  · rw [ht.unset h, hu.unset h]
  · push Not at h
    obtain ⟨raw, hr, hn⟩ := h
    obtain ⟨t, hrt, rfl⟩ := ht.set raw hr (Bool.eq_false_iff.2 hn)
    obtain ⟨u, hru, rfl⟩ := hu.set raw hr (Bool.eq_false_iff.2 hn)
    rw [hrt, Except.ok.injEq] at hru
    rw [hru]

theorem GivesVariants.unique {c : LocalizedClaim} {vs ws : List (Label × Data)}
    (hv : d.GivesVariants pairs c vs) (hw : d.GivesVariants pairs c ws) : vs = ws := by
  refine List.right_unique_forall₂' ?_ hv hw
  rintro e v w ⟨hlv, hrv⟩ ⟨hlw, hrw⟩
  rw [hrv, Except.ok.injEq] at hrw
  exact Prod.ext (hlv.trans hlw.symm) hrw

theorem Yields.unique (hs : d.Yields pairs s) (ht : d.Yields pairs t) : s = t := by
  refine ClaimSet.ext (funext fun c => ?_) (funext fun c => ?_) ?_ ?_
  · obtain ⟨v?, hv, hsv⟩ := hs.plain c
    obtain ⟨w?, hw, htw⟩ := ht.plain c
    rw [hsv, htw, hv.unique hw]
  · exact Localized.ext ((hs.variants c).unique (ht.variants c))
  · exact hs.time.unique ht.time
  · have := hs.additional.symm.trans ht.additional
    rwa [Except.ok.injEq] at this

theorem decode_eq_ok_iff :
    d.decode (textPairs pairs) = .ok s ↔ d.Accepts pairs ∧ d.Yields pairs s := by
  constructor
  · exact fun h => ⟨decode_ok_iff_accepts.1 ⟨s, h⟩, yields_of_decode h⟩
  · rintro ⟨ha, hy⟩
    obtain ⟨t, ht⟩ := decode_ok_iff_accepts.2 ha
    rw [hy.unique (yields_of_decode ht), ht]

/-- Decoding succeeds exactly on the pairs that the decoder accepts, and it gives exactly the claim
set that they yield. -/
theorem decode_characterized (d : Decoder) (pairs : List TextPair) :
    ((∃ s, d.decode (textPairs pairs) = .ok s) ↔ d.Accepts pairs) ∧
      ∀ s, d.decode (textPairs pairs) = .ok s ↔ d.Accepts pairs ∧ d.Yields pairs s :=
  ⟨decode_ok_iff_accepts, fun _ => decode_eq_ok_iff⟩

/-! ## Keys of no standard claim -/

def subjectAnd (key : String) (raw : Data) : List TextPair :=
  [(PlainClaim.sub.key, .text "a"), (key, raw)]

/-- A map whose keys are texts, each of them once, is taken as it is. -/
theorem check_anyMap (mode : Strictness) {pairs : List TextPair} (hn : (pairKeys pairs).Nodup) :
    AdditionalType.anyMap.check mode (.ofEntries pairs) = .ok (.data (.ofEntries pairs)) := by
  have hadmits : (Shape.mapOf .any).Admits (.ofEntries pairs) :=
    (Shape.admits_mapOf_iff hn).2 fun _ _ => rfl
  rw [AdditionalType.anyMap, Schema.check, hadmits.check_eq]
  rfl

/-- A pair whose key belongs to no standard claim is accepted, whatever tag the key has. -/
theorem accepts_subjectAnd (d : Decoder) (hd : d.additionalType = AdditionalType.anyMap)
    {key : String} (ho : Claim.owner? key = none) (raw : Data) :
    d.Accepts (subjectAnd key raw) := by
  have hsub := owner?_plain_key .sub
  have hne : PlainClaim.sub.key ≠ key := by
    rintro rfl
    rw [hsub] at ho
    cases ho
  have hn : (pairKeys (subjectAnd key raw)).Nodup := by
    simpa [subjectAnd, pairKeys] using hne
  refine accepts_of_fits hn (fun e he => ?_) List.mem_cons_self ?_
  · rcases List.mem_pair.1 he with rfl | rfl
    · rw [Fits, hsub]
      refine ⟨congrArg Prod.snd (Claim.split_key (.plain .sub)), .inr ⟨.data (.text "a"), ?_⟩⟩
      rw [PlainClaim.read_eq_ok_iff]
      rfl
    · rw [Fits, ho]
      trivial
  · rw [hd]
    exact ⟨_, check_anyMap .lenient (nodup_pairKeys_filter hn)⟩

end Decoder

end IdentityClaims
