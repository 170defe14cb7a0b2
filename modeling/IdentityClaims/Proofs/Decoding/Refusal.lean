import IdentityClaims.Proofs.Decoding.Construction

/-!
# Why a flat map is refused

Decoding stops at the first pair that does not fit. `Decoder.Offends` lists the reasons for which a
pair is refused after the pairs before it, and `Decoder.Refuses` which of them decides: that of the
first pair that offends, then a subject that is not there, then the problems of the additional
claims. Neither looks at an intake. Main statement: `decode_eq_error_iff`.
-/

namespace IdentityClaims

namespace Decoder

def HasKey (pairs : List (Data × Data)) (key : String) : Prop := .text key ∈ pairs.map Prod.fst

/-- Why a pair does not fit after the pairs of a prefix. The reasons for which a claim is refused
exclude each other: each one asks that those which are looked at before it do not apply. -/
inductive Offends (d : Decoder) (pre : List (Data × Data)) : Data × Data → DecodeError → Prop
  /-- The key is not text. -/
  | keyNotText {key raw : Data} (hkey : key.text? = none) :
      Offends d pre (key, raw) (.keyNotText key)
  /-- A key that belongs to no standard claim is there already. -/
  | repeatedKey {key : String} {raw : Data} (howner : Claim.owner? key = none)
      (hseen : HasKey pre key) : Offends d pre (.text key, raw) (.duplicate key none)
  /-- A claim that is not localized has a tag. -/
  | unexpectedVariant {c : Claim} {tag : String} {raw : Data} (hc : c.layout ≠ .localized) :
      Offends d pre (.text (FlatKey.join c.key (some tag)), raw) (.unexpectedVariant c tag)
  /-- A claim that is not localized is there already, be it as null. -/
  | repeatedClaim {c : Claim} {raw : Data} (hc : c.layout ≠ .localized)
      (hseen : HasKey pre c.key) : Offends d pre (.text c.key, raw) (.duplicate c.key none)
  /-- The value of a plain claim does not fit. -/
  | plainValue {c : PlainClaim} {raw : Data} {fault : ValueFault} (hnew : ¬ HasKey pre c.key)
      (hthere : c.isAbsence raw = false)
      (hread : c.read d.policy d.genderType raw = .error fault) :
      Offends d pre (.text c.key, raw) (.mismatch (.plain c) fault)
  /-- The time of the last update gives no point of time. -/
  | timeValue {raw : Data} {fault : ValueFault} (hnew : ¬ HasKey pre Claim.updatedAt.key)
      (hthere : raw.isNull = false) (hread : readTime d.policy raw = .error fault) :
      Offends d pre (.text Claim.updatedAt.key, raw) (.mismatch .updatedAt fault)
  /-- The tag of a localized claim does not pass the check. -/
  | invalidTag {c : LocalizedClaim} {tag : String} {raw : Data}
      (htag : d.policy.tagCheck.accepts tag = false) :
      Offends d pre (.text (FlatKey.join c.key (some tag)), raw) (.invalidTag c tag)
  /-- The value of a localized claim does not fit. -/
  | variantValue {c : LocalizedClaim} {tag : Tag} {raw : Data} {fault : ValueFault}
      (htag : Intake.acceptsTag d.policy tag = true)
      (hread : readVariant d.policy raw = .error fault) :
      Offends d pre (.text (FlatKey.join c.key tag), raw) (.mismatch (.localized c) fault)
  /-- A localized claim has a value for the tag already. -/
  | repeatedVariant {c : LocalizedClaim} {tag : Tag} {raw v : Data}
      (htag : Intake.acceptsTag d.policy tag = true) (hread : readVariant d.policy raw = .ok v)
      (hseen : HasKey pre (FlatKey.join c.key tag)) :
      Offends d pre (.text (FlatKey.join c.key tag), raw) (.duplicate c.key tag)

def Clean (d : Decoder) (pairs : List (Data × Data)) : Prop :=
  ∀ pre pair rest e, pairs = pre ++ pair :: rest → ¬ d.Offends pre pair e

/-- Why the pairs of a flat map are no claim set. -/
inductive Refuses (d : Decoder) (pairs : List (Data × Data)) : DecodeError → Prop
  /-- The first pair that offends decides, whatever comes after it. -/
  | offence {pre rest : List (Data × Data)} {pair : Data × Data} {e : DecodeError}
      (hpairs : pairs = pre ++ pair :: rest) (hclean : d.Clean pre) (h : d.Offends pre pair e) :
      Refuses d pairs e
  /-- The subject is not there. -/
  | missing (hclean : d.Clean pairs) (hsub : ¬ HasKey pairs PlainClaim.sub.key) :
      Refuses d pairs (.missing .sub)
  /-- The keys that are left over are refused as additional claims. -/
  | additional {problems : List Problem} (hclean : d.Clean pairs)
      (hsub : HasKey pairs PlainClaim.sub.key)
      (hcheck : d.additionalType.check .lenient
        (.ofEntries (unrecognized (ClaimSet.textEntries pairs))) = .error problems) :
      Refuses d pairs (.additional problems)

variable {d : Decoder} {pairs pre rest : List (Data × Data)} {pair : Data × Data}
  {ps : List TextPair} {key : String} {raw : Data} {e : DecodeError} {p q : Intake}

theorem hasKey_textPairs : HasKey (textPairs ps) key ↔ key ∈ pairKeys ps := by
  simp [HasKey, textPairs, pairKeys]

/-! ## The reason for one pair -/

theorem refusal?_unrecognized (ho : Claim.owner? key = none) :
    d.refusal? ps key raw = if key ∈ pairKeys ps then some (.duplicate key none) else none := by
  rw [refusal?, ho]

theorem refusal?_tagged {c : Claim} (hc : c.layout ≠ .localized) (tag : String) :
    d.refusal? ps (FlatKey.join c.key (some tag)) raw = some (.unexpectedVariant c tag) := by
  rw [refusal?, Claim.owner?_join, Claim.split_join_key]
  rcases c with c | c | _
  · rfl
  · exact absurd rfl hc
  · rfl

theorem refusal?_plain (c : PlainClaim) :
    d.refusal? ps c.key raw =
      if c.key ∈ pairKeys ps then some (.duplicate c.key none)
      else if c.isAbsence raw then none
      else
        match c.read d.policy d.genderType raw with
        | .error fault => some (.mismatch (.plain c) fault)
        | .ok _ => none := by
  have hsplit : FlatKey.split c.key = (c.key, none) := Claim.split_key (.plain c)
  by_cases hk : c.key ∈ pairKeys ps
  · simp [refusal?, owner?_plain_key, hsplit, hk]
  · by_cases ha : c.isAbsence raw = true
    · simp [refusal?, owner?_plain_key, hsplit, hk, ha]
    · cases hr : c.read d.policy d.genderType raw <;>
        simp [refusal?, owner?_plain_key, hsplit, hk, ha, hr]

theorem refusal?_updatedAt :
    d.refusal? ps Claim.updatedAt.key raw =
      if Claim.updatedAt.key ∈ pairKeys ps then some (.duplicate Claim.updatedAt.key none)
      else if raw.isNull then none
      else
        match readTime d.policy raw with
        | .error fault => some (.mismatch .updatedAt fault)
        | .ok _ => none := by
  by_cases hk : Claim.updatedAt.key ∈ pairKeys ps
  · simp [refusal?, Claim.owner?_key, Claim.split_key, hk]
  · by_cases hn : raw.isNull = true
    · simp [refusal?, Claim.owner?_key, Claim.split_key, hk, hn]
    · cases hr : readTime d.policy raw <;>
        simp [refusal?, Claim.owner?_key, Claim.split_key, hk, hn, hr]

theorem refusal?_localized (c : LocalizedClaim) (tag : Tag) :
    d.refusal? ps (FlatKey.join c.key tag) raw =
      if Intake.acceptsTag d.policy tag then
        match readVariant d.policy raw with
        | .error fault => some (.mismatch (.localized c) fault)
        | .ok _ => if FlatKey.join c.key tag ∈ pairKeys ps then some (.duplicate c.key tag) else none
      else some (.invalidTag c (tag.getD "")) := by
  have howner := Claim.owner?_join (.localized c) tag
  have hsplit := Claim.split_join_key (.localized c) tag
  rw [Claim.key_localized] at howner hsplit
  by_cases ht : Intake.acceptsTag d.policy tag = true
  · cases hr : readVariant d.policy raw <;> simp [refusal?, howner, hsplit, ht, hr]
  · simp [refusal?, howner, hsplit, ht]

theorem offends_of_refusal?_plain {c : PlainClaim} (h : d.refusal? ps c.key raw = some e) :
    d.Offends (textPairs ps) (.text c.key, raw) e := by
  rw [refusal?_plain] at h
  by_cases hk : c.key ∈ pairKeys ps
  · rw [if_pos hk, Option.some_inj] at h
    exact h ▸ .repeatedClaim (c := .plain c) (layout_plain_ne c) (hasKey_textPairs.2 hk)
  · rw [if_neg hk] at h
    by_cases ha : c.isAbsence raw = true
    · simp [ha] at h
    · rw [if_neg ha] at h
      cases hr : c.read d.policy d.genderType raw with
      | ok v => simp [hr] at h
      | error fault =>
          rw [hr, Option.some_inj] at h
          exact h ▸ .plainValue (fun hs => hk (hasKey_textPairs.1 hs)) (Bool.eq_false_iff.2 ha) hr

theorem offends_of_refusal?_updatedAt (h : d.refusal? ps Claim.updatedAt.key raw = some e) :
    d.Offends (textPairs ps) (.text Claim.updatedAt.key, raw) e := by
  rw [refusal?_updatedAt] at h
  by_cases hk : Claim.updatedAt.key ∈ pairKeys ps
  · rw [if_pos hk, Option.some_inj] at h
    exact h ▸ .repeatedClaim (by decide) (hasKey_textPairs.2 hk)
  · rw [if_neg hk] at h
    by_cases hn : raw.isNull = true
    · simp [hn] at h
    · rw [if_neg hn] at h
      cases hr : readTime d.policy raw with
      | ok t => simp [hr] at h
      | error fault =>
          rw [hr, Option.some_inj] at h
          exact h ▸ .timeValue (fun hs => hk (hasKey_textPairs.1 hs)) (Bool.eq_false_iff.2 hn) hr

theorem offends_of_refusal?_localized {c : LocalizedClaim} {tag : Tag}
    (h : d.refusal? ps (FlatKey.join c.key tag) raw = some e) :
    d.Offends (textPairs ps) (.text (FlatKey.join c.key tag), raw) e := by
  rw [refusal?_localized] at h
  by_cases ht : Intake.acceptsTag d.policy tag = true
  · rw [if_pos ht] at h
    cases hr : readVariant d.policy raw with
    | error fault =>
        rw [hr, Option.some_inj] at h
        exact h ▸ .variantValue ht hr
    | ok v =>
        by_cases hk : FlatKey.join c.key tag ∈ pairKeys ps
        · simp only [hr, hk, if_true, Option.some_inj] at h
          exact h ▸ .repeatedVariant ht hr (hasKey_textPairs.2 hk)
        · simp [hr, hk] at h
  · -- the absence of a tag always passes
    cases tag with
    | none => exact absurd rfl ht
    | some tag =>
        rw [if_neg ht, Option.some_inj] at h
        exact h ▸ .invalidTag (Bool.eq_false_iff.2 ht)

theorem offends_of_refusal? (h : d.refusal? ps key raw = some e) :
    d.Offends (textPairs ps) (.text key, raw) e := by
  cases ho : Claim.owner? key with
  | none =>
      rw [refusal?_unrecognized ho] at h
      by_cases hk : key ∈ pairKeys ps
      · rw [if_pos hk, Option.some_inj] at h
        exact h ▸ .repeatedKey ho (hasKey_textPairs.2 hk)
      · simp [hk] at h
  | some c =>
      obtain ⟨tag, rfl⟩ : ∃ tag, FlatKey.join c.key tag = key := ⟨_, Claim.join_of_owner? ho⟩
      by_cases hc : c.layout = .localized
      · cases c with
        | localized c => exact offends_of_refusal?_localized h
        | plain c => exact absurd hc (layout_plain_ne c)
        | updatedAt => cases hc
      · cases tag with
        | some tag =>
            rw [refusal?_tagged hc, Option.some_inj] at h
            exact h ▸ .unexpectedVariant hc
        | none =>
            cases c with
            | localized c => exact absurd rfl hc
            | plain c => exact offends_of_refusal?_plain h
            | updatedAt => exact offends_of_refusal?_updatedAt h

theorem refusal?_of_offends (h : d.Offends (textPairs ps) (.text key, raw) e) :
    d.refusal? ps key raw = some e := by
  cases h with
  | keyNotText hkey => cases hkey
  | repeatedKey ho hseen => rw [refusal?_unrecognized ho, if_pos (hasKey_textPairs.1 hseen)]
  | unexpectedVariant hc => exact refusal?_tagged hc _
  | @repeatedClaim c _ hc hseen =>
      have hk := hasKey_textPairs.1 hseen
      cases c with
      | plain c => exact (refusal?_plain c).trans (if_pos hk)
      | localized c => exact absurd rfl hc
      | updatedAt => rw [refusal?_updatedAt, if_pos hk]
  | @plainValue c _ fault hnew hthere hread =>
      have hk : c.key ∉ pairKeys ps := fun hm => hnew (hasKey_textPairs.2 hm)
      simp [refusal?_plain, hk, hthere, hread]
  | timeValue hnew hthere hread =>
      have hk : Claim.updatedAt.key ∉ pairKeys ps := fun hm => hnew (hasKey_textPairs.2 hm)
      simp [refusal?_updatedAt, hk, hthere, hread]
  | invalidTag htag => simp [refusal?_localized, Intake.acceptsTag, htag]
  | variantValue htag hread => simp [refusal?_localized, htag, hread]
  | repeatedVariant htag hread hseen =>
      simp [refusal?_localized, htag, hread, hasKey_textPairs.1 hseen]

theorem refusal?_eq_some_iff :
    d.refusal? ps key raw = some e ↔ d.Offends (textPairs ps) (.text key, raw) e :=
  ⟨offends_of_refusal?, refusal?_of_offends⟩

/-- A pair with a key that is not text offends for that alone. -/
theorem offends_keyNotText_iff {k : Data} (hk : k.text? = none) :
    d.Offends pre (k, raw) e ↔ e = .keyNotText k := by
  constructor
  · intro h
    cases h with
    | keyNotText _ => rfl
    | _ => cases hk
  · rintro rfl
    exact .keyNotText hk

/-- One pair is refused for the reason for which it offends after the pairs taken so far. -/
theorem Reflects.take_eq_error_iff (h : d.Reflects ps p) :
    Intake.take d.policy d.genderType p pair = .error e ↔ d.Offends (textPairs ps) pair e := by
  obtain ⟨k, raw⟩ := pair
  cases hk : k.text? with
  | some key =>
      obtain rfl : k = .text key := by
        cases k <;> simp_all [Data.text?]
      rw [Intake.take, h.takeKey_eq_error_iff, refusal?_eq_some_iff]
  | none =>
      rw [offends_keyNotText_iff hk]
      cases k <;> simp_all [Intake.take, Data.text?, eq_comm]

/-! ## The run -/

theorem clean_nil : d.Clean [] := by
  intro pre pair rest e hpairs
  simp at hpairs

/-- Pairs stay clean when one comes that does not offend, and only then. -/
theorem clean_append_singleton :
    d.Clean (pre ++ [pair]) ↔ d.Clean pre ∧ ∀ e, ¬ d.Offends pre pair e := by
  constructor
  · intro h
    constructor
    · intro pre' pair' rest' e hpre
      exact h pre' pair' (rest' ++ [pair]) e (by simp [hpre])
    · intro e
      exact h pre pair [] e rfl
  · rintro ⟨hpre, hpair⟩ pre' pair' rest' e hpairs
    rcases List.eq_nil_or_concat rest' with rfl | ⟨rest', last, rfl⟩
    · obtain ⟨rfl, hlast⟩ := List.append_inj' hpairs rfl
      cases hlast
      exact hpair e
    · rw [List.concat_eq_append, ← List.cons_append, ← List.append_assoc] at hpairs
      obtain ⟨hinit, -⟩ := List.append_inj' hpairs rfl
      exact hpre pre' pair' rest' e hinit

theorem Reflects.of_take_ok (h : d.Reflects ps p) (hclean : d.Clean (textPairs ps))
    (hq : Intake.take d.policy d.genderType p pair = .ok q) :
    ∃ e : TextPair, pair = (.text e.1, e.2) ∧ d.Clean (textPairs (ps ++ [e])) ∧
      d.Reflects (ps ++ [e]) q := by
  obtain ⟨k, raw⟩ := pair
  obtain ⟨key, rfl⟩ : ∃ key, k = .text key := by
    cases k <;> simp_all [Intake.take]
  have hoffends : ∀ e, ¬ d.Offends (textPairs ps) (.text key, raw) e := by
    intro e he
    rw [← h.take_eq_error_iff, hq] at he
    cases he
  have hclean' := clean_append_singleton.2 ⟨hclean, hoffends⟩
  exact ⟨(key, raw), rfl, by simpa [textPairs] using hclean', h.of_takeKey hq⟩

theorem Reflects.of_takeAll_ok (h : d.Reflects ps p) (hclean : d.Clean (textPairs ps))
    (hq : p.takeAll d.policy d.genderType rest = .ok q) :
    ∃ qs, rest = textPairs qs ∧ d.Clean (textPairs (ps ++ qs)) ∧ d.Reflects (ps ++ qs) q := by
  induction rest generalizing ps p with
  | nil =>
      cases hq
      exact ⟨[], rfl, by simpa using hclean, by simpa using h⟩
  | cons pair rest ih =>
      cases hp : Intake.take d.policy d.genderType p pair with
      | error e => simp [Intake.takeAll, hp] at hq
      | ok p' =>
          simp only [Intake.takeAll, hp] at hq
          obtain ⟨e, rfl, hclean', href⟩ := h.of_take_ok hclean hp
          obtain ⟨qs, rfl, hc, hr⟩ := ih href hclean' hq
          exact ⟨e :: qs, rfl, by simpa using hc, by simpa using hr⟩

/-- A run stops at the first pair that offends, for its reason and whatever comes after it. -/
theorem Reflects.takeAll_eq_error_iff (h : d.Reflects ps p) (hclean : d.Clean (textPairs ps)) :
    p.takeAll d.policy d.genderType rest = .error e ↔
      ∃ mid pair tail, rest = mid ++ pair :: tail ∧ d.Clean (textPairs ps ++ mid) ∧
        d.Offends (textPairs ps ++ mid) pair e := by
  induction rest generalizing ps p with
  | nil => simp [Intake.takeAll]
  | cons pair rest ih =>
      cases hp : Intake.take d.policy d.genderType p pair with
      | error e' =>
          have hoffends := h.take_eq_error_iff.1 hp
          simp only [Intake.takeAll, hp, Except.error.injEq]
          constructor
          · rintro rfl
            exact ⟨[], pair, rest, rfl, by simpa using hclean, by simpa using hoffends⟩
          · rintro ⟨mid, pair', tail, hrest, hmid, ho⟩
            cases mid with
            | nil =>
                obtain ⟨rfl, -⟩ := List.cons.inj hrest
                rw [List.append_nil, ← h.take_eq_error_iff, hp, Except.error.injEq] at ho
                exact ho
            | cons x mid =>
                obtain ⟨rfl, -⟩ := List.cons.inj hrest
                exact absurd hoffends (hmid _ _ _ _ rfl)
      | ok p' =>
          obtain ⟨e', rfl, hclean', href⟩ := h.of_take_ok hclean hp
          have hpre : textPairs (ps ++ [e']) = textPairs ps ++ [(.text e'.1, e'.2)] := by
            simp [textPairs]
          simp only [Intake.takeAll, hp]
          rw [ih href hclean', hpre]
          constructor
          · rintro ⟨mid, pair, tail, rfl, hmid, ho⟩
            exact ⟨(.text e'.1, e'.2) :: mid, pair, tail, rfl, by simpa using hmid,
              by simpa using ho⟩
          · rintro ⟨mid, pair, tail, hrest, hmid, ho⟩
            cases mid with
            | nil =>
                obtain ⟨rfl, -⟩ := List.cons.inj hrest
                rw [List.append_nil, ← h.take_eq_error_iff, hp] at ho
                cases ho
            | cons x mid =>
                obtain ⟨rfl, rfl⟩ := List.cons.inj hrest
                exact ⟨mid, pair, tail, rfl, by simpa using hmid, by simpa using ho⟩

/-! ## Decoding -/

theorem Clean.exists_takeAll (h : d.Clean pairs) :
    ∃ qs p, pairs = textPairs qs ∧
      Intake.start.takeAll d.policy d.genderType pairs = .ok p ∧ d.Reflects qs p := by
  cases hrun : Intake.start.takeAll d.policy d.genderType pairs with
  | error e =>
      rw [reflects_start.takeAll_eq_error_iff clean_nil] at hrun
      obtain ⟨mid, pair, tail, hpairs, -, ho⟩ := hrun
      exact absurd ho (h mid pair tail e hpairs)
  | ok p =>
      obtain ⟨qs, hqs, -, href⟩ := reflects_start.of_takeAll_ok clean_nil hrun
      exact ⟨qs, p, hqs, rfl, href⟩

theorem exists_textPairs_of_decode {s : ClaimSet} (h : d.decode pairs = .ok s) :
    ∃ qs, pairs = textPairs qs := by
  rw [decode, gather] at h
  cases hrun : Intake.start.takeAll d.policy d.genderType pairs with
  | error e => simp [hrun] at h
  | ok p =>
      obtain ⟨qs, hqs, -⟩ := reflects_start.of_takeAll_ok clean_nil hrun
      exact ⟨qs, hqs⟩

theorem eq_sub_of_missing? {c : PlainClaim} (h : p.missing? = some c) : c = .sub := by
  have hc := List.find?_some h
  simp only [Bool.and_eq_true, PlainClaim.isRequired, decide_eq_true_eq] at hc
  exact hc.1

theorem refuses_of_decode (h : d.decode pairs = .error e) : d.Refuses pairs e := by
  rw [decode, gather] at h
  cases hrun : Intake.start.takeAll d.policy d.genderType pairs with
  | error e' =>
      simp only [hrun, Except.error.injEq] at h
      obtain ⟨mid, pair, tail, hpairs, hclean, ho⟩ :=
        (reflects_start.takeAll_eq_error_iff clean_nil).1 hrun
      exact .offence hpairs hclean (h ▸ ho)
  | ok p =>
      obtain ⟨qs, rfl, hclean, href⟩ := reflects_start.of_takeAll_ok clean_nil hrun
      rw [List.nil_append] at hclean href
      cases hm : p.missing? with
      | some c =>
          simp only [hrun, hm, Except.error.injEq] at h
          obtain rfl := eq_sub_of_missing? hm
          refine h ▸ .missing hclean fun hs => ?_
          rw [hasKey_textPairs, ← isSome_sub_iff href, ← missing?_eq_none_iff, hm] at hs
          cases hs
      | none =>
          have hs : HasKey (textPairs qs) PlainClaim.sub.key := by
            rw [hasKey_textPairs, ← isSome_sub_iff href, ← missing?_eq_none_iff, hm]
          simp only [hrun, hm, assemble] at h
          cases hcheck : d.additionalType.check .lenient (.ofEntries p.leftover) with
          | ok additional => simp [hcheck] at h
          | error problems =>
              simp only [hcheck, Except.error.injEq] at h
              refine h ▸ .additional hclean hs ?_
              rw [textEntries_textPairs, ← href.leftover]
              exact hcheck

theorem decode_of_refuses (h : d.Refuses pairs e) : d.decode pairs = .error e := by
  rw [decode, gather]
  cases h with
  | @offence pre rest pair _ hpairs hclean ho =>
      have hrun : Intake.start.takeAll d.policy d.genderType pairs = .error e :=
        (reflects_start.takeAll_eq_error_iff clean_nil).2 ⟨pre, pair, rest, hpairs, hclean, ho⟩
      rw [hrun]
  | missing hclean hsub =>
      obtain ⟨qs, p, rfl, hrun, href⟩ := hclean.exists_takeAll
      rw [hasKey_textPairs, ← isSome_sub_iff href, ← missing?_eq_none_iff] at hsub
      obtain ⟨c, hm⟩ := Option.ne_none_iff_exists'.1 hsub
      rw [hrun]
      simp only [hm, eq_sub_of_missing? hm]
  | additional hclean hsub hcheck =>
      obtain ⟨qs, p, rfl, hrun, href⟩ := hclean.exists_takeAll
      rw [hasKey_textPairs, ← isSome_sub_iff href, ← missing?_eq_none_iff] at hsub
      rw [textEntries_textPairs, ← href.leftover] at hcheck
      simp only [hrun, hsub, assemble, hcheck]

theorem decode_eq_error_iff : d.decode pairs = .error e ↔ d.Refuses pairs e :=
  ⟨refuses_of_decode, decode_of_refuses⟩

/-- Whatever the pairs are, decoding fails only for a reason that is listed: that of the first pair
that offends, whatever comes after it, then the missing subject, then the problems of the additional
claims. It makes no difference if the claim set is built in the end from the values that were
checked: that never fails. -/
theorem decode_errors_characterized (d : Decoder) (pairs : List (Data × Data)) :
    (∀ e, d.decode pairs = .error e ↔ d.Refuses pairs e) ∧
      ∀ e, d.decodeByBuilding pairs = .error e ↔ ∃ e', d.Refuses pairs e' ∧ e = .inl e' := by
  constructor
  · intro e
    exact decode_eq_error_iff
  · intro e
    rw [decodeByBuilding_eq]
    cases hdecode : d.decode pairs with
    | ok s =>
        have hnone : ∀ e', ¬ d.Refuses pairs e' := by
          intro e' he
          rw [← decode_eq_error_iff, hdecode] at he
          cases he
        simp [hnone]
    | error e' =>
        have honly : ∀ e'', d.Refuses pairs e'' ↔ e' = e'' := by
          intro e''
          rw [← decode_eq_error_iff, hdecode, Except.error.injEq]
        simp [honly, eq_comm]

end Decoder

end IdentityClaims
