import IdentityClaims.ClaimSet.Decode
import IdentityClaims.Proofs.Values.TextPairs
import Mathlib.Data.List.Forall2

/-!
# What an intake reflects

Pairs are taken one after the other, and the intake notices a repeated key in three ways: in the
list of claims that were seen, among the labels of a localized claim, and among the leftover keys.
`Decoder.Reflects` says what an intake holds after the pairs of a prefix, and under it the three
ways are one: a pair is refused as a duplicate exactly when its key is a key of the prefix. The
reason why a pair is refused is `Decoder.refusal?`, which looks at the prefix and not at the intake.
Main statements: `Reflects.takeKey_eq_error_iff` and `Reflects.of_takeKey` for one pair,
`Reflects.takeAll_eq_ok_iff` for a run.
-/

namespace IdentityClaims

def pairsOf (c : Claim) (pairs : List TextPair) : List TextPair :=
  pairs.filter fun e => Claim.owner? e.1 = some c

def unrecognized (pairs : List TextPair) : List TextPair :=
  pairs.filter fun e => Claim.owner? e.1 = none

theorem key_ne_of_owner?_ne {key : String} {c : Claim} (ho : Claim.owner? key ≠ some c) :
    c.key ≠ key := by
  rintro rfl
  exact ho (Claim.owner?_key c)

theorem pairsOf_append_of_ne {pre : List TextPair} {key : String} {raw : Data} {c : Claim}
    (ho : Claim.owner? key ≠ some c) : pairsOf c (pre ++ [(key, raw)]) = pairsOf c pre := by
  simp [pairsOf, List.filter_append, ho]

theorem pairsOf_append {pre : List TextPair} {key : String} {raw : Data} {c : Claim}
    (ho : Claim.owner? key = some c) :
    pairsOf c (pre ++ [(key, raw)]) = pairsOf c pre ++ [(key, raw)] := by
  simp [pairsOf, List.filter_append, ho]

theorem unrecognized_append_of_some {pre : List TextPair} {key : String} {raw : Data} {c : Claim}
    (ho : Claim.owner? key = some c) :
    unrecognized (pre ++ [(key, raw)]) = unrecognized pre := by
  simp [unrecognized, List.filter_append, ho]

theorem unrecognized_append {pre : List TextPair} {key : String} {raw : Data}
    (ho : Claim.owner? key = none) :
    unrecognized (pre ++ [(key, raw)]) = unrecognized pre ++ [(key, raw)] := by
  simp [unrecognized, List.filter_append, ho]

namespace PlainClaim

/-- Whether a raw value of a claim stands for no value: null does, where the claim need not be
there. -/
def isAbsence (c : PlainClaim) (raw : Data) : Bool := raw.isNull && !c.isRequired

end PlainClaim

namespace Decoder

variable {d : Decoder} {pre : List TextPair} {p q : Intake} {key : String} {raw : Data}

/-- Whether a pair can be taken, whatever stands before it: its tag is one that its claim may have,
and its value is one that its claim can have. -/
def Fits (d : Decoder) (key : String) (raw : Data) : Prop :=
  match Claim.owner? key with
  | none => True
  | some (.localized _) =>
    Intake.acceptsTag d.policy (FlatKey.split key).2 = true ∧ ∃ v, readVariant d.policy raw = .ok v
  | some (.plain c) =>
    (FlatKey.split key).2 = none ∧
      (c.isAbsence raw = true ∨ ∃ v, c.read d.policy d.genderType raw = .ok v)
  | some .updatedAt =>
    (FlatKey.split key).2 = none ∧ (raw.isNull = true ∨ ∃ t, readTime d.policy raw = .ok t)

def refusal? (d : Decoder) (pre : List TextPair) (key : String) (raw : Data) :
    Option DecodeError :=
  let tag := (FlatKey.split key).2
  match Claim.owner? key with
  | none => if key ∈ pairKeys pre then some (.duplicate key none) else none
  | some (.localized c) =>
    if Intake.acceptsTag d.policy tag then
      match readVariant d.policy raw with
      | .error fault => some (.mismatch (.localized c) fault)
      | .ok _ => if key ∈ pairKeys pre then some (.duplicate c.key tag) else none
    else some (.invalidTag c (tag.getD ""))
  | some (.plain c) =>
    match tag with
    | some tag => some (.unexpectedVariant (.plain c) tag)
    | none =>
      if key ∈ pairKeys pre then some (.duplicate c.key none)
      else if c.isAbsence raw then none
      else
        match c.read d.policy d.genderType raw with
        | .error fault => some (.mismatch (.plain c) fault)
        | .ok _ => none
  | some .updatedAt =>
    match tag with
    | some tag => some (.unexpectedVariant .updatedAt tag)
    | none =>
      if key ∈ pairKeys pre then some (.duplicate Claim.updatedAt.key none)
      else if raw.isNull then none
      else
        match readTime d.policy raw with
        | .error fault => some (.mismatch .updatedAt fault)
        | .ok _ => none

/-- A pair that is not refused fits and has a new key. -/
theorem refusal?_eq_none_iff :
    d.refusal? pre key raw = none ↔ key ∉ pairKeys pre ∧ d.Fits key raw := by
  unfold refusal? Fits
  rcases Claim.owner? key with _ | ⟨c⟩ | ⟨c⟩ | _
  · simp
  · rcases (FlatKey.split key).2 with _ | tag
    · by_cases hk : key ∈ pairKeys pre <;> by_cases ha : c.isAbsence raw = true <;>
        cases hr : c.read d.policy d.genderType raw <;> simp [hk, ha, hr]
    · simp
  · by_cases ht : Intake.acceptsTag d.policy (FlatKey.split key).2 = true <;>
      cases hr : readVariant d.policy raw <;> simp [ht]
  · rcases (FlatKey.split key).2 with _ | tag
    · by_cases hk : key ∈ pairKeys pre <;> by_cases hn : raw.isNull = true <;>
        cases hr : readTime d.policy raw <;> simp [hk, hn]
    · simp

/-- What pairs give a plain claim: the checked value of its key, or nothing if the key is not there
or has no value. -/
structure GivesPlain (d : Decoder) (pairs : List TextPair) (c : PlainClaim) (v? : Option Held) :
    Prop where
  set : ∀ raw, (c.key, raw) ∈ pairs → c.isAbsence raw = false →
    ∃ v, c.read d.policy d.genderType raw = .ok v ∧ v? = some v
  unset : (∀ raw, (c.key, raw) ∈ pairs → c.isAbsence raw = true) → v? = none

structure GivesTime (d : Decoder) (pairs : List TextPair) (t? : Option Instant) : Prop where
  set : ∀ raw, (Claim.updatedAt.key, raw) ∈ pairs → raw.isNull = false →
    ∃ t, readTime d.policy raw = .ok t ∧ t? = some t
  unset : (∀ raw, (Claim.updatedAt.key, raw) ∈ pairs → raw.isNull = true) → t? = none

def GivesVariants (d : Decoder) (pairs : List TextPair) (c : LocalizedClaim)
    (variants : List (Label × Data)) : Prop :=
  List.Forall₂ (fun e v => v.1 = .tag (FlatKey.split e.1).2 ∧ readVariant d.policy e.2 = .ok v.2)
    (pairsOf (.localized c) pairs) variants

structure Reflects (d : Decoder) (pre : List TextPair) (p : Intake) : Prop where
  seen : ∀ c : Claim, c.layout ≠ .localized → (c ∈ p.seen ↔ c.key ∈ pairKeys pre)
  plain : ∀ c, d.GivesPlain pre c (p.plain c)
  time : d.GivesTime pre p.updatedAt
  variants : ∀ c, d.GivesVariants pre c (p.localized c).variants
  leftover : p.leftover = unrecognized pre

theorem reflects_start : d.Reflects [] Intake.start where
  seen c _ := by simp [Intake.start, pairKeys]
  plain c := ⟨fun raw h => by simp at h, fun _ => rfl⟩
  time := ⟨fun raw h => by simp at h, fun _ => rfl⟩
  variants c := .nil
  leftover := rfl

/-! A pair that belongs to another claim gives a claim nothing. -/

theorem GivesPlain.append_of_ne {c : PlainClaim} {v? : Option Held} (h : d.GivesPlain pre c v?)
    (ho : Claim.owner? key ≠ some (.plain c)) : d.GivesPlain (pre ++ [(key, raw)]) c v? := by
  have hmem (r : Data) : (c.key, r) ∈ pre ++ [(key, raw)] ↔ (c.key, r) ∈ pre :=
    mem_append_of_ne (key_ne_of_owner?_ne ho)
  exact ⟨fun r hr => h.set r ((hmem r).1 hr), fun hc => h.unset fun r hr => hc r ((hmem r).2 hr)⟩

theorem GivesTime.append_of_ne {t? : Option Instant} (h : d.GivesTime pre t?)
    (ho : Claim.owner? key ≠ some .updatedAt) : d.GivesTime (pre ++ [(key, raw)]) t? := by
  have hmem (r : Data) : (Claim.updatedAt.key, r) ∈ pre ++ [(key, raw)] ↔
      (Claim.updatedAt.key, r) ∈ pre :=
    mem_append_of_ne (key_ne_of_owner?_ne ho)
  exact ⟨fun r hr => h.set r ((hmem r).1 hr), fun hc => h.unset fun r hr => hc r ((hmem r).2 hr)⟩

theorem GivesVariants.append_of_ne {c : LocalizedClaim} {vs : List (Label × Data)}
    (h : d.GivesVariants pre c vs) (ho : Claim.owner? key ≠ some (.localized c)) :
    d.GivesVariants (pre ++ [(key, raw)]) c vs := by
  rwa [GivesVariants, pairsOf_append_of_ne ho]

/-! A pair with a new key gives its own claim what its value is checked to be. -/

theorem givesPlain_none_of_not_mem {c : PlainClaim} {v? : Option Held}
    (h : d.GivesPlain pre c v?) (hk : c.key ∉ pairKeys pre) : v? = none :=
  h.unset fun _ hr => absurd (mem_pairKeys_of_mem hr) hk

theorem givesPlain_absent {c : PlainClaim} (hk : c.key ∉ pairKeys pre)
    (ha : c.isAbsence raw = true) : d.GivesPlain (pre ++ [(c.key, raw)]) c none := by
  refine ⟨fun r hr hr' => ?_, fun _ => rfl⟩
  rw [(mem_append_self hk).1 hr, ha] at hr'
  exact absurd hr' (by simp)

theorem givesPlain_read {c : PlainClaim} {v : Held} (hk : c.key ∉ pairKeys pre)
    (ha : c.isAbsence raw = false) (hv : c.read d.policy d.genderType raw = .ok v) :
    d.GivesPlain (pre ++ [(c.key, raw)]) c (some v) := by
  refine ⟨fun r hr _ => ⟨v, ?_, rfl⟩, fun hc => ?_⟩
  · rwa [(mem_append_self hk).1 hr]
  · have := hc raw ((mem_append_self hk).2 rfl)
    simp [ha] at this

theorem givesTime_none_of_not_mem {t? : Option Instant} (h : d.GivesTime pre t?)
    (hk : Claim.updatedAt.key ∉ pairKeys pre) : t? = none :=
  h.unset fun _ hr => absurd (mem_pairKeys_of_mem hr) hk

theorem givesTime_absent (hk : Claim.updatedAt.key ∉ pairKeys pre) (hn : raw.isNull = true) :
    d.GivesTime (pre ++ [(Claim.updatedAt.key, raw)]) none := by
  refine ⟨fun r hr hr' => ?_, fun _ => rfl⟩
  rw [(mem_append_self hk).1 hr, hn] at hr'
  exact absurd hr' (by simp)

theorem givesTime_read {t : Instant} (hk : Claim.updatedAt.key ∉ pairKeys pre)
    (hn : raw.isNull = false) (ht : readTime d.policy raw = .ok t) :
    d.GivesTime (pre ++ [(Claim.updatedAt.key, raw)]) (some t) := by
  refine ⟨fun r hr _ => ⟨t, ?_, rfl⟩, fun hc => ?_⟩
  · rwa [(mem_append_self hk).1 hr]
  · have := hc raw ((mem_append_self hk).2 rfl)
    simp [hn] at this

theorem givesVariants_append {c : LocalizedClaim} {vs : List (Label × Data)} {v : Data}
    (h : d.GivesVariants pre c vs) (ho : Claim.owner? key = some (.localized c))
    (hv : readVariant d.policy raw = .ok v) :
    d.GivesVariants (pre ++ [(key, raw)]) c (vs ++ [(.tag (FlatKey.split key).2, v)]) := by
  rw [GivesVariants, pairsOf_append ho]
  exact List.rel_append h (.cons ⟨rfl, hv⟩ .nil)

theorem layout_plain_ne (c : PlainClaim) : (Claim.plain c).layout ≠ .localized := by
  cases c <;> decide

theorem takePlain_none (p : Intake) (policy : Policy) (genderType : Schema) (c : PlainClaim)
    (raw : Data) :
    p.takePlain policy genderType c none raw =
      if .plain c ∈ p.seen then .error (.duplicate c.key none)
      else if c.isAbsence raw then .ok { p with seen := .plain c :: p.seen }
      else
        match c.read policy genderType raw with
        | .error fault => .error (.mismatch (.plain c) fault)
        | .ok v => .ok ({ p with seen := .plain c :: p.seen }.setPlain c v) := by
  by_cases hm : Claim.plain c ∈ p.seen
  · simp [Intake.takePlain, Intake.see, hm]
  · simp only [Intake.takePlain, Intake.see, hm, if_false]
    rfl

namespace Reflects

theorem labels_eq (h : d.Reflects pre p) (c : LocalizedClaim) :
    (p.localized c).labels =
      (pairsOf (.localized c) pre).map fun e => .tag (FlatKey.split e.1).2 := by
  have hl : List.Forall₂ (· = ·)
      ((pairsOf (.localized c) pre).map fun e => Label.tag (FlatKey.split e.1).2)
      ((p.localized c).variants.map Prod.fst) := by
    simpa only [List.forall₂_map_left_iff, List.forall₂_map_right_iff] using
      (h.variants c).imp fun e v hv => hv.1.symm
  rw [List.forall₂_eq_eq_eq] at hl
  exact hl.symm

/-- A tag has a value exactly when the key that it makes with its claim was taken. -/
theorem has_tag_iff (h : d.Reflects pre p) (c : LocalizedClaim) (tag : Tag) :
    (p.localized c).has (.tag tag) = true ↔ FlatKey.join c.key tag ∈ pairKeys pre := by
  have hany : (p.localized c).has (.tag tag) =
      (p.localized c).labels.any fun label => label.same (.tag tag) := by
    simp [Localized.has, Localized.labels, List.any_map, Function.comp_def]
  rw [hany, h.labels_eq, List.any_map, List.any_eq_true]
  constructor
  · rintro ⟨e, he, hsame⟩
    obtain ⟨hmem, hown⟩ := List.mem_filter.1 he
    have htag : (FlatKey.split e.1).2 = tag := by simpa using hsame
    have hkey := Claim.join_of_owner? (of_decide_eq_true hown)
    rw [htag] at hkey
    exact hkey ▸ mem_pairKeys_of_mem hmem
  · intro hk
    obtain ⟨e, hmem, he⟩ := List.mem_map.1 hk
    refine ⟨e, List.mem_filter.2 ⟨hmem, ?_⟩, ?_⟩
    · rw [he]
      exact decide_eq_true (Claim.owner?_join (.localized c) tag)
    · rw [Function.comp_apply, he]
      simpa using congrArg Prod.snd (Claim.split_join_key (.localized c) tag)

/-- A key is left over already exactly when it was taken. -/
theorem has_leftover_iff (h : d.Reflects pre p) (ho : Claim.owner? key = none) :
    Entries.has p.leftover key = true ↔ key ∈ pairKeys pre := by
  rw [Entries.has_iff_mem_keys, h.leftover]
  constructor
  · intro hk
    obtain ⟨e, he, rfl⟩ := List.mem_map.1 hk
    exact mem_pairKeys_of_mem (List.mem_filter.1 he).1
  · intro hk
    obtain ⟨e, he, rfl⟩ := List.mem_map.1 hk
    exact List.mem_map_of_mem (List.mem_filter.2 ⟨he, decide_eq_true ho⟩)

theorem takeKey_eq_error_iff (h : d.Reflects pre p) {e : DecodeError} :
    Intake.takeKey d.policy d.genderType p key raw = .error e ↔
      d.refusal? pre key raw = some e := by
  rw [Intake.takeKey_eq, refusal?]
  rcases ho : Claim.owner? key with _ | ⟨c⟩ | ⟨c⟩ | _
  · have hk := h.has_leftover_iff ho
    by_cases hm : key ∈ pairKeys pre <;> simp [Intake.keep, hk, hm]
  · rcases ht : (FlatKey.split key).2 with _ | tag
    · have hk := h.seen _ (layout_plain_ne c)
      rw [Claim.key_of_owner? ho ht] at hk
      by_cases hm : key ∈ pairKeys pre
      · simp [Intake.takePlain, Intake.see, hk, hm]
      · by_cases ha : c.isAbsence raw = true <;>
          cases hr : c.read d.policy d.genderType raw <;>
          simp [takePlain_none, hk, hm, ha, hr]
    · simp [Intake.takePlain, Intake.see]
  · have hk := h.has_tag_iff c (FlatKey.split key).2
    rw [← Claim.key_localized, Claim.join_of_owner? ho] at hk
    by_cases ht : Intake.acceptsTag d.policy (FlatKey.split key).2 = true
    · cases hr : readVariant d.policy raw with
      | error fault => simp [Intake.takeVariant, ht, hr]
      | ok v =>
          by_cases hm : key ∈ pairKeys pre <;>
            simp [Intake.takeVariant, Localized.insert, ht, hr, hk, hm]
    · simp [Intake.takeVariant, ht]
  · rcases ht : (FlatKey.split key).2 with _ | tag
    · have hk := h.seen .updatedAt (by decide)
      rw [Claim.key_of_owner? ho ht] at hk
      by_cases hm : key ∈ pairKeys pre
      · simp [Intake.takeTime, Intake.see, hk, hm]
      · by_cases hn : raw.isNull = true <;> cases hr : readTime d.policy raw <;>
          simp [Intake.takeTime, Intake.see, hk, hm, hn, hr]
    · simp [Intake.takeTime, Intake.see]

theorem keep (h : d.Reflects pre p) (ho : Claim.owner? key = none) :
    d.Reflects (pre ++ [(key, raw)]) { p with leftover := p.leftover ++ [(key, raw)] } := by
  have hne (c : Claim) : Claim.owner? key ≠ some c := by simp [ho]
  refine ⟨fun c hc => ?_, fun c => (h.plain c).append_of_ne (hne _),
    h.time.append_of_ne (hne _), fun c => (h.variants c).append_of_ne (hne _), ?_⟩
  · rw [h.seen c hc, mem_pairKeys_append_of_ne (key_ne_of_owner?_ne (hne c))]
  · rw [unrecognized_append ho, h.leftover]

/-- Seeing a claim is all that happens to the claims that do not own the pair. -/
theorem seen_cons (h : d.Reflects pre p) {c : Claim} (c' : Claim) (hc' : c'.layout ≠ .localized) :
    c' ∈ c :: p.seen ↔ c'.key ∈ pairKeys (pre ++ [(c.key, raw)]) := by
  rw [List.mem_cons, h.seen c' hc', mem_pairKeys_append, or_comm]
  exact or_congr_right ⟨fun hcc => hcc ▸ rfl, Claim.key_injective⟩

theorem takePlain (h : d.Reflects pre p) {c : PlainClaim} (hk : c.key ∉ pairKeys pre)
    (hq : p.takePlain d.policy d.genderType c none raw = .ok q) :
    d.Reflects (pre ++ [(c.key, raw)]) q := by
  have ho : Claim.owner? c.key = some (.plain c) := Claim.owner?_key (.plain c)
  have hs : Claim.plain c ∉ p.seen := fun hm => hk ((h.seen _ (layout_plain_ne c)).1 hm)
  have hne {c' : PlainClaim} (hc : c' ≠ c) : Claim.owner? c.key ≠ some (.plain c') := by
    simpa [ho] using hc.symm
  have htime : d.GivesTime (pre ++ [(c.key, raw)]) p.updatedAt :=
    h.time.append_of_ne (by simp [ho])
  have hvars (l : LocalizedClaim) :
      d.GivesVariants (pre ++ [(c.key, raw)]) l (p.localized l).variants :=
    (h.variants l).append_of_ne (by simp [ho])
  have hleft : p.leftover = unrecognized (pre ++ [(c.key, raw)]) :=
    h.leftover.trans (unrecognized_append_of_some ho).symm
  rw [takePlain_none, if_neg hs] at hq
  by_cases ha : c.isAbsence raw = true
  · rw [if_pos ha] at hq
    cases hq
    refine ⟨h.seen_cons, fun c' => ?_, htime, hvars, hleft⟩
    by_cases hc : c' = c
    · subst hc
      rw [givesPlain_none_of_not_mem (h.plain c') hk]
      exact givesPlain_absent hk ha
    · exact (h.plain c').append_of_ne (hne hc)
  · rw [if_neg ha] at hq
    cases hr : c.read d.policy d.genderType raw with
    | error fault => simp [hr] at hq
    | ok v =>
        rw [hr] at hq
        cases hq
        refine ⟨h.seen_cons, fun c' => ?_, htime, hvars, hleft⟩
        by_cases hc : c' = c
        · subst hc
          simpa [Intake.setPlain] using givesPlain_read hk (Bool.eq_false_iff.2 ha) hr
        · simpa [Intake.setPlain, hc] using (h.plain c').append_of_ne (hne hc)

theorem takeTime (h : d.Reflects pre p) (hk : Claim.updatedAt.key ∉ pairKeys pre)
    (hq : p.takeTime d.policy none raw = .ok q) :
    d.Reflects (pre ++ [(Claim.updatedAt.key, raw)]) q := by
  have ho : Claim.owner? Claim.updatedAt.key = some .updatedAt := Claim.owner?_key .updatedAt
  have hs : Claim.updatedAt ∉ p.seen := fun hm => hk ((h.seen _ (by decide)).1 hm)
  have hplain (c : PlainClaim) :
      d.GivesPlain (pre ++ [(Claim.updatedAt.key, raw)]) c (p.plain c) :=
    (h.plain c).append_of_ne (by simp [ho])
  have hvars (l : LocalizedClaim) :
      d.GivesVariants (pre ++ [(Claim.updatedAt.key, raw)]) l (p.localized l).variants :=
    (h.variants l).append_of_ne (by simp [ho])
  have hleft : p.leftover = unrecognized (pre ++ [(Claim.updatedAt.key, raw)]) :=
    h.leftover.trans (unrecognized_append_of_some ho).symm
  simp only [Intake.takeTime, Intake.see, hs, if_false] at hq
  by_cases hn : raw.isNull = true
  · rw [if_pos hn] at hq
    cases hq
    refine ⟨h.seen_cons, hplain, ?_, hvars, hleft⟩
    rw [givesTime_none_of_not_mem h.time hk]
    exact givesTime_absent hk hn
  · rw [if_neg hn] at hq
    cases ht : readTime d.policy raw with
    | error fault => simp [ht] at hq
    | ok t =>
        rw [ht] at hq
        cases hq
        exact ⟨h.seen_cons, hplain, givesTime_read hk (Bool.eq_false_iff.2 hn) ht, hvars, hleft⟩

theorem takeVariant (h : d.Reflects pre p) {c : LocalizedClaim}
    (ho : Claim.owner? key = some (.localized c))
    (hq : p.takeVariant d.policy c (FlatKey.split key).2 raw = .ok q) :
    d.Reflects (pre ++ [(key, raw)]) q := by
  have hne {c' : LocalizedClaim} (hc : c' ≠ c) : Claim.owner? key ≠ some (.localized c') := by
    simpa [ho] using hc.symm
  have hseen (c' : Claim) (hc' : c'.layout ≠ .localized) :
      c' ∈ p.seen ↔ c'.key ∈ pairKeys (pre ++ [(key, raw)]) := by
    have hcc : Claim.owner? key ≠ some c' := by
      rintro hoc
      rw [ho, Option.some_inj] at hoc
      exact hc' (hoc ▸ rfl)
    rw [h.seen c' hc', mem_pairKeys_append_of_ne (key_ne_of_owner?_ne hcc)]
  have hplain (c : PlainClaim) : d.GivesPlain (pre ++ [(key, raw)]) c (p.plain c) :=
    (h.plain c).append_of_ne (by simp [ho])
  have htime : d.GivesTime (pre ++ [(key, raw)]) p.updatedAt := h.time.append_of_ne (by simp [ho])
  have hleft : p.leftover = unrecognized (pre ++ [(key, raw)]) :=
    h.leftover.trans (unrecognized_append_of_some ho).symm
  unfold Intake.takeVariant at hq
  by_cases ht : Intake.acceptsTag d.policy (FlatKey.split key).2 = true
  · rw [if_pos ht] at hq
    cases hr : readVariant d.policy raw with
    | error fault => simp [hr] at hq
    | ok v =>
        by_cases hh : (p.localized c).has (.tag (FlatKey.split key).2) = true
        · simp [hr, Localized.insert, hh] at hq
        · simp only [hr, Localized.insert, hh] at hq
          cases hq
          refine ⟨hseen, hplain, htime, fun c' => ?_, hleft⟩
          by_cases hc : c' = c
          · subst hc
            simpa [Intake.setLocalized] using givesVariants_append (h.variants c') ho hr
          · simpa [Intake.setLocalized, hc] using (h.variants c').append_of_ne (hne hc)
  · simp [ht] at hq

theorem of_takeKey (h : d.Reflects pre p)
    (hq : Intake.takeKey d.policy d.genderType p key raw = .ok q) :
    d.Reflects (pre ++ [(key, raw)]) q := by
  have hk : key ∉ pairKeys pre := by
    cases hr : d.refusal? pre key raw with
    | none => exact (refusal?_eq_none_iff.1 hr).1
    | some e => simp [h.takeKey_eq_error_iff.2 hr] at hq
  rw [Intake.takeKey_eq] at hq
  rcases ho : Claim.owner? key with _ | ⟨c⟩ | ⟨c⟩ | _
  · have hl : ¬ Entries.has p.leftover key = true := fun hh => hk ((h.has_leftover_iff ho).1 hh)
    rw [ho] at hq
    simp only [Intake.keep, hl] at hq
    cases hq
    exact h.keep ho
  · rw [ho] at hq
    rcases ht : (FlatKey.split key).2 with _ | tag
    · have hkey : c.key = key := Claim.key_of_owner? ho ht
      subst hkey
      rw [ht] at hq
      exact h.takePlain hk hq
    · simp [ht, Intake.takePlain, Intake.see] at hq
  · rw [ho] at hq
    exact h.takeVariant ho hq
  · rw [ho] at hq
    rcases ht : (FlatKey.split key).2 with _ | tag
    · have hkey : Claim.updatedAt.key = key := Claim.key_of_owner? ho ht
      subst hkey
      rw [ht] at hq
      exact h.takeTime hk hq
    · simp [ht, Intake.takeTime, Intake.see] at hq

theorem takeKey_ok_iff (h : d.Reflects pre p) :
    (∃ q, Intake.takeKey d.policy d.genderType p key raw = .ok q) ↔
      key ∉ pairKeys pre ∧ d.Fits key raw := by
  rw [← refusal?_eq_none_iff]
  cases hq : Intake.takeKey d.policy d.genderType p key raw with
  | error e => simp [h.takeKey_eq_error_iff.1 hq]
  | ok q =>
      cases hr : d.refusal? pre key raw with
      | none => simp
      | some e => simp [h.takeKey_eq_error_iff.2 hr] at hq

/-- A run that takes all its pairs keeps the intake in step with them. -/
theorem of_takeAll {rest : List TextPair} (h : d.Reflects pre p)
    (hq : p.takeAll d.policy d.genderType (textPairs rest) = .ok q) :
    d.Reflects (pre ++ rest) q := by
  induction rest generalizing pre p with
  | nil =>
      cases hq
      simpa using h
  | cons e rest ih =>
      cases hp : Intake.takeKey d.policy d.genderType p e.1 e.2 with
      | error err => simp [textPairs, Intake.takeAll, Intake.take, hp] at hq
      | ok p' =>
          simp only [textPairs, List.map_cons, Intake.takeAll, Intake.take, hp] at hq
          simpa using ih (h.of_takeKey hp) hq

/-- A run takes all its pairs exactly when no key is repeated, in it or from the prefix, and every
pair fits. -/
theorem takeAll_ok_iff {rest : List TextPair} (h : d.Reflects pre p)
    (hn : (pairKeys pre).Nodup) :
    (∃ q, p.takeAll d.policy d.genderType (textPairs rest) = .ok q) ↔
      (pairKeys (pre ++ rest)).Nodup ∧ ∀ e ∈ rest, d.Fits e.1 e.2 := by
  induction rest generalizing pre p with
  | nil => simp [textPairs, Intake.takeAll, hn]
  | cons e rest ih =>
      have hstep : (∃ q, Intake.takeKey d.policy d.genderType p e.1 e.2 = .ok q) ↔
          e.1 ∉ pairKeys pre ∧ d.Fits e.1 e.2 := h.takeKey_ok_iff
      cases hp : Intake.takeKey d.policy d.genderType p e.1 e.2 with
      | error err =>
          simp only [hp, reduceCtorEq, exists_false, false_iff] at hstep
          constructor
          · rintro ⟨q, hq⟩
            simp [textPairs, Intake.takeAll, Intake.take, hp] at hq
          · rintro ⟨hnodup, hfit⟩
            refine absurd ⟨fun hk => ?_, hfit e List.mem_cons_self⟩ hstep
            rw [pairKeys, List.map_append, List.map_cons] at hnodup
            exact (List.nodup_append.1 hnodup).2.2 e.1 hk e.1 List.mem_cons_self rfl
      | ok p' =>
          obtain ⟨hk, hfit⟩ := hstep.1 ⟨p', hp⟩
          have hn' : (pairKeys (pre ++ [(e.1, e.2)])).Nodup := by
            rw [nodup_pairKeys_append]
            exact ⟨hk, hn⟩
          have hih := ih (h.of_takeKey hp) hn'
          simp only [textPairs, List.map_cons, Intake.takeAll, Intake.take, hp]
          simp only [textPairs] at hih
          simp [hih, hfit]

end Reflects

end Decoder

end IdentityClaims
