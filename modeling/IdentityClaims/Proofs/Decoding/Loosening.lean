import IdentityClaims.ClaimSet.InForce
import IdentityClaims.Config.Basic
import IdentityClaims.Proofs.Values.Shape

/-!
# Looser rules

Rules are loosened by turning strictness off or by no longer checking language tags. A value that a
strict check accepts is accepted by a lenient one and comes out the same, so a pair that is taken is
taken under looser rules and leaves the same intake behind. Main statement:
`decodeInForce_loosened`.
-/

namespace IdentityClaims

/-! ## Single values -/

section Values

variable {d v : Data}

theorem checkText_of_strict {s : String} (h : checkText .strict d = .ok s) (mode : Strictness) :
    checkText mode d = .ok s := by
  cases d with
  | text t => simpa using h
  | _ => cases h

theorem checkTruth_of_strict {b : Bool} (h : checkTruth .strict d = .ok b) (mode : Strictness) :
    checkTruth mode d = .ok b := by
  cases d with
  | bool c => simpa using h
  | _ => cases h

theorem checkInteger_of_strict {n : Int} (h : checkInteger .strict d = .ok n)
    (mode : Strictness) : checkInteger mode d = .ok n := by
  cases d with
  | int m => simpa using h
  | _ => cases h

/-- What a strict check accepts, any check accepts, and it comes out the same. -/
theorem Shape.check_of_strict {s : Shape} (h : s.check .strict d = .ok v) (mode : Strictness) :
    s.check mode d = .ok v := by
  induction s generalizing d v with
  | any => exact h
  | literal options => exact h
  | text =>
      obtain ⟨t, ht, rfl⟩ := Checked.map_eq_ok_iff.1 h
      exact Checked.map_eq_ok_iff.2 ⟨t, checkText_of_strict ht mode, rfl⟩
  | truth =>
      obtain ⟨b, hb, rfl⟩ := Checked.map_eq_ok_iff.1 h
      exact Checked.map_eq_ok_iff.2 ⟨b, checkTruth_of_strict hb mode, rfl⟩
  | integer =>
      obtain ⟨n, hn, rfl⟩ := Checked.map_eq_ok_iff.1 h
      exact Checked.map_eq_ok_iff.2 ⟨n, checkInteger_of_strict hn mode, rfl⟩
  | optional shape ih =>
      cases d with
      | null => exact h
      | _ => exact ih h
  | listOf item ih =>
      cases d with
      | list items =>
          obtain ⟨vs, hvs, rfl⟩ := Checked.map_eq_ok_iff.1 h
          refine Checked.map_eq_ok_iff.2 ⟨vs, ?_, rfl⟩
          exact checkItems_eq_ok_iff.2 ((checkItems_eq_ok_iff.1 hvs).imp fun _ _ hv => ih hv)
      | _ => cases h
  | mapOf value ih =>
      cases d with
      | map entries =>
          obtain ⟨es, hes, rfl⟩ := Checked.map_eq_ok_iff.1 h
          refine Checked.map_eq_ok_iff.2 ⟨es, ?_, rfl⟩
          refine checkEntries_eq_ok_iff.2 ((checkEntries_eq_ok_iff.1 hes).imp fun e f hef => ?_)
          refine ⟨?_, ih hef.2⟩
          simp only [checkKey, Checked.within_eq_ok_iff, Checked.map_eq_ok_iff] at hef ⊢
          obtain ⟨⟨t, ht, htext⟩, -⟩ := hef
          exact ⟨t, checkText_of_strict ht mode, htext⟩
      | _ => cases h

end Values

/-- A flaw that does no harm when a pair is taken does none to it under any policy: the value of a
claim with language tags is checked as soon as its tag passes. -/
theorem Intake.fault?_of_take {p q : Policy} {genderType : Schema} {i j : Intake}
    {flaw : PolicyFlaw} {pair : Data × Data} (hf : i.fault? flaw p pair = none)
    (hj : i.take p genderType pair = .ok j) : i.fault? flaw q pair = none := by
  obtain ⟨key, raw⟩ := pair
  cases key with
  | text key =>
      simp only [fault?] at hf ⊢
      simp only [take, takeKey] at hj
      cases ho : Claim.ofKey? (FlatKey.split key).1 with
      | none => rfl
      | some claim =>
          rw [ho] at hf hj
          cases claim with
          | plain c => exact hf
          | updatedAt => exact hf
          | localized c =>
              have ha : acceptsTag p (FlatKey.split key).2 = true := by
                by_contra ha
                simp [takeVariant, ha] at hj
              simp [ha] at hf
  | _ => rfl

/-! ## Looser policies -/

structure Policy.LoosensTo (p q : Policy) : Prop where
  strictness : q.strictness = p.strictness ∨ q.strictness = .lenient
  tagCheck : q.tagCheck = p.tagCheck ∨ q.tagCheck = .off

namespace Policy.LoosensTo

variable {p q : Policy} (h : p.LoosensTo q)
include h

theorem check {s : Shape} {d v : Data} (hv : s.check p.strictness d = .ok v) :
    s.check q.strictness d = .ok v := by
  cases hp : p.strictness with
  | strict =>
      rw [hp] at hv
      exact Shape.check_of_strict hv q.strictness
  | lenient =>
      have hq : q.strictness = .lenient := by simpa [hp] using h.strictness
      rwa [hq, ← hp]

theorem readVariant {raw v : Data} (hv : readVariant p raw = .ok v) :
    readVariant q raw = .ok v :=
  readVariant_eq_ok_iff.2 (h.check (readVariant_eq_ok_iff.1 hv))

/-- A claim that heeds strictness has a type of plain data. -/
theorem read {c : PlainClaim} {genderType : Schema} {raw : Data} {v : Held}
    (hv : c.read p genderType raw = .ok v) : c.read q genderType raw = .ok v := by
  rw [PlainClaim.read_eq_ok_iff] at hv ⊢
  cases c with
  | gender | address => exact hv
  | _ =>
      obtain ⟨d, hd, rfl⟩ := Checked.map_eq_ok_iff.1 hv
      exact Checked.map_eq_ok_iff.2 ⟨d, h.check hd, rfl⟩

theorem readTime {raw : Data} {t : Instant} (ht : readTime p raw = .ok t) :
    readTime q raw = .ok t := by
  obtain hq | hq := h.strictness
  · rwa [IdentityClaims.readTime, hq]
  · cases hp : p.strictness with
    | lenient => rwa [IdentityClaims.readTime, hq, ← hp]
    | strict =>
        simp only [IdentityClaims.readTime, hp, readSeconds] at ht
        simp only [IdentityClaims.readTime, hq]
        cases raw with
        | text s => simp [Instant.ofSeconds] at ht
        | _ => exact ht

theorem acceptsTag {tag : Tag} (ht : Intake.acceptsTag p tag = true) :
    Intake.acceptsTag q tag = true := by
  cases tag with
  | none => rfl
  | some tag =>
      obtain hq | hq := h.tagCheck
      · simpa [Intake.acceptsTag, hq] using ht
      · simp [Intake.acceptsTag, hq, TagCheck.accepts]

/-! ## Taking pairs -/

variable {i j : Intake} {genderType : Schema}

theorem takePlain {c : PlainClaim} {tag : Tag} {raw : Data}
    (hj : i.takePlain p genderType c tag raw = .ok j) :
    i.takePlain q genderType c tag raw = .ok j := by
  simp only [Intake.takePlain] at hj ⊢
  split at hj
  · cases hj
  · next k hk =>
      split at hj
      · next hn => simpa [hk, hn] using hj
      · next hn =>
          split at hj
          · cases hj
          · next v hv => simpa [hk, hn, h.read hv] using hj

theorem takeTime {tag : Tag} {raw : Data} (hj : i.takeTime p tag raw = .ok j) :
    i.takeTime q tag raw = .ok j := by
  simp only [Intake.takeTime] at hj ⊢
  split at hj
  · cases hj
  · next k hk =>
      split at hj
      · next hn => simpa [hk, hn] using hj
      · next hn =>
          split at hj
          · cases hj
          · next t ht => simpa [hk, hn, h.readTime ht] using hj

theorem takeVariant {c : LocalizedClaim} {tag : Tag} {raw : Data}
    (hj : i.takeVariant p c tag raw = .ok j) : i.takeVariant q c tag raw = .ok j := by
  simp only [Intake.takeVariant] at hj ⊢
  split at hj
  · next ha =>
      split at hj
      · cases hj
      · next v hv => simpa [h.acceptsTag ha, h.readVariant hv] using hj
  · cases hj

theorem take {pair : Data × Data} (hj : i.take p genderType pair = .ok j) :
    i.take q genderType pair = .ok j := by
  obtain ⟨key, raw⟩ := pair
  cases key with
  | text key =>
      simp only [Intake.take, Intake.takeKey_eq] at hj ⊢
      cases ho : Claim.owner? key with
      | none => simpa [ho] using hj
      | some claim =>
          rw [ho] at hj
          cases claim with
          | plain c => exact h.takePlain hj
          | localized c => exact h.takeVariant hj
          | updatedAt => exact h.takeTime hj
  | _ => cases hj

theorem takeAll {pairs : List (Data × Data)} (hj : i.takeAll p genderType pairs = .ok j) :
    i.takeAll q genderType pairs = .ok j := by
  induction pairs generalizing i with
  | nil => exact hj
  | cons pair pairs ih =>
      simp only [Intake.takeAll] at hj ⊢
      cases hk : i.take p genderType pair with
      | error e => simp [hk] at hj
      | ok k =>
          rw [hk] at hj
          rw [h.take hk]
          exact ih hj

theorem firstFault? {flaw : PolicyFlaw} {pairs : List (Data × Data)}
    (hf : i.firstFault? flaw p genderType pairs = none)
    (hj : i.takeAll p genderType pairs = .ok j) :
    i.firstFault? flaw q genderType pairs = none := by
  induction pairs generalizing i with
  | nil => rfl
  | cons pair pairs ih =>
      simp only [Intake.firstFault?, Intake.takeAll] at hf hj ⊢
      cases hk : i.take p genderType pair with
      | error e => simp [hk] at hj
      | ok k =>
          cases hfault : i.fault? flaw p pair with
          | some fault => simp [hfault] at hf
          | none =>
              rw [hfault, hk] at hf
              rw [hk] at hj
              rw [Intake.fault?_of_take hfault hk, h.take hk]
              exact ih hf hj

end Policy.LoosensTo

/-! ## Looser rules -/

namespace Decoder

variable {p q : Policy} {genderType additionalType : Schema} {pairs : List (Data × Data)}
  {s : ClaimSet}

theorem takeAll_of_decode {d : Decoder} (hs : d.decode pairs = .ok s) :
    ∃ i, Intake.start.takeAll d.policy d.genderType pairs = .ok i := by
  cases hi : Intake.start.takeAll d.policy d.genderType pairs with
  | error e => simp [decode, gather, hi] at hs
  | ok i => exact ⟨i, rfl⟩

theorem decode_of_loosensTo (h : p.LoosensTo q)
    (hs : ({ policy := p, genderType, additionalType } : Decoder).decode pairs = .ok s) :
    ({ policy := q, genderType, additionalType } : Decoder).decode pairs = .ok s := by
  obtain ⟨i, hi⟩ := takeAll_of_decode hs
  simp only [decode, gather, hi] at hs
  simp only [decode, gather, h.takeAll hi]
  exact hs

end Decoder

theorem guarded_eq_ok_iff {ε α : Type} {fault? : Option PolicyFault} {result : Except ε α}
    {a : α} : guarded fault? result = .ok a ↔ fault? = none ∧ result = .ok a := by
  cases fault? <;> cases result <;> simp [guarded]

/-- Rules check no more closely than others, and have no flaw but theirs. -/
structure Rules.LoosensTo (r s : Rules) : Prop where
  policy : r.policy.LoosensTo s.policy
  flaw : s.flaw? = r.flaw? ∨ s.flaw? = none

theorem Policy.LoosensTo.trans {p q r : Policy} (h : p.LoosensTo q) (h' : q.LoosensTo r) :
    p.LoosensTo r where
  strictness := by
    obtain hr | hr := h'.strictness
    · rw [hr]
      exact h.strictness
    · exact .inr hr
  tagCheck := by
    obtain hr | hr := h'.tagCheck
    · rw [hr]
      exact h.tagCheck
    · exact .inr hr

theorem Rules.LoosensTo.trans {r s t : Rules} (h : r.LoosensTo s) (h' : s.LoosensTo t) :
    r.LoosensTo t where
  policy := h.policy.trans h'.policy
  flaw := by
    obtain ht | ht := h'.flaw
    · rw [ht]
      exact h.flaw
    · exact .inr ht

theorem Decoder.decodeInForce_of_loosensTo {r s : Rules} (h : r.LoosensTo s)
    {genderType additionalType : Schema} {pairs : List (Data × Data)} {c : ClaimSet}
    (hc : ({ policy := r.policy, genderType, additionalType } : Decoder).decodeInForce r.flaw?
      pairs = .ok c) :
    ({ policy := s.policy, genderType, additionalType } : Decoder).decodeInForce s.flaw? pairs =
      .ok c := by
  obtain ⟨hf, hd⟩ := guarded_eq_ok_iff.1 hc
  refine guarded_eq_ok_iff.2 ⟨?_, decode_of_loosensTo h.policy hd⟩
  obtain hs | hs := h.flaw
  · rw [hs]
    cases hr : r.flaw? with
    | none => rfl
    | some flaw =>
        rw [hr] at hf
        obtain ⟨i, hi⟩ := takeAll_of_decode hd
        exact h.policy.firstFault? hf hi
  · rw [hs]
    rfl

/-! ## Looser sections -/

/-- A section that comes from another one by turning strictness off and by turning the check of
language tags off, once or repeatedly, or by neither. -/
inductive SectionValue.LoosensTo (u : SectionValue) : SectionValue → Prop
  | refl : LoosensTo u u
  | strictness {v w : SectionValue} : LoosensTo u v →
    v.assign .codec Rule.strictness.name (.bool false) = .ok w → LoosensTo u w
  | tagCheck {v w : SectionValue} : LoosensTo u v →
    v.assign .codec Rule.tagCheck.name (.text "none") = .ok w → LoosensTo u w

namespace SectionValue

/-- A field that is assigned is put among the values of the section. -/
theorem values_of_assign {s : SectionName} {field : String} {value : Data} {v w : SectionValue}
    (hfield : s.hasField field = true) (h : v.assign s field value = .ok w) :
    ∃ values before after, v = .fields values before ∧
      w = .fields (Entries.put values field value) after := by
  cases v with
  | other d => cases h
  | fields values assigned =>
      simp only [assign, hfield, if_true, Except.ok.injEq] at h
      exact ⟨values, assigned, _, rfl, h.symm⟩

theorem rules_of_strictness {v w : SectionValue}
    (h : v.assign .codec Rule.strictness.name (.bool false) = .ok w) :
    Rules.LoosensTo ⟨v.policy, v.flaw?⟩ ⟨w.policy, w.flaw?⟩ := by
  obtain ⟨values, before, after, rfl, rfl⟩ := values_of_assign (by decide) h
  refine ⟨⟨.inr ?_, .inl ?_⟩, .inr ?_⟩
  · simp [policy, get?, Entries.get?_put, Data.isTruthy]
  · simp [policy, get?, Entries.get?_put, Rule.name]
  · simp [flaw?, Entries.get?_put]

theorem rules_of_tagCheck {v w : SectionValue}
    (h : v.assign .codec Rule.tagCheck.name (.text "none") = .ok w) :
    Rules.LoosensTo ⟨v.policy, v.flaw?⟩ ⟨w.policy, w.flaw?⟩ := by
  obtain ⟨values, before, after, rfl, rfl⟩ := values_of_assign (by decide) h
  refine ⟨⟨.inl ?_, .inr ?_⟩, .inl ?_⟩
  · have hget : (fields (Entries.put values Rule.tagCheck.name (.text "none")) after).get?
        Rule.strictness.name = (fields values before).get? Rule.strictness.name := by
      simp [get?, Entries.get?_put, Rule.name]
    simp only [policy, hget]
  · simp [policy, get?, Entries.get?_put, TagCheck.ofName, Data.text?]
  · simp [flaw?, Entries.get?_put, Rule.name]

theorem LoosensTo.rules {v w : SectionValue} (h : v.LoosensTo w) :
    Rules.LoosensTo ⟨v.policy, v.flaw?⟩ ⟨w.policy, w.flaw?⟩ := by
  induction h with
  | refl => exact ⟨⟨.inl rfl, .inl rfl⟩, .inl rfl⟩
  | strictness _ hw ih => exact ih.trans (rules_of_strictness hw)
  | tagCheck _ hw ih => exact ih.trans (rules_of_tagCheck hw)

end SectionValue

/-- What decodes under a section decodes to the same claim set under one that is looser, whether the
rules of these sections have flaws or not. -/
theorem Decoder.decodeInForce_loosened (genderType additionalType : Schema)
    (pairs : List (Data × Data)) {v w : SectionValue} (h : v.LoosensTo w) {s : ClaimSet}
    (hs : ({ policy := v.policy, genderType, additionalType } : Decoder).decodeInForce v.flaw?
      pairs = .ok s) :
    ({ policy := w.policy, genderType, additionalType } : Decoder).decodeInForce w.flaw? pairs =
      .ok s :=
  decodeInForce_of_loosensTo h.rules hs

def closeSection : SectionValue :=
  .fields (Entries.put SectionName.codecType.defaults.values "language_tag_validation"
    (.text "structural")) []

def taggedClaims : List (Data × Data) :=
  [(.text "sub", .text "24400320"), (.text "name#en-US", .text "Ada"),
    (.text "email_verified", .bool true), (.text "updated_at", .int 1311280970)]

theorem Decoder.decodeInForce_loosened_tagged :
    ∃ w s, closeSection.LoosensTo w ∧
      w.policy.strictness = .lenient ∧ w.policy.tagCheck = .off ∧
      ({ policy := closeSection.policy } : Decoder).decodeInForce closeSection.flaw? taggedClaims =
        .ok s ∧
      ({ policy := w.policy } : Decoder).decodeInForce w.flaw? taggedClaims = .ok s := by
  let lenient : SectionValue :=
    .fields (Entries.put (Entries.put SectionName.codecType.defaults.values
      "language_tag_validation" (.text "structural")) "strict_types" (.bool false)) ["strict_types"]
  have hloosens : closeSection.LoosensTo _ := .tagCheck (.strictness (w := lenient) .refl rfl) rfl
  have hok : (({ policy := closeSection.policy } : Decoder).decodeInForce closeSection.flaw?
    taggedClaims).toBool = true := by decide
  cases hs : ({ policy := closeSection.policy } : Decoder).decodeInForce closeSection.flaw?
      taggedClaims with
  | error e =>
      rw [hs] at hok
      cases hok
  | ok s =>
      exact ⟨_, s, hloosens, by decide, by decide, rfl,
        decodeInForce_loosened GenderType.core AdditionalType.empty taggedClaims hloosens hs⟩

end IdentityClaims
