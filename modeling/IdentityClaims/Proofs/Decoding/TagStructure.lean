import IdentityClaims.Proofs.Decoding.Acceptance
import IdentityClaims.Proofs.Decoding.Loosening
import IdentityClaims.Proofs.Decoding.Refusal
import IdentityClaims.Proofs.Text.TagGrammar

/-!
# Language tags under the structural check

A decoder that checks the structure of language tags looks at the tag of a key when it takes the
value of a localized claim. So the tags of all standard claims have the structure where it succeeds,
and it succeeds on nothing else that a decoder without the check refuses; but the tag of a key that
belongs to no standard claim is not looked at. Main statement: `Decoder.decode_structural`.
-/

namespace IdentityClaims

namespace Decoder

def withTagCheck (d : Decoder) (check : TagCheck) : Decoder :=
  { d with policy := { d.policy with tagCheck := check } }

variable {d : Decoder} {pairs : List TextPair}

theorem accepts_withTagCheck_iff (check : TagCheck) :
    (d.withTagCheck check).Accepts pairs ↔ (d.withTagCheck .off).Accepts pairs ∧
      ∀ e ∈ pairs, ∀ c tag, Claim.owner? e.1 = some (.localized c) →
        (FlatKey.split e.1).2 = some tag → check.accepts tag = true := by
  constructor
  · intro h
    exact ⟨⟨h.distinct, h.untagged, fun _ _ _ _ _ _ => rfl, h.variants, h.plain, h.time, h.subject,
      h.additional⟩, h.tags⟩
  · rintro ⟨h, htags⟩
    exact ⟨h.distinct, h.untagged, htags, h.variants, h.plain, h.time, h.subject, h.additional⟩

/-- The tags in the keys of standard claims are tags of the grammar. -/
def TagsFollowGrammar (pairs : List (Data × Data)) : Prop :=
  ∀ (c : Claim) (tag : String) (raw : Data),
    (.text (FlatKey.join c.key (some tag)), raw) ∈ pairs → tag.toList ∈ Tag.grammar

theorem mem_textPairs {key : String} {raw : Data} :
    (.text key, raw) ∈ textPairs pairs ↔ (key, raw) ∈ pairs := by
  simp [textPairs]

theorem accepts_structural_iff :
    (d.withTagCheck .structural).Accepts pairs ↔
      (d.withTagCheck .off).Accepts pairs ∧ TagsFollowGrammar (textPairs pairs) := by
  rw [accepts_withTagCheck_iff]
  refine and_congr_right fun h => ⟨fun htags c tag raw hmem => ?_, fun htags e he c tag ho ht => ?_⟩
  · rw [mem_textPairs] at hmem
    have ho := Claim.owner?_join c (some tag)
    have ht : (FlatKey.split (FlatKey.join c.key (some tag))).2 = some tag := by
      rw [Claim.split_join_key]
    by_cases hc : c.layout = .localized
    · obtain ⟨l, rfl⟩ : ∃ l, c = .localized l := by
        rcases c with c | l | _
        · exact absurd hc (layout_plain_ne c)
        · exact ⟨l, rfl⟩
        · exact absurd hc (by decide)
      exact (Tag.isWellFormed_iff tag).1 (htags _ hmem l tag ho ht)
    · -- a claim that is not localized has no tag at all
      have hnone := h.untagged _ hmem c ho hc
      rw [ht] at hnone
      cases hnone
  · have hkey := Claim.join_of_owner? ho
    rw [ht] at hkey
    refine (Tag.isWellFormed_iff tag).2 (htags (.localized c) tag e.2 (mem_textPairs.2 ?_))
    rwa [hkey]

theorem loosensTo_off (d : Decoder) (check : TagCheck) :
    (d.withTagCheck check).policy.LoosensTo (d.withTagCheck .off).policy := ⟨.inl rfl, .inr rfl⟩

theorem decode_structural_iff {pairs : List (Data × Data)} {s : ClaimSet} :
    (d.withTagCheck .structural).decode pairs = .ok s ↔
      (d.withTagCheck .off).decode pairs = .ok s ∧ TagsFollowGrammar pairs := by
  constructor
  · intro h
    obtain ⟨qs, rfl⟩ := exists_textPairs_of_decode h
    exact ⟨decode_of_loosensTo (loosensTo_off d .structural) h,
      (accepts_structural_iff.1 (decode_ok_iff_accepts.1 ⟨s, h⟩)).2⟩
  · rintro ⟨h, htags⟩
    obtain ⟨qs, rfl⟩ := exists_textPairs_of_decode h
    obtain ⟨t, ht⟩ := decode_ok_iff_accepts.2
      (accepts_structural_iff.2 ⟨decode_ok_iff_accepts.1 ⟨s, h⟩, htags⟩)
    have hoff : (d.withTagCheck .off).decode (textPairs qs) = .ok t :=
      decode_of_loosensTo (loosensTo_off d .structural) ht
    rw [h, Except.ok.injEq] at hoff
    rw [hoff, ht]

theorem exists_mem_of_label {s : ClaimSet} (h : d.decode (textPairs pairs) = .ok s)
    {c : LocalizedClaim} {tag : Tag} (ht : .tag tag ∈ (s.localized c).labels) :
    ∃ raw, (FlatKey.join c.key tag, raw) ∈ pairs := by
  obtain ⟨v, hv, hlabel⟩ := List.mem_map.1 ht
  obtain ⟨e, he, hkey, -⟩ := exists_of_forall₂ ((yields_of_decode h).variants c) v hv
  obtain ⟨hmem, ho⟩ := List.mem_filter.1 he
  rw [hlabel, Label.tag.injEq] at hkey
  refine ⟨e.2, ?_⟩
  have hjoin := Claim.join_of_owner? (of_decide_eq_true ho)
  rw [← hkey] at hjoin
  rwa [← Claim.key_localized, hjoin]

/-- Under the structural check pairs are decoded exactly if they are without a check and the tags of
all standard claims are tags of the grammar; so are, then, the tags in the claim set. The tag in a
key of no standard claim is not looked at: such a key passes with any. -/
theorem decode_structural (d : Decoder) :
    (∀ pairs s, (d.withTagCheck .structural).decode pairs = .ok s ↔
      (d.withTagCheck .off).decode pairs = .ok s ∧ TagsFollowGrammar pairs) ∧
    (∀ pairs s, (d.withTagCheck .structural).decode pairs = .ok s →
      ∀ c tag, .tag (some tag) ∈ (s.localized c).labels → tag.toList ∈ Tag.grammar) ∧
    (d.additionalType = AdditionalType.anyMap → ∀ key raw, Claim.owner? key = none →
      ∃ s, (d.withTagCheck .structural).decode (textPairs (subjectAnd key raw)) = .ok s) := by
  refine ⟨fun _ _ => decode_structural_iff, fun pairs s h c tag hlabel => ?_,
    fun hd key raw ho => ?_⟩
  · obtain ⟨qs, rfl⟩ := exists_textPairs_of_decode h
    obtain ⟨raw, hmem⟩ := exists_mem_of_label h hlabel
    exact (decode_structural_iff.1 h).2 (.localized c) tag raw (mem_textPairs.2 hmem)
  · exact decode_ok_iff_accepts.2 (accepts_subjectAnd (d.withTagCheck .structural) hd ho raw)

def structuralDecoder : Decoder where
  policy := { tagCheck := .structural }
  additionalType := AdditionalType.anyMap

/-- A malformed tag goes unnoticed under the structural check where its key belongs to no standard
claim. -/
theorem malformed_tag_decoded :
    ∃ s, structuralDecoder.decode
        [(.text "sub", .text "a"), (.text "motto#not a tag", .text "x")] = .ok s ∧
      FlatKey.split "motto#not a tag" = ("motto", some "not a tag") ∧
      "not a tag".toList ∉ Tag.grammar := by
  refine ⟨_, rfl, rfl, ?_⟩
  rw [← Tag.isWellFormed_iff]
  decide

end Decoder

end IdentityClaims
