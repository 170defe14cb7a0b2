import IdentityClaims.Proofs.Calendar.Moment
import IdentityClaims.Proofs.Calendar.Seconds
import IdentityClaims.Proofs.Encoding.Additional
import IdentityClaims.Proofs.Encoding.Travelling
import IdentityClaims.Proofs.Values.Schema

/-!
# Claim sets that come back

`Decoder.Types` says that the values of a claim set are of the types that a decoder reads, and
`Decoder.Faithful` what the types and the policy of a decoder have to be for such claim sets to come
back from a flat map. Every claim set of these types is encoded, and `ClaimSet.carried` is what each
of its claims travels as.
-/

namespace IdentityClaims

/-! ## Times -/

namespace Instant

theorem toSeconds_of_dvd (t : Instant) {rounding : Rounding} (hr : rounding ≠ .nearest)
    (h : microsPerSecond ∣ t.micros) : t.toSeconds rounding * microsPerSecond = t.micros := by
  rw [toSeconds_eq]
  cases rounding with
  | truncate => exact Int.tdiv_mul_cancel h
  | floor => exact Int.fdiv_mul_cancel h
  | nearest => exact absurd rfl hr

end Instant

theorem readTime_writeTime {policy : Policy} (hr : policy.rounding ≠ .nearest) (t : Instant) :
    ∃ u, readTime policy (writeTime policy t) = .ok u ∧
      u.micros = t.toSeconds policy.rounding * microsPerSecond := by
  have hin : Instant.SecondsInRange (t.toSeconds policy.rounding) :=
    (t.inRange_toSeconds_iff policy.rounding).2 fun hout => hr hout.1
  obtain ⟨u, hu, hmicros⟩ := Instant.ofSeconds_of_inRange hin
  refine ⟨u, ?_, hmicros⟩
  rw [writeTime, readTime_int, hu]
  rfl

/-! ## Types -/

section Schemas

theorem restoresNull_text : (Schema.shape .text).RestoresNull := .shape (by nofun)

theorem restoresNull_truth : (Schema.shape .truth).RestoresNull := .shape (by nofun)

theorem restoresNull_literal (options : List String) :
    (Schema.shape (.literal options)).RestoresNull := .shape (by nofun)

theorem wellFormed_addressType : addressType.WellFormed := ⟨by decide, by decide⟩

theorem restoresNull_addressType : addressType.RestoresNull where
  default m hm _ := by
    obtain ⟨name, -, rfl⟩ := List.mem_map.1 hm
    rfl
  byName h := by cases h
  extras := by decide

theorem wellFormed_codedType : GenderType.codedType.WellFormed := ⟨by decide, by decide⟩

theorem restoresNull_codedType : GenderType.codedType.RestoresNull where
  default m hm hnull := by
    rcases List.mem_cons.1 hm with rfl | hm
    · exact absurd hnull (by nofun)
    · rw [List.mem_singleton.1 hm]
      rfl
  byName h := by cases h
  extras := by decide

theorem restoresNull_of_mem_genderTypes {G : Schema} (hG : G ∈ GenderType.all) :
    G.RestoresNull := by
  simp only [GenderType.all, List.mem_cons, List.not_mem_nil, or_false] at hG
  rcases hG with rfl | rfl | rfl | rfl | rfl
  · exact .wrapped _
  · exact restoresNull_text
  · exact restoresNull_literal _
  · exact .choice _ _
  · exact .record wellFormed_codedType restoresNull_codedType

theorem isMapping_of_mem_additionalTypes {A : Schema} (hA : A ∈ AdditionalType.all)
    (hlist : A ≠ AdditionalType.textList) : A.IsMapping := by
  simp only [AdditionalType.all, List.mem_cons, List.not_mem_nil, or_false] at hA
  rcases hA with rfl | rfl | rfl | rfl | rfl | rfl | rfl | rfl | rfl | rfl
  all_goals first
    | exact .record ⟨by decide, by decide⟩
    | exact .mapOf _
    | exact absurd rfl hlist

/-- The type of every plain claim does without its null members, if that of gender does. -/
theorem restoresNull_schema {G : Schema} (hG : G.RestoresNull) (c : PlainClaim) :
    (c.schema G).RestoresNull := by
  cases c with
  | gender => exact hG
  | address => exact .record wellFormed_addressType restoresNull_addressType
  | emailVerified | phoneNumberVerified => exact restoresNull_truth
  | _ => exact restoresNull_text

/-- Only claims of a shape of data are checked as closely as the policy says. -/
theorem strictness_or_shape (c : PlainClaim) (policy : Policy) (G : Schema) :
    c.strictness policy = .lenient ∨ ∃ s, c.schema G = .shape s := by
  cases c with
  | gender | address => exact .inl rfl
  | _ => exact .inr ⟨_, rfl⟩

end Schemas

/-! ## The domain -/

namespace Decoder

structure Faithful (d : Decoder) : Prop where
  gender : d.genderType.RestoresNull
  additional : d.additionalType.IsMapping
  rounding : d.policy.rounding ≠ .nearest

/-- A claim set with a subject, whose values are of the types that a decoder reads, whose tags pass
its check, and whose additional claims travel under keys that belong to no standard claim. -/
structure Types (num : Binary64 → Prop) (d : Decoder) (x : ClaimSet) : Prop where
  subject : (x.plain .sub).isSome = true
  plain : ∀ c v, x.plain c = some v → (c.schema d.genderType).Instance num v
  variants : ∀ c, ∀ v ∈ (x.localized c).variants, ∃ tag text, v = (.tag tag, .text text) ∧
    Intake.acceptsTag d.policy tag = true
  additional : d.additionalType.Instance num x.additional
  free : ∀ e ∈ x.additional.entries, Claim.owner? e.1 = none

end Decoder

namespace ClaimSet

def carried (x : ClaimSet) (policy : Policy) : Claim → FlatMap
  | .plain c =>
    match x.plain c with
    | none => []
    | some v => [(c.key, v.carried)]
  | .localized c =>
    (x.localized c).variants.map fun v => (FlatKey.join c.key v.1.travelling, v.2)
  | .updatedAt =>
    match x.updatedAt with
    | none => []
    | some t => [(Claim.updatedAt.key, writeTime policy t)]

theorem key_of_mem_carried {x : ClaimSet} {policy : Policy} {c : Claim} {e : TextPair}
    (hc : c.layout ≠ .localized) (he : e ∈ x.carried policy c) : e.1 = c.key := by
  rcases c with c | c | _
  · rw [carried] at he
    cases hv : x.plain c <;> simp_all
  · exact absurd rfl hc
  · rw [carried] at he
    cases ht : x.updatedAt <;> simp_all

end ClaimSet

/-! ## Encoding in the domain -/

namespace Decoder.Types

variable {num : Binary64 → Prop} {d : Decoder} {x : ClaimSet}

theorem write_eq (h : d.Types num x) (hd : d.Faithful)
    (hnum : ∀ y, num y → y.magnitude?.isSome = true) {c : PlainClaim} {v : Held}
    (hv : x.plain c = some v) : c.write v = .ok v.carried := by
  have hinst := h.plain c v hv
  have hnull := restoresNull_schema hd.gender c
  rw [PlainClaim.write]
  split
  · exact hinst.portable_eq hnull hnum
  · exact hinst.inferred_eq hnull hnum

theorem travelsAs_carried (h : d.Types num x) (hd : d.Faithful)
    (hnum : ∀ y, num y → y.magnitude?.isSome = true) (c : Claim) :
    x.TravelsAs d.policy c (x.carried d.policy c) := by
  rcases c with c | c | _
  · rw [ClaimSet.carried]
    cases hv : x.plain c with
    | none => exact .unset hv (ClaimSet.isRequired_eq_false_of_unset h.subject hv)
    | some v => exact .plain hv (h.write_eq hd hnum hv)
  · refine .localized ?_
    rw [ClaimSet.carried, List.forall₂_map_right_iff, List.forall₂_same]
    intro v hv
    obtain ⟨tag, text, rfl, -⟩ := h.variants c v hv
    exact ⟨⟨tag, rfl, rfl⟩, rfl⟩
  · rw [ClaimSet.carried]
    cases ht : x.updatedAt with
    | none => exact .untimed ht
    | some t => exact .timed ht

/-- A claim set of the types that a decoder reads is encoded to what its claims travel as. -/
theorem encode_eq (h : d.Types num x) (hd : d.Faithful)
    (hnum : ∀ y, num y → y.magnitude?.isSome = true) :
    LaidOut (x.carried d.policy) x.additional.entries ∧
      x.encode d.policy = .ok (flatOf (x.carried d.policy) x.additional.entries) :=
  ClaimSet.encode_eq_flatOf (fun c => (h.travelsAs_carried hd hnum c).claimEntries_eq)
    (ClaimSet.additionalEntries_eq_ok_iff.2
      (.mapping (h.additional.portable_true_eq hd.additional hnum).1))
    h.free (h.additional.portable_true_eq hd.additional hnum).2

end Decoder.Types

end IdentityClaims
