import IdentityClaims.Proofs.Decoding.Refusal
import IdentityClaims.Proofs.Encoding.Collision
import IdentityClaims.Proofs.RoundTrip.Decoded
import IdentityClaims.Proofs.RoundTrip.FlatMap

/-!
# Encoding what was decoded is canonical

Decoding may coerce values, fill in defaults, take a member under another key and drop what is
unknown; encoding rounds the time. All of this happens once: whatever was decoded and encoded is
decoded to the same claim set, at its whole second, and encoded to the same pairs in the same order.
That holds for every type of the catalogue, however closely values and tags are checked. Main
statement: `Decoder.encode_decode_canonical`.
-/

namespace IdentityClaims

section Catalogue

variable {num : Binary64 → Prop}

theorem admits_default_nullable {name key : String} {shape : Shape} {v : Data}
    (hv : (Member.nullable name key shape).default? = some v) :
    (Member.nullable name key shape).shape.Admits v ∧ Data.JsonOver num v := by
  cases hv
  exact ⟨rfl, .null⟩

theorem isSound_of_mem_genderTypes {G : Schema} (hG : G ∈ GenderType.all) : G.IsSound num := by
  simp only [GenderType.all, List.mem_cons, List.not_mem_nil, or_false] at hG
  rcases hG with rfl | rfl | rfl | rfl | rfl
  · exact .wrapped _
  · exact .shape _
  · exact .shape _
  · exact .choice _ _
  · refine .record wellFormed_codedType fun m hm v hv => ?_
    rcases List.mem_cons.1 hm with rfl | hm
    · cases hv
    · obtain rfl := List.mem_singleton.1 hm
      exact admits_default_nullable hv

theorem isSound_claims {name : String} {extras : ExtraKeys} {members : List Member}
    (hw : (AdditionalType.claims name extras members).WellFormed)
    (hd : ∀ m ∈ members, ∀ v, m.default? = some v → m.shape.Admits v ∧ Data.JsonOver num v) :
    (Schema.record (AdditionalType.claims name extras members)).IsSound num :=
  .record hw hd

theorem isSound_of_mem_additionalTypes {A : Schema} (hA : A ∈ AdditionalType.all) :
    A.IsSound num := by
  simp only [AdditionalType.all, List.mem_cons, List.not_mem_nil, or_false] at hA
  rcases hA with rfl | rfl | rfl | rfl | rfl | rfl | rfl | rfl | rfl | rfl
  · exact isSound_claims ⟨by decide, by decide⟩ (by simp)
  · exact isSound_claims ⟨by decide, by decide⟩ (by simp)
  · exact isSound_claims ⟨by decide, by decide⟩ (by simp)
  · refine isSound_claims ⟨by decide, by decide⟩ fun m hm v hv => ?_
    rcases List.mem_cons.1 hm with rfl | hm
    · exact admits_default_nullable hv
    · obtain rfl := List.mem_singleton.1 hm
      cases hv
      exact ⟨rfl, .list (by simp)⟩
  · refine isSound_claims ⟨by decide, by decide⟩ fun m hm v hv => ?_
    obtain rfl := List.mem_singleton.1 hm
    exact admits_default_nullable hv
  · refine isSound_claims ⟨by decide, by decide⟩ fun m hm v hv => ?_
    rcases List.mem_cons.1 hm with rfl | hm
    · cases hv
    · obtain rfl := List.mem_singleton.1 hm
      exact admits_default_nullable hv
  · refine isSound_claims ⟨by decide, by decide⟩ fun m hm v hv => ?_
    rcases List.mem_cons.1 hm with rfl | hm
    · exact admits_default_nullable hv
    · obtain rfl := List.mem_singleton.1 hm
      cases hv
      exact ⟨rfl, .int 1⟩
  · exact .shape _
  · exact .shape _
  · exact .shape _

end Catalogue

namespace Decoder

variable {d : Decoder} {pairs : List TextPair} {x : ClaimSet} {m : FlatMap}

theorem additionalType_ne_textList (h : d.decode (textPairs pairs) = .ok x) :
    d.additionalType ≠ AdditionalType.textList := by
  intro hlist
  have hcheck := (yields_of_decode h).additional
  rw [hlist] at hcheck
  cases hcheck

/-- Where collisions are refused, a claim set that is encoded has no additional claim under the key
of a standard one. -/
theorem free_of_encode {num : Binary64 → Prop} (hA : d.additionalType.IsMapping)
    (hx : d.additionalType.Instance num x.additional)
    (hnum : ∀ y, num y → y.magnitude?.isSome = true) (hrefuse : d.policy.collisions = .refuse)
    (hm : x.encode d.policy = .ok m) : ∀ e ∈ x.additional.entries, Claim.owner? e.1 = none := by
  have hdumps : x.DumpsTo x.additional.entries := .mapping (hx.portable_true_eq hA hnum).1
  cases hs : x.standardEntries d.policy with
  | error e => simp [ClaimSet.encode, hs] at hm
  | ok standard =>
      rw [ClaimSet.encode_eq_merge hs hdumps, hrefuse] at hm
      exact ClaimSet.free_of_merge_refuse hm

theorem Types.exists_rounded {num : Binary64 → Prop} (h : d.Types num x) (hd : d.Faithful)
    (hnum : ∀ y, num y → y.magnitude?.isSome = true) (hm : x.encode d.policy = .ok m) :
    ∃ y, d.decode (textPairs m) = .ok y ∧ x.IsRounded d.policy.rounding y ∧
      y.encode d.policy = .ok m := by
  obtain rfl : flatOf (x.carried d.policy) x.additional.entries = m :=
    Except.ok.inj ((h.encode_eq hd hnum).2.symm.trans hm)
  obtain ⟨y, hdecode, hrestores⟩ :=
    h.exists_restored hd hnum Data.rearranging_id (.of_eq mapValues_id.symm)
  have hrounded := h.isRounded_of_restores hd hnum hrestores
  refine ⟨y, hdecode, hrounded, ?_⟩
  have hagain := ((h.of_isRounded hrounded).encode_eq hd hnum).2
  rwa [funext (hrounded.carried_eq hd.rounding), hrounded.additional] at hagain

/-- What was decoded from JSON and can be encoded is canonical: its flat map is decoded to the same
claim set, at its whole second, and that is encoded to the same pairs in the same order. -/
theorem encode_decode_canonical (d : Decoder) (pairs : List (Data × Data)) (x : ClaimSet)
    (m : FlatMap) (hG : d.genderType ∈ GenderType.all) (hA : d.additionalType ∈ AdditionalType.all)
    (hrefuse : d.policy.collisions = .refuse) (hrounding : d.policy.rounding ≠ .nearest)
    (hj : ∀ e ∈ pairs, e.2.IsJson) (hx : d.decode pairs = .ok x)
    (hm : x.encode d.policy = .ok m) :
    ∃ y, d.decode (textPairs m) = .ok y ∧ x.IsRounded d.policy.rounding y ∧
      y.encode d.policy = .ok m := by
  obtain ⟨ps, rfl⟩ := exists_textPairs_of_decode hx
  have hjson : ∀ e ∈ ps, e.2.IsJson := fun e he => hj (.text e.1, e.2) (List.mem_map_of_mem he)
  have hdistinct : (pairKeys ps).Nodup := (decode_ok_iff_accepts.1 ⟨x, hx⟩).distinct
  have hmapping : d.additionalType.IsMapping :=
    isMapping_of_mem_additionalTypes hA (additionalType_ne_textList hx)
  have hfaithful : d.Faithful := ⟨restoresNull_of_mem_genderTypes hG, hmapping, hrounding⟩
  have hinstance : d.additionalType.Instance _ x.additional :=
    additional_instance_of_decode (isSound_of_mem_additionalTypes hA) hdistinct hjson hx
  have hfree := free_of_encode hmapping hinstance (fun _ hz => hz) hrefuse hm
  have htypes := types_of_decode (isSound_of_mem_genderTypes hG)
    (isSound_of_mem_additionalTypes hA) hdistinct hjson hx hfree
  exact htypes.exists_rounded hfaithful (fun _ hz => hz) hm

/-- A payload that only a lenient check takes: words for a truth value, texts for a time and an
integer, and a member under its name and not its key. -/
def loosePayload : List (Data × Data) :=
  [(.text "org_id", .text " 7"), (.text "updated_at", .text "-1.5"),
    (.text "email_verified", .text "Yes"), (.text "name#fr-CA", .text "Adèle"),
    (.text "locale", .null),
    (.text "gender", .map [(.text "planet", .text "Earth"), (.text "genderCode", .text "x")]),
    (.text "sub", .text "u-1")]

def canonicalPairs : FlatMap :=
  [("sub", .text "u-1"), ("name#fr-CA", .text "Adèle"), ("email_verified", .bool true),
    ("gender", .ofEntries [("genderCode", .text "x")]), ("updated_at", .int (-2)),
    ("org-id", .int 7), ("motto#fr", .null)]

def looseDecoder : Decoder where
  policy := { rounding := .floor, tagCheck := .structural, strictness := .lenient }
  genderType := GenderType.coded
  additionalType := AdditionalType.aliased

theorem encode_decode_canonical_loose :
    ∃ x y, looseDecoder.decode loosePayload = .ok x ∧
      x.encode looseDecoder.policy = .ok canonicalPairs ∧
      looseDecoder.decode (textPairs canonicalPairs) = .ok y ∧
      x.IsRounded .floor y ∧ y.encode looseDecoder.policy = .ok canonicalPairs := by
  have hj : ∀ e ∈ loosePayload, e.2.IsJson := by
    simp only [loosePayload, List.forall_mem_cons]
    have hmembers : ∀ e ∈ [("planet", Data.text "Earth"), ("genderCode", Data.text "x")],
        e.2.IsJson := by
      simp only [List.forall_mem_cons]
      exact ⟨.text _, .text _, by simp⟩
    exact ⟨.text _, .text _, .text _, .text _, .null, .map (by decide) hmembers, .text _, by simp⟩
  have hrun : (match looseDecoder.decode loosePayload with
      | .ok x => x.encode looseDecoder.policy
      | .error _ => .ok []) = .ok canonicalPairs := by rfl
  cases hx : looseDecoder.decode loosePayload with
  | error e =>
      rw [hx] at hrun
      cases hrun
  | ok x =>
      rw [hx] at hrun
      obtain ⟨y, hy, hrounded, hagain⟩ := encode_decode_canonical looseDecoder loosePayload x
        canonicalPairs (by simp [looseDecoder, GenderType.all])
        (by simp [looseDecoder, AdditionalType.all]) rfl (by decide) hj hx hrun
      exact ⟨x, y, rfl, hrun, hy, hrounded, hagain⟩

end Decoder

end IdentityClaims
