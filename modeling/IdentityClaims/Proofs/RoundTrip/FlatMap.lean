import IdentityClaims.Proofs.RoundTrip.Rearranged

/-!
# The round trip over a flat map

A claim set of the types that a decoder reads is encoded and decoded to itself, but for the time of
the last update, which comes back as its whole second. A second round trip changes nothing more.
-/

namespace IdentityClaims

namespace ClaimSet

structure IsRounded (rounding : Rounding) (x y : ClaimSet) : Prop where
  plain : y.plain = x.plain
  localized : y.localized = x.localized
  updatedAt : y.updatedAt.map Instant.micros =
    x.updatedAt.map fun t => t.toSeconds rounding * microsPerSecond
  additional : y.additional = x.additional

variable {rounding : Rounding} {x y : ClaimSet}

theorem IsRounded.eq_of_dvd (h : x.IsRounded rounding y) (hr : rounding ≠ .nearest)
    (hx : ∀ t, x.updatedAt = some t → microsPerSecond ∣ t.micros) : y = x := by
  refine ClaimSet.ext h.plain h.localized ?_ h.additional
  have htime := h.updatedAt
  cases ht : x.updatedAt with
  | none => simpa [ht] using htime
  | some t =>
      rw [ht, Option.map_some, t.toSeconds_of_dvd hr (hx t ht)] at htime
      obtain ⟨u, hu, hmicros⟩ := Option.map_eq_some_iff.1 htime
      rw [hu, Instant.ext_micros hmicros]

theorem IsRounded.carried_eq {policy : Policy} (h : x.IsRounded policy.rounding y)
    (hr : policy.rounding ≠ .nearest) (c : Claim) : y.carried policy c = x.carried policy c := by
  rcases c with c | c | _
  · rw [carried, carried, h.plain]
  · rw [carried, carried, h.localized]
  · have htime := h.updatedAt
    rw [carried, carried]
    cases ht : x.updatedAt with
    | none =>
        have hy : y.updatedAt = none := by simpa [ht] using htime
        rw [hy]
    | some t =>
        rw [ht, Option.map_some] at htime
        obtain ⟨u, hu, hmicros⟩ := Option.map_eq_some_iff.1 htime
        have hdvd : microsPerSecond ∣ u.micros := ⟨_, hmicros.trans (Int.mul_comm _ _)⟩
        have hseconds : u.toSeconds policy.rounding = t.toSeconds policy.rounding := by
          have hmul := (u.toSeconds_of_dvd hr hdvd).trans hmicros
          exact Int.eq_of_mul_eq_mul_right (by decide) hmul
        rw [hu]
        simp only [writeTime, hseconds]

end ClaimSet

namespace Decoder

variable {num : Binary64 → Prop} {d : Decoder} {x y : ClaimSet}

theorem Types.of_isRounded (h : d.Types num x) (hy : x.IsRounded d.policy.rounding y) :
    d.Types num y where
  subject := hy.plain ▸ h.subject
  plain c v hv := h.plain c v (hy.plain ▸ hv)
  variants c := by
    rw [hy.localized]
    exact h.variants c
  additional := hy.additional ▸ h.additional
  free := by
    rw [hy.additional]
    exact h.free

/-- What is restored from the flat map itself is the claim set at its whole second. -/
theorem Types.isRounded_of_restores (h : d.Types num x) (hd : d.Faithful)
    (hnum : ∀ z, num z → z.magnitude?.isSome = true)
    (hy : d.Restores id x (flatOf (x.carried d.policy) x.additional.entries) y) :
    x.IsRounded d.policy.rounding y where
  plain := by
    funext c
    rw [hy.plain c]
    cases x.plain c <;> simp
  localized := by
    funext c
    refine Localized.ext ?_
    have hvariants := h.variants_carried Data.rearranging_id c
    rw [mapValues_id] at hvariants
    rw [hy.localized c, (h.encode_eq hd hnum).1.pairsOf_flatOf, hvariants]
  updatedAt := hy.updatedAt
  additional := by
    rw [hy.additional, (h.encode_eq hd hnum).1.unrecognized_flatOf,
      h.additional.refill_entries hd.additional]

/-- A claim set with a localized claim, a record for gender, an address of which nothing is known,
a time before 1970 with a fraction of a second, and additional claims of which one is null. -/
def traveller : ClaimSet where
  plain
    | .sub => some (.data (.text "u-1"))
    | .emailVerified => some (.data (.bool true))
    | .gender => some (.record
      { type := GenderType.codedType
        values := [("code", .text "x"), ("note", .null)]
        extras := [] })
    | .address => some (.record addressType.defaults)
    | _ => none
  localized
    | .name => ⟨[(.tag none, .text "Ada"), (.tag (some "fr#CA"), .text "Adèle")], by simp⟩
    | _ => .empty
  updatedAt := some ⟨-1500000, by decide⟩
  additional := .record
    { type := AdditionalType.aliasedType
      values := [("org_id", .int 7), ("motto_fr", .null)]
      extras := [] }

def travelDecoder : Decoder where
  policy := {}
  genderType := GenderType.coded
  additionalType := AdditionalType.aliased

theorem types_traveller (num : Binary64 → Prop) : travelDecoder.Types num traveller where
  subject := rfl
  plain c v hv := by
    cases c with
    | sub =>
        cases hv
        exact .shape rfl (.text _)
    | emailVerified =>
        cases hv
        exact .shape rfl (.bool _)
    | gender =>
        cases hv
        refine .record ⟨rfl, rfl, fun m hm v hv => ?_, .nil, by simp, fun _ => rfl⟩
        rcases List.mem_cons.1 hm with rfl | hm
        · cases hv
          exact ⟨rfl, .text _⟩
        · obtain rfl := List.mem_singleton.1 hm
          cases hv
          exact ⟨rfl, .null⟩
    | address =>
        cases hv
        refine .record ⟨rfl, rfl, fun m hm v hv => ?_, .nil, by simp [RecordType.defaults],
          fun _ => rfl⟩
        simp only [addressType, List.map_cons, List.map_nil, List.mem_cons, List.not_mem_nil,
          or_false] at hm
        rcases hm with rfl | rfl | rfl | rfl | rfl | rfl <;> cases hv <;> exact ⟨rfl, .null⟩
    | _ => cases hv
  variants c v hv := by
    cases c with
    | name =>
        rcases List.mem_cons.1 hv with rfl | hv
        · exact ⟨none, "Ada", rfl, rfl⟩
        · obtain rfl := List.mem_singleton.1 hv
          exact ⟨some "fr#CA", "Adèle", rfl, rfl⟩
    | _ => cases hv
  additional := by
    refine .record ⟨rfl, rfl, fun m hm v hv => ?_, .nil, by simp, fun _ => rfl⟩
    rcases List.mem_cons.1 hm with rfl | hm
    · cases hv
      exact ⟨rfl, .int _⟩
    · obtain rfl := List.mem_singleton.1 hm
      cases hv
      exact ⟨rfl, .null⟩
  free := by decide

theorem faithful_travelDecoder : travelDecoder.Faithful where
  gender := restoresNull_of_mem_genderTypes (by simp [travelDecoder, GenderType.all])
  additional := isMapping_of_mem_additionalTypes (by simp [travelDecoder, AdditionalType.all])
    (by simp [travelDecoder, AdditionalType.aliased, AdditionalType.textList])
  rounding := by decide

end Decoder

end IdentityClaims
