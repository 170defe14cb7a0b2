import IdentityClaims.Proofs.Decoding.Acceptance
import IdentityClaims.Proofs.Revising.Laws

/-!
# Building the claim set that was decoded

What an intake holds is supplied by name, as it is to every claim set that is built. Main
statements: `Intake.build_supplied`, building never fails on it and gives the claim set of the
intake, and `Decoder.decodeByBuilding_eq`, so decoding may end in building as well.
-/

namespace IdentityClaims

namespace Intake

def supplied? (p : Intake) : Claim → Option Supplied
  | .plain c => (p.plain c).map .held
  | .localized c =>
    if (p.localized c).isEmpty then none else some (.held (.variants (p.localized c)))
  | .updatedAt => p.updatedAt.map fun t => .moment t.toMoment

def supplied (p : Intake) (additional : Held) : Entries String Supplied :=
  (Claim.all.filterMap fun c => (p.supplied? c).map fun v => (c.key, v)) ++
    [(additionalName, .held additional)]

variable {p : Intake} {additional : Held}

theorem get?_filterMap_key {ν : Type} (f : Claim → Option ν) (cs : List Claim) (c : Claim) :
    Entries.get? (cs.filterMap fun c => (f c).map fun v => (c.key, v)) c.key =
      if c ∈ cs then f c else none := by
  induction cs with
  | nil => rfl
  | cons c' cs ih =>
      cases hf : f c' with
      | none =>
          have hne : f c = none ∨ c ≠ c' := by
            by_cases hc : c = c'
            · exact .inl (hc ▸ hf)
            · exact .inr hc
          rw [List.filterMap_cons_none (by simp [hf]), ih]
          rcases hne with hne | hne <;> simp [hne]
      | some v =>
          rw [List.filterMap_cons_some (by simp [hf]; rfl), Entries.get?_cons, ih]
          by_cases hc : c = c'
          · simp [hc, hf]
          · have hkey : c'.key ≠ c.key := fun hk => hc (Claim.key_injective hk).symm
            simp [hkey, hc]

theorem get?_supplied (p : Intake) (additional : Held) (c : Claim) :
    Entries.get? (p.supplied additional) c.key = p.supplied? c := by
  have hname : additionalName ≠ c.key := by
    have hall : ∀ c ∈ Claim.all, additionalName ≠ c.key := by decide
    exact hall c (Claim.mem_all c)
  rw [supplied, Entries.get?_append, get?_filterMap_key, if_pos (Claim.mem_all c)]
  simp [Entries.get?_cons, hname]

theorem get?_supplied_additional :
    Entries.get? (p.supplied additional) additionalName = some (.held additional) := by
  have hnone : Entries.get? (Claim.all.filterMap fun c => (p.supplied? c).map fun v => (c.key, v))
      additionalName = none := by
    rw [Entries.get?_eq_none_iff]
    intro hk
    obtain ⟨e, he, hname⟩ := List.mem_map.1 hk
    obtain ⟨c, hc, hce⟩ := List.mem_filterMap.1 he
    obtain ⟨v, -, rfl⟩ := Option.map_eq_some_iff.1 hce
    have hall : ∀ c ∈ Claim.all, c.key ≠ additionalName := by decide
    exact hall c hc hname
  rw [supplied, Entries.get?_append, hnone]
  simp [Entries.get?_cons]

/-- Values are supplied only under names that a claim set knows. -/
theorem mem_attributeNames_of_mem_supplied {e : String × Supplied}
    (he : e ∈ p.supplied additional) : e.1 ∈ Claim.attributeNames := by
  rw [Claim.attributeNames, List.mem_append]
  rcases List.mem_append.1 he with he | he
  · obtain ⟨c, hc, hce⟩ := List.mem_filterMap.1 he
    obtain ⟨v, -, rfl⟩ := Option.map_eq_some_iff.1 hce
    exact .inl (List.mem_map_of_mem hc)
  · rw [List.mem_singleton.1 he]
    exact .inr List.mem_cons_self

theorem revises_supplied (p : Intake) (additional : Held) :
    (Entity.ofClaims .empty).Revises (p.supplied additional)
      (.ofClaims (p.claimSet additional)) where
  known name hname := by
    obtain ⟨e, he, rfl⟩ := List.mem_map.1 hname
    exact mem_attributeNames_of_mem_supplied he
  plain c := by
    rw [← Claim.key_plain, get?_supplied, supplied?]
    simp only [Entity.ofClaims, claimSet]
    cases p.plain c <;> rfl
  localized c := by
    rw [← Claim.key_localized, get?_supplied, supplied?]
    by_cases hempty : (p.localized c).isEmpty = true
    · rw [if_pos hempty]
      exact congrArg Except.ok (Localized.ext (List.isEmpty_iff.1 hempty).symm)
    · rw [if_neg hempty]
      rfl
  time := by
    rw [get?_supplied, supplied?]
    simp only [Entity.ofClaims, claimSet]
    cases p.updatedAt with
    | none => rfl
    | some t => simp [ClaimSet.suppliedTime, t.toInstant?_toMoment, UpdateTime.ofInstant?]
  additional := by
    rw [get?_supplied_additional]
    rfl

theorem sub_mem_keys_supplied (h : (p.plain .sub).isSome = true) :
    PlainClaim.sub.key ∈ Entries.keys (p.supplied additional) := by
  by_contra hk
  have hget := get?_supplied p additional (.plain .sub)
  rw [Claim.key_plain, (Entries.get?_eq_none_iff _ _).2 hk, supplied?, eq_comm,
    Option.map_eq_none_iff] at hget
  simp [hget] at h

theorem build_supplied (h : (p.plain .sub).isSome = true) (additional : Held) :
    Entity.build (p.supplied additional) = .ok (.ofClaims (p.claimSet additional)) :=
  Entity.build_eq_ok_iff.2 ⟨sub_mem_keys_supplied h, p.revises_supplied additional⟩

end Intake

namespace Decoder

/-- Decoding that ends in building a claim set from what the intake supplies, which might fail for
reasons of its own. -/
def decodeByBuilding (d : Decoder) (pairs : List (Data × Data)) :
    Except (DecodeError ⊕ SupplyError) ClaimSet :=
  match d.gather pairs with
  | .error e => .error (.inl e)
  | .ok p =>
    match d.additionalType.check .lenient (.ofEntries p.leftover) with
    | .error problems => .error (.inl (.additional problems))
    | .ok additional =>
      ((Entity.build (p.supplied additional)).map Entity.claims).mapError .inr

theorem isSome_sub_of_gather {d : Decoder} {pairs : List (Data × Data)} {p : Intake}
    (h : d.gather pairs = .ok p) : (p.plain .sub).isSome = true := by
  rw [gather] at h
  cases hrun : Intake.start.takeAll d.policy d.genderType pairs with
  | error e => simp [hrun] at h
  | ok q =>
      cases hm : q.missing? with
      | some c => simp [hrun, hm] at h
      | none =>
          simp only [hrun, hm, Except.ok.injEq] at h
          exact h ▸ missing?_eq_none_iff.1 hm

/-- Building the claim set in the end adds no reason to fail. -/
theorem decodeByBuilding_eq (d : Decoder) (pairs : List (Data × Data)) :
    d.decodeByBuilding pairs = (d.decode pairs).mapError .inl := by
  rw [decodeByBuilding, decode]
  cases hg : d.gather pairs with
  | error e => rfl
  | ok p =>
      simp only [assemble]
      cases d.additionalType.check .lenient (.ofEntries p.leftover) with
      | error problems => rfl
      | ok additional =>
          simp only [Intake.build_supplied (isSome_sub_of_gather hg)]
          rfl

end Decoder

end IdentityClaims
