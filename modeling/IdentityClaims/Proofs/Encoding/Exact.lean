import IdentityClaims.Proofs.RoundTrip.Domain

/-!
# The exact flat map of a claim set

A claim set that can be written is encoded to what its standard claims travel as, in the order of
`Claim.all`, and behind it what its additional claims travel as. Main statement: if no additional
key belongs to a standard claim, no two of these entries share a key, whatever text the tags are,
so none is lost and their number is known beforehand.
-/

namespace IdentityClaims

namespace ClaimSet

variable {s : ClaimSet} {policy : Policy} {extra : FlatMap}

structure Serializes (s : ClaimSet) : Prop where
  subject : (s.plain .sub).isSome = true
  tags : ∀ c, ∀ v ∈ (s.localized c).variants, ∃ tag, v.1 = .tag tag
  plain : ∀ c v, s.plain c = some v → ∃ d, c.write v = .ok d
  variants : ∀ c, ∀ v ∈ (s.localized c).variants, ∃ d, writeVariant v.2 = .ok d

theorem exists_travelling_variants (c : LocalizedClaim) {vs : List (Label × Data)}
    (htags : ∀ v ∈ vs, ∃ tag, v.1 = .tag tag)
    (hwrite : ∀ v ∈ vs, ∃ d, writeVariant v.2 = .ok d) :
    ∃ m, List.Forall₂ (VariantTravels c) vs m := by
  induction vs with
  | nil => exact ⟨[], .nil⟩
  | cons v vs ih =>
      obtain ⟨m, hm⟩ := ih (fun w hw => htags w (List.mem_cons_of_mem _ hw))
        fun w hw => hwrite w (List.mem_cons_of_mem _ hw)
      obtain ⟨tag, htag⟩ := htags v List.mem_cons_self
      obtain ⟨d, hd⟩ := hwrite v List.mem_cons_self
      exact ⟨(FlatKey.join c.key tag, d) :: m, .cons ⟨⟨tag, htag, rfl⟩, hd⟩ hm⟩

theorem Serializes.exists_travelsAs (h : s.Serializes) (policy : Policy) (c : Claim) :
    ∃ m, s.TravelsAs policy c m := by
  rcases c with c | c | _
  · cases hv : s.plain c with
    | none => exact ⟨[], .unset hv (isRequired_eq_false_of_unset h.subject hv)⟩
    | some v =>
        obtain ⟨d, hd⟩ := h.plain c v hv
        exact ⟨[(c.key, d)], .plain hv hd⟩
  · obtain ⟨m, hm⟩ := exists_travelling_variants c (h.tags c) (h.variants c)
    exact ⟨m, .localized hm⟩
  · cases ht : s.updatedAt with
    | none => exact ⟨[], .untimed ht⟩
    | some t => exact ⟨_, .timed ht⟩

theorem TravelsAs.address_eq {r : Record} {m : FlatMap}
    (h : s.TravelsAs policy (.plain .address) m) (hr : s.plain .address = some (.record r))
    (hholds : addressType.Holds (fun z => z.magnitude?.isSome = true) r) :
    m = [(PlainClaim.address.key, .ofEntries (r.travelling.filter fun e => !e.2.isNull))] := by
  have hwrite : PlainClaim.address.write (.record r) = .ok (.ofEntries (r.carried false)) :=
    hholds.portable_eq wellFormed_addressType (fun _ hz => hz) false
  cases h with
  | unset h => simp [hr] at h
  | plain h hd =>
      rw [hr, Option.some_inj] at h
      rw [← h, hwrite, Except.ok.injEq] at hd
      simp [← hd, Record.carried]

/-! ## The number of entries -/

theorem TravelsAs.length_single {c : Claim} {m : FlatMap} (h : s.TravelsAs policy c m)
    (hc : c.layout ≠ .localized) : m.length = if s.isSet c then 1 else 0 := by
  cases h with
  | localized h => exact absurd rfl hc
  | unset h => simp [isSet, h]
  | plain h => simp [isSet, h]
  | untimed h => simp [isSet, h]
  | timed h => simp [isSet, h]

theorem TravelsAs.length_localized {c : LocalizedClaim} {m : FlatMap}
    (h : s.TravelsAs policy (.localized c) m) : m.length = (s.localized c).variants.length := by
  cases h with
  | localized h => exact h.length_eq.symm

theorem length_flatMap_single {es : Claim → FlatMap} {p : Claim → Bool} {cs : List Claim}
    (h : ∀ c ∈ cs, (es c).length = if p c then 1 else 0) :
    (cs.flatMap es).length = cs.countP p := by
  induction cs with
  | nil => rfl
  | cons c cs ih =>
      rw [List.flatMap_cons, List.length_append, h c List.mem_cons_self,
        ih fun c' hc' => h c' (List.mem_cons_of_mem _ hc'), List.countP_cons, Nat.add_comm]

/-- The claims with one value are counted when they are set, and localized claims by their
variants. -/
theorem length_flatMap_all {es : Claim → FlatMap} (h : ∀ c, s.TravelsAs policy c (es c)) :
    (Claim.all.flatMap es).length =
      Claim.all.countP (fun c => s.isSet c && decide (c.layout ≠ .localized)) +
        (LocalizedClaim.all.flatMap fun c => (s.localized c).variants).length := by
  have hparts : Claim.all.Perm (Claim.all.filter (fun c => decide (c.layout ≠ .localized)) ++
      LocalizedClaim.all.map .localized) := by
    decide
  have hsingle : ∀ c ∈ Claim.all.filter (fun c => decide (c.layout ≠ .localized)),
      (es c).length = if s.isSet c then 1 else 0 := fun c hc =>
    (h c).length_single (of_decide_eq_true (List.mem_filter.1 hc).2)
  have hlocalized : (LocalizedClaim.all.flatMap fun c => es (.localized c)).length =
      (LocalizedClaim.all.flatMap fun c => (s.localized c).variants).length := by
    rw [List.length_flatMap, List.length_flatMap,
      List.map_congr_left fun c _ => (h (.localized c)).length_localized]
  rw [(hparts.flatMap_right es).length_eq, List.flatMap_append, List.length_append,
    List.flatMap_map, hlocalized, length_flatMap_single hsingle, List.countP_filter]

/-- Encoding gives exactly what the standard claims travel as, one claim after the other, and then
what the additional claims travel as. All keys are distinct, so there are as many entries as there
are claims with one value, variants and additional entries together. -/
theorem encode_exact (s : ClaimSet) (policy : Policy) (extra : FlatMap) (hs : s.Serializes)
    (hd : s.DumpsTo extra) (hfree : ∀ e ∈ extra, Claim.owner? e.1 = none) :
    ∃ es : Claim → FlatMap, (∀ c, s.TravelsAs policy c (es c)) ∧
      (∀ r, s.plain .address = some (.record r) →
        addressType.Holds (fun z => z.magnitude?.isSome = true) r →
        es (.plain .address) =
          [(PlainClaim.address.key, .ofEntries (r.travelling.filter fun e => !e.2.isNull))]) ∧
      s.encode policy = .ok (Claim.all.flatMap es ++ extra) ∧
      (pairKeys (Claim.all.flatMap es ++ extra)).Nodup ∧
      (Claim.all.flatMap es ++ extra).length =
        Claim.all.countP (fun c => s.isSet c && decide (c.layout ≠ .localized)) +
          (LocalizedClaim.all.flatMap fun c => (s.localized c).variants).length +
          extra.length := by
  choose es hes using hs.exists_travelsAs policy
  obtain ⟨hlaid, hencode⟩ := encode_eq_flatOf (fun c => (hes c).claimEntries_eq)
    (additionalEntries_eq_ok_iff.2 hd) hfree hd.nodup
  refine ⟨es, hes, ?_, hencode, hlaid.nodup_flatOf, ?_⟩
  · intro r hr hholds
    exact (hes (.plain .address)).address_eq hr hholds
  · rw [List.length_append, length_flatMap_all hes]

def townAddress : Record where
  type := addressType
  values := [("formatted", .null), ("street_address", .null), ("locality", .text "Paris"),
    ("region", .null), ("postal_code", .null), ("country", .text "FR")]
  extras := []

/-- A claim set with tags that are empty, have a delimiter in them or are the key of another claim,
an address with null members, and additional claims of which one has a tag. -/
def subscriber : ClaimSet where
  plain
    | .sub => some (.data (.text "u-1"))
    | .address => some (.record townAddress)
    | _ => none
  localized
    | .name => ⟨[(.tag (some "fr#CA"), .text "Adèle"), (.tag none, .text "Ada"),
        (.tag (some ""), .text "A."), (.tag (some "email"), .text "Ada L.")], by simp⟩
    | _ => .empty
  updatedAt := some ⟨1500000, by decide⟩
  additional := .record
    { type := AdditionalType.passthroughType
      values := []
      extras := [("org#email", .null), ("org", .int 3)] }

theorem holds_townAddress (num : Binary64 → Prop) : addressType.Holds num townAddress := by
  refine ⟨rfl, rfl, fun m hm v hv => ?_, .nil, by simp [townAddress], fun _ => rfl⟩
  simp only [addressType, List.map_cons, List.map_nil, List.mem_cons, List.not_mem_nil,
    or_false] at hm
  rcases hm with rfl | rfl | rfl | rfl | rfl | rfl <;> cases hv
  · exact ⟨rfl, .null⟩
  · exact ⟨rfl, .null⟩
  · exact ⟨rfl, .text _⟩
  · exact ⟨rfl, .null⟩
  · exact ⟨rfl, .null⟩
  · exact ⟨rfl, .text _⟩

theorem serializes_subscriber : subscriber.Serializes where
  subject := rfl
  tags c v hv := by
    cases c with
    | name =>
        simp only [subscriber, List.mem_cons, List.not_mem_nil, or_false] at hv
        rcases hv with rfl | rfl | rfl | rfl <;> exact ⟨_, rfl⟩
    | _ => cases hv
  plain c v hv := by
    cases c with
    | sub | address =>
        cases hv
        exact ⟨_, rfl⟩
    | _ => cases hv
  variants c v hv := by
    cases c with
    | name =>
        simp only [subscriber, List.mem_cons, List.not_mem_nil, or_false] at hv
        rcases hv with rfl | rfl | rfl | rfl <;> exact ⟨_, rfl⟩
    | _ => cases hv

theorem dumpsTo_subscriber : subscriber.DumpsTo [("org#email", .null), ("org", .int 3)] :=
  .mapping rfl

theorem encode_exact_subscriber :
    subscriber.Serializes ∧ subscriber.DumpsTo [("org#email", .null), ("org", .int 3)] ∧
      (∀ e ∈ ([("org#email", .null), ("org", .int 3)] : FlatMap), Claim.owner? e.1 = none) ∧
      ∃ m, subscriber.encode {} = .ok m ∧ (pairKeys m).Nodup ∧ m.length = 9 ∧
        ("address", .ofEntries [("locality", .text "Paris"), ("country", .text "FR")]) ∈ m := by
  have hfree : ∀ e ∈ ([("org#email", .null), ("org", .int 3)] : FlatMap),
      Claim.owner? e.1 = none := by decide
  obtain ⟨es, -, haddress, hencode, hn, hlength⟩ :=
    encode_exact subscriber {} _ serializes_subscriber dumpsTo_subscriber hfree
  refine ⟨serializes_subscriber, dumpsTo_subscriber, hfree, _, hencode, hn, hlength, ?_⟩
  refine List.mem_append_left _ (List.mem_flatMap.2 ⟨_, Claim.mem_all (.plain .address), ?_⟩)
  rw [haddress townAddress rfl (holds_townAddress _)]
  exact List.mem_singleton.2 rfl

end ClaimSet

end IdentityClaims
