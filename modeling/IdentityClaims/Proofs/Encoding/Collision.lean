import IdentityClaims.Proofs.Encoding.Additional
import IdentityClaims.Proofs.Encoding.Layout

/-!
# Additional claims under the keys of standard claims

An additional key collides when it belongs to a standard claim, with or without a tag and whether
or not the claim is set. Either the first such key is the error, or the additional value takes the
place of the standard one and the log says so once for each such key. Main statement: both outcomes
are determined by the entries of the standard claims and those of the additional ones.
-/

namespace IdentityClaims

/-- The first key of a flat map that belongs to a standard claim, with the claim. -/
def FirstOwned (m : FlatMap) (key : String) (c : Claim) : Prop :=
  ∃ pre v post, m = pre ++ (key, v) :: post ∧ (∀ e ∈ pre, Claim.owner? e.1 = none) ∧
    Claim.owner? key = some c

namespace ClaimSet

variable {s : ClaimSet} {policy : Policy} {standard dumped : FlatMap}

theorem collisions_eq (m : FlatMap) :
    collisions m = m.filterMap fun e => (Claim.owner? e.1).map fun c => (e.1, c) := rfl

theorem collisions_eq_cons_iff {key : String} {c : Claim} :
    (∃ rest, collisions dumped = (key, c) :: rest) ↔ FirstOwned dumped key c := by
  simp only [collisions_eq, List.filterMap_eq_cons_iff]
  constructor
  · rintro ⟨rest, pre, ⟨k, v⟩, post, hm, hpre, hfirst, -⟩
    obtain ⟨c', hc', heq⟩ := Option.map_eq_some_iff.1 hfirst
    cases heq
    exact ⟨pre, v, post, hm, fun e he => Option.map_eq_none_iff.1 (hpre e he), hc'⟩
  · rintro ⟨pre, v, post, hm, hpre, hc⟩
    exact ⟨_, pre, (key, v), post, hm, fun e he => Option.map_eq_none_iff.2 (hpre e he),
      by simp [hc], rfl⟩

/-- Some key is the first to collide as soon as one belongs to a standard claim. -/
theorem exists_firstOwned_iff :
    (∃ key c, FirstOwned dumped key c) ↔ ∃ e ∈ dumped, (Claim.owner? e.1).isSome = true := by
  constructor
  · rintro ⟨key, c, pre, v, post, hm, -, hc⟩
    refine ⟨(key, v), ?_, by simp [hc]⟩
    rw [hm]
    exact List.mem_append_right pre List.mem_cons_self
  · rintro ⟨e, he, hsome⟩
    cases hcol : collisions dumped with
    | nil =>
        rw [collisions_eq, List.filterMap_eq_nil_iff] at hcol
        have hnone := Option.map_eq_none_iff.1 (hcol e he)
        simp [hnone] at hsome
    | cons first rest => exact ⟨first.1, first.2, collisions_eq_cons_iff.1 ⟨rest, hcol⟩⟩

/-! ## The two rules -/

theorem merge_refuse_eq_error_iff {e : EncodeError} :
    merge .refuse standard dumped = .error e ↔
      ∃ key c, FirstOwned dumped key c ∧ e = .collision key c := by
  constructor
  · intro h
    unfold merge at h
    split at h
    · rename_i key c rest _ hcol
      cases h
      exact ⟨key, c, collisions_eq_cons_iff.1 ⟨rest, hcol⟩, rfl⟩
    · cases h
  · rintro ⟨key, c, hfirst, rfl⟩
    obtain ⟨rest, hcol⟩ := collisions_eq_cons_iff.2 hfirst
    simp only [merge, hcol]

theorem merge_override : merge .override standard dumped = .ok (Entries.putAll standard dumped) :=
  rfl

theorem merge_eq_ok {rule : CollisionRule} {m : FlatMap}
    (h : merge rule standard dumped = .ok m) : m = Entries.putAll standard dumped := by
  unfold merge at h
  split at h
  · cases h
  · exact (Except.ok.inj h).symm

/-- Where collisions are refused, what was merged has no additional key of a standard claim. -/
theorem free_of_merge_refuse {m : FlatMap} (h : merge .refuse standard dumped = .ok m) :
    ∀ e ∈ dumped, Claim.owner? e.1 = none := by
  by_contra hcol
  push Not at hcol
  obtain ⟨e, he, hne⟩ := hcol
  obtain ⟨key, c, hfirst⟩ := exists_firstOwned_iff.2 ⟨e, he, Option.isSome_iff_ne_none.2 hne⟩
  have herror : merge .refuse standard dumped = .error (.collision key c) :=
    merge_refuse_eq_error_iff.2 ⟨key, c, hfirst, rfl⟩
  rw [h] at herror
  cases herror

/-! ## What the standard claims are encoded to -/

theorem exists_claimEntries_of_entriesOf {cs : List Claim} {m : FlatMap}
    (h : s.entriesOf policy cs = .ok m) : ∀ c ∈ cs, ∃ es, s.claimEntries policy c = .ok es := by
  induction cs generalizing m with
  | nil => nofun
  | cons c cs ih =>
      rw [entriesOf] at h
      cases hc : s.claimEntries policy c with
      | error e => simp [hc] at h
      | ok es =>
          simp only [hc] at h
          obtain ⟨rest, hrest, -⟩ := Checked.map_eq_ok_iff.1 h
          intro c' hc'
          rcases List.mem_cons.1 hc' with rfl | hc'
          · exact ⟨es, hc⟩
          · exact ih hrest c' hc'

theorem exists_flatMap_of_standardEntries (h : s.standardEntries policy = .ok standard) :
    ∃ es : Claim → FlatMap, standard = Claim.all.flatMap es ∧ LaidOut es [] := by
  have hall : ∀ c, ∃ es, s.claimEntries policy c = .ok es := by
    intro c
    apply exists_claimEntries_of_entriesOf h
    exact Claim.mem_all c
  choose es hes using hall
  have hflat : s.standardEntries policy = .ok (Claim.all.flatMap es) :=
    entriesOf_eq_ok fun c _ => hes c
  refine ⟨es, Except.ok.inj (h.symm.trans hflat), ?_⟩
  exact ⟨fun c => (owned_claimEntries (hes c)).1, by simp,
    fun c => (owned_claimEntries (hes c)).2, .nil⟩

theorem nodup_of_standardEntries (h : s.standardEntries policy = .ok standard) :
    (pairKeys standard).Nodup := by
  obtain ⟨es, hflat, hlaid⟩ := exists_flatMap_of_standardEntries h
  have hn := hlaid.nodup_flatOf
  rwa [flatOf, List.append_nil, ← hflat] at hn

section Encode

variable (hs : s.standardEntries policy = .ok standard) (hd : s.DumpsTo dumped)

include hs hd

theorem encode_eq_merge : s.encode policy = merge policy.collisions standard dumped := by
  simp only [encode, hs, additionalEntries_eq_ok_iff.2 hd]

theorem putAll_of_free (hfree : ∀ e ∈ dumped, Claim.owner? e.1 = none) :
    Entries.putAll standard dumped = standard ++ dumped ∧ (pairKeys (standard ++ dumped)).Nodup := by
  obtain ⟨es, rfl, hlaid⟩ := exists_flatMap_of_standardEntries hs
  have hn : (pairKeys (flatOf es dumped)).Nodup :=
    LaidOut.nodup_flatOf ⟨hlaid.owned, hfree, hlaid.distinct, hd.nodup⟩
  constructor
  · exact Entries.putAll_of_nodup hn
  · exact hn

end Encode

/-- Where collisions are refused, encoding fails exactly if an additional key belongs to a standard
claim, and then it names the first such key; otherwise every standard entry stays as it is. Where
they are not refused, the additional value of a key counts, the standard keys stay in place, and
the log has one warning for each colliding key. -/
theorem encode_collisions (s : ClaimSet) (policy : Policy) (standard dumped : FlatMap)
    (hs : s.standardEntries policy = .ok standard) (hd : s.DumpsTo dumped) :
    (policy.collisions = .refuse →
      ((∃ e, s.encode policy = .error e) ↔
        ∃ e ∈ dumped, (Claim.owner? e.1).isSome = true) ∧
      (∀ e, s.encode policy = .error e ↔
        ∃ key c, FirstOwned dumped key c ∧ e = .collision key c) ∧
      ∀ m, s.encode policy = .ok m → m = standard ++ dumped ∧ (pairKeys m).Nodup) ∧
    (policy.collisions = .override →
      ∃ m, s.encode policy = .ok m ∧ (pairKeys m).Nodup ∧
        (∀ k, Entries.get? m k = (Entries.get? dumped k).or (Entries.get? standard k)) ∧
        pairKeys m =
          pairKeys standard ++ (pairKeys dumped).filter (fun k => k ∉ pairKeys standard) ∧
        s.encodeRecords policy =
          dumped.filterMap fun e => (Claim.owner? e.1).map (overrideRecord e.1)) := by
  have hencode := encode_eq_merge hs hd
  constructor
  · intro hrule
    rw [hrule] at hencode
    have herror : ∀ e, s.encode policy = .error e ↔
        ∃ key c, FirstOwned dumped key c ∧ e = .collision key c := by
      intro e
      rw [hencode]
      exact merge_refuse_eq_error_iff
    refine ⟨?_, herror, ?_⟩
    · rw [← exists_firstOwned_iff]
      constructor
      · rintro ⟨e, he⟩
        obtain ⟨key, c, hfirst, -⟩ := (herror e).1 he
        exact ⟨key, c, hfirst⟩
      · rintro ⟨key, c, hfirst⟩
        exact ⟨_, (herror _).2 ⟨key, c, hfirst, rfl⟩⟩
    · intro m hm
      have hfree : ∀ e ∈ dumped, Claim.owner? e.1 = none := by
        -- otherwise some key is the first to collide, and encoding would have failed
        by_contra hcol
        push Not at hcol
        obtain ⟨e, he, hne⟩ := hcol
        obtain ⟨key, c, hfirst⟩ :=
          exists_firstOwned_iff.2 ⟨e, he, Option.isSome_iff_ne_none.2 hne⟩
        rw [(herror _).2 ⟨key, c, hfirst, rfl⟩] at hm
        cases hm
      obtain ⟨hput, hn⟩ := putAll_of_free hs hd hfree
      have hmerge := merge_eq_ok (hencode.symm.trans hm)
      rw [hput] at hmerge
      exact ⟨hmerge, hmerge ▸ hn⟩
  · intro hrule
    rw [hrule, merge_override] at hencode
    refine ⟨_, hencode, Entries.nodup_keys_putAll (nodup_of_standardEntries hs) dumped,
      Entries.get?_putAll hd.nodup standard, Entries.keys_putAll hd.nodup standard, ?_⟩
    simp only [encodeRecords, hencode, additionalEntries_eq_ok_iff.2 hd, collisions_eq,
      List.map_filterMap, Option.map_map]
    rfl

/-- A claim set whose additional claims have a key of an unset claim, with a tag, between a key of
their own and the key of the subject. -/
def impostor : ClaimSet where
  plain
    | .sub => some (.data (.text "u-1"))
    | _ => none
  localized
    | .name => .ofDefault (.text "Ada")
    | _ => .empty
  updatedAt := none
  additional := .record
    { type := AdditionalType.passthroughType
      values := []
      extras := [("team", .int 3), ("email#x", .null), ("sub", .text "u-2")] }

def impostorEntries : FlatMap := [("team", .int 3), ("email#x", .null), ("sub", .text "u-2")]

def impostorStandard : FlatMap := [("sub", .text "u-1"), ("name", .text "Ada")]

theorem encode_collisions_impostor :
    (∀ policy, impostor.standardEntries policy = .ok impostorStandard) ∧
      impostor.DumpsTo impostorEntries ∧
      impostor.encode {} = .error (.collision "email#x" (.plain .email)) ∧
      ∃ m, impostor.encode { collisions := .override } = .ok m ∧
        pairKeys m = ["sub", "name", "team", "email#x"] ∧
        Entries.get? m "sub" = some (.text "u-2") ∧
        impostor.encodeRecords { collisions := .override } =
          [overrideRecord "email#x" (.plain .email), overrideRecord "sub" (.plain .sub)] := by
  have hs : ∀ policy, impostor.standardEntries policy = .ok impostorStandard := fun _ => rfl
  have hd : impostor.DumpsTo impostorEntries := .mapping rfl
  have hfirst : FirstOwned impostorEntries "email#x" (.plain .email) :=
    ⟨[("team", .int 3)], .null, [("sub", .text "u-2")], rfl, by decide, by decide⟩
  obtain ⟨-, herror, -⟩ := (encode_collisions impostor {} _ _ (hs _) hd).1 rfl
  obtain ⟨m, hm, -, hget, hkeys, hrecords⟩ :=
    (encode_collisions impostor { collisions := .override } _ _ (hs _) hd).2 rfl
  exact ⟨hs, hd, (herror _).2 ⟨_, _, hfirst, rfl⟩, m, hm, hkeys, hget "sub", hrecords⟩

end ClaimSet

end IdentityClaims
