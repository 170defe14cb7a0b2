import IdentityClaims.Proofs.Decoding.Refusal
import IdentityClaims.Proofs.Encoding.Collision

/-!
# What the log says of claims

The log of a decoding that succeeds is a matter of the outline of its pairs: their keys in order, and
which of their values are null. The log of an encoding that succeeds is a matter of the keys of the
additional claims. Main statement: `records_noninterference`, claims that differ in nothing else leave
the same records.
-/

namespace IdentityClaims

def outline (pairs : List TextPair) : List (String × Bool) := pairs.map fun e => (e.1, e.2.isNull)

theorem outline_eq_zip (pairs : List TextPair) :
    outline pairs = (pairKeys pairs).zip (pairs.map fun e => e.2.isNull) :=
  List.zip_map'.symm

/-- Pairs have the outline of others if they have the same keys in the same order and null at the
same keys. -/
theorem outline_eq_of_keys {ps qs : List TextPair}
    (hkeys : (textPairs ps).map Prod.fst = (textPairs qs).map Prod.fst)
    (hnull : ((textPairs ps).map fun e => e.2.isNull) = (textPairs qs).map fun e => e.2.isNull) :
    outline ps = outline qs := by
  have htext (pairs : List TextPair) :
      (textPairs pairs).map Prod.fst = (pairKeys pairs).map Data.text := by
    simp [textPairs, pairKeys]
  have hvalues (pairs : List TextPair) :
      ((textPairs pairs).map fun e => e.2.isNull) = pairs.map fun e => e.2.isNull := by
    simp [textPairs]
  rw [htext, htext] at hkeys
  rw [hvalues, hvalues] at hnull
  have hinj : Function.Injective Data.text := fun _ _ h => Data.text.inj h
  rw [outline_eq_zip, outline_eq_zip, hinj.list_map hkeys, hnull]

namespace Claim

/-- Whether null under a key of the claim says that the claim is not there. -/
def absentAsNull : Claim → Bool
  | .plain c => !c.isRequired
  | .localized _ => false
  | .updatedAt => true

def givenBy (o : List (String × Bool)) (c : Claim) : Bool :=
  o.any fun e => owner? e.1 = some c && !(e.2 && c.absentAsNull)

theorem givenBy_outline_iff {pairs : List TextPair} {c : Claim} :
    c.givenBy (outline pairs) = true ↔
      ∃ e ∈ pairs, owner? e.1 = some c ∧ (e.2.isNull && c.absentAsNull) = false := by
  simp only [givenBy, outline, List.any_map, List.any_eq_true, Function.comp_apply,
    Bool.and_eq_true, decide_eq_true_eq, Bool.not_eq_true']

end Claim

namespace Decoder

variable {d : Decoder} {pairs : List TextPair} {p : Intake} {s : ClaimSet}

theorem Accepts.key_mem (h : d.Accepts pairs) {e : TextPair} (he : e ∈ pairs) {c : Claim}
    (ho : Claim.owner? e.1 = some c) (hc : c.layout ≠ .localized) : (c.key, e.2) ∈ pairs := by
  rw [Claim.key_of_owner? ho (h.untagged e he c ho hc)]
  exact he

theorem Accepts.valued_eq (h : d.Accepts pairs) (hp : d.Reflects pairs p) :
    p.valued = Claim.all.filter (Claim.givenBy (outline pairs)) := by
  refine List.filter_congr fun c _ => ?_
  rw [Bool.eq_iff_iff, Claim.givenBy_outline_iff]
  cases c with
  | plain c =>
      constructor
      · intro hset
        by_contra hnone
        push Not at hnone
        have hunset : p.plain c = none := (hp.plain c).unset fun raw hraw => by
          simpa [PlainClaim.isAbsence, Claim.absentAsNull] using
            hnone (c.key, raw) hraw (owner?_plain_key c)
        simp [hunset] at hset
      · rintro ⟨e, he, ho, hthere⟩
        have hkey := h.key_mem he ho (layout_plain_ne c)
        obtain ⟨v, -, hv⟩ := (hp.plain c).set e.2 hkey hthere
        simp [hv]
  | localized c =>
      have hlength := (hp.variants c).length_eq
      constructor
      · intro hset
        have hne : pairsOf (.localized c) pairs ≠ [] := by
          intro hnil
          rw [hnil, List.length_nil] at hlength
          simp [Localized.isEmpty, List.length_eq_zero_iff.1 hlength.symm] at hset
        obtain ⟨e, he⟩ := List.exists_mem_of_ne_nil _ hne
        obtain ⟨hmem, ho⟩ := List.mem_filter.1 he
        exact ⟨e, hmem, of_decide_eq_true ho, by simp [Claim.absentAsNull]⟩
      · rintro ⟨e, he, ho, -⟩
        have hmem : e ∈ pairsOf (.localized c) pairs :=
          List.mem_filter.2 ⟨he, decide_eq_true ho⟩
        have hpos := List.length_pos_of_mem hmem
        rw [hlength] at hpos
        simpa [Localized.isEmpty] using List.length_pos_iff.1 hpos
  | updatedAt =>
      constructor
      · intro hset
        by_contra hnone
        push Not at hnone
        have hunset : p.updatedAt = none := hp.time.unset fun raw hraw => by
          simpa [Claim.absentAsNull] using
            hnone (Claim.updatedAt.key, raw) hraw (Claim.owner?_key .updatedAt)
        simp [hunset] at hset
      · rintro ⟨e, he, ho, hthere⟩
        have hkey := h.key_mem he ho (by decide)
        obtain ⟨t, -, ht⟩ := hp.time.set e.2 hkey (by simpa [Claim.absentAsNull] using hthere)
        simp [ht]

/-- The keys of an outline that belong to no standard claim. -/
def leftoverKeys (o : List (String × Bool)) : List String :=
  (o.filter fun e => Claim.owner? e.1 = none).map Prod.fst

theorem leftoverKeys_outline (pairs : List TextPair) :
    leftoverKeys (outline pairs) = pairKeys (unrecognized pairs) := by
  simp [leftoverKeys, outline, pairKeys, unrecognized, List.filter_map, Function.comp_def]

/-- What decoding pairs of an outline writes to the log: how many keys are left over, for which type
and which ones, if there are any, and how many standard claims are given a value. -/
def outlineRecords (d : Decoder) (o : List (String × Bool)) : List LogRecord :=
  (if (leftoverKeys o).isEmpty then [] else [d.leftoverRecord (leftoverKeys o)]) ++
    [decodedRecord (Claim.all.filter (Claim.givenBy o)).length]

theorem records_eq_outlineRecords (h : d.decode (textPairs pairs) = .ok s) :
    d.records (textPairs pairs) = d.outlineRecords (outline pairs) := by
  obtain ⟨ha, -⟩ := decode_eq_ok_iff.1 h
  rw [decode] at h
  cases hg : d.gather (textPairs pairs) with
  | error e => simp [hg] at h
  | ok p =>
      have hp := reflects_of_gather hg
      simp only [hg] at h
      simp only [records, hg, h, hp.leftover, ha.valued_eq hp, outlineRecords,
        leftoverKeys_outline, pairKeys, List.isEmpty_map]
      rfl

theorem outlineRecords_congr {d e : Decoder} (h : d.additionalType.name = e.additionalType.name)
    (o : List (String × Bool)) : d.outlineRecords o = e.outlineRecords o := by
  simp only [outlineRecords, leftoverRecord, h]

end Decoder

namespace ClaimSet

variable {s : ClaimSet} {policy : Policy} {es dumped : FlatMap}

def overrideRecords (keys : List String) : List LogRecord :=
  keys.filterMap fun key => (Claim.owner? key).map (overrideRecord key)

theorem encodeRecords_eq_overrideRecords (hd : s.DumpsTo dumped) (h : s.encode policy = .ok es) :
    s.encodeRecords policy = overrideRecords (pairKeys dumped) := by
  simp only [encodeRecords, h, additionalEntries_eq_ok_iff.2 hd, collisions_eq, overrideRecords,
    pairKeys, List.map_filterMap, List.filterMap_map, Option.map_map]
  rfl

end ClaimSet

/-- Two decodings that succeed write the same records to the log, if their pairs have the same keys in
the same order and null at the same keys, and the types of their additional claims have the same name.
Two encodings that succeed write the same records, if their additional claims travel under the same
keys in the same order. The values of the claims, and what the policies and types say of them, leave
no trace in the log. -/
theorem records_noninterference :
    (∀ (d e : Decoder) (ps qs : List (Data × Data)) (s t : ClaimSet),
      d.additionalType.name = e.additionalType.name →
      ps.map Prod.fst = qs.map Prod.fst →
      (ps.map fun pair => pair.2.isNull) = qs.map (fun pair => pair.2.isNull) →
      d.decode ps = .ok s → e.decode qs = .ok t → d.records ps = e.records qs) ∧
    ∀ (s t : ClaimSet) (p q : Policy) (es fs dumped others : FlatMap),
      s.DumpsTo dumped → t.DumpsTo others → pairKeys dumped = pairKeys others →
      s.encode p = .ok es → t.encode q = .ok fs → s.encodeRecords p = t.encodeRecords q := by
  constructor
  · intro d e ps qs s t hname hkeys hnull hs ht
    obtain ⟨ps, rfl⟩ := Decoder.exists_textPairs_of_decode hs
    obtain ⟨qs, rfl⟩ := Decoder.exists_textPairs_of_decode ht
    rw [Decoder.records_eq_outlineRecords hs, Decoder.records_eq_outlineRecords ht,
      outline_eq_of_keys hkeys hnull, Decoder.outlineRecords_congr hname]
  · intro s t p q es fs dumped others hd ho hkeys hs ht
    rw [ClaimSet.encodeRecords_eq_overrideRecords hd hs,
      ClaimSet.encodeRecords_eq_overrideRecords ho ht, hkeys]

def guestPairs (subject email : String) (tenant : Data) : List TextPair :=
  [("sub", .text subject), ("tenant#fr", tenant), ("email", .text email), ("locale", .null),
    ("name#fr", .text subject)]

def guest (subject : String) (team : Data) : ClaimSet :=
  { ClaimSet.empty with
    plain := fun c => if c = .sub then some (.data (.text subject)) else none
    additional := .record
      { type := AdditionalType.passthroughType
        values := []
        extras := [("team", team), ("email#x", .text subject), ("sub", .null)] } }

theorem records_noninterference_guests :
    ∃ s t es fs,
      ({ policy := {} } : Decoder).decode
        (textPairs (guestPairs "u-1" "ada@example.org" (.int 3))) = .ok s ∧
      ({ policy := {} } : Decoder).decode
        (textPairs (guestPairs "u-2" "bob@example.org" (.text "b"))) = .ok t ∧
      ({ policy := {} } : Decoder).records
        (textPairs (guestPairs "u-1" "ada@example.org" (.int 3))) =
          ({ policy := {} } : Decoder).records
            (textPairs (guestPairs "u-2" "bob@example.org" (.text "b"))) ∧
      (guest "u-1" (.int 3)).encode { collisions := .override } = .ok es ∧
      (guest "u-2" (.text "b")).encode { collisions := .override } = .ok fs ∧
      (guest "u-1" (.int 3)).encodeRecords { collisions := .override } =
        (guest "u-2" (.text "b")).encodeRecords { collisions := .override } := by
  obtain ⟨hdecode, hencode⟩ := records_noninterference
  have hs : ({ policy := {} } : Decoder).decode
      (textPairs (guestPairs "u-1" "ada@example.org" (.int 3))) = .ok _ := rfl
  have ht : ({ policy := {} } : Decoder).decode
      (textPairs (guestPairs "u-2" "bob@example.org" (.text "b"))) = .ok _ := rfl
  have hes : (guest "u-1" (.int 3)).encode { collisions := .override } = .ok _ := rfl
  have hfs : (guest "u-2" (.text "b")).encode { collisions := .override } = .ok _ := rfl
  have hd : (guest "u-1" (.int 3)).DumpsTo
      [("team", .int 3), ("email#x", .text "u-1"), ("sub", .null)] := .mapping rfl
  have ho : (guest "u-2" (.text "b")).DumpsTo
      [("team", .text "b"), ("email#x", .text "u-2"), ("sub", .null)] := .mapping rfl
  exact ⟨_, _, _, _, hs, ht, hdecode _ _ _ _ _ _ rfl rfl rfl hs ht, hes, hfs,
    hencode _ _ _ _ _ _ _ _ hd ho rfl hes hfs⟩

end IdentityClaims
