import IdentityClaims.ClaimSet.Lookup
import IdentityClaims.Proofs.RoundTrip.Decoded

/-!
# Encoding what was decoded

A payload that is decoded under the default policy, with unrecognized keys kept, is encoded to the
payload again. Only null claims are gone, and the address has lost what is not one of its members.
The standard claims come in their own order, and the unrecognized keys stand behind them.
-/

namespace IdentityClaims

def trimmedAddress : Data → Data
  | .map entries => .ofEntries
    ((addressType.memberKeys.map fun k => (k, (Data.valueOf? entries k).getD .null)).filter
      fun e => !e.2.isNull)
  | d => d

def restoredValue (c : Claim) (raw : Data) : Data :=
  if c = .plain .address then trimmedAddress raw else raw

/-- The pairs of a standard claim as they come back: those that are not null. -/
def restoredPairs (pairs : List TextPair) (c : Claim) : FlatMap :=
  ((pairsOf c pairs).filter fun e => !e.2.isNull).map fun e => (e.1, restoredValue c e.2)

def Decoder.passing : Decoder := { policy := {}, additionalType := AdditionalType.passthrough }

namespace RecordType

variable {t : RecordType} {r : Record} {mode : Strictness} {entries : List (Data × Data)}

theorem checkMember_of_check {val : Member → Data} (h : t.check mode (.map entries) = .ok r)
    (hval : r.values = t.members.map fun m => (m.name, val m)) :
    ∀ m ∈ t.members, m.check mode t.byName entries = .ok (m.name, val m) := by
  rw [check, checkEntries, Checked.map_eq_ok_iff] at h
  obtain ⟨⟨values, extras⟩, hboth, rfl⟩ := h
  obtain ⟨hvalues, -⟩ := Checked.both_eq_ok_iff.1 hboth
  rw [show values = _ from hval, Checked.all_map_eq_ok_iff, List.forall₂_map_right_iff,
    List.forall₂_same] at hvalues
  exact hvalues

end RecordType

namespace Decoder

/-! ## Values -/

theorem text_of_checkText {num : Binary64 → Prop} {mode : Strictness} {raw : Data} {s : String}
    (hj : Data.JsonOver num raw) (h : checkText mode raw = .ok s) : raw = .text s := by
  cases hj with
  | text t => simpa using h
  | _ => cases mode <;> simp [checkText, Checked.fail] at h

theorem eq_of_check_optional_text {num : Binary64 → Prop} {mode : Strictness} {raw v : Data}
    (hj : Data.JsonOver num raw) (h : (Shape.optional .text).check mode raw = .ok v) : v = raw := by
  by_cases hr : raw = .null
  · rw [hr] at h ⊢
    exact (Except.ok.inj h).symm
  · rw [Shape.check_optional_of_ne_null hr] at h
    obtain ⟨s, hs, rfl⟩ := Checked.map_eq_ok_iff.1 h
    exact (text_of_checkText hj hs).symm

theorem carried_address {num : Binary64 → Prop} {raw : Data} {r : Record}
    (hj : Data.JsonOver num raw) (h : addressType.check .lenient raw = .ok r) :
    .ofEntries (r.carried false) = trimmedAddress raw := by
  cases hj with
  | @map pairs hn hpairs =>
      have hd : addressType.AdmitsDefaults num := fun m hm v hv => by
        obtain ⟨name, -, rfl⟩ := List.mem_map.1 hm
        cases hv
        exact ⟨rfl, .null⟩
      have hholds := RecordType.holds_of_check wellFormed_addressType hd hn hpairs h
      obtain ⟨val, hvals, hval⟩ := hholds.exists_values wellFormed_addressType
      have hmember := RecordType.checkMember_of_check h hvals
      have hgiven : ∀ m ∈ addressType.members,
          val m = (Data.valueOf? (textPairs pairs) m.key).getD .null := by
        intro m hm
        have hcheck := hmember m hm
        obtain ⟨name, -, rfl⟩ := List.mem_map.1 hm
        rw [Member.check, Member.find?] at hcheck
        cases hv : Data.valueOf? (textPairs pairs) (Member.nullable name name .text).key with
        | none =>
            simp only [hv] at hcheck
            exact (congrArg Prod.snd (Except.ok.inj hcheck)).symm
        | some v =>
            simp only [hv, Checked.map_eq_ok_iff, Checked.within_eq_ok_iff] at hcheck
            obtain ⟨w, hw, hwv⟩ := hcheck
            have hwv' : w = v := eq_of_check_optional_text (hpairs _ (mem_of_valueOf? hv)) hw
            exact (congrArg Prod.snd hwv).symm.trans hwv'
      have hextras : r.extras = [] := hholds.kept (by decide)
      have hmap : addressType.members.map (fun m => (m.key, val m)) =
          addressType.memberKeys.map fun k =>
            (k, (Data.valueOf? (textPairs pairs) k).getD .null) := by
        rw [RecordType.memberKeys, List.map_map]
        exact List.map_congr_left fun m hm => by rw [hgiven m hm]; rfl
      rw [Record.carried, RecordType.travelling_eq hholds fun m hm => (hval m hm).1, hextras,
        List.append_nil, hmap]
      rfl
  | _ => simp [RecordType.check, Checked.fail] at h

/-- What a plain claim is read from is what it travels as, up to the trimming of the address. -/
theorem carried_of_read {num : Binary64 → Prop} {c : PlainClaim} {raw : Data} {v : Held}
    (hj : Data.JsonOver num raw)
    (h : c.read passing.policy passing.genderType raw = .ok v) :
    raw.isNull = false ∧ v.carried = restoredValue (.plain c) raw := by
  have hc := PlainClaim.read_eq_ok_iff.1 h
  cases c with
  | address =>
      obtain ⟨r, hr, rfl⟩ := Checked.map_eq_ok_iff.1 hc
      refine ⟨?_, carried_address hj hr⟩
      cases raw <;> first | rfl | exact absurd hr (by nofun)
  | gender =>
      obtain ⟨s, hs, rfl⟩ := Checked.map_eq_ok_iff.1 hc
      rw [text_of_checkText hj hs]
      exact ⟨rfl, rfl⟩
  | emailVerified | phoneNumberVerified =>
      obtain ⟨d, hd, rfl⟩ := Checked.map_eq_ok_iff.1 hc
      obtain ⟨b, hb, rfl⟩ := Checked.map_eq_ok_iff.1 hd
      cases raw <;> first | (cases hb; exact ⟨rfl, rfl⟩) | exact absurd hb (by nofun)
  | _ =>
      obtain ⟨d, hd, rfl⟩ := Checked.map_eq_ok_iff.1 hc
      obtain ⟨s, hs, rfl⟩ := Checked.map_eq_ok_iff.1 hd
      rw [text_of_checkText hj hs]
      exact ⟨rfl, rfl⟩

theorem writeTime_of_readTime {n : Int} {t : Instant}
    (h : readTime passing.policy (.int n) = .ok t) : writeTime passing.policy t = .int n := by
  by_cases hin : -62135596800000000 ≤ n * microsPerSecond ∧
      n * microsPerSecond ≤ 253402300799999999
  · have hread : readTime passing.policy (.int n) = .ok ⟨_, hin⟩ := by
      simp [readTime, readSeconds, Instant.ofSeconds, Instant.ofMicros?, hin]
    rw [hread, Except.ok.injEq] at h
    rw [← h, writeTime, Instant.toSeconds_eq]
    exact congrArg Data.int (Int.mul_tdiv_cancel n (by decide))
  · simp [readTime, readSeconds, Instant.ofSeconds, Instant.ofMicros?, hin] at h

/-- Additional claims that keep every key keep them as they are. -/
theorem check_passthrough (mode : Strictness) (pairs : List TextPair) :
    AdditionalType.passthrough.check mode (.ofEntries pairs) =
      .ok (.record { type := AdditionalType.passthroughType, values := [], extras := pairs }) := by
  have hextras : AdditionalType.passthroughType.checkExtras (textPairs pairs) = .ok pairs := by
    have hused : AdditionalType.passthroughType.usedKeys (textPairs pairs) = [] := rfl
    have hall : (pairs.filter fun e => e.1 ∉ ([] : List String)) = pairs := by simp
    rw [RecordType.checkExtras, if_neg (by decide), RecordType.unused_textPairs, hused, hall,
      textPairs, List.map_map, Checked.all_map_eq_ok_iff, List.forall₂_same]
    exact fun e _ => rfl
  rw [AdditionalType.passthrough, Schema.check, ofEntries_eq, RecordType.check,
    RecordType.checkEntries, hextras]
  rfl

/-! ## Claims -/

section Claims

variable {d : Decoder} {pairs : List TextPair} {s : ClaimSet}

theorem pairsOf_of_accepts (ha : d.Accepts pairs) {c : Claim} (hc : c.layout ≠ .localized) :
    pairsOf c pairs = [] ∨ ∃ raw, (c.key, raw) ∈ pairs ∧ pairsOf c pairs = [(c.key, raw)] := by
  have hkey : ∀ e ∈ pairsOf c pairs, e ∈ pairs ∧ e.1 = c.key := by
    intro e he
    obtain ⟨hmem, ho⟩ := List.mem_filter.1 he
    have howner := of_decide_eq_true ho
    exact ⟨hmem, (Claim.key_of_owner? howner (ha.untagged e hmem c howner hc)).symm⟩
  have hdistinct : (pairKeys (pairsOf c pairs)).Nodup :=
    nodup_pairKeys_filter ha.distinct
  cases hp : pairsOf c pairs with
  | nil => exact .inl rfl
  | cons e rest =>
      rw [hp] at hkey hdistinct
      obtain ⟨hmem, he⟩ := hkey e List.mem_cons_self
      have hrest : rest = [] := by
        cases rest with
        | nil => rfl
        | cons e' rest =>
            have he' := (hkey e' (by simp)).2
            simp [pairKeys, he, he'] at hdistinct
      refine .inr ⟨e.2, he ▸ hmem, ?_⟩
      rw [hrest, ← he]

theorem mem_of_pairsOf_eq {c : Claim} {qs : List TextPair} {raw : Data}
    (hp : pairsOf c pairs = qs) (hraw : (c.key, raw) ∈ pairs) : (c.key, raw) ∈ qs :=
  hp ▸ List.mem_filter.2 ⟨hraw, decide_eq_true (Claim.owner?_key c)⟩

variable (h : passing.decode (textPairs pairs) = .ok s)

include h

theorem carried_time
    (ht : ∀ raw, (Claim.updatedAt.key, raw) ∈ pairs → raw = .null ∨ ∃ n, raw = .int n) :
    s.carried passing.policy .updatedAt = restoredPairs pairs .updatedAt := by
  obtain ⟨ha, hy⟩ := decode_eq_ok_iff.1 h
  have hvalue : restoredValue .updatedAt = id := by
    funext raw
    simp [restoredValue]
  rw [restoredPairs, ClaimSet.carried, hvalue]
  rcases pairsOf_of_accepts ha (c := .updatedAt) (by decide) with hp | ⟨raw, hraw, hp⟩
  · have hunset : s.updatedAt = none :=
      hy.time.unset fun raw hraw => by cases mem_of_pairsOf_eq hp hraw
    rw [hp, hunset]
    rfl
  · have honly : ∀ r, (Claim.updatedAt.key, r) ∈ pairs → r = raw := fun r hr => by
      simpa using mem_of_pairsOf_eq (c := .updatedAt) hp hr
    rcases ht raw hraw with rfl | ⟨n, rfl⟩
    · have hunset : s.updatedAt = none := hy.time.unset fun r hr => by rw [honly r hr]; rfl
      rw [hp, hunset]
      rfl
    · obtain ⟨t, hread, hset⟩ := hy.time.set _ hraw rfl
      rw [hp, hset]
      simp [writeTime_of_readTime hread, Data.isNull]

variable (hj : ∀ e ∈ pairs, e.2.IsJson)

include hj

theorem carried_plain (c : PlainClaim) :
    s.carried passing.policy (.plain c) = restoredPairs pairs (.plain c) := by
  obtain ⟨ha, hy⟩ := decode_eq_ok_iff.1 h
  rcases pairsOf_of_accepts ha (layout_plain_ne c) with hp | ⟨raw, hraw, hp⟩
  · have hunset : s.plain c = none := by
      cases hs : s.plain c with
      | none => rfl
      | some v =>
          obtain ⟨raw, hraw, -⟩ := hy.exists_read hs
          cases mem_of_pairsOf_eq hp hraw
    rw [restoredPairs, hp, ClaimSet.carried, hunset]
    rfl
  · cases hs : s.plain c with
    | none =>
        have hnull : raw.isNull = true := by
          by_contra hnull
          have hpresent : c.isAbsence raw = false := by
            rw [PlainClaim.isAbsence, Bool.eq_false_iff.2 hnull, Bool.false_and]
          obtain ⟨v?, hgives, hset⟩ := hy.plain c
          obtain ⟨v, hv, rfl⟩ := hgives.set raw hraw hpresent
          have hinst := instance_of_read (.wrapped _) (hj (c.key, raw) hraw) hv
          have hsettled := hinst.settled_mapData
            (restoresNull_schema (.wrapped "CoreGenderClaim") c) Data.rearranging_id
          rw [Held.mapData_id] at hsettled
          rw [hset, Option.bind_some, hsettled] at hs
          cases hs
        rw [restoredPairs, hp, ClaimSet.carried, hs]
        simp [hnull]
    | some v =>
        obtain ⟨raw', hraw', -, hread⟩ := hy.exists_read hs
        have hsame : raw' = raw := by simpa using mem_of_pairsOf_eq (c := .plain c) hp hraw'
        subst hsame
        obtain ⟨hnull, hcarried⟩ := carried_of_read (hj (c.key, raw') hraw) hread
        rw [restoredPairs, hp, ClaimSet.carried, hs]
        simp [hnull, hcarried]

theorem carried_localized (c : LocalizedClaim) :
    s.carried passing.policy (.localized c) = restoredPairs pairs (.localized c) := by
  have hvars : List.Forall₂ (fun (e : TextPair) (v : Label × Data) =>
      e = (FlatKey.join c.key v.1.travelling, v.2) ∧ e.2.isNull = false)
      (pairsOf (.localized c) pairs) (s.localized c).variants := by
    have hmem : ∀ e ∈ pairsOf (.localized c) pairs,
        e ∈ pairs ∧ Claim.owner? e.1 = some (.localized c) := fun e he => by
      simpa [pairsOf] using he
    refine ((List.forall₂_and_left _ _).2 ⟨hmem, (yields_of_decode h).variants c⟩).imp ?_
    rintro e v ⟨⟨he, ho⟩, hlabel, hread⟩
    obtain ⟨text, htext, hv⟩ := Checked.map_eq_ok_iff.1 (readVariant_eq_ok_iff.1 hread)
    have hraw := text_of_checkText (hj e he) htext
    refine ⟨Prod.ext ?_ (hraw.trans hv), by rw [hraw]; rfl⟩
    rw [hlabel]
    exact (Claim.join_of_owner? ho).symm
  have hvalue : restoredValue (.localized c) = id := by
    funext raw
    simp [restoredValue]
  rw [restoredPairs, ClaimSet.carried, hvalue]
  generalize pairsOf (.localized c) pairs = ps at hvars
  generalize (s.localized c).variants = vs at hvars
  induction hvars with
  | nil => rfl
  | @cons e v ps vs hev _ ih =>
      rw [List.map_cons, ih, ← hev.1]
      simp [hev.2]

/-- A null that is accepted for a standard claim stands for an optional claim without a tag. -/
theorem optional_of_null {k : String} {c : Claim} (hk : (k, .null) ∈ pairs)
    (ho : Claim.owner? k = some c) : c.layout ≠ .localized ∧ c.isRequired = false ∧ c.key = k := by
  have ha := decode_ok_iff_accepts.1 ⟨s, h⟩
  have hlayout : c.layout ≠ .localized := by
    rcases c with c | c | _
    · exact layout_plain_ne c
    · obtain ⟨v, hv⟩ := ha.variants _ hk c ho
      exact absurd (readVariant_eq_ok_iff.1 hv) (by nofun)
    · decide
  have hkey := Claim.key_of_owner? ho (ha.untagged _ hk c ho hlayout)
  refine ⟨hlayout, ?_, hkey⟩
  rcases c with c | c | _
  · by_contra hr
    obtain ⟨v, hv⟩ := ha.plain c .null (by rwa [← hkey] at hk) (by
      rw [PlainClaim.isAbsence, show c.isRequired = true by simpa [Claim.isRequired] using hr]
      rfl)
    have hnull := (carried_of_read (hj _ hk) hv).1
    cases hnull
  · rfl
  · rfl

end Claims

/-! ## The flat map -/

/-- A null that does not come back: one of an optional claim that is not localized. -/
def IsDropped (k : String) (raw : Data) : Prop :=
  raw = .null ∧ ∃ c : Claim, c.layout ≠ .localized ∧ c.isRequired = false ∧ c.key = k

structure GivesBack (pairs : List TextPair) (m : FlatMap) : Prop where
  /-- The standard claims come in their order, the variants of one claim and the unrecognized keys
  in the order of the pairs. -/
  order : m = Claim.all.flatMap (restoredPairs pairs) ++ unrecognized pairs
  distinct : (m.map Prod.fst).Nodup
  /-- Only null is dropped, and only where a claim is optional. -/
  keys : ∀ k, k ∈ m.map Prod.fst ↔ ∃ raw, (k, raw) ∈ pairs ∧ ¬ IsDropped k raw
  values : ∀ k v, (k, v) ∈ m → k ≠ PlainClaim.address.key → (k, v) ∈ pairs
  address : ∀ v, (PlainClaim.address.key, v) ∈ m →
    ∃ raw, (PlainClaim.address.key, raw) ∈ pairs ∧ v = trimmedAddress raw

section FlatMap

variable {pairs : List TextPair} {s : ClaimSet}

theorem mem_restoredPairs_iff {c : Claim} {k : String} {v : Data} :
    (k, v) ∈ restoredPairs pairs c ↔ ∃ raw, (k, raw) ∈ pairs ∧ Claim.owner? k = some c ∧
      raw.isNull = false ∧ v = restoredValue c raw := by
  simp only [restoredPairs, pairsOf, List.mem_map, List.mem_filter, Prod.exists, Prod.mk.injEq]
  constructor
  · rintro ⟨k', raw, ⟨⟨hmem, ho⟩, hnull⟩, rfl, rfl⟩
    exact ⟨raw, hmem, of_decide_eq_true ho, by simpa using hnull, rfl⟩
  · rintro ⟨raw, hmem, ho, hnull, rfl⟩
    exact ⟨k, raw, ⟨⟨hmem, decide_eq_true ho⟩, by simp [hnull]⟩, rfl, rfl⟩

theorem mem_flatOf_iff {es : Claim → FlatMap} {extra : FlatMap} {e : TextPair} :
    e ∈ flatOf es extra ↔ (∃ c, e ∈ es c) ∨ e ∈ extra := by
  simp [flatOf, List.mem_append, List.mem_flatMap, Claim.mem_all]

theorem givesBack_of_laidOut (ha : passing.Accepts pairs)
    (hl : LaidOut (restoredPairs pairs) (unrecognized pairs))
    (hnull : ∀ k c, (k, .null) ∈ pairs → Claim.owner? k = some c →
      c.layout ≠ .localized ∧ c.isRequired = false ∧ c.key = k) :
    GivesBack pairs (flatOf (restoredPairs pairs) (unrecognized pairs)) where
  order := rfl
  distinct := hl.nodup_flatOf
  keys k := by
    constructor
    · intro hk
      obtain ⟨⟨k', v⟩, hmem, rfl⟩ := List.mem_map.1 hk
      rcases mem_flatOf_iff.1 hmem with ⟨c, hc⟩ | hextra
      · obtain ⟨raw, hraw, -, hn, -⟩ := mem_restoredPairs_iff.1 hc
        exact ⟨raw, hraw, fun hd => by simp [hd.1, Data.isNull] at hn⟩
      · obtain ⟨hraw, ho⟩ := List.mem_filter.1 hextra
        refine ⟨v, hraw, fun hd => ?_⟩
        obtain ⟨-, c, -, -, rfl⟩ := hd
        simp [Claim.owner?_key] at ho
    · rintro ⟨raw, hraw, hd⟩
      cases ho : Claim.owner? k with
      | none =>
          have hextra : (k, raw) ∈ unrecognized pairs :=
            List.mem_filter.2 ⟨hraw, decide_eq_true ho⟩
          exact List.mem_map_of_mem (mem_flatOf_iff.2 (.inr hextra))
      | some c =>
          have hn : raw.isNull = false := by
            by_contra hn
            have hrn : raw = .null := by cases raw <;> simp_all [Data.isNull]
            exact hd ⟨hrn, c, hnull k c (hrn ▸ hraw) ho⟩
          have hc : (k, restoredValue c raw) ∈ restoredPairs pairs c :=
            mem_restoredPairs_iff.2 ⟨raw, hraw, ho, hn, rfl⟩
          exact List.mem_map_of_mem (mem_flatOf_iff.2 (.inl ⟨c, hc⟩))
  values k v hmem hk := by
    rcases mem_flatOf_iff.1 hmem with ⟨c, hc⟩ | hextra
    · obtain ⟨raw, hraw, ho, -, rfl⟩ := mem_restoredPairs_iff.1 hc
      have hca : c ≠ .plain .address := by
        rintro rfl
        exact hk (Claim.key_of_owner? ho (ha.untagged _ hraw _ ho (by decide))).symm
      rwa [restoredValue, if_neg hca]
    · exact (List.mem_filter.1 hextra).1
  address v hmem := by
    rcases mem_flatOf_iff.1 hmem with ⟨c, hc⟩ | hextra
    · obtain ⟨raw, hraw, ho, -, rfl⟩ := mem_restoredPairs_iff.1 hc
      have hca : c = .plain .address := by
        rw [owner?_plain_key, Option.some_inj] at ho
        exact ho.symm
      exact ⟨raw, hraw, by rw [restoredValue, if_pos hca]⟩
    · have ho := (List.mem_filter.1 hextra).2
      simp [owner?_plain_key] at ho

theorem additional_of_decode (h : passing.decode (textPairs pairs) = .ok s) :
    s.additional = .record
      { type := AdditionalType.passthroughType, values := [], extras := unrecognized pairs } :=
  Except.ok.inj ((yields_of_decode h).additional.symm.trans (check_passthrough .lenient _))

/-- A payload with variants out of order, a null claim, an address with a null and an unknown
member, and an unrecognized key with a tag. -/
def payload : List TextPair :=
  [("name#fr", .text "Adèle"), ("org#x", .list [.null, .int 3]), ("gender", .null),
    ("address", .map (textPairs [("country", .null), ("planet", .text "Earth"),
      ("locality", .text "Paris")])),
    ("updated_at", .int (-5)), ("name", .text "Ada"), ("sub", .text "u-1")]

theorem isJson_payload : ∀ e ∈ payload, e.2.IsJson := by
  have hlist : ∀ d ∈ [Data.null, .int 3], Data.IsJson d := by
    intro d hd
    rcases List.mem_cons.1 hd with rfl | hd
    · exact .null
    · exact List.mem_singleton.1 hd ▸ .int 3
  have haddress : ∀ e ∈ ([("country", .null), ("planet", .text "Earth"),
      ("locality", .text "Paris")] : List TextPair), e.2.IsJson := by
    intro e he
    simp only [List.mem_cons, List.not_mem_nil, or_false] at he
    rcases he with rfl | rfl | rfl
    · exact .null
    · exact .text _
    · exact .text _
  intro e he
  simp only [payload, List.mem_cons, List.not_mem_nil, or_false] at he
  rcases he with rfl | rfl | rfl | rfl | rfl | rfl | rfl
  · exact .text _
  · exact .list hlist
  · exact .null
  · exact .map (by decide) haddress
  · exact .int _
  · exact .text _
  · exact .text _

end FlatMap

end Decoder

end IdentityClaims
