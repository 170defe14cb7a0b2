import IdentityClaims.Proofs.Decoding.Acceptance
import IdentityClaims.Proofs.RoundTrip.Domain

/-!
# Decoded claim sets are of the types of their decoder

Whatever a decoder makes of pairs that JSON can say is a claim set of the types that it reads, so
that it can be encoded.
-/

namespace IdentityClaims

namespace Decoder

variable {num : Binary64 → Prop} {d : Decoder} {pairs : List TextPair} {s : ClaimSet}

theorem isSound_schema {G : Schema} (hG : G.IsSound num) (c : PlainClaim) :
    (c.schema G).IsSound num := by
  cases c with
  | gender => exact hG
  | address =>
      refine .record wellFormed_addressType fun m hm v hv => ?_
      obtain ⟨name, -, rfl⟩ := List.mem_map.1 hm
      cases hv
      exact ⟨rfl, .null⟩
  | _ => exact .shape _

/-- The value of a plain claim that is set was read from the pair of its key. -/
theorem Yields.exists_read (hy : d.Yields pairs s) {c : PlainClaim} {v : Held}
    (hv : s.plain c = some v) :
    ∃ raw, (c.key, raw) ∈ pairs ∧ c.isAbsence raw = false ∧
      c.read d.policy d.genderType raw = .ok v := by
  obtain ⟨v?, hgives, hs⟩ := hy.plain c
  by_cases habsent : ∀ raw, (c.key, raw) ∈ pairs → c.isAbsence raw = true
  · rw [hs, hgives.unset habsent] at hv
    cases hv
  · push Not at habsent
    obtain ⟨raw, hraw, hpresent⟩ := habsent
    obtain ⟨w, hw, rfl⟩ := hgives.set raw hraw (Bool.eq_false_iff.2 hpresent)
    refine ⟨raw, hraw, Bool.eq_false_iff.2 hpresent, ?_⟩
    rw [hs, Option.bind_some] at hv
    have hwv : w = v := by
      unfold ClaimSet.settled at hv
      split at hv <;> simp_all
    exact hwv ▸ hw

theorem instance_of_read (hG : d.genderType.IsSound num) {c : PlainClaim} {raw : Data} {v : Held}
    (hj : Data.JsonOver num raw) (h : c.read d.policy d.genderType raw = .ok v) :
    (c.schema d.genderType).Instance num v :=
  (isSound_schema hG c).instance_of_check hj (PlainClaim.read_eq_ok_iff.1 h)

theorem text_of_readVariant {policy : Policy} {raw v : Data} (h : readVariant policy raw = .ok v) :
    ∃ text, v = .text text := by
  obtain ⟨text, -, rfl⟩ := Checked.map_eq_ok_iff.1 (readVariant_eq_ok_iff.1 h)
  exact ⟨text, rfl⟩

theorem additional_instance_of_decode (hA : d.additionalType.IsSound num)
    (hn : (pairKeys pairs).Nodup) (hj : ∀ e ∈ pairs, Data.JsonOver num e.2)
    (h : d.decode (textPairs pairs) = .ok s) : d.additionalType.Instance num s.additional := by
  have hy := yields_of_decode h
  refine hA.instance_of_check ?_ hy.additional
  rw [ofEntries_eq]
  exact .map (nodup_pairKeys_filter hn) fun e he => hj e (List.mem_filter.1 he).1

theorem types_of_decode (hG : d.genderType.IsSound num) (hA : d.additionalType.IsSound num)
    (hn : (pairKeys pairs).Nodup) (hj : ∀ e ∈ pairs, Data.JsonOver num e.2)
    (h : d.decode (textPairs pairs) = .ok s)
    (hfree : ∀ e ∈ s.additional.entries, Claim.owner? e.1 = none) : d.Types num s where
  subject := by
    obtain ⟨ha, hy⟩ := decode_eq_ok_iff.1 h
    obtain ⟨e, he, hkey⟩ := List.mem_map.1 ha.subject
    obtain ⟨v?, hgives, hs⟩ := hy.plain .sub
    obtain ⟨v, hv, rfl⟩ := hgives.set e.2 (hkey ▸ he) (isAbsence_sub e.2)
    have hinst := instance_of_read hG (hj e he) hv
    have hset := hinst.settled_mapData restoresNull_text Data.rearranging_id
    rw [Held.mapData_id] at hset
    rw [hs, Option.bind_some, hset]
    rfl
  plain c v hv := by
    obtain ⟨raw, hraw, -, hread⟩ := (yields_of_decode h).exists_read hv
    exact instance_of_read hG (hj (c.key, raw) hraw) hread
  variants c v hv := by
    obtain ⟨ha, hy⟩ := decode_eq_ok_iff.1 h
    obtain ⟨e, he, hlabel, hread⟩ := exists_of_forall₂ (hy.variants c) v hv
    obtain ⟨hmem, ho⟩ := List.mem_filter.1 he
    obtain ⟨text, htext⟩ := text_of_readVariant hread
    refine ⟨(FlatKey.split e.1).2, text, Prod.ext hlabel htext, ?_⟩
    cases ht : (FlatKey.split e.1).2 with
    | none => rfl
    | some tag => exact ha.tags e hmem c tag (of_decide_eq_true ho) ht
  additional := additional_instance_of_decode hA hn hj h
  free := hfree

end Decoder

end IdentityClaims
