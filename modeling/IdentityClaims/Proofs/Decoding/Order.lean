import IdentityClaims.Proofs.Decoding.Acceptance
import IdentityClaims.Proofs.Values.Order

/-!
# Decoding and the order of pairs

Pairs are taken one after the other and the first that does not fit decides the error, yet whether
decoding succeeds and what it gives do not depend on the order: `Decoder.Accepts` asks of each pair
what does not look at the others, and of the keys that they are distinct. Only the variants of a
localized claim and the additional entries are listed in the order of the pairs. Main statement:
the pairs of a flat map may come in any order, if the type of the additional claims ignores it.
-/

namespace IdentityClaims

/-- Two claim sets that differ at most in the order of their variants and additional entries. -/
structure ClaimSet.Reorders (s t : ClaimSet) : Prop where
  plain : s.plain = t.plain
  localized : ∀ c, (s.localized c).variants.Perm (t.localized c).variants
  updatedAt : s.updatedAt = t.updatedAt
  additional : s.additional.Reorders t.additional

/-- Claim sets that differ in order only are the same, if they can be the same as anything. -/
theorem ClaimSet.Reorders.same {s t : ClaimSet} (h : s.Reorders t) (ht : t.same t = true) :
    s.same t = true := by
  simp only [ClaimSet.same, Bool.and_eq_true, List.all_eq_true] at ht ⊢
  obtain ⟨⟨⟨hplain, hlocalized⟩, htime⟩, hadditional⟩ := ht
  refine ⟨⟨⟨?_, ?_⟩, ?_⟩, ?_⟩
  · rw [h.plain]
    exact hplain
  · intro c hc
    exact Localized.same_of_perm_self (h.localized c) (hlocalized c hc)
  · rw [h.updatedAt]
    exact htime
  · exact h.additional.same hadditional

namespace Decoder

variable {d : Decoder} {ps qs : List TextPair} {s t : ClaimSet}

theorem Accepts.of_perm (h : d.Accepts ps) (hp : ps.Perm qs)
    (hA : d.additionalType.IgnoresOrder) : d.Accepts qs where
  distinct := (pairKeys_perm hp).nodup_iff.1 h.distinct
  untagged e he := h.untagged e (hp.mem_iff.2 he)
  tags e he := h.tags e (hp.mem_iff.2 he)
  variants e he := h.variants e (hp.mem_iff.2 he)
  plain c raw he := h.plain c raw (hp.mem_iff.2 he)
  time raw he := h.time raw (hp.mem_iff.2 he)
  subject := (pairKeys_perm hp).mem_iff.1 h.subject
  additional := by
    obtain ⟨v, hv⟩ := h.additional
    obtain ⟨w, hw, -⟩ := hA _ _ (hp.filter _) (nodup_pairKeys_filter h.distinct) v hv
    exact ⟨w, hw⟩

theorem GivesPlain.of_perm {c : PlainClaim} {v? : Option Held} (h : d.GivesPlain ps c v?)
    (hp : ps.Perm qs) : d.GivesPlain qs c v? where
  set raw hr := h.set raw (hp.mem_iff.2 hr)
  unset hc := h.unset fun raw hr => hc raw (hp.mem_iff.1 hr)

theorem GivesTime.of_perm {t? : Option Instant} (h : d.GivesTime ps t?) (hp : ps.Perm qs) :
    d.GivesTime qs t? where
  set raw hr := h.set raw (hp.mem_iff.2 hr)
  unset hc := h.unset fun raw hr => hc raw (hp.mem_iff.1 hr)

theorem GivesVariants.perm {c : LocalizedClaim} {vs ws : List (Label × Data)}
    (hv : d.GivesVariants ps c vs) (hw : d.GivesVariants qs c ws) (hp : ps.Perm qs) :
    vs.Perm ws := by
  obtain ⟨us, hu, hperm⟩ := List.perm_comp_forall₂ (hp.filter _) hw
  rw [hv.unique hu]
  exact hperm

theorem Yields.reorders (hs : d.Yields ps s) (ht : d.Yields qs t) (hp : ps.Perm qs)
    (hn : (pairKeys ps).Nodup) (hA : d.additionalType.IgnoresOrder) : s.Reorders t where
  plain := by
    funext c
    obtain ⟨v?, hv, hsv⟩ := hs.plain c
    obtain ⟨w?, hw, htw⟩ := ht.plain c
    rw [hsv, htw, (hv.of_perm hp).unique hw]
  localized c := (hs.variants c).perm (ht.variants c) hp
  updatedAt := (hs.time.of_perm hp).unique ht.time
  additional := by
    obtain ⟨w, hw, hreorders⟩ :=
      hA _ _ (hp.filter _) (nodup_pairKeys_filter hn) _ hs.additional
    have heq := hw.symm.trans ht.additional
    rw [Except.ok.injEq] at heq
    exact heq ▸ hreorders

/-- In whatever order the pairs of a flat map come, they are decoded in one order if they are in
another, and to claim sets that differ in order only. Of the additional type it is assumed that it
ignores the order, unless it is known to. -/
theorem decode_perm (d : Decoder) (ps qs : List TextPair)
    (hown : ∀ name check, d.additionalType = .own name check → d.additionalType.IgnoresOrder)
    (hp : ps.Perm qs) :
    ((∃ s, d.decode (textPairs ps) = .ok s) ↔ ∃ t, d.decode (textPairs qs) = .ok t) ∧
      ∀ s t, d.decode (textPairs ps) = .ok s → d.decode (textPairs qs) = .ok t →
        s.Reorders t ∧ (t.same t = true → s.same t = true) := by
  have hA : d.additionalType.IgnoresOrder := by
    -- only of a type of the caller's own it has to be assumed
    by_cases h : ∃ name check, d.additionalType = .own name check
    · obtain ⟨name, check, hc⟩ := h
      exact hown name check hc
    · push Not at h
      exact Schema.ignoresOrder_of_ne_own h
  constructor
  · rw [decode_ok_iff_accepts, decode_ok_iff_accepts]
    constructor
    · intro h
      exact h.of_perm hp hA
    · intro h
      exact h.of_perm hp.symm hA
  · intro s t hs ht
    obtain ⟨haccepts, hyields⟩ := decode_eq_ok_iff.1 hs
    have hreorders := hyields.reorders (yields_of_decode ht) hp haccepts.distinct hA
    exact ⟨hreorders, hreorders.same⟩

/-- A type that takes maps of at most two entries and looks at nothing else. -/
def fewClaims : Schema :=
  .own "FewClaims" fun _ d =>
    match d with
    | .map es => if es.length ≤ 2 then .ok (.data (.map es)) else .fail .notMap
    | _ => .fail .notMap

theorem ignoresOrder_fewClaims : fewClaims.IgnoresOrder := by
  intro ps qs hp _ h hcheck
  have hperm : (textPairs ps).Perm (textPairs qs) := hp.map _
  by_cases hlen : (textPairs ps).length ≤ 2
  · have hlen' : (textPairs qs).length ≤ 2 := hperm.length_eq ▸ hlen
    simp only [fewClaims, Schema.check, ofEntries_eq, hlen, hlen', if_true] at hcheck ⊢
    cases hcheck
    exact ⟨_, rfl, .map hperm⟩
  · simp only [fewClaims, Schema.check, ofEntries_eq, hlen, if_false] at hcheck
    cases hcheck

def fewDecoder : Decoder where
  policy := {}
  additionalType := fewClaims

def scattered : List TextPair :=
  [("name#fr", .text "Adèle"), ("team", .int 3), ("gender", .null), ("sub", .text "u-1"),
    ("name", .text "Ada"), ("org#x", .list [])]

theorem decode_perm_scattered :
    fewDecoder.additionalType.IgnoresOrder ∧ scattered.Perm scattered.reverse ∧
      ∃ s t, fewDecoder.decode (textPairs scattered) = .ok s ∧
        fewDecoder.decode (textPairs scattered.reverse) = .ok t ∧ s.Reorders t := by
  have hperm : scattered.Perm scattered.reverse := (List.reverse_perm scattered).symm
  obtain ⟨hiff, hreorders⟩ := decode_perm fewDecoder scattered scattered.reverse
    (fun _ _ _ => ignoresOrder_fewClaims) hperm
  have hok : (fewDecoder.decode (textPairs scattered)).toBool = true := by decide
  cases hs : fewDecoder.decode (textPairs scattered) with
  | error e =>
      rw [hs] at hok
      cases hok
  | ok s =>
      obtain ⟨t, ht⟩ := hiff.1 ⟨s, hs⟩
      exact ⟨ignoresOrder_fewClaims, hperm, s, t, rfl, ht, (hreorders s t hs ht).1⟩

end Decoder

end IdentityClaims
