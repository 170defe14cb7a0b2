import IdentityClaims.Data.Merge
import IdentityClaims.Proofs.Values.Keys
import IdentityClaims.Proofs.Values.TextPairs

/-!
# What is found in merged maps

A key of a map that is laid over another one has its value there, merged with the value below, or
with null if there is none; any other key has the value below. Main statements:
`lookup_mergeEntries` and, for text keys, `valueOf?_mergeEntries`.
-/

namespace IdentityClaims.Data

variable {es bs ws : List (Data × Data)} {k q v : Data} {s : String}

/-! ## What is found under a key -/

theorem lookup_congr (hk : k.keyFault? = none) (hq : q.keyFault? = none) (h : k.same q = true)
    (es : List (Data × Data)) : lookup es k = lookup es q := by
  have hsame : ∀ d : Data, d.same k = d.same q := fun d => by
    rw [Bool.eq_iff_iff, same_iff hk, same_iff hq, keyValue?_eq_of_same h]
  induction es with
  | nil => rfl
  | cons e es ih => simp only [lookup, hsame, ih]

theorem lookup_putEntry (hq : q.keyFault? = none) (es : List (Data × Data)) (k v : Data) :
    lookup (putEntry es k v) q = if k.same q then some v else lookup es q := by
  induction es with
  | nil => rfl
  | cons e es ih =>
      by_cases hk : e.1.same k = true
      · -- the key that stays is the same as what the new one is the same as
        simp only [putEntry, hk, if_true, lookup, same_congr hq hk]
        split <;> rfl
      · simp only [putEntry, hk, Bool.false_eq_true, if_false, lookup, ih]
        by_cases he : e.1.same q = true
        · have hne : ¬ k.same q = true := fun h => hk (same_of_same hq he h)
          simp only [he, if_true, hne, Bool.false_eq_true, if_false]
        · simp only [he, Bool.false_eq_true, if_false]

theorem putEntry_of_lookup (h : lookup es k = some v) : putEntry es k v = es := by
  induction es with
  | nil => cases h
  | cons e es ih =>
      by_cases hk : e.1.same k = true
      · simp only [lookup, hk, if_true, Option.some.injEq] at h
        simp only [putEntry, hk, if_true, ← h]
      · simp only [lookup, hk, Bool.false_eq_true, if_false] at h
        simp only [putEntry, hk, Bool.false_eq_true, if_false, ih h]

/-- At most one entry has a key that is the same as this one. -/
def AtMostOnce (es : List (Data × Data)) (q : Data) : Prop :=
  es.Pairwise fun e f => e.1.same q = true → f.1.same q = false

theorem lookup_eq_none_of_forall (h : ∀ e ∈ es, e.1.same q = false) : lookup es q = none := by
  induction es with
  | nil => rfl
  | cons e es ih =>
      rw [List.forall_mem_cons] at h
      simp only [lookup, h.1, Bool.false_eq_true, if_false, ih h.2]

theorem exists_mem_of_lookup (h : lookup es q = some v) : ∃ e ∈ es, e.2 = v := by
  induction es with
  | nil => cases h
  | cons e es ih =>
      rw [lookup] at h
      split at h
      · exact ⟨e, List.mem_cons_self, Option.some.inj h⟩
      · obtain ⟨f, hf, hv⟩ := ih h
        exact ⟨f, List.mem_cons_of_mem e hf, hv⟩

/-- Among keys that are pairwise not the same, each that is the same as itself is found. -/
theorem lookup_of_mem {e : Data × Data} (h : es.Pairwise fun e f => e.1.same f.1 = false)
    (he : e ∈ es) (hself : e.1.same e.1 = true) : lookup es e.1 = some e.2 := by
  induction es with
  | nil => cases he
  | cons f es ih =>
      obtain ⟨hfirst, hrest⟩ := List.pairwise_cons.1 h
      cases he with
      | head => simp only [lookup, hself, if_true]
      | tail _ he => simp only [lookup, hfirst e he, Bool.false_eq_true, if_false, ih hrest he]

/-! ## What is found under a key of a merged map -/

@[simp] theorem null_merge (v : Data) : null.merge v = v := by cases v <;> rfl

/-- What is laid over a value that is no map takes its place. -/
theorem merge_of_not_map (h : ∀ bs, k ≠ .map bs) (v : Data) : k.merge v = v := by
  cases v with
  | map es =>
      cases k with
      | map bs => exact absurd rfl (h bs)
      | _ => rfl
  | _ => rfl

/-- Something that is no map takes the place of what it is laid over. -/
theorem merge_leaf (h : ∀ es, v ≠ .map es) (base : Data) : base.merge v = v := by
  cases v with
  | map es => exact absurd rfl (h es)
  | _ => rfl

theorem map_or_leaf (d : Data) : (∃ es, d = .map es) ∨ ∀ es, d ≠ .map es := by
  cases d with
  | map es => exact .inl ⟨es, rfl⟩
  | _ => exact .inr nofun

theorem exists_map_of_merge_map (base : Data) (es : List (Data × Data)) :
    ∃ ws, base.merge (.map es) = .map ws := by
  cases base <;> exact ⟨_, rfl⟩

theorem mergeEntries_cons (bs : List (Data × Data)) (k v : Data) (es : List (Data × Data)) :
    mergeEntries bs ((k, v) :: es) =
      mergeEntries (putEntry bs k (((lookup bs k).getD .null).merge v)) es := by
  rw [mergeEntries]
  cases lookup bs k <;> simp

theorem lookup_mergeEntries (hq : q.keyFault? = none) (h : AtMostOnce es q)
    (bs : List (Data × Data)) :
    lookup (mergeEntries bs es) q =
      match lookup es q with
      | some v => some (((lookup bs q).getD .null).merge v)
      | none => lookup bs q := by
  induction es generalizing bs with
  | nil => rfl
  | cons e es ih =>
      obtain ⟨k, v⟩ := e
      obtain ⟨hfirst, hrest⟩ := List.pairwise_cons.1 h
      rw [mergeEntries_cons, ih hrest, lookup_putEntry hq]
      by_cases hk : k.same q = true
      · have hnone : lookup es q = none := lookup_eq_none_of_forall fun f hf => hfirst f hf hk
        have hkey : k.keyFault? = none := keyFault?_of_isSome ((same_iff hq).1 hk).1
        simp only [hnone, lookup, hk, if_true, lookup_congr hkey hq hk]
      · simp only [lookup, hk, Bool.false_eq_true, if_false]

/-- Laying entries over others changes nothing if it leaves each of their values. -/
theorem mergeEntries_eq_self
    (h : ∀ e ∈ es, ∃ w, lookup ws e.1 = some w ∧ w.merge e.2 = w) : mergeEntries ws es = ws := by
  induction es with
  | nil => rfl
  | cons e es ih =>
      obtain ⟨⟨w, hlookup, hmerge⟩, hes⟩ := List.forall_mem_cons.1 h
      rw [mergeEntries_cons, hlookup, Option.getD_some, hmerge, putEntry_of_lookup hlookup, ih hes]

/-! ## Text keys -/

theorem same_text_iff : k.same (.text s) = true ↔ k.text? = some s := by
  cases k with
  | text t => simp
  | _ => simp [same, sameScalar, text?]

theorem lookup_text (es : List (Data × Data)) (s : String) :
    lookup es (.text s) = valueOf? es s := by
  induction es with
  | nil => rfl
  | cons e es ih =>
      obtain ⟨k, v⟩ := e
      simp only [lookup, valueOf?, ih, same_text_iff]

def DistinctTexts (es : List (Data × Data)) : Prop := (es.filterMap fun e => e.1.text?).Nodup

theorem distinctTexts_textPairs {es : List TextPair} :
    DistinctTexts (textPairs es) ↔ (pairKeys es).Nodup := by
  rw [DistinctTexts, textPairs, List.filterMap_map, pairKeys, ← List.filterMap_eq_map]
  rfl

theorem DistinctTexts.atMostOnce (h : DistinctTexts es) (s : String) :
    AtMostOnce es (.text s) := by
  refine (List.pairwise_filterMap.1 h).imp fun {e f} hne he => ?_
  rw [Bool.eq_false_iff, ne_eq, same_text_iff]
  exact fun hf => hne s (same_text_iff.1 he) s hf rfl

theorem valueOf?_mergeEntries (hd : DistinctTexts es) (bs : List (Data × Data)) (s : String) :
    valueOf? (mergeEntries bs es) s =
      match valueOf? es s with
      | some v => some (((valueOf? bs s).map fun b => b.merge v).getD v)
      | none => valueOf? bs s := by
  rw [← lookup_text, lookup_mergeEntries rfl (hd.atMostOnce s), lookup_text, lookup_text]
  cases valueOf? bs s <;> simp

end IdentityClaims.Data
