import IdentityClaims.ClaimSet.Encode
import Mathlib.Data.List.Nodup

/-!
# Pairs with text keys

A flat map and a map of text keys are both lists of pairs whose keys are text. The lemmas here say
what the operations on maps do with such pairs when no key is repeated: nothing is dropped and
nothing moves.
-/

namespace IdentityClaims

abbrev TextPair := String × Data

/-- Pairs with text keys as pairs of data. -/
def textPairs (pairs : List TextPair) : List (Data × Data) :=
  pairs.map fun e => (.text e.1, e.2)

def pairKeys (pairs : List TextPair) : List String := pairs.map Prod.fst

section Keys

variable {pairs pre : List TextPair} {key k : String} {raw r : Data}

theorem mem_pairKeys_append :
    k ∈ pairKeys (pre ++ [(key, raw)]) ↔ k ∈ pairKeys pre ∨ k = key := by
  simp [pairKeys]

theorem mem_pairKeys_append_of_ne (hne : k ≠ key) :
    k ∈ pairKeys (pre ++ [(key, raw)]) ↔ k ∈ pairKeys pre := by
  simp [mem_pairKeys_append, hne]

theorem nodup_pairKeys_append :
    (pairKeys (pre ++ [(key, raw)])).Nodup ↔ key ∉ pairKeys pre ∧ (pairKeys pre).Nodup := by
  rw [pairKeys, List.map_append, List.map_singleton, ← List.concat_eq_append]
  exact List.nodup_concat _ _

theorem mem_pairKeys_of_mem {e : TextPair} (h : e ∈ pairs) : e.1 ∈ pairKeys pairs :=
  List.mem_map_of_mem h

/-- Of pairs with distinct keys, those that are chosen have distinct keys. -/
theorem nodup_pairKeys_filter {p : TextPair → Bool} (h : (pairKeys pairs).Nodup) :
    (pairKeys (pairs.filter p)).Nodup :=
  h.sublist (List.Sublist.map _ List.filter_sublist)

theorem value_unique (h : (pairKeys pairs).Nodup) (hk : (key, raw) ∈ pairs)
    (hr : (key, r) ∈ pairs) : raw = r :=
  congrArg Prod.snd (List.inj_on_of_nodup_map h hk hr rfl)

theorem mem_append_of_ne (hne : k ≠ key) : (k, r) ∈ pre ++ [(key, raw)] ↔ (k, r) ∈ pre := by
  simp [hne]

theorem mem_append_self (hk : key ∉ pairKeys pre) :
    (key, r) ∈ pre ++ [(key, raw)] ↔ r = raw := by
  have hpre : (key, r) ∉ pre := fun hm => hk (mem_pairKeys_of_mem hm)
  simp [hpre]

end Keys

section Maps

variable {pairs : List TextPair} {key : String} {v : Data}

@[simp] theorem textPairs_nil : textPairs [] = [] := rfl

@[simp] theorem textPairs_cons (e : TextPair) (pairs : List TextPair) :
    textPairs (e :: pairs) = (.text e.1, e.2) :: textPairs pairs := rfl

theorem ofEntries_eq (pairs : List TextPair) : Data.ofEntries pairs = .map (textPairs pairs) := rfl

theorem textEntries_textPairs (pairs : List TextPair) :
    ClaimSet.textEntries (textPairs pairs) = pairs := by
  induction pairs with
  | nil => rfl
  | cons e pairs ih =>
      rw [ClaimSet.textEntries] at ih
      simp [ClaimSet.textEntries, ih]

theorem putEntry_textPairs (es : List TextPair) (key : String) (v : Data) :
    Data.putEntry (textPairs es) (.text key) v = textPairs (Entries.put es key v) := by
  induction es with
  | nil => rfl
  | cons e es ih =>
      by_cases he : e.1 = key
      · simp [Data.putEntry, Entries.put, he]
      · simp [Data.putEntry, Entries.put, he, ih]

/-- Putting text keys into a map of text keys is putting them into entries. -/
theorem foldl_putEntry (es pairs : List TextPair) :
    (textPairs pairs).foldl (fun es e => Data.putEntry es e.1 e.2) (textPairs es) =
      textPairs (Entries.putAll es pairs) := by
  induction pairs generalizing es with
  | nil => rfl
  | cons e pairs ih =>
      rw [textPairs_cons, List.foldl_cons, putEntry_textPairs, ih]
      rfl

theorem ofPairs_textPairs (pairs : List TextPair) :
    Data.ofPairs (textPairs pairs) = .ofEntries (Entries.ofPairs pairs) := by
  have hfold := foldl_putEntry [] pairs
  rw [textPairs_nil] at hfold
  rw [Data.ofPairs, hfold, ofEntries_eq, Entries.ofPairs]

/-- Distinct text keys make a map as they are. -/
theorem ofPairs_textPairs_of_nodup (h : (pairKeys pairs).Nodup) :
    Data.ofPairs (textPairs pairs) = .ofEntries pairs := by
  rw [ofPairs_textPairs, Entries.ofPairs_of_nodup h]

theorem textPairs_injective {ps qs : List TextPair} (h : textPairs ps = textPairs qs) :
    ps = qs := by
  rw [← textEntries_textPairs ps, h, textEntries_textPairs]

/-- The first value of a key is the same among entries and in their map. -/
theorem valueOf?_textPairs (es : List TextPair) (key : String) :
    Data.valueOf? (textPairs es) key = Entries.get? es key := by
  induction es with
  | nil => rfl
  | cons e es ih => simp [Data.valueOf?, Entries.get?_cons, ih]

theorem valueOf?_eq_none_iff : Data.valueOf? (textPairs pairs) key = none ↔ key ∉ pairKeys pairs := by
  induction pairs with
  | nil => simp [Data.valueOf?, pairKeys]
  | cons e pairs ih =>
      rw [pairKeys] at ih
      by_cases he : e.1 = key
      · simp [Data.valueOf?, pairKeys, he]
      · simp [Data.valueOf?, pairKeys, he, ih, Ne.symm he]

theorem mem_of_valueOf? (h : Data.valueOf? (textPairs pairs) key = some v) : (key, v) ∈ pairs := by
  induction pairs with
  | nil => simp [Data.valueOf?] at h
  | cons e pairs ih =>
      by_cases he : e.1 = key
      · simp only [textPairs_cons, Data.valueOf?, Data.text?_text, he, if_true, Option.some.injEq] at h
        rw [← he, ← h]
        exact List.mem_cons_self
      · simp only [textPairs_cons, Data.valueOf?, Data.text?_text, Option.some.injEq, he, if_false] at h
        exact List.mem_cons_of_mem _ (ih h)

theorem valueOf?_eq_some_iff (h : (pairKeys pairs).Nodup) :
    Data.valueOf? (textPairs pairs) key = some v ↔ (key, v) ∈ pairs := by
  refine ⟨mem_of_valueOf?, fun hm => ?_⟩
  cases hv : Data.valueOf? (textPairs pairs) key with
  | none => exact absurd (mem_pairKeys_of_mem hm) (valueOf?_eq_none_iff.1 hv)
  | some w => rw [value_unique h (mem_of_valueOf? hv) hm]

end Maps

end IdentityClaims
