import IdentityClaims.Json.Writer
import IdentityClaims.Proofs.Values.Shape

/-!
# Rearranged data

A rearrangement may change the order in which maps, at any depth, list their entries, and nothing
else. Leaving data alone is one, and so is sorting all keys as the JSON writer does. What was
rearranged is the same data, can still be said in JSON, and is admitted by the same shapes.
-/

namespace IdentityClaims

def mapValues (f : Data → Data) (pairs : List TextPair) : List TextPair :=
  pairs.map fun e => (e.1, f e.2)

section MapValues

variable {f : Data → Data} {pairs : List TextPair} {k : String} {v : Data}

@[simp] theorem pairKeys_mapValues : pairKeys (mapValues f pairs) = pairKeys pairs := by
  simp [pairKeys, mapValues, Function.comp_def]

@[simp] theorem mapValues_id : mapValues id pairs = pairs := by simp [mapValues]

theorem mem_mapValues : (k, v) ∈ mapValues f pairs ↔ ∃ w, (k, w) ∈ pairs ∧ f w = v := by
  simp [mapValues]

theorem mem_mapValues_of_mem (h : (k, v) ∈ pairs) : (k, f v) ∈ mapValues f pairs :=
  mem_mapValues.2 ⟨v, h, rfl⟩

/-- Choosing pairs by their keys does not look at the values. -/
theorem filter_mapValues (p : String → Bool) :
    (mapValues f pairs).filter (fun e => p e.1) = mapValues f (pairs.filter fun e => p e.1) := by
  simp [mapValues, List.filter_map, Function.comp_def]

end MapValues

section Perm

variable {f : Data → Data} {ps qs : List TextPair}

theorem pairKeys_perm (h : ps.Perm qs) : (pairKeys ps).Perm (pairKeys qs) := h.map _

theorem nodup_of_perm_mapValues (h : ps.Perm (mapValues f qs)) (hn : (pairKeys qs).Nodup) :
    (pairKeys ps).Nodup := by
  rw [(pairKeys_perm h).nodup_iff, pairKeys_mapValues]
  exact hn

theorem forall_of_perm_mapValues {P : Data → Prop} (h : ps.Perm (mapValues f qs))
    (hP : ∀ e ∈ qs, P (f e.2)) : ∀ e ∈ ps, P e.2 := by
  intro e he
  obtain ⟨w, hw, hwe⟩ := mem_mapValues.1 (h.mem_iff.1 he)
  exact hwe ▸ hP _ hw

end Perm

namespace Data

/-- A rearrangement of data: scalars stay, lists are rearranged item by item, and a map lists its
entries, with rearranged values, in some order. -/
structure Rearranging (f : Data → Data) : Prop where
  null : f .null = .null
  bool : ∀ b, f (.bool b) = .bool b
  int : ∀ n, f (.int n) = .int n
  float : ∀ x, f (.float x) = .float x
  text : ∀ s, f (.text s) = .text s
  list : ∀ items, f (.list items) = .list (items.map f)
  map : ∀ pairs, ∃ pairs', pairs'.Perm (mapValues f pairs) ∧
    f (.map (textPairs pairs)) = .map (textPairs pairs')

theorem rearranging_id : Rearranging id where
  null := rfl
  bool _ := rfl
  int _ := rfl
  float _ := rfl
  text _ := rfl
  list items := by simp
  map pairs := ⟨pairs, by simp, rfl⟩

theorem sortedItems_eq (items : List Data) : Json.sortedItems items = items.map Json.sorted := by
  induction items with
  | nil => rfl
  | cons d items ih => rw [Json.sortedItems, ih, List.map_cons]

theorem sortedEntries_textPairs (pairs : List TextPair) :
    Json.sortedEntries (textPairs pairs) = textPairs (mapValues Json.sorted pairs) := by
  induction pairs with
  | nil => rfl
  | cons e pairs ih =>
      rw [textPairs_cons, Json.sortedEntries, ih]
      rfl

theorem rearranging_sorted : Rearranging Json.sorted where
  null := by rw [Json.sorted] <;> simp
  bool _ := by rw [Json.sorted] <;> simp
  int _ := by rw [Json.sorted] <;> simp
  float _ := by rw [Json.sorted] <;> simp
  text _ := by rw [Json.sorted] <;> simp
  list items := by rw [Json.sorted, sortedItems_eq]
  map pairs := by
    refine ⟨(mapValues Json.sorted pairs).mergeSort fun a b => a.1 ≤ b.1,
      List.mergeSort_perm _ _, ?_⟩
    have hsort := List.map_mergeSort (f := fun e : TextPair => (Data.text e.1, e.2))
      (r := fun a b => decide (a.1 ≤ b.1))
      (s := fun a b => decide (Json.keyText a.1 ≤ Json.keyText b.1))
      (l := mapValues Json.sorted pairs) fun _ _ _ _ => rfl
    rw [Json.sorted, sortedEntries_textPairs, textPairs, textPairs, hsort]

section Same

theorem sameItems_iff {xs ys : List Data} :
    sameItems xs ys = true ↔ List.Forall₂ (fun x y => x.same y = true) xs ys := by
  induction xs generalizing ys with
  | nil => cases ys <;> simp [sameItems]
  | cons x xs ih => cases ys <;> simp [sameItems, ih]

theorem sameEntries_iff {es fs : List (Data × Data)} :
    sameEntries es fs = true ↔
      ∀ e ∈ es, ∃ f ∈ fs, e.1.same f.1 = true ∧ e.2.same f.2 = true := by
  induction es with
  | nil => simp [sameEntries]
  | cons e es ih => simp [sameEntries, ih]

/-- Maps of text keys are the same when one lists the pairs of the other in some order, each with a
value that is the same. -/
theorem same_map_of_perm {f : Data → Data} {ps qs : List TextPair} (h : ps.Perm (mapValues f qs))
    (hs : ∀ e ∈ qs, (f e.2).same e.2 = true) :
    (Data.map (textPairs ps)).same (.map (textPairs qs)) = true := by
  have hlen : (textPairs ps).length = (textPairs qs).length := by
    simpa [textPairs, mapValues] using h.length_eq
  rw [same, Bool.and_eq_true, sameEntries_iff]
  refine ⟨by simpa using hlen, fun e he => ?_⟩
  obtain ⟨g, hg, rfl⟩ := List.mem_map.1 he
  obtain ⟨v, hv, hfv⟩ := mem_mapValues.1 (h.mem_iff.1 hg)
  exact ⟨(.text g.1, v), List.mem_map_of_mem hv, by simp, hfv ▸ hs _ hv⟩

end Same

namespace Rearranging

variable {f : Data → Data} {num : Binary64 → Prop} {d v : Data} {s : Shape}

theorem jsonOver (hf : Rearranging f) (h : JsonOver num d) : JsonOver num (f d) := by
  induction h with
  | null => exact hf.null.symm ▸ .null
  | bool b => exact (hf.bool b).symm ▸ .bool b
  | int n => exact (hf.int n).symm ▸ .int n
  | float hx => exact (hf.float _).symm ▸ .float hx
  | text s => exact (hf.text s).symm ▸ .text s
  | @list items _ ih =>
      rw [hf.list items]
      exact .list fun d hd => by
        obtain ⟨x, hx, rfl⟩ := List.mem_map.1 hd
        exact ih x hx
  | @map pairs hn _ ih =>
      obtain ⟨pairs', hperm, hmap⟩ := hf.map pairs
      rw [hmap]
      exact .map (nodup_of_perm_mapValues hperm hn) (forall_of_perm_mapValues hperm ih)

theorem same (hf : Rearranging f) (h : IsJson d) : (f d).same d = true := by
  induction h with
  | null => simp [hf.null, Data.same, sameScalar]
  | bool b => simp [hf.bool, Data.same, sameScalar]
  | int n => simp [hf.int, Data.same, sameScalar]
  | @float x hx =>
      cases x with
      | nan => simp [Binary64.magnitude?] at hx
      | infinite negative => simp [Binary64.magnitude?] at hx
      | finite negative m q => simp [hf.float, Data.same, sameScalar, Binary64.same]
  | text s => simp [hf.text]
  | @list items _ ih =>
      rw [hf.list, Data.same, sameItems_iff, List.forall₂_map_left_iff, List.forall₂_same]
      exact ih
  | @map pairs hn _ ih =>
      obtain ⟨pairs', hperm, hmap⟩ := hf.map pairs
      rw [hmap]
      exact same_map_of_perm hperm ih

theorem eq_null_iff (hf : Rearranging f) (h : JsonOver num d) : f d = .null ↔ d = .null := by
  cases h with
  | null => simp [hf.null]
  | bool b => simp [hf.bool]
  | int n => simp [hf.int]
  | float hx => simp [hf.float]
  | text s => simp [hf.text]
  | list _ => simp [hf.list]
  | @map pairs _ _ =>
      obtain ⟨pairs', -, hmap⟩ := hf.map pairs
      simp [hmap]

/-- A shape admits rearranged data as it admits the data. -/
theorem admits (hf : Rearranging f) (h : JsonOver num v) (ha : s.Admits v) :
    s.Admits (f v) := by
  induction s generalizing v with
  | any => rfl
  | text =>
      obtain ⟨t, -, rfl⟩ := Checked.map_eq_ok_iff.1 ha
      rwa [hf.text]
  | truth =>
      obtain ⟨b, -, rfl⟩ := Checked.map_eq_ok_iff.1 ha
      rwa [hf.bool]
  | integer =>
      obtain ⟨n, -, rfl⟩ := Checked.map_eq_ok_iff.1 ha
      rwa [hf.int]
  | literal options =>
      cases v with
      | text t => rwa [hf.text]
      | _ => simp [Shape.Admits, Shape.check, Checked.fail] at ha
  | optional s ih =>
      by_cases hv : v = .null
      · rw [hv, hf.null]
        rfl
      · rw [Shape.Admits, Shape.check_optional_of_ne_null hv] at ha
        rw [Shape.Admits, Shape.check_optional_of_ne_null fun hfv => hv ((hf.eq_null_iff h).1 hfv)]
        exact ih h ha
  | listOf s ih =>
      cases h with
      | @list items hitems =>
          rw [Shape.admits_listOf_iff] at ha
          rw [hf.list, Shape.admits_listOf_iff]
          intro d hd
          obtain ⟨x, hx, rfl⟩ := List.mem_map.1 hd
          exact ih (hitems x hx) (ha x hx)
      | _ => simp [Shape.Admits, Shape.check, Checked.fail] at ha
  | mapOf s ih =>
      cases h with
      | @map pairs hn hpairs =>
          obtain ⟨pairs', hperm, hmap⟩ := hf.map pairs
          rw [Shape.admits_mapOf_iff hn] at ha
          rw [hmap, Shape.admits_mapOf_iff (nodup_of_perm_mapValues hperm hn)]
          exact forall_of_perm_mapValues hperm fun e he => ih (hpairs e he) (ha e he)
      | _ => simp [Shape.Admits, Shape.check, Checked.fail] at ha

end Rearranging

end Data

end IdentityClaims
