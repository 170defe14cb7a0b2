import IdentityClaims.Entries
import IdentityClaims.Localized
import IdentityClaims.Proofs.Values.Shape
import Mathlib.Data.List.Forall2
import Mathlib.Data.List.Induction
import Mathlib.Data.List.Nodup
import Mathlib.Data.List.Perm.Subperm

/-!
# The first value of a tag stays

Values are inserted under tags, one after the other. An insertion under a tag that has a value is
refused and changes nothing, so what is held are the first pairs of the tags in the order of their
insertion. `Localized.Holds` says which pairs are held, and everything that can be observed is read
off them. Main statement: `Localized.inserted_first_wins`.
-/

namespace IdentityClaims

namespace Entries

variable {κ ν : Type} [DecidableEq κ]

def firsts : Entries κ ν → Entries κ ν
  | [] => []
  | e :: es => e :: (firsts es).filter fun f => f.1 ≠ e.1

theorem get?_firsts (es : Entries κ ν) (k : κ) : get? (firsts es) k = get? es k := by
  induction es with
  | nil => rfl
  | cons e es ih =>
    rw [firsts, get?_cons, get?_cons, get?_filter_key _ fun k' => decide (k' ≠ e.1), ih]
    by_cases hk : e.1 = k
    · simp [hk]
    · simp [hk, Ne.symm hk]

theorem mem_keys_firsts (es : Entries κ ν) (k : κ) : k ∈ keys (firsts es) ↔ k ∈ keys es := by
  rw [← not_iff_not, ← get?_eq_none_iff, ← get?_eq_none_iff, get?_firsts]

theorem firsts_concat (es : Entries κ ν) (e : κ × ν) :
    firsts (es ++ [e]) = if e.1 ∈ keys es then firsts es else firsts es ++ [e] := by
  induction es with
  | nil => rfl
  | cons f es ih =>
    rw [List.cons_append, firsts, firsts, ih]
    by_cases hf : e.1 = f.1
    · have hkeys : e.1 ∈ keys (f :: es) := hf ▸ List.mem_cons_self
      rw [if_pos hkeys]
      split <;> simp [hf]
    · have hkeys : e.1 ∈ keys (f :: es) ↔ e.1 ∈ keys es := by simp [keys, hf]
      simp only [hkeys]
      split <;> simp [hf]

end Entries

namespace Localized

variable {α : Type}

def tagged (v : Tag × α) : Label × α := (.tag v.1, v.2)

theorem tagged_injective : Function.Injective (tagged : Tag × α → Label × α) := by
  rintro ⟨t, x⟩ ⟨u, y⟩ h
  simpa [tagged] using h

def Holds (l : Localized α) (ws : Entries Tag α) : Prop := l.variants = ws.map tagged

/-! ## What is observed of the pairs that are held -/

namespace Holds

variable {l m : Localized α} {vs ws : Entries Tag α}

theorem labels_eq (h : l.Holds ws) : l.labels = (Entries.keys ws).map .tag := by
  rw [labels, h, Entries.keys, List.map_map, List.map_map]
  rfl

theorem size_eq (h : l.Holds ws) : l.size = ws.length := by
  rw [size, h, List.length_map]

theorem has_iff (h : l.Holds ws) (t : Tag) : l.has (.tag t) = true ↔ t ∈ Entries.keys ws := by
  rw [has, h]
  simp [tagged, Entries.keys]

theorem get?_eq (h : l.Holds ws) (t : Tag) : l.get? (.tag t) = Entries.get? ws t := by
  have hfind : ((fun v => v.1.same (.tag t)) ∘ tagged : Tag × α → Bool) =
      fun e => decide (e.1 = t) := funext fun v => beq_eq_decide v.1 t
  rw [get?, h, Entries.get?, List.find?_map, Option.map_map, hfind]
  rfl

theorem nodup (h : l.Holds ws) : (Entries.keys ws).Nodup := by
  have hdistinct := l.distinct
  rw [h, List.pairwise_map] at hdistinct
  refine List.pairwise_map.2 (hdistinct.imp fun {v w} hne heq => ?_)
  simp [tagged, heq] at hne

theorem insert_of_mem (h : l.Holds ws) {t : Tag} (ht : t ∈ Entries.keys ws) (x : α) :
    l.insert (.tag t) x = .error ⟨.tag t⟩ := insert_of_has ((h.has_iff t).2 ht) x

theorem insert_of_not_mem (h : l.Holds ws) {t : Tag} (ht : t ∉ Entries.keys ws) (x : α) :
    ∃ m, l.insert (.tag t) x = .ok m ∧ m.Holds (ws ++ [(t, x)]) := by
  have hnew : l.has (.tag t) = false := Bool.eq_false_iff.2 fun hhas => ht ((h.has_iff t).1 hhas)
  obtain ⟨m, hm, hvariants⟩ := insert_of_has_eq_false hnew x
  refine ⟨m, hm, ?_⟩
  rw [Holds, hvariants, h, List.map_append]
  rfl

end Holds

/-! ## When two are the same -/

/-- The same tags with values that count as equal. -/
def Alike (eq : α → α → Bool) (v w : Tag × α) : Prop := v.1 = w.1 ∧ eq v.2 w.2 = true

namespace Holds

variable {l m : Localized α} {vs ws : Entries Tag α}

theorem same_iff_forall (hl : l.Holds vs) (hm : m.Holds ws) (eq : α → α → Bool) :
    l.same eq m = true ↔
      vs.length = ws.length ∧ ∀ v ∈ vs, ∃ w ∈ ws, Alike eq v w := by
  rw [same, Bool.and_eq_true, beq_iff_eq, hl.size_eq, hm.size_eq, List.all_eq_true, hl,
    List.forall_mem_map]
  refine and_congr_right fun _ => forall₂_congr fun v _ => ?_
  simp only [tagged, hm.get?_eq]
  constructor
  · intro h
    cases hget : Entries.get? ws v.1 with
    | none => simp [hget] at h
    | some w => exact ⟨(v.1, w), Entries.mem_of_get? hget, rfl, by simpa [hget] using h⟩
  · rintro ⟨w, hw, htag, hvalue⟩
    rw [htag, Entries.get?_of_mem hm.nodup hw]
    exact hvalue

/-- Localized values are the same when the pairs of one, up to equal values, are those of the other
in some order. -/
theorem same_iff (hl : l.Holds vs) (hm : m.Holds ws) (eq : α → α → Bool) :
    l.same eq m = true ↔ ∃ us : Entries Tag α, us.Perm ws ∧ List.Forall₂ (Alike eq) vs us := by
  rw [hl.same_iff_forall hm]
  constructor
  · rintro ⟨hlength, hlike⟩
    let us := vs.map fun v => (v.1, (Entries.get? ws v.1).getD v.2)
    have hfound : ∀ v ∈ vs, (v.1, (Entries.get? ws v.1).getD v.2) ∈ ws ∧
        Alike eq v (v.1, (Entries.get? ws v.1).getD v.2) := by
      intro v hv
      obtain ⟨⟨t, x⟩, hw, rfl, hvalue⟩ := hlike v hv
      rw [Entries.get?_of_mem hm.nodup hw]
      exact ⟨hw, rfl, hvalue⟩
    refine ⟨us, ?_, ?_⟩
    · -- as many pairs of the other, under different tags, are all of its pairs
      have hkeys : us.map Prod.fst = Entries.keys vs := List.map_map
      have hnodup : us.Nodup := List.Nodup.of_map Prod.fst (hkeys ▸ hl.nodup)
      have hsub : us ⊆ ws := List.forall_mem_map.2 fun v hv => (hfound v hv).1
      have hlengths : us.length = ws.length := List.length_map _ |>.trans hlength
      exact (List.subperm_of_subset hnodup hsub).perm_of_length_le (Nat.le_of_eq hlengths.symm)
    · rw [List.forall₂_map_right_iff, List.forall₂_same]
      exact fun v hv => (hfound v hv).2
  · rintro ⟨us, hperm, hlike⟩
    refine ⟨hlike.length_eq.trans hperm.length_eq, fun v hv => ?_⟩
    obtain ⟨w, hw, halike⟩ := exists_of_forall₂ hlike.flip v hv
    exact ⟨w, hperm.mem_iff.1 hw, halike⟩

/-- With an equality of values that decides it, the pairs themselves are the same in some order. -/
theorem same_iff_perm (hl : l.Holds vs) (hm : m.Holds ws) {eq : α → α → Bool}
    (heq : ∀ x y, eq x y = true ↔ x = y) : l.same eq m = true ↔ vs.Perm ws := by
  have halike : Alike eq = Eq := by
    ext v w
    rw [Alike, heq, Prod.ext_iff]
  rw [hl.same_iff hm, halike, List.forall₂_eq_eq_eq]
  simp

end Holds

/-! ## Runs of insertions -/

def offer (l : Localized α) (v : Tag × α) : Localized α :=
  match l.insert (.tag v.1) v.2 with
  | .ok m => m
  | .error _ => l

/-- What is there after a run of insertions that starts with nothing. -/
def inserted (vs : List (Tag × α)) : Localized α := vs.foldl offer empty

theorem inserted_concat (vs : List (Tag × α)) (v : Tag × α) :
    inserted (vs ++ [v]) = (inserted vs).offer v := List.foldl_concat ..

/-- One insertion: the pair is held afterwards unless its tag has a value already. -/
theorem Holds.offer {l : Localized α} {vs : Entries Tag α} (h : l.Holds (Entries.firsts vs))
    (v : Tag × α) : (l.offer v).Holds (Entries.firsts (vs ++ [v])) := by
  rw [Entries.firsts_concat]
  by_cases hv : v.1 ∈ Entries.keys vs
  · have hheld := h.insert_of_mem ((Entries.mem_keys_firsts vs v.1).2 hv) v.2
    simpa [Localized.offer, hheld, hv] using h
  · have hnew : v.1 ∉ Entries.keys (Entries.firsts vs) :=
      fun hmem => hv ((Entries.mem_keys_firsts vs v.1).1 hmem)
    obtain ⟨m, hm, hholds⟩ := h.insert_of_not_mem hnew v.2
    simpa [Localized.offer, hm, hv] using hholds

theorem holds_inserted (vs : List (Tag × α)) : (inserted vs).Holds (Entries.firsts vs) := by
  induction vs using List.reverseRecOn with
  | nil => rfl
  | append_singleton vs v ih =>
    rw [inserted_concat]
    exact ih.offer v

/-- One of the insertions has put a value under the tag. -/
def Took (vs : List (Tag × α)) (t : Tag) : Prop :=
  ∃ before x after l, vs = before ++ (t, x) :: after ∧
    (inserted before).insert (.tag t) x = .ok l

theorem insert_inserted (vs : List (Tag × α)) (t : Tag) (x : α) :
    (inserted vs).insert (.tag t) x =
      if t ∈ Entries.keys vs then .error ⟨.tag t⟩ else .ok (inserted (vs ++ [(t, x)])) := by
  have hholds := holds_inserted vs
  have hkeys := Entries.mem_keys_firsts vs t
  by_cases ht : t ∈ Entries.keys vs
  · rw [if_pos ht]
    exact hholds.insert_of_mem (hkeys.2 ht) x
  · obtain ⟨l, hl, -⟩ := hholds.insert_of_not_mem (fun hmem => ht (hkeys.1 hmem)) x
    rw [if_neg ht, hl, inserted_concat, offer, hl]

theorem took_iff (vs : List (Tag × α)) (t : Tag) : Took vs t ↔ t ∈ Entries.keys vs := by
  constructor
  · rintro ⟨before, x, after, l, rfl, -⟩
    simp [Entries.keys]
  · intro ht
    obtain ⟨before, after, hvs, hnew⟩ := List.eq_append_cons_of_mem ht
    obtain ⟨vs₁, vs₂, rfl, rfl, hrest⟩ := List.map_eq_append_iff.1 hvs
    obtain ⟨v, vs₃, rfl, rfl, rfl⟩ := List.map_eq_cons_iff.1 hrest
    exact ⟨vs₁, v.2, vs₃, _, rfl, (insert_inserted vs₁ v.1 v.2).trans (if_neg hnew)⟩

/-! ## Construction from pairs -/

def asData (vs : List (Tag × α)) : List (Data × α) := vs.map fun v => (v.1.data, v.2)

theorem read_data (t : Tag) : Label.read t.data = .ok (.tag t) := by cases t <;> rfl

theorem insertPairs_asData_cons (vs rest : List (Tag × α)) (v : Tag × α) :
    (inserted vs).insertPairs (asData (v :: rest)) =
      if v.1 ∈ Entries.keys vs then .error (.duplicate ⟨.tag v.1⟩)
      else (inserted (vs ++ [v])).insertPairs (asData rest) := by
  rw [asData, List.map_cons, insertPairs, insertData, read_data]
  dsimp only
  rw [insert_inserted]
  by_cases hv : v.1 ∈ Entries.keys vs
  · rw [if_pos hv, if_pos hv]
    rfl
  · rw [if_neg hv, if_neg hv]
    rfl

/-- Pairs with different tags, none of which has a value, are all inserted. -/
theorem insertPairs_of_nodup (vs ws : List (Tag × α)) (h : (Entries.keys (vs ++ ws)).Nodup)
    (rest : List (Tag × α)) :
    (inserted vs).insertPairs (asData (ws ++ rest)) =
      (inserted (vs ++ ws)).insertPairs (asData rest) := by
  induction ws generalizing vs with
  | nil => rw [List.append_nil, List.nil_append]
  | cons w ws ih =>
    have hnew : w.1 ∉ Entries.keys vs := by
      intro hmem
      rw [Entries.keys, List.map_append, List.map_cons] at h
      exact (List.nodup_append.1 h).2.2 w.1 hmem w.1 List.mem_cons_self rfl
    have hcons : vs ++ w :: ws = vs ++ [w] ++ ws := by simp
    rw [hcons] at h ⊢
    rw [← ih (vs ++ [w]) h, List.cons_append, insertPairs_asData_cons, if_neg hnew]

theorem exists_first_repetition {vs : List (Tag × α)} (h : ¬ (Entries.keys vs).Nodup) :
    ∃ ws v rest, vs = ws ++ v :: rest ∧ (Entries.keys ws).Nodup ∧ v.1 ∈ Entries.keys ws := by
  induction vs using List.reverseRecOn with
  | nil => exact absurd .nil h
  | append_singleton vs v ih =>
    by_cases hvs : (Entries.keys vs).Nodup
    · refine ⟨vs, v, [], rfl, hvs, ?_⟩
      by_contra hv
      refine h ?_
      rw [Entries.keys, List.map_append]
      exact List.Nodup.append hvs (List.nodup_singleton _) (List.disjoint_singleton.2 hv)
    · obtain ⟨ws, w, rest, rfl, hws, hw⟩ := ih hvs
      exact ⟨ws, w, rest ++ [v], by simp, hws, hw⟩

theorem ofPairs_of_nodup {vs : List (Tag × α)} (h : (Entries.keys vs).Nodup) :
    ofPairs (asData vs) = .ok (inserted vs) := by
  have hrun := insertPairs_of_nodup [] vs h []
  rwa [List.append_nil] at hrun

theorem ofPairs_of_repetition {ws : List (Tag × α)} {v : Tag × α}
    (hws : (Entries.keys ws).Nodup) (hv : v.1 ∈ Entries.keys ws) (rest : List (Tag × α)) :
    ofPairs (asData (ws ++ v :: rest)) = .error (.duplicate ⟨.tag v.1⟩) := by
  have hrun := insertPairs_of_nodup [] ws hws (v :: rest)
  rw [List.nil_append, insertPairs_asData_cons, if_pos hv] at hrun
  exact hrun

/-! ## The main statement -/

/-- Localized values are a map in order of insertion in which the first value of a tag stays.
After any insertions, an insertion is refused exactly if one of them has put a value under its tag,
and then leaves everything as it is. The variants are the first pairs of the tags in their order,
and a look-up, the question whether there is a value, and the size agree with them. No tag and the
empty tag are told apart. Two are the same exactly if the pairs of one are those of the other in
some order, and pairs make localized values exactly if their tags are different, which are those
that their insertions make. -/
theorem inserted_first_wins (vs : List (Tag × α)) :
    (∀ t x, (Took vs t → (inserted vs).insert (.tag t) x = .error ⟨.tag t⟩ ∧
          inserted (vs ++ [(t, x)]) = inserted vs) ∧
        (¬ Took vs t → (inserted vs).insert (.tag t) x = .ok (inserted (vs ++ [(t, x)])))) ∧
      (inserted vs).variants = (Entries.firsts vs).map tagged ∧
      (inserted vs).labels = (Entries.keys (Entries.firsts vs)).map .tag ∧
      (∀ t, (inserted vs).get? (.tag t) = Entries.get? vs t) ∧
      (∀ t, (inserted vs).has (.tag t) = true ↔ t ∈ Entries.keys (Entries.firsts vs)) ∧
      (inserted vs).size = (Entries.firsts vs).length ∧
      (∀ x, (Took (vs ++ [(none, x)]) (some "") ↔ Took vs (some "")) ∧
        (Took (vs ++ [(some "", x)]) none ↔ Took vs none)) ∧
      (∀ ws eq, (inserted vs).same eq (inserted ws) = true ↔
        ∃ us, List.Perm us (Entries.firsts ws) ∧
          List.Forall₂ (Alike eq) (Entries.firsts vs) us) ∧
      (∀ ws eq, (∀ x y, eq x y = true ↔ x = y) →
        ((inserted vs).same eq (inserted ws) = true ↔
          (inserted vs).variants.Perm (inserted ws).variants)) ∧
      ((Entries.keys vs).Nodup → ofPairs (asData vs) = .ok (inserted vs)) ∧
      (¬ (Entries.keys vs).Nodup → ∃ ws v rest, vs = ws ++ v :: rest ∧ (Entries.keys ws).Nodup ∧
        v.1 ∈ Entries.keys ws ∧ ofPairs (asData vs) = .error (.duplicate ⟨.tag v.1⟩)) := by
  have hholds := holds_inserted vs
  refine ⟨fun t x => ⟨fun ht => ?_, fun ht => ?_⟩, hholds, hholds.labels_eq, fun t => ?_,
    hholds.has_iff, hholds.size_eq, fun x => ?_,
    fun ws eq => hholds.same_iff (holds_inserted ws) eq, fun ws eq heq => ?_, ofPairs_of_nodup,
    fun hvs => ?_⟩
  · have hkeys := (took_iff vs t).1 ht
    have hrefused := insert_inserted vs t x
    rw [if_pos hkeys] at hrefused
    refine ⟨hrefused, ?_⟩
    rw [inserted_concat, offer, hrefused]
  · rw [insert_inserted, if_neg fun hkeys => ht ((took_iff vs t).2 hkeys)]
  · rw [hholds.get?_eq, Entries.get?_firsts]
  · simp [took_iff, Entries.keys]
  · rw [hholds.same_iff_perm (holds_inserted ws) heq, hholds, holds_inserted ws,
      List.map_perm_map_iff tagged_injective]
  · obtain ⟨ws, v, rest, rfl, hws, hv⟩ := exists_first_repetition hvs
    exact ⟨ws, v, rest, rfl, hws, hv, ofPairs_of_repetition hws hv rest⟩

end Localized

end IdentityClaims
