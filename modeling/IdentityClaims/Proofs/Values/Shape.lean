import IdentityClaims.Proofs.Values.Json
import Mathlib.Data.List.Forall2

/-!
# Values of a shape

A shape admits a value when even a strict check leaves the value as it is. Checking gives nothing
else: what a check returns, in whichever mode, is admitted, and any further check returns it
unchanged. So a value that was checked once can be written and checked again.
-/

namespace IdentityClaims

namespace Checked

variable {α β : Type}

theorem all_map_eq_ok_iff {check : α → Checked β} {xs : List α} {ys : List β} :
    all (xs.map check) = .ok ys ↔ List.Forall₂ (fun x y => check x = .ok y) xs ys := by
  rw [all_eq_ok_iff, ← List.forall₂_eq_eq_eq, List.forall₂_map_left_iff,
    List.forall₂_map_right_iff]

end Checked

/-- In lists that are related item by item, each item on the right has one on the left. -/
theorem exists_of_forall₂ {α β : Type} {R : α → β → Prop} {xs : List α} {ys : List β}
    (h : List.Forall₂ R xs ys) : ∀ y ∈ ys, ∃ x ∈ xs, R x y := by
  induction h with
  | nil => simp
  | @cons a b xs ys hab _ ih =>
      intro y hy
      rcases List.mem_cons.1 hy with rfl | hy
      · exact ⟨a, List.mem_cons_self, hab⟩
      · obtain ⟨x, hx, hxy⟩ := ih y hy
        exact ⟨x, List.mem_cons_of_mem _ hx, hxy⟩

section Containers

variable {mode : Strictness} {check : Data → Checked Data}

@[simp] theorem checkText_text (mode : Strictness) (s : String) :
    checkText mode (.text s) = .ok s := by
  cases mode <;> rfl

@[simp] theorem checkTruth_bool (mode : Strictness) (b : Bool) :
    checkTruth mode (.bool b) = .ok b := by
  cases mode <;> rfl

@[simp] theorem checkInteger_int (mode : Strictness) (n : Int) :
    checkInteger mode (.int n) = .ok n := by
  cases mode <;> rfl

theorem checkItems_eq_ok_iff {items vs : List Data} :
    checkItems check items = .ok vs ↔ List.Forall₂ (fun d v => check d = .ok v) items vs := by
  have hitems : items = items.zipIdx.map Prod.fst := by simp
  rw [checkItems, Checked.all_map_eq_ok_iff]
  conv_rhs => rw [hitems, List.forall₂_map_left_iff]
  simp

theorem exists_raw_of_checkItems {items vs : List Data} (h : checkItems check items = .ok vs) :
    ∀ v ∈ vs, ∃ raw ∈ items, check raw = .ok v :=
  exists_of_forall₂ (checkItems_eq_ok_iff.1 h)

theorem checkKey_text (mode : Strictness) (s : String) :
    checkKey mode (.text s) = .ok (.text s) := by
  simp [checkKey, Except.map]

theorem text_of_checkKey {k k' : Data} (h : checkKey mode k = .ok k') : ∃ s, k' = .text s := by
  simp only [checkKey, Checked.within_eq_ok_iff, Checked.map_eq_ok_iff] at h
  obtain ⟨s, -, rfl⟩ := h
  exact ⟨s, rfl⟩

theorem checkEntries_eq_ok_iff {entries es : List (Data × Data)} :
    checkEntries mode check entries = .ok es ↔
      List.Forall₂ (fun e f => checkKey mode e.1 = .ok f.1 ∧ check e.2 = .ok f.2) entries es := by
  rw [checkEntries, Checked.all_map_eq_ok_iff]
  simp

theorem exists_textPairs_of_checkEntries {entries es : List (Data × Data)}
    (h : checkEntries mode check entries = .ok es) :
    ∃ pairs, es = textPairs pairs ∧ ∀ e ∈ pairs, ∃ f ∈ entries, check f.2 = .ok e.2 := by
  rw [checkEntries_eq_ok_iff] at h
  induction h with
  | nil => exact ⟨[], rfl, by simp⟩
  | @cons e f entries es hef _ ih =>
      obtain ⟨pairs, rfl, hpairs⟩ := ih
      obtain ⟨s, hs⟩ := text_of_checkKey hef.1
      refine ⟨(s, f.2) :: pairs, by simp [← hs], fun g hg => ?_⟩
      rcases List.mem_cons.1 hg with rfl | hg
      · exact ⟨e, List.mem_cons_self, hef.2⟩
      · obtain ⟨e', he', hcheck⟩ := hpairs g hg
        exact ⟨e', List.mem_cons_of_mem _ he', hcheck⟩

/-- Text keys pass a check as they are. -/
theorem checkEntries_textPairs {pairs vs : List TextPair} :
    checkEntries mode check (textPairs pairs) = .ok (textPairs vs) ↔
      List.Forall₂ (fun e v => e.1 = v.1 ∧ check e.2 = .ok v.2) pairs vs := by
  rw [checkEntries_eq_ok_iff, textPairs, textPairs, List.forall₂_map_left_iff,
    List.forall₂_map_right_iff]
  simp [checkKey_text]

theorem checkEntries_textPairs_self {pairs : List TextPair}
    (h : ∀ e ∈ pairs, check e.2 = .ok e.2) :
    checkEntries mode check (textPairs pairs) = .ok (textPairs pairs) := by
  rw [checkEntries_textPairs, List.forall₂_same]
  exact fun e he => ⟨rfl, h e he⟩

theorem pairKeys_of_checkEntries {pairs vs : List TextPair}
    (h : checkEntries mode check (textPairs pairs) = .ok (textPairs vs)) :
    pairKeys vs = pairKeys pairs := by
  rw [eq_comm, ← List.forall₂_eq_eq_eq, pairKeys, pairKeys, List.forall₂_map_left_iff,
    List.forall₂_map_right_iff]
  exact (checkEntries_textPairs.1 h).imp fun _ _ hev => hev.1

end Containers

namespace Shape

variable {s : Shape} {mode : Strictness} {raw v : Data}

/-- A shape admits a value that a strict check leaves as it is. -/
def Admits (s : Shape) (v : Data) : Prop := s.check .strict v = .ok v

theorem check_optional_of_ne_null (hv : v ≠ .null) :
    (optional s).check mode v = s.check mode v := by
  cases v <;> simp_all [check]

theorem check_idem (h : s.check mode raw = .ok v) (mode' : Strictness) :
    s.check mode' v = .ok v := by
  induction s generalizing raw v with
  | any => rfl
  | text =>
      obtain ⟨t, -, rfl⟩ := Checked.map_eq_ok_iff.1 h
      simp [check, Except.map]
  | truth =>
      obtain ⟨b, -, rfl⟩ := Checked.map_eq_ok_iff.1 h
      simp [check, Except.map]
  | integer =>
      obtain ⟨n, -, rfl⟩ := Checked.map_eq_ok_iff.1 h
      simp [check, Except.map]
  | literal options =>
      cases raw with
      | text t =>
          by_cases ht : options.contains t = true
          · simp only [check, ht, if_true, Except.ok.injEq] at h
            simp only [check, ← h, ht, if_true]
          · simp only [check, ht] at h
            exact absurd h (by simp [Checked.fail])
      | _ => simp [check, Checked.fail] at h
  | optional s ih =>
      by_cases hv : v = .null
      · rw [hv]
        rfl
      · rw [check_optional_of_ne_null hv]
        by_cases hr : raw = .null
        · rw [hr] at h
          exact absurd (Except.ok.inj h).symm hv
        · rw [check_optional_of_ne_null hr] at h
          exact ih h
  | listOf s ih =>
      cases raw with
      | list items =>
          obtain ⟨vs, hvs, rfl⟩ := Checked.map_eq_ok_iff.1 h
          refine Checked.map_eq_ok_iff.2 ⟨vs, ?_, rfl⟩
          rw [checkItems_eq_ok_iff, List.forall₂_same]
          intro w hw
          obtain ⟨d, -, hd⟩ := exists_raw_of_checkItems hvs w hw
          exact ih hd
      | _ => simp [check, Checked.fail] at h
  | mapOf s ih =>
      cases raw with
      | map entries =>
          obtain ⟨es, hes, rfl⟩ := Checked.map_eq_ok_iff.1 h
          obtain ⟨pairs, rfl, hpairs⟩ := exists_textPairs_of_checkEntries hes
          rw [ofPairs_textPairs, ofEntries_eq]
          -- repeated keys are gone, so the second check finds the entries as it leaves them
          refine Checked.map_eq_ok_iff.2 ⟨textPairs (Entries.ofPairs pairs), ?_, ?_⟩
          · refine checkEntries_textPairs_self fun e he => ?_
            obtain ⟨f, -, hd⟩ := hpairs e (Entries.mem_of_mem_ofPairs he)
            exact ih hd
          · rw [ofPairs_textPairs_of_nodup (Entries.nodup_keys_ofPairs pairs), ofEntries_eq]
      | _ => simp [check, Checked.fail] at h

theorem admits_of_check (h : s.check mode raw = .ok v) : s.Admits v := check_idem h .strict

theorem Admits.check_eq (h : s.Admits v) (mode : Strictness) : s.check mode v = .ok v :=
  check_idem h mode

/-- What a check of JSON data returns can be said in JSON, too. -/
theorem jsonOver_of_check {num : Binary64 → Prop} (h : s.check mode raw = .ok v)
    (hj : Data.JsonOver num raw) : Data.JsonOver num v := by
  induction s generalizing raw v with
  | any => exact Except.ok.inj h ▸ hj
  | text =>
      obtain ⟨t, -, rfl⟩ := Checked.map_eq_ok_iff.1 h
      exact .text t
  | truth =>
      obtain ⟨b, -, rfl⟩ := Checked.map_eq_ok_iff.1 h
      exact .bool b
  | integer =>
      obtain ⟨n, -, rfl⟩ := Checked.map_eq_ok_iff.1 h
      exact .int n
  | literal options =>
      cases raw with
      | text t =>
          by_cases ht : options.contains t = true
          · simp only [check, ht, if_true, Except.ok.injEq] at h
            exact h ▸ .text t
          · simp only [check, ht] at h
            exact absurd h (by simp [Checked.fail])
      | _ => simp [check, Checked.fail] at h
  | optional s ih =>
      by_cases hr : raw = .null
      · rw [hr] at h
        exact Except.ok.inj h ▸ .null
      · rw [check_optional_of_ne_null hr] at h
        exact ih h hj
  | listOf s ih =>
      cases hj with
      | @list items hitems =>
          obtain ⟨vs, hvs, rfl⟩ := Checked.map_eq_ok_iff.1 h
          refine .list fun w hw => ?_
          obtain ⟨d, hd, hcheck⟩ := exists_raw_of_checkItems hvs w hw
          exact ih hcheck (hitems d hd)
      | _ => simp [check, Checked.fail] at h
  | mapOf s ih =>
      cases hj with
      | @map raws hn hraws =>
          obtain ⟨es, hes, rfl⟩ := Checked.map_eq_ok_iff.1 h
          obtain ⟨pairs, rfl, hpairs⟩ := exists_textPairs_of_checkEntries hes
          rw [ofPairs_textPairs, ofEntries_eq]
          refine .map (Entries.nodup_keys_ofPairs pairs) fun e he => ?_
          obtain ⟨f, hf, hcheck⟩ := hpairs e (Entries.mem_of_mem_ofPairs he)
          obtain ⟨g, hg, rfl⟩ := List.mem_map.1 hf
          exact ih hcheck (hraws g hg)
      | _ => simp [check, Checked.fail] at h

theorem admits_listOf_iff {items : List Data} :
    (listOf s).Admits (.list items) ↔ ∀ d ∈ items, s.Admits d := by
  rw [Admits, check, Checked.map_eq_ok_iff]
  simp only [checkItems_eq_ok_iff, Data.list.injEq, exists_eq_right, List.forall₂_same]
  rfl

theorem admits_mapOf_iff {pairs : List TextPair} (hn : (pairKeys pairs).Nodup) :
    (mapOf s).Admits (.map (textPairs pairs)) ↔ ∀ e ∈ pairs, s.Admits e.2 := by
  rw [Admits, check, Checked.map_eq_ok_iff]
  constructor
  · rintro ⟨es, hes, hmap⟩
    obtain ⟨vs, rfl, -⟩ := exists_textPairs_of_checkEntries hes
    have hvs : (pairKeys vs).Nodup := pairKeys_of_checkEntries hes ▸ hn
    rw [ofPairs_textPairs_of_nodup hvs, ofEntries_eq, Data.map.injEq] at hmap
    rw [textPairs_injective hmap, checkEntries_textPairs, List.forall₂_same] at hes
    exact fun e he => (hes e he).2
  · intro h
    exact ⟨_, checkEntries_textPairs_self h, ofPairs_textPairs_of_nodup hn⟩

/-! ## Values without parts -/

def isScalar : Shape → Bool
  | .text | .truth | .integer | .literal _ => true
  | .optional s => s.isScalar
  | .any | .listOf _ | .mapOf _ => false

/-- What is checked to be a value without parts is the same as itself. -/
theorem same_of_check (hs : s.isScalar = true) (h : s.check mode raw = .ok v) :
    v.same v = true := by
  induction s with
  | text =>
      obtain ⟨t, -, rfl⟩ := Checked.map_eq_ok_iff.1 h
      simp
  | truth =>
      obtain ⟨b, -, rfl⟩ := Checked.map_eq_ok_iff.1 h
      simp [Data.same, Data.sameScalar]
  | integer =>
      obtain ⟨k, -, rfl⟩ := Checked.map_eq_ok_iff.1 h
      simp [Data.same, Data.sameScalar]
  | literal options =>
      cases raw with
      | text t =>
          simp only [check] at h
          split at h
          · simp [← Except.ok.inj h]
          · cases h
      | _ => cases h
  | optional s ih =>
      cases raw with
      | null =>
          obtain rfl := Except.ok.inj h
          rfl
      | _ => exact ih hs h
  | any => cases hs
  | listOf => cases hs
  | mapOf => cases hs

/-- No map is checked to be a value without parts. -/
theorem check_map_ne_ok {es : List (Data × Data)} (hs : s.isScalar = true) : s.check mode (.map es) ≠ .ok v := by
  induction s with
  | optional s ih => exact ih hs
  | any => cases hs
  | listOf => cases hs
  | mapOf => cases hs
  | text => cases mode <;> simp [check, checkText, Checked.fail, Except.map]
  | truth => cases mode <;> simp [check, checkTruth, Checked.fail, Except.map]
  | integer => cases mode <;> simp [check, checkInteger, Checked.fail, Except.map]
  | literal options => simp [check, Checked.fail]

end Shape

end IdentityClaims
