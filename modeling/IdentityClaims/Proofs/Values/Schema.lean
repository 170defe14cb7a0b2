import IdentityClaims.ClaimSet.Encode
import IdentityClaims.Proofs.Values.Record

/-!
# Values of a schema

`Schema.Instance` says which values belong to a schema. Two things are asked of the schemas of a
claim set so that its values come back from a flat map: the schema of a single claim has to restore
the null members that are left out, and the schema of the additional claims has to be one of maps.
Then what a value travels as, rearranged in any way, is checked to be the value again.
-/

namespace IdentityClaims

/-- The values of a schema, made of data that JSON can say. Nothing is known of the values of a
type of the caller's own. -/
inductive Schema.Instance (num : Binary64 → Prop) : Schema → Held → Prop
  | shape {s : Shape} {d : Data} (ha : s.Admits d) (hj : Data.JsonOver num d) :
      Instance num (.shape s) (.data d)
  | wrapped (name text : String) : Instance num (.wrapped name) (.wrapped name text)
  | chosen {name : String} {options : List String} {option : String} (h : option ∈ options) :
      Instance num (.choice name options) (.chosen name option)
  | record {t : RecordType} {r : Record} (h : t.Holds num r) : Instance num (.record t) (.record r)

/-- Schemas whose values do not need their null members to be written. -/
inductive Schema.RestoresNull : Schema → Prop
  | shape {s : Shape} (h : ¬ s.Admits .null) : RestoresNull (.shape s)
  | wrapped (name : String) : RestoresNull (.wrapped name)
  | choice (name : String) (options : List String) : RestoresNull (.choice name options)
  | record {t : RecordType} (hw : t.WellFormed) (h : t.RestoresNull) : RestoresNull (.record t)

inductive Schema.IsMapping : Schema → Prop
  | record {t : RecordType} (hw : t.WellFormed) : IsMapping (.record t)
  | mapOf (s : Shape) : IsMapping (.shape (.mapOf s))

inductive Schema.IsSound (num : Binary64 → Prop) : Schema → Prop
  | shape (s : Shape) : IsSound num (.shape s)
  | wrapped (name : String) : IsSound num (.wrapped name)
  | choice (name : String) (options : List String) : IsSound num (.choice name options)
  | record {t : RecordType} (hw : t.WellFormed) (hd : t.AdmitsDefaults num) :
      IsSound num (.record t)

namespace Held

def carried : Held → Data
  | .data d => d
  | .variants _ => .null
  | .wrapped _ s => .text s
  | .chosen _ s => .text s
  | .record r => .ofEntries (r.carried false)

def entries : Held → List TextPair
  | .data (.map entries) => ClaimSet.textEntries entries
  | .record r => r.carried true
  | _ => []

def mapData (f : Data → Data) : Held → Held
  | .data d => .data (f d)
  | .record r => .record { r with values := mapValues f r.values }
  | h => h

/-- Additional claims with their data changed and their entries, or their extra keys, in the order
of the pairs that they are read from. -/
def refill (f : Data → Data) (pairs : List TextPair) : Held → Held
  | .data _ => .data (.ofEntries pairs)
  | .record r => .record
    { type := r.type
      values := mapValues f r.values
      extras := pairs.filter fun e => e.1 ∉ r.type.memberKeys }
  | h => h

@[simp] theorem mapData_id (h : Held) : h.mapData id = h := by
  cases h <;> simp [mapData]

end Held

namespace Schema

variable {num : Binary64 → Prop} {S : Schema} {v : Held} {f : Data → Data}

theorem IsSound.instance_of_check (hS : S.IsSound num) {mode : Strictness} {raw : Data}
    (hj : Data.JsonOver num raw) (h : S.check mode raw = .ok v) : S.Instance num v := by
  cases hS with
  | shape s =>
      obtain ⟨d, hd, rfl⟩ := Checked.map_eq_ok_iff.1 h
      exact .shape (Shape.admits_of_check hd) (Shape.jsonOver_of_check hd hj)
  | wrapped name =>
      obtain ⟨t, -, rfl⟩ := Checked.map_eq_ok_iff.1 h
      exact .wrapped name t
  | choice name options =>
      obtain ⟨o, ho, rfl⟩ := Checked.map_eq_ok_iff.1 h
      refine .chosen ?_
      cases mode with
      | strict => simp [checkChoice, Checked.fail] at ho
      | lenient =>
          cases ht : checkText .lenient raw with
          | error ps => simp [checkChoice, ht, Checked.fail] at ho
          | ok t =>
              by_cases hm : t ∈ options
              · simp only [checkChoice, ht, List.contains_eq_mem, hm, decide_true, if_true,
                  Except.ok.injEq] at ho
                exact ho ▸ hm
              · simp [checkChoice, ht, hm, Checked.fail] at ho
  | @record t hw hd =>
      obtain ⟨r, hr, rfl⟩ := Checked.map_eq_ok_iff.1 h
      cases hj with
      | map hn hpairs => exact .record (RecordType.holds_of_check hw hd hn hpairs hr)
      | _ => simp [RecordType.check, Checked.fail] at hr

theorem Instance.jsonOver_carried (h : S.Instance num v) (hS : S.RestoresNull) :
    Data.JsonOver num v.carried := by
  cases h with
  | shape ha hj => exact hj
  | wrapped name text => exact .text text
  | chosen h => exact .text _
  | record h =>
      cases hS with
      | record hw hr => exact .map (h.nodup_carried hw false) fun e he => h.jsonOver_carried hw he

theorem Instance.portable_eq (h : S.Instance num v) (hS : S.RestoresNull)
    (hnum : ∀ x, num x → x.magnitude?.isSome = true) : v.portable false = .ok v.carried := by
  cases h with
  | @shape s d ha hj =>
      have hport : d.portable = .ok d := Data.IsJson.portable_eq (hj.imp hnum)
      cases d <;> first | rfl | exact hport
  | wrapped name text => rfl
  | chosen h => rfl
  | record h =>
      cases hS with
      | record hw hr => exact h.portable_eq hw hnum false

/-- A value of a type is written as it travels, whatever it is taken for. -/
theorem Instance.inferred_eq (h : S.Instance num v) (hS : S.RestoresNull)
    (hnum : ∀ x, num x → x.magnitude?.isSome = true) : v.inferred = .ok v.carried := by
  cases h with
  | shape ha hj => exact Data.IsJson.portable_eq (hj.imp hnum)
  | wrapped name text => rfl
  | chosen h => rfl
  | record h =>
      cases hS with
      | record hw hr => exact h.portable_eq hw hnum false

/-- What a value travels as, rearranged, is checked to be the rearranged value. Only the options of
a choice depend on how closely it is checked. -/
theorem Instance.check_carried (h : S.Instance num v) (hS : S.RestoresNull)
    (hf : Data.Rearranging f) {mode : Strictness}
    (hm : mode = .lenient ∨ ∃ s, S = .shape s) : S.check mode (f v.carried) = .ok (v.mapData f) := by
  cases h with
  | shape ha hj =>
      exact Checked.map_eq_ok_iff.2 ⟨_, (hf.admits hj ha).check_eq mode, rfl⟩
  | wrapped name text =>
      rw [Held.carried, hf.text, check, checkText_text]
      rfl
  | @chosen name options option h =>
      obtain rfl : mode = .lenient := hm.resolve_right (by rintro ⟨s, hs⟩; cases hs)
      rw [Held.carried, hf.text, check, checkChoice, checkText_text]
      simp [h, Held.mapData, Except.map]
  | @record t r h =>
      cases hS with
      | record hw hr =>
          obtain ⟨ps, hps, hmap⟩ := hf.map (r.carried false)
          have hcheck := h.check_carried hw hf hps (.inr hr) mode
          obtain ⟨val, -, hval⟩ := h.exists_values hw
          rw [RecordType.no_extras_carried h (fun m hm => (hval m hm).1) hps hr.extras] at hcheck
          rw [Held.carried, ofEntries_eq, hmap, check, ← ofEntries_eq, hcheck]
          simp [Held.mapData, Except.map, h.type, h.kept hr.extras]

theorem Instance.isNull_carried (h : S.Instance num v) (hS : S.RestoresNull)
    (hf : Data.Rearranging f) : (f v.carried).isNull = false := by
  cases h with
  | shape ha hj =>
      cases hS with
      | shape hnull =>
          have hne : f _ ≠ .null := fun hfd => hnull ((hf.eq_null_iff hj).1 hfd ▸ ha)
          rw [Held.carried]
          cases hd : f _ <;> first | rfl | exact absurd hd hne
  | wrapped name text =>
      rw [Held.carried, hf.text]
      rfl
  | chosen h =>
      rw [Held.carried, hf.text]
      rfl
  | @record t r h =>
      obtain ⟨ps, -, hmap⟩ := hf.map (r.carried false)
      rw [Held.carried, ofEntries_eq, hmap]
      rfl

theorem Instance.settled_mapData (h : S.Instance num v) (hS : S.RestoresNull)
    (hf : Data.Rearranging f) : ClaimSet.settled (v.mapData f) = some (v.mapData f) := by
  have hnull := h.isNull_carried hS hf
  cases v with
  | data d =>
      rw [Held.carried] at hnull
      rw [Held.mapData]
      cases hd : f d <;> simp_all [ClaimSet.settled, Data.isNull]
  | _ => rfl

/-! ## Additional claims -/

theorem Instance.cases_mapping (h : S.Instance num v) (hS : S.IsMapping) :
    (∃ t r, S = .record t ∧ v = .record r ∧ t.WellFormed ∧ t.Holds num r) ∨
      ∃ s pairs, S = .shape (.mapOf s) ∧ v = .data (.ofEntries pairs) ∧ v.entries = pairs ∧
        (pairKeys pairs).Nodup ∧ ∀ e ∈ pairs, s.Admits e.2 ∧ Data.JsonOver num e.2 := by
  cases hS with
  | record hw =>
      cases h with
      | record h => exact .inl ⟨_, _, rfl, rfl, hw, h⟩
  | mapOf s =>
      cases h with
      | shape ha hj =>
          cases hj with
          | @map pairs hn hp =>
              rw [Shape.admits_mapOf_iff hn] at ha
              exact .inr ⟨s, pairs, rfl, rfl, textEntries_textPairs pairs, hn,
                fun e he => ⟨ha e he, hp e he⟩⟩
          | _ => simp [Shape.Admits, Shape.check, Checked.fail] at ha

theorem Instance.jsonOver_entries (h : S.Instance num v) (hS : S.IsMapping) {e : TextPair}
    (he : e ∈ v.entries) : Data.JsonOver num e.2 := by
  rcases h.cases_mapping hS with ⟨t, r, rfl, rfl, hw, h⟩ | ⟨s, pairs, rfl, rfl, hv, hn, hp⟩
  · exact h.jsonOver_carried hw he
  · rw [hv] at he
    exact (hp e he).2

theorem Instance.portable_true_eq (h : S.Instance num v) (hS : S.IsMapping)
    (hnum : ∀ x, num x → x.magnitude?.isSome = true) :
    v.portable true = .ok (.ofEntries v.entries) ∧ (pairKeys v.entries).Nodup := by
  rcases h.cases_mapping hS with ⟨t, r, rfl, rfl, hw, h⟩ | ⟨s, pairs, rfl, rfl, hv, hn, hp⟩
  · exact ⟨h.portable_eq hw hnum true, h.nodup_carried hw true⟩
  · rw [hv]
    exact ⟨Data.IsJson.portable_eq (.map hn fun e he => (hp e he).2.imp hnum), hn⟩

theorem Instance.check_entries (h : S.Instance num v) (hS : S.IsMapping)
    (hf : Data.Rearranging f) {ps : List TextPair} (hps : ps.Perm (mapValues f v.entries))
    (mode : Strictness) : S.check mode (.ofEntries ps) = .ok (v.refill f ps) := by
  rcases h.cases_mapping hS with ⟨t, r, rfl, rfl, hw, h⟩ | ⟨s, pairs, rfl, rfl, hv, hn, hp⟩
  · rw [check, h.check_carried hw hf hps (.inl rfl) mode, Held.refill, h.type]
    rfl
  · rw [hv] at hps
    have hadmits : (Shape.mapOf s).Admits (.map (textPairs ps)) := by
      rw [Shape.admits_mapOf_iff (nodup_of_perm_mapValues hps hn)]
      exact forall_of_perm_mapValues hps fun e he => hf.admits (hp e he).2 (hp e he).1
    exact Checked.map_eq_ok_iff.2 ⟨_, hadmits.check_eq mode, rfl⟩

theorem Instance.refill_entries (h : S.Instance num v) (hS : S.IsMapping) :
    v.refill id v.entries = v := by
  rcases h.cases_mapping hS with ⟨t, r, rfl, rfl, hw, h⟩ | ⟨s, pairs, rfl, rfl, hv, hn, hp⟩
  · have hextras := h.filter_carried hw
    rw [← h.type] at hextras
    simp only [Held.refill, Held.entries, hextras, mapValues_id]
  · rw [hv]
    rfl

/-! ## Values that are the same -/

theorem Instance.same_mapData (h : S.Instance num v) (hS : S.RestoresNull)
    (hf : Data.Rearranging f) (hnum : ∀ x, num x → x.magnitude?.isSome = true) :
    (v.mapData f).same v = true := by
  cases h with
  | shape ha hj => exact hf.same (hj.imp hnum)
  | wrapped name text => simp [Held.mapData, Held.same]
  | chosen h => simp [Held.mapData, Held.same]
  | record h =>
      cases hS with
      | record hw hr =>
          have hextras := h.kept hr.extras
          exact h.same_of_perm hw hf hnum (by rw [hextras]; exact .nil)

/-- Additional claims that were read from what they travel as, rearranged, are the same claims. -/
theorem Instance.same_refill (h : S.Instance num v) (hS : S.IsMapping) (hf : Data.Rearranging f)
    (hnum : ∀ x, num x → x.magnitude?.isSome = true) {ps : List TextPair}
    (hps : ps.Perm (mapValues f v.entries)) : (v.refill f ps).same v = true := by
  rcases h.cases_mapping hS with ⟨t, r, rfl, rfl, hw, h⟩ | ⟨s, pairs, rfl, rfl, hv, hn, hp⟩
  · have hfilter := hps.filter fun e => e.1 ∉ t.memberKeys
    rw [filter_mapValues fun k => decide (k ∉ t.memberKeys), Held.entries,
      h.filter_carried hw] at hfilter
    exact h.same_of_perm hw hf hnum (by rwa [h.type])
  · rw [hv] at hps
    exact Data.same_map_of_perm hps fun e he => hf.same ((hp e he).2.imp hnum)

end Schema

end IdentityClaims
