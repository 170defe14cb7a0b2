import IdentityClaims.Proofs.Config.Store
import IdentityClaims.Proofs.Values.Merge
import IdentityClaims.Proofs.Values.Record

/-!
# Configurations that a program can make

A configuration that was checked has a value of its shape for every field. From there a program can
assign what it likes, checked or not, but it never gets a section that has a field twice. Main
statements: `Config.valid_of_check` and `Config.built_section`.
-/

namespace IdentityClaims

namespace SectionName

theorem nodup_names (n : SectionName) : (n.type.members.map Member.name).Nodup := by
  cases n <;> decide

theorem key_eq_name (n : SectionName) : ∀ m ∈ n.type.members, m.key = m.name := by
  cases n <;> decide

theorem byName_type (n : SectionName) : n.type.byName = false := by
  cases n <;> rfl

/-- No field of a section has parts. -/
theorem isScalar_shape (n : SectionName) : ∀ m ∈ n.type.members, m.shape.isScalar = true := by
  cases n <;> decide

theorem members_ne_nil (n : SectionName) : n.type.members ≠ [] := by
  cases n <;> decide

theorem checkExtras_type (n : SectionName) (es : List (Data × Data)) :
    n.type.checkExtras es = .ok [] := by
  cases n <;> rfl

theorem admits_default (n : SectionName) :
    ∀ m ∈ n.type.members, ∀ d, m.default? = some d → m.shape.Admits d := by
  cases n <;> simp [type, codecType, loggingType, Member.plain, Member.nullable, Shape.Admits,
    Shape.check, checkText, checkTruth, checkInteger, Except.map]

end SectionName

namespace SectionValue

variable {n : SectionName} {v : SectionValue} {m : Member}

def Valid (n : SectionName) (v : SectionValue) : Prop :=
  ∀ m ∈ n.type.members, ∃ d, v.get? m.name = some d ∧ m.shape.Admits d

def Proper : SectionValue → Prop
  | .fields values _ => (Entries.keys values).Nodup
  | .other (.map es) => Data.DistinctTexts es
  | .other _ => True

/-- A section as a program can make it: by giving data to be checked, by assigning fields, or by
putting data in its place. -/
inductive Built (n : SectionName) : SectionValue → Prop
  | checked {d : Data} {v : SectionValue} : check n d = .ok v → Built n v
  | assigned {field : String} {value : Data} {v w : SectionValue} : Built n v →
    v.assign n field value = .ok w → Built n w
  | data {d : Data} (hd : ∀ es, d = .map es → Data.DistinctTexts es) : Built n (.other d)

theorem values_of_check {d : Data} (h : check n d = .ok v) :
    ∃ es values assigned, d = .map es ∧ v = .fields values assigned ∧
      List.Forall₂ (fun m e => m.check .lenient n.type.byName es = .ok e) n.type.members
        values := by
  cases d with
  | map es =>
      obtain ⟨r, hr, rfl⟩ := Checked.map_eq_ok_iff.1 h
      obtain ⟨⟨values, extras⟩, hboth, rfl⟩ := Checked.map_eq_ok_iff.1 hr
      have hvalues := Checked.all_map_eq_ok_iff.1 (Checked.both_eq_ok_iff.1 hboth).1
      exact ⟨es, values, _, rfl, rfl, hvalues⟩
  | _ => cases h

theorem keys_of_checkMembers {es : List (Data × Data)} {values : Entries String Data}
    (h : List.Forall₂ (fun m e => m.check .lenient n.type.byName es = .ok e) n.type.members
      values) :
    Entries.keys values = n.type.members.map Member.name := by
  rw [Entries.keys, ← List.forall₂_eq_eq_eq, List.forall₂_map_left_iff,
    List.forall₂_map_right_iff]
  exact (h.imp fun _ _ hme => RecordType.name_of_checkMember hme).flip

/-- A checked section has what the check of every field gives. -/
theorem exists_of_check {es : List (Data × Data)} (h : check n (.map es) = .ok v)
    (hm : m ∈ n.type.members) :
    ∃ d, v.get? m.name = some d ∧ m.check .lenient n.type.byName es = .ok (m.name, d) := by
  obtain ⟨_, values, assigned, heq, rfl, hvalues⟩ := values_of_check h
  obtain rfl := Data.map.inj heq
  have hnodup : (Entries.keys values).Nodup := keys_of_checkMembers hvalues ▸ n.nodup_names
  obtain ⟨⟨name, d⟩, he, hcheck⟩ := exists_of_forall₂ hvalues.flip m hm
  obtain rfl : name = m.name := RecordType.name_of_checkMember hcheck
  exact ⟨d, Entries.get?_of_mem hnodup he, hcheck⟩

/-- A field that is given has its checked value. -/
theorem check_field {es : List (Data × Data)} (h : check n (.map es) = .ok v)
    (hm : m ∈ n.type.members) {raw : Data} (hraw : Data.valueOf? es m.name = some raw) :
    ∃ d, v.get? m.name = some d ∧ m.shape.check .lenient raw = .ok d := by
  obtain ⟨d, hd, hcheck⟩ := exists_of_check h hm
  refine ⟨d, hd, ?_⟩
  simp only [Member.check, Member.find?, n.key_eq_name m hm, hraw, Checked.map_eq_ok_iff,
    Checked.within_eq_ok_iff, Prod.mk.injEq, true_and, exists_eq_right] at hcheck
  exact hcheck

theorem check_nil (n : SectionName) : check n (.map []) = .ok (.defaults n) := by
  cases n <;> rfl

theorem valid_of_check {d : Data} (h : check n d = .ok v) : v.Valid n := by
  intro m hm
  obtain ⟨es, _, _, rfl, -, -⟩ := values_of_check h
  cases hraw : Data.valueOf? es m.name with
  | some raw =>
      obtain ⟨d, hd, hcheck⟩ := check_field h hm hraw
      exact ⟨d, hd, Shape.admits_of_check hcheck⟩
  | none =>
      obtain ⟨d, hd, hcheck⟩ := exists_of_check h hm
      refine ⟨d, hd, n.admits_default m hm d ?_⟩
      have hfind : m.find? n.type.byName es = none := by
        simp [Member.find?, n.key_eq_name m hm, hraw, n.byName_type]
      rw [Member.check, hfind] at hcheck
      cases hdefault : m.default? with
      | none => simp [hdefault, Checked.within, Checked.fail] at hcheck
      | some d' =>
          simp only [hdefault, Except.ok.injEq, Prod.mk.injEq, true_and] at hcheck
          rw [hcheck]

theorem Built.proper (h : v.Built n) : v.Proper := by
  induction h with
  | checked hv =>
      obtain ⟨es, values, assigned, rfl, rfl, hvalues⟩ := values_of_check hv
      rw [Proper, keys_of_checkMembers hvalues]
      exact n.nodup_names
  | @assigned field value v w _ hw ih =>
      cases v with
      | other d => cases hw
      | fields values before =>
          simp only [assign] at hw
          split at hw
          · obtain rfl := Except.ok.inj hw
            exact Entries.nodup_keys_put ih field value
          · obtain ⟨_, -, rfl⟩ := Checked.map_eq_ok_iff.1 hw
            exact ih
  | @data d hd =>
      cases d with
      | map es => exact hd es rfl
      | _ => trivial

end SectionValue

namespace Config

variable {c : Config}

def Valid (c : Config) : Prop := ∀ n, (c.get n).Valid n

/-- A configuration as a program can make it: by giving data to be checked, and by assigning fields
and sections that were made so themselves. -/
inductive Built : Config → Prop
  | checked {d : Data} {c : Config} : check d = .ok c → Built c
  | assigned {name field : String} {value : Data} {c c' : Config} : Built c →
    c.apply (.inSection name field value) = .ok c' → Built c'
  | exchanged {name : String} {v : SectionValue} {c c' : Config} : Built c →
    (∀ n, SectionName.ofKey? name = some n → v.Built n) → c.apply (.whole name v) = .ok c' →
    Built c'

theorem checkSection_of_ofEntries {es : List (Data × Data)} (h : ofEntries es = .ok c)
    (n : SectionName) : checkSection es n = .ok (c.get n) := by
  obtain ⟨⟨codec, logging⟩, hboth, rfl⟩ := Checked.map_eq_ok_iff.1 h
  obtain ⟨hcodec, hlogging⟩ := Checked.both_eq_ok_iff.1 hboth
  cases n
  · exact hcodec
  · exact hlogging

/-- Every section of a checked configuration was checked. -/
theorem exists_of_check {d : Data} (h : check d = .ok c) (n : SectionName) :
    ∃ d, SectionValue.check n d = .ok (c.get n) := by
  cases d with
  | map es =>
      have hsection := checkSection_of_ofEntries h n
      rw [checkSection] at hsection
      cases hv : Data.valueOf? es n.key with
      | some d =>
          rw [hv] at hsection
          exact ⟨d, Checked.within_eq_ok_iff.1 hsection⟩
      | none =>
          rw [hv] at hsection
          exact ⟨.map [], Except.ok.inj hsection ▸ SectionValue.check_nil n⟩
  | _ => cases h

theorem valid_of_check {d : Data} (h : check d = .ok c) : c.Valid := by
  intro n
  obtain ⟨d, hd⟩ := exists_of_check h n
  exact SectionValue.valid_of_check hd

theorem built_section (h : c.Built) (n : SectionName) : (c.get n).Built n := by
  induction h with
  | checked hc =>
      obtain ⟨d, hd⟩ := exists_of_check hc n
      exact .checked hd
  | @assigned name field value c c' _ hc ih =>
      simp only [apply, assignIn] at hc
      split at hc
      · next s hs =>
          obtain ⟨v, hv, rfl⟩ := Checked.map_eq_ok_iff.1 hc
          rw [get_put]
          split
          · next hn => exact .assigned ih (hn ▸ hv)
          · exact ih
      · cases hc
  | @exchanged name v c c' _ hv hc ih =>
      simp only [apply, assignWhole] at hc
      split at hc
      · next s hs =>
          rw [← Except.ok.inj hc, get_assignSection]
          split
          · next hn => exact hv n (hn ▸ hs)
          · exact ih
      · obtain ⟨_, -, rfl⟩ := Checked.map_eq_ok_iff.1 hc
        exact ih

end Config

end IdentityClaims
