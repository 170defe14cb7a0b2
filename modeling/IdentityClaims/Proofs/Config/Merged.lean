import IdentityClaims.Proofs.Config.Built
import IdentityClaims.Proofs.Values.Merge

/-!
# What overriding comes to

An override gives a value to the fields that were set explicitly and, if a section was set as a
whole, to every field of that section. What it contributes is laid over the data of a configuration
and checked section by section. So overriding is settled field by field: a field gets the checked
value that the override sets, or else the checked value below, and everything counts as set
afterwards. Main statement: `overriddenBy_eq_ok_iff`.
-/

namespace IdentityClaims

namespace SectionValue

variable {n : SectionName} {v : SectionValue} {whole : Bool} {m : Member}
  {es : List (Data × Data)} {raw val val' : Member → Data}

/-! ## What a section sets -/

/-- What a section gives a field when it overrides another one: the value of a field that was set
explicitly, or of any field if the section was set as a whole. What was put in a section's place
gives the fields that it has. -/
def sets? (whole : Bool) (v : SectionValue) (field : String) : Option Data :=
  match v with
  | .fields values assigned =>
    if whole || assigned.contains field then Entries.get? values field else none
  | .other (.map es) => if whole then Data.valueOf? es field else none
  | .other _ => none

/-- What a section contributes to an override is what it sets. -/
theorem valueOf?_contribution (hv : v.Proper) {es : List (Data × Data)}
    (h : v.contribution whole = some (.map es)) :
    Data.DistinctTexts es ∧ ∀ field, Data.valueOf? es field = v.sets? whole field := by
  cases v with
  | other d =>
      cases whole with
      | false => cases h
      | true =>
          obtain rfl := Option.some.inj h
          exact ⟨hv, fun field => rfl⟩
  | fields values assigned =>
      have hv : (pairKeys values).Nodup := hv
      cases whole with
      | true =>
          obtain rfl := Data.map.inj (Option.some.inj h)
          exact ⟨Data.distinctTexts_textPairs.2 hv, valueOf?_textPairs values⟩
      | false =>
          simp only [contribution, Bool.false_eq_true, if_false, Option.ite_none_left_eq_some,
            Option.some.injEq] at h
          obtain rfl := Data.map.inj h.2
          refine ⟨Data.distinctTexts_textPairs.2 (nodup_pairKeys_filter hv), fun field => ?_⟩
          exact (valueOf?_textPairs _ field).trans
            (Entries.get?_filter_key values (fun key => assigned.contains key) field)

theorem sets?_of_contribution_eq_none (h : v.contribution whole = none) (field : String) :
    v.sets? whole field = none := by
  cases v with
  | other d =>
      cases whole with
      | true => cases h
      | false => cases d <;> rfl
  | fields values assigned =>
      cases whole with
      | true => cases h
      | false =>
          simp only [contribution, Bool.false_eq_true, if_false, ite_eq_left_iff, reduceCtorEq,
            imp_false, not_not, List.isEmpty_iff] at h
          have hget := Entries.get?_filter_key values (fun key => assigned.contains key) field
          rw [h, Entries.get?_nil] at hget
          exact hget.symm

/-! ## Sections in which every field was given -/

def filled (n : SectionName) (val : Member → Data) : SectionValue :=
  .fields (n.type.members.map fun m => (m.name, val m)) (n.type.members.map Member.name)

theorem get?_filled (val : Member → Data) (hm : m ∈ n.type.members) :
    (filled n val).get? m.name = some (val m) := by
  refine Entries.get?_of_mem ?_ (List.mem_map_of_mem hm)
  rw [Entries.keys, List.map_map]
  exact n.nodup_names

theorem filled_congr (h : ∀ m ∈ n.type.members, val m = val' m) : filled n val = filled n val' := by
  rw [filled, filled, List.map_congr_left fun m hm => by rw [h m hm]]

theorem find?_of_raw (hm : m ∈ n.type.members) {d : Data} (h : Data.valueOf? es m.name = some d) :
    m.find? n.type.byName es = some (m.name, d) := by
  rw [Member.find?, n.key_eq_name m hm, h]

theorem checkMember_eq_ok_iff (hm : m ∈ n.type.members) {d v : Data}
    (h : Data.valueOf? es m.name = some d) :
    m.check .lenient n.type.byName es = .ok (m.name, v) ↔ m.shape.check .lenient d = .ok v := by
  rw [Member.check, find?_of_raw hm h]
  simp [Checked.map_eq_ok_iff]

theorem given_eq (h : ∀ m ∈ n.type.members, Data.valueOf? es m.name = some (raw m)) :
    n.type.given es = n.type.members.map Member.name := by
  rw [RecordType.given, ← List.filterMap_eq_map]
  refine List.filterMap_congr fun m hm => ?_
  rw [find?_of_raw hm (h m hm)]
  rfl

theorem check_of_values (h : ∀ m ∈ n.type.members, Data.valueOf? es m.name = some (raw m))
    (hval : ∀ m ∈ n.type.members, m.shape.check .lenient (raw m) = .ok (val m)) :
    check n (.map es) = .ok (filled n val) := by
  have hmembers : Checked.all (n.type.members.map fun m => m.check .lenient n.type.byName es) =
      .ok (n.type.members.map fun m => (m.name, val m)) := by
    rw [Checked.all_eq_ok_iff, List.map_map]
    exact List.map_congr_left fun m hm => (checkMember_eq_ok_iff hm (h m hm)).2 (hval m hm)
  rw [check, RecordType.checkEntries, hmembers, n.checkExtras_type, given_eq h]
  rfl

/-- Where every field is given, a section is what the checks of its fields give. -/
theorem check_eq_ok_iff (h : ∀ m ∈ n.type.members, Data.valueOf? es m.name = some (raw m)) :
    check n (.map es) = .ok v ↔
      ∃ val, (∀ m ∈ n.type.members, m.shape.check .lenient (raw m) = .ok (val m)) ∧
        v = filled n val := by
  constructor
  · intro hv
    have hval : ∀ m ∈ n.type.members,
        m.shape.check .lenient (raw m) = .ok ((v.get? m.name).getD .null) := by
      intro m hm
      obtain ⟨d, hd, hcheck⟩ := check_field hv hm (h m hm)
      rw [hcheck, hd, Option.getD_some]
    exact ⟨_, hval, Except.ok.inj (hv.symm.trans (check_of_values h hval))⟩
  · rintro ⟨val, hval, rfl⟩
    exact check_of_values h hval

/-! ## Sections that are checked to be what they are -/

/-- Every field of a section has a value of its type: the check takes it for a value that is the
same. A truth value in the place of an integer passes, as it is one. -/
def Typed (n : SectionName) (v : SectionValue) : Prop :=
  ∀ m ∈ n.type.members, ∃ d d', v.get? m.name = some d ∧ m.shape.check .lenient d = .ok d' ∧
    d'.same d = true

theorem Typed.exists_fields (h : v.Typed n) : ∃ values assigned, v = .fields values assigned := by
  obtain ⟨m, hm⟩ := List.exists_mem_of_ne_nil _ n.members_ne_nil
  obtain ⟨d, -, hd, -⟩ := h m hm
  cases v with
  | fields values assigned => exact ⟨values, assigned, rfl⟩
  | other d => cases hd

theorem Typed.exists_raw (h : v.Typed n) (hm : m ∈ n.type.members) :
    ∃ d, v.get? m.name = some d ∧ ∀ es, d ≠ .map es := by
  obtain ⟨d, d', hd, hcheck, -⟩ := h m hm
  refine ⟨d, hd, ?_⟩
  rintro es rfl
  exact Shape.check_map_ne_ok (n.isScalar_shape m hm) hcheck

theorem Valid.typed (h : v.Valid n) : v.Typed n := by
  intro m hm
  obtain ⟨d, hd, hadmits⟩ := h m hm
  have hcheck := hadmits.check_eq .lenient
  exact ⟨d, d, hd, hcheck, Shape.same_of_check (n.isScalar_shape m hm) hcheck⟩

end SectionValue

namespace Config

variable {base o c : Config} {n : SectionName} {m : Member}

/-! ## What is checked for a section -/

/-- Every field of a configuration has a value of its type. -/
def Typed (c : Config) : Prop := ∀ n, (c.get n).Typed n

theorem Valid.typed (h : c.Valid) : c.Typed := fun n => (h n).typed

/-- No section of a configuration has a field twice. -/
def Proper (c : Config) : Prop := ∀ n, (c.get n).Proper

theorem Built.proper (h : c.Built) : c.Proper := fun n => (built_section h n).proper

def contributes? (o : Config) (n : SectionName) : Option Data :=
  (o.get n).contribution (o.assigned.contains n)

def sets? (o : Config) (n : SectionName) (field : String) : Option Data :=
  (o.get n).sets? (o.assigned.contains n) field

def bySection (f : SectionName → Option Data) : List TextPair :=
  SectionName.all.filterMap fun n => (f n).map fun d => (n.key, d)

theorem get?_bySection (f : SectionName → Option Data) (n : SectionName) :
    Entries.get? (bySection f) n.key = f n := by
  cases hcodec : f .codec <;> cases hlogging : f .logging <;> cases n <;>
    simp [bySection, SectionName.all, SectionName.key, hcodec, hlogging, Entries.get?_cons]

theorem nodup_bySection (f : SectionName → Option Data) : (pairKeys (bySection f)).Nodup := by
  cases hcodec : f .codec <;> cases hlogging : f .logging <;>
    simp [bySection, SectionName.all, SectionName.key, hcodec, hlogging, pairKeys]

def merged (base o : Config) (n : SectionName) : Data :=
  match o.contributes? n with
  | some d => (base.get n).dump.merge d
  | none => (base.get n).dump

def mergedEntries (base o : Config) : List (Data × Data) :=
  Data.mergeEntries (textPairs (bySection fun n => some (base.get n).dump))
    (textPairs (bySection o.contributes?))

theorem overriddenBy_eq (base o : Config) :
    base.overriddenBy o = ofEntries (mergedEntries base o) := rfl

theorem valueOf?_mergedEntries (base o : Config) (n : SectionName) :
    Data.valueOf? (mergedEntries base o) n.key = some (base.merged o n) := by
  rw [mergedEntries, Data.valueOf?_mergeEntries (Data.distinctTexts_textPairs.2 (nodup_bySection _)),
    valueOf?_textPairs, valueOf?_textPairs, get?_bySection, get?_bySection, merged]
  cases o.contributes? n <;> rfl

/-- The entries of a map give a configuration if they give its sections. -/
theorem ofEntries_eq_ok_iff {es : List (Data × Data)} :
    ofEntries es = .ok c ↔ (∀ n, checkSection es n = .ok (c.get n)) ∧
      c.assigned = SectionName.all.filter fun n => (Data.valueOf? es n.key).isSome := by
  constructor
  · intro h
    refine ⟨checkSection_of_ofEntries h, ?_⟩
    obtain ⟨p, -, rfl⟩ := Checked.map_eq_ok_iff.1 h
    rfl
  · rintro ⟨hsections, hassigned⟩
    refine Checked.map_eq_ok_iff.2 ⟨(c.codec, c.logging), ?_, ?_⟩
    · exact Checked.both_eq_ok_iff.2 ⟨hsections .codec, hsections .logging⟩
    · rw [← hassigned]

/-- Overriding checks each section and then has all of them set. -/
theorem overriddenBy_eq_ok_iff_sections :
    base.overriddenBy o = .ok c ↔
      (∀ n, SectionValue.check n (base.merged o n) = .ok (c.get n)) ∧
        c.assigned = SectionName.all := by
  have hall : (SectionName.all.filter fun n =>
      (Data.valueOf? (mergedEntries base o) n.key).isSome) = SectionName.all :=
    List.filter_eq_self.2 fun n _ => by rw [valueOf?_mergedEntries]; rfl
  rw [overriddenBy_eq, ofEntries_eq_ok_iff, hall]
  simp only [checkSection, valueOf?_mergedEntries, Checked.within_eq_ok_iff]

def mergedField (base o : Config) (n : SectionName) (m : Member) : Data :=
  ((o.sets? n m.name).or ((base.get n).get? m.name)).getD .null

theorem mergedField_of_set {raw : Data} (h : o.sets? n m.name = some raw) :
    base.mergedField o n m = raw := by
  simp [mergedField, h]

theorem mergedField_of_unset {d : Data} (h : o.sets? n m.name = none)
    (hd : (base.get n).get? m.name = some d) : base.mergedField o n m = d := by
  simp [mergedField, h, hd]

/-- What an override contributes for a section is laid over it field by field, unless it is no
map and takes the place of the section. -/
theorem merged_cases (hbase : base.Typed) (ho : o.Proper) (n : SectionName) :
    (o.contributes? n = some (base.merged o n) ∧ ∀ es, base.merged o n ≠ .map es) ∨
      (∀ d, o.contributes? n = some d → ∃ es, d = .map es) ∧
        ∃ es, base.merged o n = .map es ∧
          ∀ m ∈ n.type.members, Data.valueOf? es m.name = some (base.mergedField o n m) := by
  obtain ⟨values, assigned, hvalues⟩ := (hbase n).exists_fields
  have hbelow : ∀ m : Member, Data.valueOf? (textPairs values) m.name = (base.get n).get? m.name := by
    intro m
    rw [hvalues]
    exact valueOf?_textPairs values m.name
  cases hd : o.contributes? n with
  | none =>
      refine .inr ⟨by simp, textPairs values, ?_, fun m hm => ?_⟩
      · rw [merged, hd, hvalues]
        rfl
      · obtain ⟨b, hb, -⟩ := (hbase n).exists_raw hm
        have hset : o.sets? n m.name = none := SectionValue.sets?_of_contribution_eq_none hd m.name
        rw [hbelow, mergedField_of_unset hset hb, hb]
  | some d =>
      by_cases hmap : ∃ es, d = .map es
      · obtain ⟨es, rfl⟩ := hmap
        obtain ⟨hdistinct, hsets⟩ := SectionValue.valueOf?_contribution (ho n) hd
        refine .inr ⟨by simp, Data.mergeEntries (textPairs values) es, ?_, fun m hm => ?_⟩
        · rw [merged, hd, hvalues]
          rfl
        · obtain ⟨b, hb, hnomap⟩ := (hbase n).exists_raw hm
          have hset : Data.valueOf? es m.name = o.sets? n m.name := hsets m.name
          rw [Data.valueOf?_mergeEntries hdistinct, hbelow, hset, hb]
          cases hs : o.sets? n m.name with
          | none => rw [mergedField_of_unset hs hb]
          | some raw => simp [mergedField_of_set hs, Data.merge_of_not_map hnomap]
      · have hmerged : base.merged o n = d := by
          rw [merged, hd]
          cases d with
          | map es => exact absurd ⟨es, rfl⟩ hmap
          | _ => rfl
        exact .inl ⟨by rw [hmerged], fun es he => hmap ⟨es, hmerged ▸ he⟩⟩

/-! ## What overriding comes to -/

def ContributesMaps (o : Config) : Prop := ∀ n d, o.contributes? n = some d → ∃ es, d = .map es

/-- What a field gets: the checked value that the override sets, or else the checked value below. -/
def Gets (base o : Config) (n : SectionName) (m : Member) (v : Data) : Prop :=
  m.shape.check .lenient (base.mergedField o n m) = .ok v

theorem gets_of_set {raw v : Data} (h : o.sets? n m.name = some raw) :
    base.Gets o n m v ↔ m.shape.check .lenient raw = .ok v := by
  rw [Gets, mergedField_of_set h]

theorem gets_of_unset {d v : Data} (h : o.sets? n m.name = none)
    (hd : (base.get n).get? m.name = some d) :
    base.Gets o n m v ↔ m.shape.check .lenient d = .ok v := by
  rw [Gets, mergedField_of_unset h hd]

theorem Gets.admits {v : Data} (h : base.Gets o n m v) : m.shape.Admits v :=
  Shape.admits_of_check h

def filled (val : SectionName → Member → Data) : Config where
  codec := .filled .codec (val .codec)
  logging := .filled .logging (val .logging)
  assigned := SectionName.all

theorem get_filled (val : SectionName → Member → Data) (n : SectionName) :
    (filled val).get n = .filled n (val n) := by
  cases n <;> rfl

theorem get?_filled (val : SectionName → Member → Data) (hm : m ∈ n.type.members) :
    ((filled val).get n).get? m.name = some (val n m) := by
  rw [get_filled, SectionValue.get?_filled (val n) hm]

theorem filled_congr {val val' : SectionName → Member → Data}
    (h : ∀ n, ∀ m ∈ n.type.members, val n m = val' n m) : filled val = filled val' := by
  rw [filled, filled, SectionValue.filled_congr (h .codec), SectionValue.filled_congr (h .logging)]

theorem check_merged_eq_ok_iff (hbase : base.Typed) (ho : o.Proper) {v : SectionValue} :
    SectionValue.check n (base.merged o n) = .ok v ↔
      (∀ d, o.contributes? n = some d → ∃ es, d = .map es) ∧
        ∃ val, (∀ m ∈ n.type.members, base.Gets o n m (val m)) ∧ v = .filled n val := by
  obtain ⟨hd, hnomap⟩ | ⟨hmaps, es, hes, hvalue⟩ := merged_cases hbase ho n
  · constructor
    · intro h
      obtain ⟨es, values, assigned, hes, -⟩ := SectionValue.values_of_check h
      exact absurd hes (hnomap es)
    · rintro ⟨hmaps, -⟩
      obtain ⟨es, hes⟩ := hmaps _ hd
      exact absurd hes (hnomap es)
  · rw [hes, SectionValue.check_eq_ok_iff hvalue]
    exact (and_iff_right hmaps).symm

/-- Overriding gives every field what it gets, and has everything set. -/
theorem overriddenBy_eq_ok_iff (hbase : base.Typed) (ho : o.Proper) :
    base.overriddenBy o = .ok c ↔
      o.ContributesMaps ∧ ∃ val : SectionName → Member → Data,
        (∀ n, ∀ m ∈ n.type.members, base.Gets o n m (val n m)) ∧ c = filled val := by
  simp only [overriddenBy_eq_ok_iff_sections, check_merged_eq_ok_iff hbase ho]
  constructor
  · rintro ⟨hsections, hassigned⟩
    choose hmaps val hval hget using hsections
    refine ⟨hmaps, val, hval, ext_get (fun n => ?_) hassigned⟩
    rw [hget n, get_filled]
  · rintro ⟨hmaps, val, hval, rfl⟩
    exact ⟨fun n => ⟨hmaps n, val n, hval n, get_filled val n⟩, rfl⟩

end Config

end IdentityClaims
