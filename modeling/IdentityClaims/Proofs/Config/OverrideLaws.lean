import IdentityClaims.Proofs.Config.Override

/-!
# Laws of overriding

An override in which nothing is set changes nothing, one that is laid over twice counts once, and
two that set no common field can be laid over in either order. Whether an override can be laid over
something does not depend on what is below. Main statement: `overriddenBy_laws`.
-/

namespace IdentityClaims

namespace Config

variable {base o o₁ o₂ c : Config} {n : SectionName} {m : Member}

/-! ## Which overrides are refused -/

/-- An override contributes something that is rejected: for a section something that is no map, or
for a field a value that does not pass the check of the field. -/
inductive ContributesRejected (o : Config) : Prop
  | whole {n : SectionName} {d : Data} (contributed : o.contributes? n = some d)
      (rejected : ∀ es, d ≠ .map es) : ContributesRejected o
  | field {n : SectionName} {m : Member} {raw : Data} {problems : List Problem}
      (member : m ∈ n.type.members) (contributed : o.sets? n m.name = some raw)
      (rejected : m.shape.check .lenient raw = .error problems) : ContributesRejected o

theorem exists_gets (hbase : base.Typed) (h : ¬ o.ContributesRejected)
    (hm : m ∈ n.type.members) : ∃ v, base.Gets o n m v := by
  cases hs : o.sets? n m.name with
  | none =>
      obtain ⟨d, d', hd, hcheck, -⟩ := hbase n m hm
      exact ⟨d', (gets_of_unset hs hd).2 hcheck⟩
  | some raw =>
      cases hcheck : m.shape.check .lenient raw with
      | ok v => exact ⟨v, (gets_of_set hs).2 hcheck⟩
      | error problems => exact absurd (.field hm hs hcheck) h

/-- Over fields of their types an override can be laid unless it contributes something that is
rejected, whatever the fields are. -/
theorem exists_overriddenBy_iff (hbase : base.Typed) (ho : o.Proper) :
    (∃ c, base.overriddenBy o = .ok c) ↔ ¬ o.ContributesRejected := by
  constructor
  · rintro ⟨c, hc⟩ hrejected
    obtain ⟨hmaps, val, hval, -⟩ := (overriddenBy_eq_ok_iff hbase ho).1 hc
    cases hrejected with
    | @whole n d hd hnomap =>
        obtain ⟨es, hes⟩ := hmaps n d hd
        exact hnomap es hes
    | @field n m raw problems hm hs hcheck =>
        have hok := (gets_of_set hs).1 (hval n m hm)
        rw [hcheck] at hok
        cases hok
  · intro h
    have hmaps : o.ContributesMaps := fun n d hd => by
      by_contra hno
      exact h (.whole hd fun es hes => hno ⟨es, hes⟩)
    have hgets : ∀ (n : SectionName) (m : Member), ∃ v, m ∈ n.type.members → base.Gets o n m v := by
      intro n m
      by_cases hm : m ∈ n.type.members
      · obtain ⟨v, hv⟩ := exists_gets hbase h hm
        exact ⟨v, fun _ => hv⟩
      · exact ⟨.null, fun hmem => absurd hmem hm⟩
    choose val hval using hgets
    exact ⟨_, (overriddenBy_eq_ok_iff hbase ho).2 ⟨hmaps, val, hval, rfl⟩⟩

theorem overriddenBy_eq_error_iff (hbase : base.Typed) (ho : o.Proper) :
    (∃ problems, base.overriddenBy o = .error problems) ↔ o.ContributesRejected := by
  have hok := exists_overriddenBy_iff hbase ho
  cases h : base.overriddenBy o with
  | ok c => simpa [h] using hok
  | error problems => simpa [h] using hok

/-! ## The laws -/

/-- Nothing is set in a configuration: no section as a whole, and no field. -/
structure Untouched (o : Config) : Prop where
  sections : o.assigned = []
  fields : ∀ n values assigned, o.get n = .fields values assigned → assigned = []

theorem Untouched.contributes?_eq_none (h : o.Untouched) (n : SectionName) :
    o.contributes? n = none := by
  rw [contributes?, h.sections]
  cases ho : o.get n with
  | other d => rfl
  | fields values assigned =>
      rw [h.fields n values assigned ho]
      simp [SectionValue.contribution]

theorem Untouched.sets?_eq_none (h : o.Untouched) (n : SectionName) (field : String) :
    o.sets? n field = none :=
  SectionValue.sets?_of_contribution_eq_none (h.contributes?_eq_none n) field

theorem Untouched.not_contributesRejected (h : o.Untouched) : ¬ o.ContributesRejected := by
  rintro (⟨hd, -⟩ | ⟨-, hs, -⟩)
  · rw [h.contributes?_eq_none] at hd
    cases hd
  · rw [h.sets?_eq_none] at hs
    cases hs

def SetApart (o₁ o₂ : Config) : Prop :=
  ∀ n, ∀ m ∈ n.type.members, o₁.sets? n m.name = none ∨ o₂.sets? n m.name = none

def Like (c d : Config) : Prop :=
  ∀ n, ∀ m ∈ n.type.members, ∃ v w, (c.get n).get? m.name = some v ∧
    (d.get n).get? m.name = some w ∧ v.same w = true

/-- An override in which nothing is set changes nothing. -/
theorem exists_like_of_untouched (hbase : base.Typed) (ho : o.Proper) (h : o.Untouched) :
    ∃ c, base.overriddenBy o = .ok c ∧ c.Like base ∧
      (base.Valid → ∀ n, ∀ m ∈ n.type.members,
        (c.get n).get? m.name = (base.get n).get? m.name) := by
  obtain ⟨c, hc⟩ := (exists_overriddenBy_iff hbase ho).2 h.not_contributesRejected
  obtain ⟨-, val, hval, rfl⟩ := (overriddenBy_eq_ok_iff hbase ho).1 hc
  have hbelow : ∀ n, ∀ m ∈ n.type.members, ∀ d, (base.get n).get? m.name = some d →
      m.shape.check .lenient d = .ok (val n m) :=
    fun n m hm d hd => (gets_of_unset (h.sets?_eq_none n m.name) hd).1 (hval n m hm)
  refine ⟨_, hc, fun n m hm => ?_, fun hvalid n m hm => ?_⟩
  · obtain ⟨d, d', hd, hcheck, hsame⟩ := hbase n m hm
    have hd' : d' = val n m := Except.ok.inj (hcheck.symm.trans (hbelow n m hm d hd))
    exact ⟨val n m, d, get?_filled val hm, hd, hd' ▸ hsame⟩
  · obtain ⟨d, hd, hadmits⟩ := hvalid n m hm
    rw [get?_filled val hm, hd]
    exact congrArg some (Except.ok.inj ((hbelow n m hm d hd).symm.trans (hadmits.check_eq .lenient)))

section Fields

variable {base' : Config} {val val₁ val₂ : SectionName → Member → Data} {v v' : Data}

theorem Gets.eq_of_set (hs : o.sets? n m.name ≠ none) (h : base.Gets o n m v)
    (h' : base'.Gets o n m v') : v = v' := by
  obtain ⟨raw, hraw⟩ := Option.ne_none_iff_exists'.1 hs
  exact Except.ok.inj (((gets_of_set hraw).1 h).symm.trans ((gets_of_set hraw).1 h'))

theorem Gets.eq_of_unset (hbase : base.Typed) (hm : m ∈ n.type.members)
    (hs₁ : o₁.sets? n m.name = none) (hs₂ : o₂.sets? n m.name = none) (h₁ : base.Gets o₁ n m v)
    (h₂ : base.Gets o₂ n m v') : v = v' := by
  obtain ⟨d, -, hd, -⟩ := hbase n m hm
  exact Except.ok.inj (((gets_of_unset hs₁ hd).1 h₁).symm.trans ((gets_of_unset hs₂ hd).1 h₂))

theorem gets_filled_of_unset (hm : m ∈ n.type.members) (hval : m.shape.Admits (val n m))
    (h : o.sets? n m.name = none) : (filled val).Gets o n m v ↔ v = val n m := by
  rw [gets_of_unset h (get?_filled val hm), hval.check_eq .lenient, Except.ok.injEq]
  exact eq_comm

theorem Gets.comm (hbase : base.Typed) (hm : m ∈ n.type.members)
    (hapart : o₁.sets? n m.name = none ∨ o₂.sets? n m.name = none)
    (h₁ : base.Gets o₁ n m (val₁ n m)) (h₁₂ : (filled val₁).Gets o₂ n m v)
    (h₂ : base.Gets o₂ n m (val₂ n m)) (h₂₁ : (filled val₂).Gets o₁ n m v') : v = v' := by
  by_cases hs₂ : o₂.sets? n m.name = none
  · rw [(gets_filled_of_unset hm h₁.admits hs₂).1 h₁₂]
    by_cases hs₁ : o₁.sets? n m.name = none
    · rw [(gets_filled_of_unset hm h₂.admits hs₁).1 h₂₁]
      exact Gets.eq_of_unset hbase hm hs₁ hs₂ h₁ h₂
    · exact Gets.eq_of_set hs₁ h₁ h₂₁
  · have hs₁ : o₁.sets? n m.name = none := hapart.resolve_right hs₂
    rw [(gets_filled_of_unset hm h₂.admits hs₁).1 h₂₁]
    exact Gets.eq_of_set hs₂ h₁₂ h₂

end Fields

/-- An override that was laid over something changes nothing when it is laid over it again. -/
theorem overriddenBy_self (hbase : base.Typed) (ho : o.Proper) (h : base.overriddenBy o = .ok c) :
    c.overriddenBy o = .ok c := by
  have hc : c.Typed := (valid_of_check h).typed
  obtain ⟨hmaps, val, hval, rfl⟩ := (overriddenBy_eq_ok_iff hbase ho).1 h
  refine (overriddenBy_eq_ok_iff hc ho).2 ⟨hmaps, val, fun n m hm => ?_, rfl⟩
  cases hs : o.sets? n m.name with
  | none => exact (gets_filled_of_unset hm (hval n m hm).admits hs).2 rfl
  | some raw => exact (gets_of_set hs).2 ((gets_of_set hs).1 (hval n m hm))

theorem exists_overriddenBy_of_eq_ok {base' : Config} (hbase : base.Typed) (hbase' : base'.Typed)
    (ho : o.Proper) (h : base.overriddenBy o = .ok c) : ∃ c', base'.overriddenBy o = .ok c' :=
  (exists_overriddenBy_iff hbase' ho).2 ((exists_overriddenBy_iff hbase ho).1 ⟨c, h⟩)

theorem overriddenBy_comm (hbase : base.Typed) (ho₁ : o₁.Proper) (ho₂ : o₂.Proper)
    (hapart : o₁.SetApart o₂) {c₁ : Config} (h₁ : base.overriddenBy o₁ = .ok c₁)
    (h₁₂ : c₁.overriddenBy o₂ = .ok c) :
    ∃ c₂, base.overriddenBy o₂ = .ok c₂ ∧ c₂.overriddenBy o₁ = .ok c := by
  have hc₁ : c₁.Typed := (valid_of_check h₁).typed
  obtain ⟨c₂, h₂⟩ := exists_overriddenBy_of_eq_ok hc₁ hbase ho₂ h₁₂
  have hc₂ : c₂.Typed := (valid_of_check h₂).typed
  obtain ⟨c', h₂₁⟩ := exists_overriddenBy_of_eq_ok hbase hc₂ ho₁ h₁
  refine ⟨c₂, h₂, ?_⟩
  obtain ⟨-, val₁, hval₁, rfl⟩ := (overriddenBy_eq_ok_iff hbase ho₁).1 h₁
  obtain ⟨-, val₁₂, hval₁₂, rfl⟩ := (overriddenBy_eq_ok_iff hc₁ ho₂).1 h₁₂
  obtain ⟨-, val₂, hval₂, rfl⟩ := (overriddenBy_eq_ok_iff hbase ho₂).1 h₂
  obtain ⟨-, val₂₁, hval₂₁, rfl⟩ := (overriddenBy_eq_ok_iff hc₂ ho₁).1 h₂₁
  have hfield : ∀ n, ∀ m ∈ n.type.members, val₁₂ n m = val₂₁ n m := fun n m hm =>
    Gets.comm hbase hm (hapart n m hm) (hval₁ n m hm) (hval₁₂ n m hm) (hval₂ n m hm)
      (hval₂₁ n m hm)
  rw [h₂₁, filled_congr hfield]

/-- Over a configuration whose fields have values of their types: an override in which nothing is
set changes nothing; one that is laid over twice counts once; two that set no common field, where a
section that was set as a whole sets all its fields, give the same in either order; and one is
refused exactly if it contributes something that is rejected. -/
theorem overriddenBy_laws (hbase : base.Typed) :
    (∀ o : Config, o.Proper → o.Untouched →
      ∃ c, base.overriddenBy o = .ok c ∧ c.Like base ∧
        (base.Valid → ∀ n, ∀ m ∈ n.type.members,
          (c.get n).get? m.name = (base.get n).get? m.name)) ∧
    (∀ o c : Config, o.Proper → base.overriddenBy o = .ok c → c.overriddenBy o = .ok c) ∧
    (∀ o₁ o₂ c₁ c : Config, o₁.Proper → o₂.Proper → o₁.SetApart o₂ →
      base.overriddenBy o₁ = .ok c₁ → c₁.overriddenBy o₂ = .ok c →
      ∃ c₂, base.overriddenBy o₂ = .ok c₂ ∧ c₂.overriddenBy o₁ = .ok c) ∧
    (∀ o : Config, o.Proper →
      ((∃ problems, base.overriddenBy o = .error problems) ↔ o.ContributesRejected)) := by
  refine ⟨?_, ?_, ?_, ?_⟩
  · exact fun o ho h => exists_like_of_untouched hbase ho h
  · exact fun o c ho h => overriddenBy_self hbase ho h
  · exact fun o₁ o₂ c₁ c ho₁ ho₂ hapart h₁ h₁₂ => overriddenBy_comm hbase ho₁ ho₂ hapart h₁ h₁₂
  · exact fun o ho => overriddenBy_eq_error_iff hbase ho

def singleFileConfig : Config :=
  { Config.defaults with
    logging := .fields (Entries.put SectionName.loggingType.defaults.values "max_size_mb"
      (.bool true)) ["max_size_mb"] }

def keepingOverride : Config :=
  { Config.defaults with
    logging := .fields (Entries.put SectionName.loggingType.defaults.values "backup_count"
      (.text "7")) ["backup_count"] }

theorem typed_singleFileConfig : singleFileConfig.Typed := by
  have hdefaults : Config.defaults.Typed := (valid_of_check (d := .map []) rfl).typed
  intro n m hm
  cases n with
  | codec => exact hdefaults .codec m hm
  | logging =>
      simp only [SectionName.type, SectionName.loggingType, List.mem_cons, List.not_mem_nil,
        or_false] at hm
      rcases hm with rfl | rfl | rfl | rfl | rfl <;> exact ⟨_, _, rfl, rfl, rfl⟩

theorem untouched_defaults : Config.defaults.Untouched where
  sections := rfl
  fields := by
    intro n values assigned h
    cases n <;> exact (SectionValue.fields.inj h).2.symm

theorem overriddenBy_laws_apart :
    singleFileConfig.Typed ∧ Config.defaults.Proper ∧ Config.defaults.Untouched ∧
      Context.lenientOverride.Proper ∧ keepingOverride.Proper ∧
      Context.lenientOverride.SetApart keepingOverride ∧
      (∃ c, singleFileConfig.overriddenBy Config.defaults = .ok c ∧ c.Like singleFileConfig) ∧
      (∃ c₁ c₂ c, singleFileConfig.overriddenBy Context.lenientOverride = .ok c₁ ∧
        c₁.overriddenBy keepingOverride = .ok c ∧
        singleFileConfig.overriddenBy keepingOverride = .ok c₂ ∧
        c₂.overriddenBy Context.lenientOverride = .ok c ∧ c₂.overriddenBy keepingOverride = .ok c₂ ∧
        c.codec.get? "strict_types" = some (.bool false) ∧
        c.logging.get? "backup_count" = some (.int 7)) ∧
      ¬ keepingOverride.ContributesRejected := by
  have hdefaults : Config.defaults.Proper := (Built.checked (d := .map []) rfl).proper
  have hlenient : Context.lenientOverride.Proper := Context.built_lenientOverride.proper
  have hkeeping : keepingOverride.Proper := by
    intro n
    cases n <;> (show (Entries.keys _).Nodup) <;> decide
  have hapart : Context.lenientOverride.SetApart keepingOverride := by
    intro n m _
    cases n with
    | codec => exact .inr rfl
    | logging => exact .inl rfl
  obtain ⟨hnothing, htwice, hcomm, hfails⟩ := overriddenBy_laws typed_singleFileConfig
  obtain ⟨c, hc, hlike, -⟩ := hnothing _ hdefaults untouched_defaults
  obtain ⟨c₁, d, h₁, h₁₂, hstrict, hcount⟩ : ∃ c₁ d,
      singleFileConfig.overriddenBy Context.lenientOverride = .ok c₁ ∧
      c₁.overriddenBy keepingOverride = .ok d ∧
      d.codec.get? "strict_types" = some (.bool false) ∧
      d.logging.get? "backup_count" = some (.int 7) := ⟨_, _, rfl, rfl, rfl, rfl⟩
  obtain ⟨c₂, h₂, h₂₁⟩ := hcomm _ _ c₁ d hlenient hkeeping hapart h₁ h₁₂
  refine ⟨typed_singleFileConfig, hdefaults, untouched_defaults, hlenient, hkeeping, hapart,
    ⟨c, hc, hlike⟩, ⟨c₁, c₂, d, h₁, h₁₂, h₂, h₂₁, htwice _ _ hkeeping h₂, hstrict, hcount⟩, ?_⟩
  intro hrejected
  obtain ⟨problems, hproblems⟩ := (hfails _ hkeeping).2 hrejected
  rw [h₂] at hproblems
  cases hproblems

end Config

end IdentityClaims
