import IdentityClaims.Config.Store
import Mathlib.Data.List.Basic

/-!
# Reading a store after it has changed

A store is sound when every section that a configuration in it has is there. Building and assigning
keep a store sound. Building changes nothing that is read, and an assignment shows where it is made
and wherever the section is shared that it is made in: `Reaches` says where. Main statements:
`Sound.read_build_of_has`, `Sound.read_of_apply`, and two ways of being apart from other
configurations, `Grown` for what is newer than a store and `Separate` for a store without any shared
section.
-/

namespace IdentityClaims

namespace Config

@[simp] theorem get_put (c : Config) (n : SectionName) (v : SectionValue) (m : SectionName) :
    (c.put n v).get m = if m = n then v else c.get m := by
  cases n <;> cases m <;> rfl

@[simp] theorem assigned_put (c : Config) (n : SectionName) (v : SectionValue) :
    (c.put n v).assigned = c.assigned := by
  cases n <;> rfl

@[simp] theorem get_assignSection (c : Config) (n : SectionName) (v : SectionValue)
    (m : SectionName) : (c.assignSection n v).get m = if m = n then v else c.get m := by
  cases n <;> cases m <;> rfl

theorem ext_get {c d : Config} (h : ∀ n, c.get n = d.get n) (ha : c.assigned = d.assigned) :
    c = d := by
  have hcodec := h .codec
  have hlogging := h .logging
  cases c
  cases d
  simp_all [get]

def applied (c : Config) (a : Assignment) : Config := (c.apply a).toOption.getD c

theorem applied_whole (c : Config) (n : SectionName) (v : SectionValue) :
    c.applied (.whole n.key v) = c.assignSection n v := by
  cases n <;> rfl

end Config

theorem SectionName.mem_all (n : SectionName) : n ∈ SectionName.all := by
  cases n <;> decide

def Assignment.Enters : Assignment → SectionName → Prop
  | inSection name _ _, n => SectionName.ofKey? name = some n
  | whole _ _, _ => False

instance : ∀ (a : Assignment) n, Decidable (a.Enters n)
  | .inSection _ _ _, _ => inferInstanceAs (Decidable (_ = _))
  | .whole _ _, _ => inferInstanceAs (Decidable False)

namespace StoredConfig

@[simp] theorem place_move (c : StoredConfig) (n : SectionName) (i : Nat) (m : SectionName) :
    (c.move n i).place m = if m = n then i else c.place m := by
  cases n <;> cases m <;> rfl

end StoredConfig

namespace SectionPart

variable {vs : List SectionValue} {part : SectionPart}

def valueIn (vs : List SectionValue) : SectionPart → SectionValue
  | own v => v
  | shared i => vs.getD i (.other .null)

theorem addTo_lt (h : part.IsIn vs) : (part.addTo vs).2 < (part.addTo vs).1.length := by
  cases part with
  | own v => simp [addTo]
  | shared i => exact h

theorem length_le_addTo (vs : List SectionValue) (part : SectionPart) :
    vs.length ≤ (part.addTo vs).1.length := by
  cases part <;> simp [addTo]

theorem getD_addTo_of_lt {i : Nat} (h : i < vs.length) (part : SectionPart) (v : SectionValue) :
    (part.addTo vs).1.getD i v = vs.getD i v := by
  cases part <;> simp [addTo, List.getElem?_append_left h]

theorem getD_addTo_self (vs : List SectionValue) (part : SectionPart) :
    (part.addTo vs).1.getD (part.addTo vs).2 (.other .null) = part.valueIn vs := by
  cases part <;> simp [addTo, valueIn]

/-- A part is none of the sections that there were. -/
def IsNewTo (vs : List SectionValue) : SectionPart → Prop
  | own _ => True
  | shared i => vs.length ≤ i

instance (vs : List SectionValue) : ∀ part, Decidable (IsNewTo vs part)
  | own _ => inferInstanceAs (Decidable True)
  | shared _ => inferInstanceAs (Decidable (_ ≤ _))

theorem IsNewTo.le_addTo {us : List SectionValue} (h : part.IsNewTo us)
    (hl : us.length ≤ vs.length) : us.length ≤ (part.addTo vs).2 := by
  cases part with
  | own v => exact hl
  | shared i => exact h

def IsOwn : SectionPart → Prop
  | own _ => True
  | shared _ => False

instance : ∀ part, Decidable (IsOwn part)
  | own _ => inferInstanceAs (Decidable True)
  | shared _ => inferInstanceAs (Decidable False)

theorem IsOwn.addTo_eq (h : part.IsOwn) (vs : List SectionValue) :
    (part.addTo vs).2 = vs.length := by
  cases part with
  | own v => rfl
  | shared i => exact absurd h id

end SectionPart

/-- A configuration is built without any section that a store has. -/
def Blueprint.IsNewTo (s : Store) (b : Blueprint) : Prop :=
  b.codec.IsNewTo s.codecs ∧ b.logging.IsNewTo s.loggings

instance (s : Store) (b : Blueprint) : Decidable (b.IsNewTo s) :=
  inferInstanceAs (Decidable (_ ∧ _))

theorem Blueprint.isNewTo_ofConfig (s : Store) (c : Config) : (ofConfig c).IsNewTo s :=
  ⟨trivial, trivial⟩

def Blueprint.IsOwn (b : Blueprint) : Prop := b.codec.IsOwn ∧ b.logging.IsOwn

instance (b : Blueprint) : Decidable b.IsOwn := inferInstanceAs (Decidable (_ ∧ _))

theorem Blueprint.isOwn_ofConfig (c : Config) : (ofConfig c).IsOwn := ⟨trivial, trivial⟩

namespace Store

variable {s t : Store} {p q : Nat} {b : Blueprint} {n : SectionName} {v : SectionValue}
  {part : SectionPart} {a : Assignment}

@[simp] theorem sections_withSections (s : Store) (n : SectionName) (vs : List SectionValue)
    (m : SectionName) : (s.withSections n vs).sections m = if m = n then vs else s.sections m := by
  cases n <;> cases m <;> rfl

@[simp] theorem configs_withSections (s : Store) (n : SectionName) (vs : List SectionValue) :
    (s.withSections n vs).configs = s.configs := by
  cases n <;> rfl

@[simp] theorem get_read (s : Store) (p : Nat) (n : SectionName) :
    (s.read p).get n = s.sectionAt n ((s.configAt p).place n) := by
  cases n <;> rfl

@[simp] theorem assigned_read (s : Store) (p : Nat) :
    (s.read p).assigned = (s.configAt p).assigned := rfl

/-- What is read at a place depends on the configuration kept there and on its sections only. -/
theorem read_congr (hc : t.configAt p = s.configAt p)
    (hs : ∀ n, t.sectionAt n ((s.configAt p).place n) = s.sectionAt n ((s.configAt p).place n)) :
    t.read p = s.read p := by
  refine Config.ext_get (fun n => ?_) ?_
  · rw [get_read, get_read, hc, hs]
  · rw [assigned_read, assigned_read, hc]

def Sound (s : Store) : Prop := ∀ p n, s.Has p → (s.configAt p).place n < (s.sections n).length

theorem not_has_empty (p : Nat) : ¬ empty.Has p := Nat.not_lt_zero p

theorem sound_empty : empty.Sound := fun p _ h => absurd h (not_has_empty p)

/-! ## Building -/

theorem has_build_iff : (s.build b).1.Has q ↔ s.Has q ∨ q = (s.build b).2 := by
  simp only [Has, build, List.length_append, List.length_singleton]
  omega

theorem not_has_build (s : Store) (b : Blueprint) : ¬ s.Has (s.build b).2 := Nat.lt_irrefl _

theorem configAt_build_of_has (h : s.Has q) : (s.build b).1.configAt q = s.configAt q := by
  simp [configAt, build, List.getElem?_append_left h]

theorem sections_build (s : Store) (b : Blueprint) (n : SectionName) :
    (s.build b).1.sections n = ((b.part n).addTo (s.sections n)).1 := by
  cases n <;> rfl

theorem length_sections_le_build (s : Store) (b : Blueprint) (n : SectionName) :
    (s.sections n).length ≤ ((s.build b).1.sections n).length := by
  rw [sections_build]
  exact SectionPart.length_le_addTo _ _

theorem place_build_self (s : Store) (b : Blueprint) (n : SectionName) :
    ((s.build b).1.configAt (s.build b).2).place n = ((b.part n).addTo (s.sections n)).2 := by
  cases n <;> simp [configAt, build, StoredConfig.place] <;> rfl

theorem isIn_of_offers (h : s.Offers b) (n : SectionName) : (b.part n).IsIn (s.sections n) := by
  cases n
  · exact h.1
  · exact h.2

theorem isNewTo_part (h : b.IsNewTo s) (n : SectionName) : (b.part n).IsNewTo (s.sections n) := by
  cases n
  · exact h.1
  · exact h.2

theorem isOwn_part (h : b.IsOwn) (n : SectionName) : (b.part n).IsOwn := by
  cases n
  · exact h.1
  · exact h.2

theorem offers_ofConfig (s : Store) (c : Config) : s.Offers (.ofConfig c) := ⟨trivial, trivial⟩

/-- What is built is read as the sections that it was built from. -/
theorem get_read_build_self (s : Store) (b : Blueprint) (n : SectionName) :
    ((s.build b).1.read (s.build b).2).get n = (b.part n).valueIn (s.sections n) := by
  rw [get_read, place_build_self, sectionAt, sections_build, SectionPart.getD_addTo_self]

@[simp] theorem read_build_self (s : Store) (c : Config) : (s.build c).1.read (s.build c).2 = c := by
  refine Config.ext_get (fun n => ?_) ?_
  · rw [get_read_build_self]
    cases n <;> rfl
  · simp [configAt, build, Blueprint.ofConfig]

theorem sectionAt_build_of_lt (b : Blueprint) {i : Nat} (h : i < (s.sections n).length) :
    (s.build b).1.sectionAt n i = s.sectionAt n i := by
  rw [sectionAt, sections_build]
  exact SectionPart.getD_addTo_of_lt h (b.part n) _

/-- Building a configuration changes none that is there. -/
theorem Sound.read_build_of_has (hs : s.Sound) (b : Blueprint) (h : s.Has q) :
    (s.build b).1.read q = s.read q :=
  read_congr (configAt_build_of_has h) fun n => sectionAt_build_of_lt b (hs q n h)

theorem Sound.build (hs : s.Sound) (hb : s.Offers b) : (s.build b).1.Sound := by
  intro q n hq
  rw [sections_build]
  rcases has_build_iff.1 hq with hq | rfl
  · rw [configAt_build_of_has hq]
    exact Nat.lt_of_lt_of_le (hs q n hq) (SectionPart.length_le_addTo _ _)
  · rw [place_build_self]
    exact SectionPart.addTo_lt (isIn_of_offers hb n)

/-! ## Writing a section -/

def Shares (s : Store) (p q : Nat) (n : SectionName) : Prop :=
  (s.configAt p).place n = (s.configAt q).place n

instance (s : Store) (p q : Nat) (n : SectionName) : Decidable (s.Shares p q n) :=
  inferInstanceAs (Decidable (_ = _))

theorem get_read_of_shares (h : s.Shares p q n) : (s.read q).get n = (s.read p).get n := by
  rw [get_read, get_read, show (s.configAt q).place n = (s.configAt p).place n from h.symm]

theorem configAt_write (s : Store) (p : Nat) (n : SectionName) (v : SectionValue) (q : Nat) :
    (s.write p n v).configAt q = s.configAt q := by
  simp [configAt, write]

theorem has_write_iff : (s.write p n v).Has q ↔ s.Has q := by
  simp [Has, write]

theorem length_sections_write (s : Store) (p : Nat) (n : SectionName) (v : SectionValue)
    (m : SectionName) : ((s.write p n v).sections m).length = (s.sections m).length := by
  by_cases hm : m = n <;> simp [write, hm]

theorem sectionAt_write {m : SectionName} {i : Nat}
    (h : (s.configAt p).place n < (s.sections n).length) :
    (s.write p n v).sectionAt m i =
      if m = n ∧ (s.configAt p).place n = i then v else s.sectionAt m i := by
  by_cases hm : m = n
  · subst hm
    by_cases hi : (s.configAt p).place m = i
    · subst hi
      simp [sectionAt, write, h]
    · simp [sectionAt, write, hi]
  · simp [sectionAt, write, hm]

theorem Sound.write (hs : s.Sound) (p : Nat) (n : SectionName) (v : SectionValue) :
    (s.write p n v).Sound := fun q m hq => by
  rw [configAt_write, length_sections_write]
  exact hs q m (has_write_iff.1 hq)

/-- A section that is changed is read as changed by all that share it. -/
theorem Sound.read_write (hs : s.Sound) (hp : s.Has p) (q : Nat) :
    (s.write p n v).read q = if s.Shares p q n then (s.read q).put n v else s.read q := by
  split
  · next h =>
      refine Config.ext_get (fun m => ?_) ?_
      · rw [get_read, configAt_write, sectionAt_write (hs p n hp), Config.get_put, get_read]
        by_cases hm : m = n
        · subst hm
          rw [if_pos ⟨rfl, h⟩, if_pos rfl]
        · rw [if_neg fun hmn => hm hmn.1, if_neg hm]
      · rw [assigned_read, configAt_write, Config.assigned_put, assigned_read]
  · next h =>
      refine read_congr (configAt_write s p n v q) fun m => ?_
      rw [sectionAt_write (hs p n hp), if_neg]
      rintro ⟨rfl, hplace⟩
      exact h hplace

/-! ## Exchanging a section -/

theorem has_exchange_iff : (s.exchange p n part).Has q ↔ s.Has q := by
  simp [Has, exchange]

theorem configAt_exchange (h : s.Has p) :
    (s.exchange p n part).configAt q =
      if q = p then (s.configAt p).move n (part.addTo (s.sections n)).2 else s.configAt q := by
  by_cases hq : p = q
  · subst hq
    have hlen : p < s.configs.length := h
    simp [configAt, exchange, hlen]
  · simp [configAt, exchange, hq, Ne.symm hq]

theorem sections_exchange (s : Store) (p : Nat) (n : SectionName) (part : SectionPart)
    (m : SectionName) : (s.exchange p n part).sections m =
      if m = n then (part.addTo (s.sections n)).1 else s.sections m :=
  sections_withSections s n (part.addTo (s.sections n)).1 m

theorem length_sections_le_exchange (s : Store) (p : Nat) (n : SectionName) (part : SectionPart)
    (m : SectionName) :
    (s.sections m).length ≤ ((s.exchange p n part).sections m).length := by
  rw [sections_exchange]
  split
  · next hm =>
      subst hm
      exact SectionPart.length_le_addTo _ _
  · exact Nat.le_refl _

theorem sectionAt_exchange_of_lt {m : SectionName} {i : Nat} (h : i < (s.sections m).length) :
    (s.exchange p n part).sectionAt m i = s.sectionAt m i := by
  rw [sectionAt, sections_exchange]
  split
  · next hm =>
      subst hm
      exact SectionPart.getD_addTo_of_lt h part _
  · rfl

theorem place_exchange (h : s.Has p) (q : Nat) (m : SectionName) :
    ((s.exchange p n part).configAt q).place m =
      if q = p ∧ m = n then (part.addTo (s.sections n)).2 else (s.configAt q).place m := by
  rw [configAt_exchange h]
  by_cases hq : q = p
  · simp [hq]
  · simp [hq]

theorem Sound.exchange (hs : s.Sound) (h : s.Has p) (hpart : part.IsIn (s.sections n)) :
    (s.exchange p n part).Sound := by
  intro q m hq
  rw [place_exchange h]
  split
  · next hnew =>
      obtain ⟨rfl, rfl⟩ := hnew
      rw [sections_exchange, if_pos rfl]
      exact SectionPart.addTo_lt hpart
  · exact Nat.lt_of_lt_of_le (hs q m (has_exchange_iff.1 hq))
      (length_sections_le_exchange s p n part m)

/-- A section that is exchanged is another one for the one configuration only. -/
theorem Sound.read_exchange (hs : s.Sound) (hp : s.Has p) (hq : s.Has q) :
    (s.exchange p n part).read q =
      if p = q then (s.read q).assignSection n (part.valueIn (s.sections n)) else s.read q := by
  split
  · next h =>
      subst h
      refine Config.ext_get (fun m => ?_) ?_
      · rw [get_read, place_exchange hp, Config.get_assignSection, get_read]
        by_cases hm : m = n
        · subst hm
          rw [if_pos ⟨rfl, rfl⟩, if_pos rfl, sectionAt, sections_exchange, if_pos rfl,
            SectionPart.getD_addTo_self]
        · rw [if_neg fun h => hm h.2, if_neg hm, sectionAt_exchange_of_lt (hs p m hp)]
      · rw [assigned_read, configAt_exchange hp, if_pos rfl]
        cases n <;> rfl
  · next hne =>
      have hc : (s.exchange p n part).configAt q = s.configAt q := by
        rw [configAt_exchange hp, if_neg (Ne.symm hne)]
      exact read_congr hc fun m => sectionAt_exchange_of_lt (hs q m hq)

/-! ## Assigning -/

/-- An assignment that is made in the configuration at `p` shows in the one at `q`: they are the
same, or a field is assigned in a section that they share. -/
def Reaches (s : Store) (p q : Nat) (a : Assignment) : Prop :=
  p = q ∨ ∃ n ∈ SectionName.all, a.Enters n ∧ s.Shares p q n

instance (s : Store) (p q : Nat) (a : Assignment) : Decidable (s.Reaches p q a) :=
  inferInstanceAs (Decidable (_ ∨ _))

/-- Configurations that share no section are not reached from each other. -/
theorem not_reaches (h : ∀ n, ¬ s.Shares p q n) (a : Assignment) : ¬ s.Reaches p q a := by
  rintro (rfl | ⟨n, -, -, hn⟩)
  · exact h .codec rfl
  · exact h n hn

theorem reaches_inSection_iff {name field : String} {value : Data}
    (hn : SectionName.ofKey? name = some n) :
    s.Reaches p q (.inSection name field value) ↔ s.Shares p q n := by
  constructor
  · rintro (rfl | ⟨m, -, hm, h⟩)
    · rfl
    · obtain rfl := Option.some.inj (hn.symm.trans hm)
      exact h
  · exact fun h => .inr ⟨n, SectionName.mem_all n, hn, h⟩

theorem reaches_whole_iff {name : String} : s.Reaches p q (.whole name v) ↔ p = q :=
  or_iff_left fun ⟨_, _, h, _⟩ => h

/-- An assignment changes a section, exchanges one, or does nothing. -/
theorem apply_cases (h : s.apply p a = .ok t) :
    (∃ n v, t = s.write p n v) ∨ (∃ n v, t = s.exchange p n (.own v)) ∨ t = s := by
  cases a with
  | inSection name field value =>
      cases hn : SectionName.ofKey? name with
      | none => simp [apply, hn] at h
      | some n =>
          simp only [apply, hn] at h
          obtain ⟨v, -, rfl⟩ := Checked.map_eq_ok_iff.1 h
          exact .inl ⟨n, v, rfl⟩
  | whole name v =>
      cases hn : SectionName.ofKey? name with
      | some n =>
          simp only [apply, hn, Except.ok.injEq] at h
          exact .inr (.inl ⟨n, v, h.symm⟩)
      | none =>
          simp only [apply, hn] at h
          obtain ⟨u, -, rfl⟩ := Checked.map_eq_ok_iff.1 h
          exact .inr (.inr rfl)

theorem has_iff_of_apply (h : s.apply p a = .ok t) : t.Has q ↔ s.Has q := by
  obtain ⟨n, v, rfl⟩ | ⟨n, v, rfl⟩ | rfl := apply_cases h
  · exact has_write_iff
  · exact has_exchange_iff
  · exact Iff.rfl

theorem Sound.of_apply (hs : s.Sound) (hp : s.Has p) (h : s.apply p a = .ok t) : t.Sound := by
  obtain ⟨n, v, rfl⟩ | ⟨n, v, rfl⟩ | rfl := apply_cases h
  · exact hs.write p n v
  · exact hs.exchange hp trivial
  · exact hs

/-- What an assignment does in one configuration, it does in all that it reaches. -/
theorem Sound.read_of_apply (hs : s.Sound) (hp : s.Has p) (hq : s.Has q)
    (h : s.apply p a = .ok t) :
    t.read q = if s.Reaches p q a then (s.read q).applied a else s.read q := by
  cases a with
  | inSection name field value =>
      cases hn : SectionName.ofKey? name with
      | none => simp [apply, hn] at h
      | some n =>
          simp only [apply, hn] at h
          obtain ⟨v, hv, rfl⟩ := Checked.map_eq_ok_iff.1 h
          rw [hs.read_write hp]
          by_cases hshares : s.Shares p q n
          · rw [if_pos hshares, if_pos ((reaches_inSection_iff hn).2 hshares)]
            rw [← get_read_of_shares hshares] at hv
            simp only [Config.applied, Config.apply, Config.assignIn, hn, Config.assignField, hv]
            rfl
          · rw [if_neg hshares, if_neg (mt (reaches_inSection_iff hn).1 hshares)]
  | whole name v =>
      cases hn : SectionName.ofKey? name with
      | some n =>
          simp only [apply, hn, Except.ok.injEq] at h
          subst h
          rw [hs.read_exchange hp hq]
          refine if_congr reaches_whole_iff.symm ?_ rfl
          simp only [Config.applied, Config.apply, Config.assignWhole, hn]
          rfl
      | none =>
          simp only [apply, hn] at h
          obtain ⟨u, hu, rfl⟩ := Checked.map_eq_ok_iff.1 h
          simp [Config.applied, Config.apply, Config.assignWhole, hn, hu, Except.map,
            Except.toOption]

/-- What is refused in one configuration, does nothing in any that it reaches. -/
theorem applied_of_refused {e : AssignError} (h : s.apply p a = .error e)
    (hr : s.Reaches p q a) : (s.read q).applied a = s.read q := by
  suffices hq : (s.read q).apply a = .error e by
    rw [Config.applied, hq]
    rfl
  cases a with
  | inSection name field value =>
      cases hn : SectionName.ofKey? name with
      | none => simpa [apply, Config.apply, Config.assignIn, hn] using h
      | some n =>
          simp only [apply, hn] at h
          rw [← get_read_of_shares ((reaches_inSection_iff hn).1 hr)] at h
          simp only [Config.apply, Config.assignIn, hn, Config.assignField]
          exact Checked.map_eq_error_iff.2 (Checked.map_eq_error_iff.1 h)
  | whole name v =>
      obtain rfl := reaches_whole_iff.1 hr
      cases hn : SectionName.ofKey? name with
      | some n => simp [apply, hn] at h
      | none =>
          simp only [apply, hn] at h
          simp only [Config.apply, Config.assignWhole, hn]
          exact Checked.map_eq_error_iff.2 (Checked.map_eq_error_iff.1 h)

/-! ## What is newer than a store -/

variable {r : Nat} {s₀ : Store}

/-- A store grew from another one: what was there is where it was, and the configurations that came
have sections that came with them. -/
structure Grown (s₀ s : Store) : Prop where
  has : ∀ q, s₀.Has q → s.Has q
  length_le : ∀ n, (s₀.sections n).length ≤ (s.sections n).length
  old : ∀ q, s₀.Has q → s.configAt q = s₀.configAt q
  new : ∀ q n, s.Has q → ¬ s₀.Has q → (s₀.sections n).length ≤ (s.configAt q).place n

namespace Grown

theorem refl (s : Store) : s.Grown s where
  has _ h := h
  length_le _ := Nat.le_refl _
  old _ _ := rfl
  new _ _ h h' := absurd h h'

theorem build (h : s₀.Grown s) (hb : b.IsNewTo s₀) : s₀.Grown (s.build b).1 where
  has q hq := has_build_iff.2 (.inl (h.has q hq))
  length_le n := Nat.le_trans (h.length_le n) (length_sections_le_build s b n)
  old q hq := by rw [configAt_build_of_has (h.has q hq), h.old q hq]
  new q n hq hnew := by
    rcases has_build_iff.1 hq with hq | rfl
    · rw [configAt_build_of_has hq]
      exact h.new q n hq hnew
    · rw [place_build_self]
      exact (isNewTo_part hb n).le_addTo (h.length_le n)

theorem write (h : s₀.Grown s) (p : Nat) (n : SectionName) (v : SectionValue) :
    s₀.Grown (s.write p n v) where
  has q hq := has_write_iff.2 (h.has q hq)
  length_le m := by
    rw [length_sections_write]
    exact h.length_le m
  old q hq := by rw [configAt_write, h.old q hq]
  new q m hq hnew := by
    rw [configAt_write]
    exact h.new q m (has_write_iff.1 hq) hnew

theorem exchange (h : s₀.Grown s) (hp : s.Has p) (hnew : ¬ s₀.Has p) {part : SectionPart}
    (hpart : part.IsNewTo (s₀.sections n)) : s₀.Grown (s.exchange p n part) where
  has q hq := has_exchange_iff.2 (h.has q hq)
  length_le m := Nat.le_trans (h.length_le m) (length_sections_le_exchange s p n part m)
  old q hq := by
    have hne : q ≠ p := fun hqp => hnew (hqp ▸ hq)
    rw [configAt_exchange hp, if_neg hne, h.old q hq]
  new q m hq hq' := by
    rw [place_exchange hp]
    split
    · next hqm =>
        obtain ⟨rfl, rfl⟩ := hqm
        exact hpart.le_addTo (h.length_le m)
    · exact h.new q m (has_exchange_iff.1 hq) hq'

theorem of_apply (h : s₀.Grown s) (hp : s.Has p) (hnew : ¬ s₀.Has p) (ha : s.apply p a = .ok t) :
    s₀.Grown t := by
  obtain ⟨n, v, rfl⟩ | ⟨n, v, rfl⟩ | rfl := apply_cases ha
  · exact h.write p n v
  · exact h.exchange hp hnew trivial
  · exact h

/-- What came shares nothing with what was there. -/
theorem not_shares (h : s₀.Grown s) (hs : s₀.Sound) (hq : s.Has q) (hnew : ¬ s₀.Has q)
    (hr : s₀.Has r) (n : SectionName) : ¬ s.Shares q r n := by
  have hold := hs r n hr
  have hplace := h.new q n hq hnew
  rw [Shares, h.old r hr]
  omega

end Grown

/-! ## Stores without shared sections -/

/-- No section belongs to two configurations. -/
def Separate (s : Store) : Prop := ∀ p q n, s.Has p → s.Has q → s.Shares p q n → p = q

namespace Separate

theorem reaches_iff (h : s.Separate) (hp : s.Has p) (hq : s.Has q) : s.Reaches p q a ↔ p = q :=
  or_iff_left_of_imp fun ⟨n, _, _, hn⟩ => h p q n hp hq hn

theorem build (h : s.Separate) (hs : s.Sound) (hb : b.IsOwn) : (s.build b).1.Separate := by
  intro p q n hp hq hshares
  rw [Shares] at hshares
  have hnew := (isOwn_part hb n).addTo_eq (s.sections n)
  rcases has_build_iff.1 hp with hp | rfl <;> rcases has_build_iff.1 hq with hq | rfl
  · rw [configAt_build_of_has hp, configAt_build_of_has hq] at hshares
    exact h p q n hp hq hshares
  · have := hs p n hp
    rw [configAt_build_of_has hp, place_build_self] at hshares
    omega
  · have := hs q n hq
    rw [configAt_build_of_has hq, place_build_self] at hshares
    omega
  · rfl

theorem write (h : s.Separate) (p : Nat) (n : SectionName) (v : SectionValue) :
    (s.write p n v).Separate := by
  intro q r m hq hr hshares
  rw [Shares, configAt_write, configAt_write] at hshares
  exact h q r m (has_write_iff.1 hq) (has_write_iff.1 hr) hshares

theorem exchange (h : s.Separate) (hs : s.Sound) (hp : s.Has p) (hpart : part.IsOwn) :
    (s.exchange p n part).Separate := by
  intro q r m hq hr hshares
  have hq := has_exchange_iff.1 hq
  have hr := has_exchange_iff.1 hr
  have hqb := hs q m hq
  have hrb := hs r m hr
  rw [Shares, place_exchange hp, place_exchange hp, hpart.addTo_eq] at hshares
  -- the new section has a place that none had, so two places are both the new one or both old
  by_cases hnew : q = p ∧ m = n <;> by_cases hnew' : r = p ∧ m = n
  · exact hnew.1.trans hnew'.1.symm
  · rw [if_pos hnew, if_neg hnew'] at hshares
    obtain ⟨-, rfl⟩ := hnew
    omega
  · rw [if_neg hnew, if_pos hnew'] at hshares
    obtain ⟨-, rfl⟩ := hnew'
    omega
  · rw [if_neg hnew, if_neg hnew'] at hshares
    exact h q r m hq hr hshares

theorem of_apply (h : s.Separate) (hs : s.Sound) (hp : s.Has p) (ha : s.apply p a = .ok t) :
    t.Separate := by
  obtain ⟨n, v, rfl⟩ | ⟨n, v, rfl⟩ | rfl := apply_cases ha
  · exact h.write p n v
  · exact h.exchange hs hp trivial
  · exact h

end Separate

end Store

end IdentityClaims
