import IdentityClaims.Proofs.Values.Rearrangement

/-!
# Values of a record type

A record travels as a map by key, from which the null members may be left out. The lemmas here say
when such a map, in whatever order its entries come, is checked to be the record again: the members
have names and keys of their own, and where null is left out, null is what a missing member gets.
-/

namespace IdentityClaims

namespace RecordType

def memberKeys (t : RecordType) : List String := t.members.map Member.key

structure WellFormed (t : RecordType) : Prop where
  names : (t.members.map Member.name).Nodup
  keys : t.memberKeys.Nodup

/-- A record type whose records survive the loss of their null members: a member that may be null
is null when it is missing, and it is not found under the key of another member either. -/
structure RestoresNull (t : RecordType) : Prop where
  default : ∀ m ∈ t.members, m.shape.Admits .null → m.default? = some .null
  byName : t.byName = true → ∀ m ∈ t.members, ∀ m' ∈ t.members, m.name = m'.key → m = m'
  extras : t.extras ≠ .kept

structure Holds (num : Binary64 → Prop) (t : RecordType) (r : Record) : Prop where
  type : r.type = t
  named : r.values.map Prod.fst = t.members.map Member.name
  admitted : ∀ m ∈ t.members, ∀ v, r.get? m.name = some v →
    m.shape.Admits v ∧ Data.JsonOver num v
  distinct : (pairKeys r.extras).Nodup
  extras : ∀ e ∈ r.extras, e.1 ∉ t.memberKeys ∧ Data.JsonOver num e.2
  kept : t.extras ≠ .kept → r.extras = []

end RecordType

def Record.carried (r : Record) (keepNull : Bool) : List TextPair :=
  r.travelling.filter fun e => keepNull || !e.2.isNull

theorem Record.portable_eq_carried (r : Record) (keepNull : Bool) :
    r.portable keepNull =
      (Data.portableEntries (textPairs (r.carried keepNull))).map .ofPairs := by
  refine congrArg (fun es => (Data.portableEntries (textPairs es)).map Data.ofPairs)
    (List.filter_congr fun e _ => ?_)
  cases e.2 <;> simp [Data.isNull]

namespace RecordType

variable {num : Binary64 → Prop} {t : RecordType} {r : Record} {keepNull : Bool}

theorem Holds.exists_values (h : t.Holds num r) (hw : t.WellFormed) :
    ∃ val : Member → Data, r.values = t.members.map (fun m => (m.name, val m)) ∧
      ∀ m ∈ t.members, r.get? m.name = some (val m) ∧ m.shape.Admits (val m) ∧
        Data.JsonOver num (val m) := by
  have hkeys : Entries.keys r.values = t.members.map Member.name := h.named
  have hval := Entries.eq_map_get? (hkeys ▸ hw.names) Data.null
  rw [hkeys, List.map_map] at hval
  refine ⟨fun m => (r.get? m.name).getD .null, hval, fun m hm => ?_⟩
  cases hg : r.get? m.name with
  | none =>
      have hmem : m.name ∈ Entries.keys r.values := hkeys ▸ List.mem_map_of_mem hm
      exact absurd hmem ((Entries.get?_eq_none_iff _ _).1 hg)
  | some v =>
      simp only [hg, Option.getD_some, true_and]
      exact h.admitted m hm v hg

section Travelling

variable {val : Member → Data}

theorem travelling_eq (h : t.Holds num r)
    (hval : ∀ m ∈ t.members, r.get? m.name = some (val m)) :
    r.travelling = t.members.map (fun m => (m.key, val m)) ++ r.extras := by
  rw [Record.travelling, h.type, ← List.filterMap_eq_map]
  congr 1
  exact List.filterMap_congr fun m hm => by simp [hval m hm]

theorem nodup_travelling (h : t.Holds num r) (hw : t.WellFormed)
    (hval : ∀ m ∈ t.members, r.get? m.name = some (val m)) :
    (pairKeys r.travelling).Nodup := by
  have hmembers : (t.members.map fun m => (m.key, val m)).map Prod.fst = t.memberKeys := by
    simp [memberKeys, Function.comp_def]
  rw [travelling_eq h hval, pairKeys, List.map_append, List.nodup_append, hmembers]
  refine ⟨hw.keys, h.distinct, fun k hk k' hk' hkk => ?_⟩
  obtain ⟨e, he, rfl⟩ := List.mem_map.1 hk'
  exact (h.extras e he).1 (hkk ▸ hk)

theorem jsonOver_travelling (h : t.Holds num r)
    (hval : ∀ m ∈ t.members, r.get? m.name = some (val m)) {e : TextPair}
    (he : e ∈ r.travelling) : Data.JsonOver num e.2 := by
  rw [travelling_eq h hval, List.mem_append] at he
  rcases he with he | he
  · obtain ⟨m, hm, rfl⟩ := List.mem_map.1 he
    exact (h.admitted m hm _ (hval m hm)).2
  · exact (h.extras e he).2

theorem mem_carried_iff (h : t.Holds num r) (hw : t.WellFormed)
    (hval : ∀ m ∈ t.members, r.get? m.name = some (val m)) {m : Member} (hm : m ∈ t.members) :
    m.key ∈ pairKeys (r.carried keepNull) ↔ (m.key, val m) ∈ r.carried keepNull := by
  refine ⟨fun hk => ?_, mem_pairKeys_of_mem⟩
  obtain ⟨e, he, hek⟩ := List.mem_map.1 hk
  have htravel : (m.key, val m) ∈ r.travelling := by
    rw [travelling_eq h hval, List.mem_append]
    exact .inl (List.mem_map_of_mem hm)
  have hee : e = (m.key, val m) :=
    Prod.ext hek (value_unique (nodup_travelling h hw hval)
      (hek ▸ (List.mem_filter.1 he).1 : (m.key, e.2) ∈ r.travelling) htravel)
  exact hee ▸ he

theorem val_eq_null_of_not_mem (h : t.Holds num r)
    (hval : ∀ m ∈ t.members, r.get? m.name = some (val m)) {m : Member} (hm : m ∈ t.members)
    (hk : (m.key, val m) ∉ r.carried keepNull) : keepNull = false ∧ val m = .null := by
  have htravel : (m.key, val m) ∈ r.travelling := by
    rw [travelling_eq h hval, List.mem_append]
    exact .inl (List.mem_map_of_mem hm)
  have hdrop : ¬ (keepNull || !(val m).isNull) = true := fun hc =>
    hk (List.mem_filter.2 ⟨htravel, hc⟩)
  cases hv : val m <;> simp_all [Data.isNull]

theorem key_of_mem_carried (h : t.Holds num r)
    (hval : ∀ m ∈ t.members, r.get? m.name = some (val m)) {k : String}
    (hk : k ∈ pairKeys (r.carried keepNull)) : k ∈ t.memberKeys ∨ k ∈ pairKeys r.extras := by
  obtain ⟨e, he, rfl⟩ := List.mem_map.1 hk
  have htravel := (List.mem_filter.1 he).1
  rw [travelling_eq h hval, List.mem_append] at htravel
  rcases htravel with htravel | htravel
  · obtain ⟨m, hm, rfl⟩ := List.mem_map.1 htravel
    exact .inl (List.mem_map_of_mem hm)
  · exact .inr (mem_pairKeys_of_mem htravel)

end Travelling

theorem Holds.nodup_carried (h : t.Holds num r) (hw : t.WellFormed) (keepNull : Bool) :
    (pairKeys (r.carried keepNull)).Nodup := by
  obtain ⟨val, -, hval⟩ := h.exists_values hw
  exact nodup_pairKeys_filter (nodup_travelling h hw fun m hm => (hval m hm).1)

theorem Holds.jsonOver_carried (h : t.Holds num r) (hw : t.WellFormed) {e : TextPair}
    (he : e ∈ r.carried keepNull) : Data.JsonOver num e.2 := by
  obtain ⟨val, -, hval⟩ := h.exists_values hw
  exact jsonOver_travelling h (fun m hm => (hval m hm).1) (List.mem_filter.1 he).1

theorem Holds.portable_eq (h : t.Holds num r) (hw : t.WellFormed)
    (hnum : ∀ x, num x → x.magnitude?.isSome = true) (keepNull : Bool) :
    r.portable keepNull = .ok (.ofEntries (r.carried keepNull)) := by
  have hport : ∀ e ∈ r.carried keepNull, e.2.portable = .ok e.2 := fun e he =>
    Data.IsJson.portable_eq ((h.jsonOver_carried hw he).imp hnum)
  rw [Record.portable_eq_carried, Data.portableEntries_eq_self hport]
  exact congrArg Except.ok (ofPairs_textPairs_of_nodup (h.nodup_carried hw keepNull))

theorem unused_textPairs (t : RecordType) (ps : List TextPair) :
    t.unused (textPairs ps) =
      textPairs (ps.filter fun e => e.1 ∉ t.usedKeys (textPairs ps)) := by
  rw [unused, textPairs, List.filter_map]
  exact congrArg textPairs (List.filter_congr fun e _ => by simp)

section Check

variable {f : Data → Data} {ps : List TextPair} {val : Member → Data} {mode : Strictness}

/-- How the entries that a record travels as give a member: under its own key, or not at all if it
is null. -/
theorem find?_carried (h : t.Holds num r) (hw : t.WellFormed)
    (hval : ∀ m ∈ t.members, r.get? m.name = some (val m))
    (hps : ps.Perm (mapValues f (r.carried keepNull))) (hk : keepNull = true ∨ t.RestoresNull)
    {m : Member} (hm : m ∈ t.members) :
    m.key ∈ pairKeys ps ∧ m.find? t.byName (textPairs ps) = some (m.key, f (val m)) ∨
      m.key ∉ pairKeys ps ∧ m.find? t.byName (textPairs ps) = none ∧ val m = .null ∧
        m.default? = some .null := by
  have hkeys : ∀ k, k ∈ pairKeys ps ↔ k ∈ pairKeys (r.carried keepNull) := fun k => by
    rw [(pairKeys_perm hps).mem_iff, pairKeys_mapValues]
  have hnodup := nodup_of_perm_mapValues hps (h.nodup_carried hw keepNull)
  by_cases hmem : (m.key, val m) ∈ r.carried keepNull
  · have hv : (m.key, f (val m)) ∈ ps := hps.mem_iff.2 (mem_mapValues_of_mem hmem)
    refine .inl ⟨mem_pairKeys_of_mem hv, ?_⟩
    rw [Member.find?, (valueOf?_eq_some_iff hnodup).2 hv]
  · obtain ⟨hkeep, hnull⟩ := val_eq_null_of_not_mem h hval hm hmem
    have hd : t.RestoresNull := hk.resolve_left (by simp [hkeep])
    have hnk : m.key ∉ pairKeys ps := by
      rw [hkeys, mem_carried_iff h hw hval hm]
      exact hmem
    refine .inr ⟨hnk, ?_, hnull, hd.default m hm ?_⟩
    · rw [Member.find?, valueOf?_eq_none_iff.2 hnk]
      by_cases hb : t.byName = true
      · have hname : m.name ∉ pairKeys ps := by
          intro hn
          rcases key_of_mem_carried h hval ((hkeys _).1 hn) with hc | hc
          · obtain ⟨m', hm', hmm⟩ := List.mem_map.1 hc
            have hsame := hd.byName hb m hm m' hm' hmm.symm
            rw [← hmm, ← hsame] at hn
            exact hnk hn
          · simp [h.kept hd.extras, pairKeys] at hc
        simp [hb, valueOf?_eq_none_iff.2 hname]
      · simp [hb]
    · exact hnull ▸ (h.admitted m hm _ (hval m hm)).1

/-- The members are given under their own keys, as far as the entries have them. -/
theorem usedKeys_carried (h : t.Holds num r) (hw : t.WellFormed)
    (hval : ∀ m ∈ t.members, r.get? m.name = some (val m))
    (hps : ps.Perm (mapValues f (r.carried keepNull))) (hk : keepNull = true ∨ t.RestoresNull)
    {k : String} (hkp : k ∈ pairKeys ps) :
    k ∈ t.usedKeys (textPairs ps) ↔ k ∈ t.memberKeys := by
  rw [usedKeys, List.mem_filterMap, memberKeys, List.mem_map]
  constructor
  · rintro ⟨m, hm, hfind⟩
    rcases find?_carried h hw hval hps hk hm with ⟨-, hf⟩ | ⟨-, hf, -⟩
    · exact ⟨m, hm, by simpa [hf] using hfind⟩
    · simp [hf] at hfind
  · rintro ⟨m, hm, rfl⟩
    rcases find?_carried h hw hval hps hk hm with ⟨-, hf⟩ | ⟨hn, -⟩
    · exact ⟨m, hm, by simp [hf]⟩
    · exact absurd hkp hn

theorem unused_carried (h : t.Holds num r) (hw : t.WellFormed)
    (hval : ∀ m ∈ t.members, r.get? m.name = some (val m))
    (hps : ps.Perm (mapValues f (r.carried keepNull))) (hk : keepNull = true ∨ t.RestoresNull) :
    t.unused (textPairs ps) = textPairs (ps.filter fun e => e.1 ∉ t.memberKeys) := by
  rw [unused_textPairs]
  refine congrArg textPairs (List.filter_congr fun e he => ?_)
  rw [decide_eq_decide, usedKeys_carried h hw hval hps hk (mem_pairKeys_of_mem he)]

theorem checkMember_carried (h : t.Holds num r) (hw : t.WellFormed) (hf : Data.Rearranging f)
    (hval : ∀ m ∈ t.members, r.get? m.name = some (val m))
    (hps : ps.Perm (mapValues f (r.carried keepNull))) (hk : keepNull = true ∨ t.RestoresNull)
    {m : Member} (hm : m ∈ t.members) :
    m.check mode t.byName (textPairs ps) = .ok (m.name, f (val m)) := by
  obtain ⟨hadm, hjson⟩ := h.admitted m hm _ (hval m hm)
  rcases find?_carried h hw hval hps hk hm with ⟨-, hfind⟩ | ⟨-, hfind, hnull, hdefault⟩
  · have hcheck := (hf.admits hjson hadm).check_eq mode
    simp [Member.check, hfind, hcheck, Checked.within, Except.map]
  · simp [Member.check, hfind, hdefault, hnull, hf.null]

theorem no_extras_carried (h : t.Holds num r)
    (hval : ∀ m ∈ t.members, r.get? m.name = some (val m))
    (hps : ps.Perm (mapValues f (r.carried keepNull))) (hkept : t.extras ≠ .kept) :
    (ps.filter fun e => e.1 ∉ t.memberKeys) = [] := by
  rw [List.filter_eq_nil_iff]
  intro e he hc
  have hkey : e.1 ∈ pairKeys (r.carried keepNull) := by
    rw [← pairKeys_mapValues (f := f), ← (pairKeys_perm hps).mem_iff]
    exact mem_pairKeys_of_mem he
  rcases key_of_mem_carried h hval hkey with hmk | hx
  · simp [hmk] at hc
  · simp [h.kept hkept, pairKeys] at hx

theorem checkExtras_carried (h : t.Holds num r) (hw : t.WellFormed)
    (hval : ∀ m ∈ t.members, r.get? m.name = some (val m))
    (hps : ps.Perm (mapValues f (r.carried keepNull))) (hk : keepNull = true ∨ t.RestoresNull) :
    t.checkExtras (textPairs ps) = .ok (ps.filter fun e => e.1 ∉ t.memberKeys) := by
  by_cases hkept : t.extras = .kept
  · have hunused := unused_carried h hw hval hps hk
    simp only [checkExtras, hkept, reduceCtorEq, if_false, hunused]
    rw [textPairs, List.map_map, Checked.all_map_eq_ok_iff, List.forall₂_same]
    intro e _
    simp [checkExtra, hkept]
  · have hnone := no_extras_carried h hval hps hkept
    by_cases hd : t.extras = .dropped
    · rw [checkExtras, if_pos hd, hnone]
    · rw [checkExtras, if_neg hd, unused_carried h hw hval hps hk, hnone]
      rfl

end Check

/-- What a record travels as, rearranged, is checked to be the record with rearranged values. The
extra keys come as the entries list them. -/
theorem Holds.check_carried {f : Data → Data} {ps : List TextPair} (h : t.Holds num r)
    (hw : t.WellFormed) (hf : Data.Rearranging f)
    (hps : ps.Perm (mapValues f (r.carried keepNull))) (hk : keepNull = true ∨ t.RestoresNull)
    (mode : Strictness) :
    t.check mode (.ofEntries ps) = .ok
      { type := t
        values := mapValues f r.values
        extras := ps.filter fun e => e.1 ∉ t.memberKeys } := by
  obtain ⟨val, hvals, hval⟩ := h.exists_values hw
  have hget : ∀ m ∈ t.members, r.get? m.name = some (val m) := fun m hm => (hval m hm).1
  have hmembers : Checked.all (t.members.map fun m => m.check mode t.byName (textPairs ps)) =
      .ok (mapValues f r.values) := by
    rw [hvals, mapValues, List.map_map, Checked.all_map_eq_ok_iff, List.forall₂_map_right_iff,
      List.forall₂_same]
    exact fun m hm => checkMember_carried h hw hf hget hps hk hm
  have hextras := checkExtras_carried h hw hget hps hk
  rw [ofEntries_eq, check, checkEntries, hmembers, hextras]
  rfl

/-- With null members, what a record travels as besides its members are its extra keys. -/
theorem Holds.filter_carried (h : t.Holds num r) (hw : t.WellFormed) :
    ((r.carried true).filter fun e => e.1 ∉ t.memberKeys) = r.extras := by
  obtain ⟨val, -, hval⟩ := h.exists_values hw
  have hextras : ∀ e ∈ r.extras, decide (e.1 ∉ t.memberKeys) = true := fun e he =>
    decide_eq_true (h.extras e he).1
  have hmembers : ∀ e ∈ t.members.map (fun m => (m.key, val m)),
      ¬ decide (e.1 ∉ t.memberKeys) = true := by
    intro e he
    obtain ⟨m, hm, rfl⟩ := List.mem_map.1 he
    have hk : m.key ∈ t.memberKeys := List.mem_map_of_mem hm
    simp [hk]
  have hcarried : r.carried true = r.travelling := by simp [Record.carried]
  rw [hcarried, travelling_eq h fun m hm => (hval m hm).1, List.filter_append,
    List.filter_eq_nil_iff.2 hmembers, List.filter_eq_self.2 hextras, List.nil_append]

theorem Holds.same_of_perm {f : Data → Data} {es : List TextPair} (h : t.Holds num r)
    (hw : t.WellFormed) (hf : Data.Rearranging f) (hnum : ∀ x, num x → x.magnitude?.isSome = true)
    (hes : es.Perm (mapValues f r.extras)) :
    Record.same { type := r.type, values := mapValues f r.values, extras := es } r = true := by
  obtain ⟨val, hvals, hval⟩ := h.exists_values hw
  have hsame : ∀ {d : Data}, Data.JsonOver num d → (f d).same d = true := fun hd =>
    hf.same (hd.imp hnum)
  have hvalues : ∀ e ∈ r.values, (f e.2).same e.2 = true := by
    intro e he
    rw [hvals] at he
    obtain ⟨m, hm, rfl⟩ := List.mem_map.1 he
    exact hsame (hval m hm).2.2
  have hextras : ∀ e ∈ r.extras, (f e.2).same e.2 = true := fun e he => hsame (h.extras e he).2
  simp only [Record.same, ofEntries_eq, Data.same_map_of_perm (.refl _) hvalues,
    Data.same_map_of_perm hes hextras, Bool.and_true, beq_self_eq_true]

/-! ## What a check returns -/

/-- The defaults of the members are values of their own shapes. -/
def AdmitsDefaults (num : Binary64 → Prop) (t : RecordType) : Prop :=
  ∀ m ∈ t.members, ∀ v, m.default? = some v → m.shape.Admits v ∧ Data.JsonOver num v

section Returned

variable {mode : Strictness} {pairs : List TextPair}

theorem name_of_checkMember {m : Member} {byName : Bool} {entries : List (Data × Data)}
    {e : String × Data} (h : m.check mode byName entries = .ok e) : e.1 = m.name := by
  rw [Member.check] at h
  cases hf : m.find? byName entries with
  | none =>
      cases hd : m.default? with
      | none => simp [hf, hd, Checked.within, Checked.fail] at h
      | some v =>
          simp only [hf, hd, Except.ok.injEq] at h
          rw [← h]
  | some kv =>
      simp only [hf, Checked.map_eq_ok_iff] at h
      obtain ⟨v, -, rfl⟩ := h
      rfl

theorem mem_of_find? {m : Member} {byName : Bool} {kv : TextPair}
    (h : m.find? byName (textPairs pairs) = some kv) : kv ∈ pairs := by
  rw [Member.find?] at h
  cases hk : Data.valueOf? (textPairs pairs) m.key with
  | some v =>
      simp only [hk, Option.some.injEq] at h
      exact h ▸ mem_of_valueOf? hk
  | none =>
      simp only [hk, ite_eq_iff, Option.map_eq_some_iff, reduceCtorEq, and_false, or_false] at h
      obtain ⟨-, v, hv, rfl⟩ := h
      exact mem_of_valueOf? hv

theorem admitted_of_checkMember (hd : t.AdmitsDefaults num) (hj : ∀ e ∈ pairs, Data.JsonOver num e.2)
    {m : Member} (hm : m ∈ t.members) {e : String × Data}
    (h : m.check mode t.byName (textPairs pairs) = .ok e) :
    m.shape.Admits e.2 ∧ Data.JsonOver num e.2 := by
  rw [Member.check] at h
  cases hf : m.find? t.byName (textPairs pairs) with
  | none =>
      cases hdef : m.default? with
      | none => simp [hf, hdef, Checked.within, Checked.fail] at h
      | some v =>
          simp only [hf, hdef, Except.ok.injEq] at h
          exact h ▸ hd m hm v hdef
  | some kv =>
      simp only [hf, Checked.map_eq_ok_iff, Checked.within_eq_ok_iff] at h
      obtain ⟨v, hv, rfl⟩ := h
      exact ⟨Shape.admits_of_check hv, Shape.jsonOver_of_check hv (hj kv (mem_of_find? hf))⟩

theorem mem_usedKeys_of_memberKeys {k : String} (hk : k ∈ t.memberKeys) (hp : k ∈ pairKeys pairs) :
    k ∈ t.usedKeys (textPairs pairs) := by
  obtain ⟨m, hm, rfl⟩ := List.mem_map.1 hk
  refine List.mem_filterMap.2 ⟨m, hm, ?_⟩
  rw [Member.find?]
  cases hv : Data.valueOf? (textPairs pairs) m.key with
  | none => exact absurd hp (valueOf?_eq_none_iff.1 hv)
  | some v => rfl

/-- The extra keys that a check returns: those that give no member, where such keys are kept. -/
theorem extras_of_checkExtras {es : Entries String Data}
    (h : t.checkExtras (textPairs pairs) = .ok es) :
    es = [] ∨ t.extras = .kept ∧ es = pairs.filter fun e => e.1 ∉ t.usedKeys (textPairs pairs) := by
  cases hx : t.extras with
  | dropped =>
      simp only [checkExtras, hx, if_true, Except.ok.injEq] at h
      exact .inl h.symm
  | refused =>
      simp only [checkExtras, hx, reduceCtorEq, if_false, unused_textPairs] at h
      rw [textPairs, List.map_map, Checked.all_map_eq_ok_iff] at h
      generalize (pairs.filter fun e => e.1 ∉ t.usedKeys (textPairs pairs)) = qs at h
      cases h with
      | nil => exact .inl rfl
      | cons hef _ => simp [checkExtra, hx, Checked.fail, Checked.within] at hef
  | kept =>
      simp only [checkExtras, hx, reduceCtorEq, if_false, unused_textPairs] at h
      rw [textPairs, List.map_map, Checked.all_map_eq_ok_iff] at h
      refine .inr ⟨rfl, ?_⟩
      rw [eq_comm, ← List.forall₂_eq_eq_eq]
      exact h.imp fun e f hef => by simpa [checkExtra, hx] using hef

theorem holds_of_check (hw : t.WellFormed) (hd : t.AdmitsDefaults num)
    (hn : (pairKeys pairs).Nodup) (hj : ∀ e ∈ pairs, Data.JsonOver num e.2)
    (h : t.check mode (.map (textPairs pairs)) = .ok r) : t.Holds num r := by
  rw [check, checkEntries, Checked.map_eq_ok_iff] at h
  obtain ⟨⟨values, extras⟩, hboth, rfl⟩ := h
  obtain ⟨hvalues, hextras⟩ := Checked.both_eq_ok_iff.1 hboth
  rw [Checked.all_map_eq_ok_iff] at hvalues
  have hextra : ∀ e ∈ extras, e ∈ pairs ∧ e.1 ∉ t.memberKeys := by
    intro e he
    rcases extras_of_checkExtras hextras with rfl | ⟨-, rfl⟩
    · cases he
    · obtain ⟨hep, hused⟩ := List.mem_filter.1 he
      exact ⟨hep, fun hk => of_decide_eq_true hused
        (mem_usedKeys_of_memberKeys hk (mem_pairKeys_of_mem hep))⟩
  refine ⟨rfl, ?_, fun m hm v hv => ?_, ?_, fun e he => ?_, fun hkept => ?_⟩
  · rw [← List.forall₂_eq_eq_eq, List.forall₂_map_left_iff, List.forall₂_map_right_iff]
    exact (hvalues.imp fun m e hme => name_of_checkMember hme).flip
  · obtain ⟨m', hm', hcheck⟩ := exists_of_forall₂ hvalues _ (Entries.mem_of_get? hv)
    have hmm : m' = m :=
      List.inj_on_of_nodup_map hw.names hm' hm (name_of_checkMember hcheck).symm
    exact admitted_of_checkMember hd hj hm (hmm ▸ hcheck)
  · rcases extras_of_checkExtras hextras with rfl | ⟨-, rfl⟩
    · exact .nil
    · exact nodup_pairKeys_filter hn
  · exact ⟨(hextra e he).2, hj e (hextra e he).1⟩
  · rcases extras_of_checkExtras hextras with rfl | ⟨hkeep, -⟩
    · rfl
    · exact absurd hkeep hkept

end Returned

end RecordType

end IdentityClaims
