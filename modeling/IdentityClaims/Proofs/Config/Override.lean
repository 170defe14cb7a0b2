import IdentityClaims.Proofs.Config.Blocks
import IdentityClaims.Proofs.Config.Merged

/-!
# What an override sets

Inside a block, a field has the value that the override gives it, once that is checked, and the
value it had before if the override gives it none. An override gives a value to the fields that were
set explicitly and, if a section was set as a whole, to every field of that section, so to those as
well that nobody set and that have their defaults. Main statements: `enter_override_fields` and
`enter_resets_rounding`.
-/

namespace IdentityClaims

namespace Config

variable {base o c : Config} {n : SectionName} {m : Member}

theorem get?_of_overriddenBy (hbase : base.Valid) (ho : o.Built) (h : base.overriddenBy o = .ok c)
    (hm : m ∈ n.type.members) :
    ∃ d, (c.get n).get? m.name = some d ∧
      match (o.get n).sets? (o.assigned.contains n) m.name with
      | some raw => m.shape.check .lenient raw = .ok d
      | none => (base.get n).get? m.name = some d := by
  obtain ⟨-, val, hval, rfl⟩ := (overriddenBy_eq_ok_iff hbase.typed ho.proper).1 h
  refine ⟨val n m, get?_filled val hm, ?_⟩
  cases hsets : (o.get n).sets? (o.assigned.contains n) m.name with
  | some raw => exact (gets_of_set hsets).1 (hval n m hm)
  | none =>
      obtain ⟨b, hb, hadmits⟩ := hbase n m hm
      have hcheck := (gets_of_unset hsets hb).1 (hval n m hm)
      rw [hadmits.check_eq, Except.ok.injEq] at hcheck
      exact hcheck ▸ hb

end Config

namespace Context

variable {x : Context} {p : Nat} {base o : Config}

theorem built_lenientOverride : lenientOverride.Built := by
  have hdefaults : Config.check (.map []) = .ok Config.defaults := rfl
  have hassign : Config.defaults.apply (.inSection "codec" "strict_types" (.bool false)) =
      .ok lenientOverride := rfl
  exact .assigned (.checked hdefaults) hassign

/-- In a block that an override opens over a valid configuration, every field that the override sets
has the value it sets, once that is checked, and every other field has the value it had before. -/
theorem enter_override_fields (hx : x.current = .ok (p, base)) (hbase : base.Valid)
    (ho : o.Built) (henter : (x.enter (.config o)).2 = .ok ()) :
    ∃ q c, (x.enter (.config o)).1.current = .ok (q, c) ∧
      ∀ n : SectionName, ∀ m ∈ n.type.members, ∃ d, (c.get n).get? m.name = some d ∧
        match (o.get n).sets? (o.assigned.contains n) m.name with
        | some raw => m.shape.check .lenient raw = .ok d
        | none => (base.get n).get? m.name = some d := by
  obtain ⟨h, -⟩ | ⟨override, r, c, heq, hr, hc, h⟩ | ⟨y, e, -, h⟩ :=
    x.enter_cases (.config o)
  · cases h
  · obtain rfl := Override.config.inj heq
    have hread : x.inForce.1.store.read r = base := by
      rw [← current_inForce, hr.current_eq] at hx
      exact congrArg Prod.snd (Except.ok.inj hx)
    rw [hread] at hc
    have hinside : (x.inForce.1.openBlock c).Settled (x.inForce.1.store.build c).2 :=
      settled_of_own rfl
    refine ⟨(x.inForce.1.store.build c).2, c, ?_,
      fun n m hm => Config.get?_of_overriddenBy hbase ho hc hm⟩
    rw [h, hinside.current_eq]
    exact congrArg (fun d => Except.ok (_, d)) (Store.read_build_self x.inForce.1.store c)
  · rw [h] at henter
    cases henter

theorem enter_override_fields_lenient :
    (start bareHost).current = .ok (0, Config.defaults) ∧ Config.defaults.Valid ∧
      lenientOverride.Built ∧ ((start bareHost).enter (.config lenientOverride)).2 = .ok () ∧
      ∃ q c, ((start bareHost).enter (.config lenientOverride)).1.current = .ok (q, c) ∧
        c.codec.get? "strict_types" = some (.bool false) ∧
        c.codec.get? "timestamp_rounding" = some (.text "truncate") := by
  have hx : (start bareHost).current = .ok (0, Config.defaults) := rfl
  have hdefaults : Config.check (.map []) = .ok Config.defaults := rfl
  have henter : ((start bareHost).enter (.config lenientOverride)).2 = .ok () := rfl
  obtain ⟨q, c, hc, hfields⟩ := enter_override_fields hx (Config.valid_of_check hdefaults)
    built_lenientOverride henter
  refine ⟨hx, Config.valid_of_check hdefaults, built_lenientOverride, henter, q, c, hc, ?_, ?_⟩
  · obtain ⟨d, hd, hvalue⟩ := hfields .codec (.plain "strict_types" .truth (some (.bool true)))
      (by simp [SectionName.type, SectionName.codecType])
    obtain rfl : Data.bool false = d := Except.ok.inj hvalue
    exact hd
  · obtain ⟨d, hd, hvalue⟩ := hfields .codec (.plain "timestamp_rounding"
      (.literal ["truncate", "floor", "round"]) (some (.text "truncate")))
      (by simp [SectionName.type, SectionName.codecType])
    obtain rfl : Data.text "truncate" = d := Option.some.inj hvalue
    exact hd

def flooringConfig : Config :=
  { Config.defaults with
    codec := .fields (Entries.put SectionName.codecType.defaults.values "timestamp_rounding"
      (.text "floor")) ["timestamp_rounding"]
    assigned := [.codec] }

/-- An override that was given a section in which only strictness was set. -/
def wholeOverride : Config := { lenientOverride with assigned := [.codec] }

/-- An override whose section was set as a whole takes a field back to its default that nobody set
in it. -/
theorem enter_resets_rounding :
    let x := (start bareHost).run [.build flooringConfig, .replace 0]
    x.current = .ok (0, flooringConfig) ∧ flooringConfig.Valid ∧ wholeOverride.Built ∧
      (∃ values, wholeOverride.codec = .fields values ["strict_types"]) ∧
      (x.enter (.config wholeOverride)).2 = .ok () ∧
      flooringConfig.codec.get? "timestamp_rounding" = some (.text "floor") ∧
      ∃ c, (x.enter (.config wholeOverride)).1.current = .ok (2, c) ∧
        c.codec.get? "timestamp_rounding" = some (.text "truncate") := by
  refine ⟨rfl, Config.valid_of_check (d := .map [(.text "codec",
      .map [(.text "timestamp_rounding", .text "floor")])]) rfl,
    .checked (d := .map [(.text "codec", .map [(.text "strict_types", .bool false)])]) rfl,
    ⟨_, rfl⟩, rfl, rfl, ⟨_, rfl, rfl⟩⟩

end Context

end IdentityClaims
