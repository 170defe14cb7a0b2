import IdentityClaims.Proofs.Config.Assignments

/-!
# Blocks put back what was in force

Whatever happens in a block, leaving it puts back the configuration that was in force before, and
the only thing that can have happened to it are assignments that reached it. What is built in the
block shares nothing with what was there before, so none does as long as the block uses only what is
new to it: `Within` says that the thread stays among the new configurations, and every step in the
block keeps it. Main statement: `enter_leave_restores`.
-/

namespace IdentityClaims

def Step.IsNewTo (s : Store) : Step → Prop
  | replace p => ¬ s.Has p
  | build b => b.IsNewTo s
  | share n i => (s.sections n).length ≤ i
  | _ => True

instance (s : Store) : ∀ step : Step, Decidable (step.IsNewTo s)
  | .replace _ => inferInstanceAs (Decidable (¬ _))
  | .build _ => inferInstanceAs (Decidable (Blueprint.IsNewTo _ _))
  | .share _ _ => inferInstanceAs (Decidable (_ ≤ _))
  | .enter _ | .leave | .raise | .assign _ | .look | .newThread | .changeHost _ =>
    inferInstanceAs (Decidable True)

namespace Context

variable {x y : Context} {N : Nat → Prop} {base : List Block} {s : Step} {r : Nat}

inductive Above (N : Nat → Prop) (base : List Block) : List Block → Prop
  | refl : Above N base base
  | transparent {blocks : List Block} : Above N base blocks →
    Above N base (.transparent :: blocks)
  | restoring {p : Nat} {blocks : List Block} (hp : N p) : Above N base blocks →
    Above N base (.restoring (some p) :: blocks)

theorem Above.length_le {blocks : List Block} (h : Above N base blocks) :
    base.length ≤ blocks.length := by
  induction h with
  | refl => exact Nat.le_refl _
  | transparent _ ih => exact Nat.le_succ_of_le ih
  | restoring _ _ ih => exact Nat.le_succ_of_le ih

/-- Blocks that are no more than those of `base` are those of `base`. -/
theorem Above.eq_of_length_le {blocks : List Block} (h : Above N base blocks)
    (hl : blocks.length ≤ base.length) : blocks = base := by
  cases h with
  | refl => rfl
  | transparent h => exact absurd (Nat.le_trans hl h.length_le) (Nat.not_succ_le_self _)
  | restoring _ h => exact absurd (Nat.le_trans hl h.length_le) (Nat.not_succ_le_self _)

/-- The thread's own configuration is in `N`, as is everything that is not there yet, and so it is
until one of the blocks of `base` is left. -/
structure Within (N : Nat → Prop) (base : List Block) (x : Context) : Prop where
  sound : x.Sound
  fresh : ∀ q, ¬ x.store.Has q → N q
  own : ∃ q, x.own = some q ∧ N q
  above : Above N base x.blocks

theorem Within.leave (hx : x.Within N base) (hl : base.length ≤ x.leave.blocks.length) :
    (∃ q, x.leave.own = some q ∧ N q) ∧ Above N base x.leave.blocks := by
  have habove := hx.above
  rw [blocks_leave] at hl
  unfold Context.leave
  split
  · exact ⟨hx.own, habove⟩
  · next blocks hb =>
      rw [hb] at habove hl
      cases habove with
      | refl => exact absurd hl (Nat.not_succ_le_self _)
      | transparent h => exact ⟨hx.own, h⟩
  · next previous blocks hb =>
      rw [hb] at habove hl
      cases habove with
      | refl => exact absurd hl (Nat.not_succ_le_self _)
      | restoring hp h => exact ⟨⟨_, rfl, hp⟩, h⟩

theorem Within.effect (hx : x.Within N base) (s : Step) : x.Effect s (x.take s) := by
  obtain ⟨q, hq, -⟩ := hx.own
  obtain ⟨y, rfl | hl, he⟩ := x.exists_effect s
  · exact he
  · exact absurd hl (hx.sound.not_loads (by simp [hq]))

theorem Within.take (hx : x.Within N base) (hs : ∀ q, s = .replace q → N q)
    (hl : base.length ≤ (x.take s).blocks.length) : (x.take s).Within N base := by
  suffices hy : (∃ q, (x.take s).own = some q ∧ N q) ∧ Above N base (x.take s).blocks from
    { sound := hx.sound.take s
      fresh := fun q hq => hx.fresh q fun h => hq (has_take h s)
      own := hy.1
      above := hy.2 }
  obtain ⟨q, hq, hN⟩ := hx.own
  have he := hx.effect s
  generalize x.take s = y at he hl
  cases he with
  | opened => exact ⟨⟨q, hq, hN⟩, .transparent hx.above⟩
  | @overridden _ _ c hp hc =>
      refine ⟨⟨_, rfl, hx.fresh _ (x.store.not_has_build c)⟩, ?_⟩
      rw [show (x.openBlock c).blocks = .restoring x.own :: x.blocks from rfl, hq]
      exact .restoring hN hx.above
  | left hout => exact hx.leave hl
  | @replaced p _ _ _ => exact ⟨⟨p, rfl, hs p rfl⟩, hx.above⟩
  | _ => exact ⟨⟨q, hq, hN⟩, hx.above⟩

theorem take_of_leaves (hs : s.leaves = true) : x.take s = x.leave := by
  cases s with
  | leave | raise => rfl
  | _ => simp [Step.leaves] at hs

/-- At no time are there fewer than so many blocks open. -/
def KeepsOpen (n : Nat) : Context → List Step → Prop
  | _, [] => True
  | x, s :: steps => n ≤ (x.take s).blocks.length ∧ KeepsOpen n (x.take s) steps

instance decidableKeepsOpen (n : Nat) : ∀ x steps, Decidable (KeepsOpen n x steps)
  | _, [] => inferInstanceAs (Decidable True)
  | x, s :: steps =>
    have := decidableKeepsOpen n (x.take s) steps
    inferInstanceAs (Decidable (_ ∧ _))

theorem Within.run (hx : x.Within N base) {steps : List Step}
    (hs : ∀ q, .replace q ∈ steps → N q) (ho : KeepsOpen base.length x steps) :
    (x.run steps).Within N base := by
  induction steps generalizing x with
  | nil => exact hx
  | cons s steps ih =>
      obtain ⟨hl, ho⟩ := ho
      have hhead : ∀ q, s = .replace q → N q := fun q hq => hs q (hq ▸ List.mem_cons_self)
      exact ih (hx.take hhead hl) (fun q hq => hs q (List.mem_cons_of_mem s hq)) ho

theorem within_openBlock {o c : Config} (hx : x.Sound) (hr : x.Settled r)
    (hc : (x.store.read r).overriddenBy o = .ok c) (hN : ∀ q, ¬ x.store.Has q → N q) :
    (x.openBlock c).Within N (.restoring x.own :: x.blocks) where
  sound := hx.of_effect (.overridden hr hc)
  fresh q hq := hN q fun h => hq (has_build c h)
  own := ⟨_, rfl, hN _ (x.store.not_has_build c)⟩
  above := .refl

/-! ## What is new to a block -/

variable {s₀ : Store}

theorem Within.grown_take (hx : x.Within (¬ s₀.Has ·) base) (hg : s₀.Grown x.store)
    (hs : s.IsNewTo s₀) : s₀.Grown (x.take s).store := by
  obtain ⟨q, hq, hnew⟩ := hx.own
  have hhas := hx.sound.keeps_has q (.inl hq)
  have he := hx.effect s
  generalize x.take s = y at he
  cases he with
  | left => unfold Context.leave; split <;> exact hg
  | @overridden _ _ c hp hc => exact hg.build (Blueprint.isNewTo_ofConfig s₀ c)
  | @built b hb => exact hg.build hs
  | @assigned p _ _ hp ha =>
      obtain rfl := hp.unique (settled_of_own hq)
      exact hg.of_apply hhas hnew ha
  | @shared p n i hp hi =>
      obtain rfl := hp.unique (settled_of_own hq)
      have hpart : (SectionPart.shared i).IsNewTo (s₀.sections n) := hs
      exact hg.exchange hhas hnew hpart
  | _ => exact hg

theorem Within.assignedBy_eq_nil (hx : x.Within (¬ s₀.Has ·) base) (hg : s₀.Grown x.store)
    (hs₀ : s₀.Sound) (hr : s₀.Has r) (s : Step) : assignedBy r x s = [] := by
  obtain ⟨q, hq, hnew⟩ := hx.own
  have hsettled := settled_of_own hq
  have hnone : ∀ a, ¬ x.inForce.1.store.Reaches q r a := by
    rw [hsettled]
    exact Store.not_reaches (hg.not_shares hs₀ (hx.sound.keeps_has q (.inl hq)) hnew hr)
  cases hm : x.made s with
  | none => exact assignedBy_of_made_none hm
  | some a => rw [assignedBy_of_made (by rw [hsettled]) hm, if_neg (hnone a)]

/-- As long as a block uses only what is new to it, nothing reaches what was there before. -/
theorem Within.assignmentsTo_eq_nil (hx : x.Within (¬ s₀.Has ·) base) (hg : s₀.Grown x.store)
    (hs₀ : s₀.Sound) (hr : s₀.Has r) {steps : List Step} (hs : ∀ s ∈ steps, s.IsNewTo s₀)
    (ho : KeepsOpen base.length x steps) : assignmentsTo r x steps = [] := by
  induction steps generalizing x with
  | nil => rfl
  | cons s steps ih =>
      obtain ⟨hl, ho⟩ := ho
      have hhead : s.IsNewTo s₀ := hs s List.mem_cons_self
      have hreplace : ∀ q, s = .replace q → ¬ s₀.Has q := by
        rintro q rfl
        exact hhead
      rw [assignmentsTo, hx.assignedBy_eq_nil hg hs₀ hr,
        ih (hx.take hreplace hl) (hx.grown_take hg hhead)
          (fun t ht => hs t (List.mem_cons_of_mem s ht)) ho]
      rfl

/-! ## Entering and leaving -/

theorem Sound.leave_openBlock {o c : Config} (hx : x.Sound) (hr : x.Settled r)
    (hc : (x.store.read r).overriddenBy o = .ok c) {body : List Step}
    (ho : KeepsOpen (x.blocks.length + 1) (x.openBlock c) body)
    (hl : ((x.openBlock c).run body).blocks.length = x.blocks.length + 1) :
    ((x.openBlock c).run body).leave.blocks = x.blocks ∧
      ((x.openBlock c).run body).leave.current =
        .ok (r, (x.store.read r).applyAll (assignmentsTo r (x.openBlock c) body)) := by
  have hhas := hx.settled_has hr
  have hopen := within_openBlock (N := fun _ => True) hx hr hc fun _ _ => trivial
  have hinside := hopen.run (fun _ _ => trivial) ho
  have hblocks := hinside.above.eq_of_length_le (Nat.le_of_eq hl)
  have hread : ((x.openBlock c).run body).store.read r =
      (x.store.read r).applyAll (assignmentsTo r (x.openBlock c) body) := by
    rw [hopen.sound.read_run (has_build c hhas),
      show (x.openBlock c).store.read r = x.store.read r from
        hx.store.read_build_of_has (.ofConfig c) hhas]
  have hdefault : x.default = some r → ((x.openBlock c).run body).default = some r :=
    fun hd => default_run (x := x.openBlock c) hd body
  generalize (x.openBlock c).run body = y at *
  have hleave : y.leave = { y with own := x.own, blocks := x.blocks } := by
    simp [Context.leave, hblocks]
  have hsettled : y.leave.Settled r := by
    rw [hleave, settled_iff]
    exact (settled_iff.1 hr).imp_right fun ⟨hown, hd⟩ => ⟨hown, hdefault hd⟩
  refine ⟨by rw [hleave], ?_⟩
  rw [hsettled.current_eq, hleave]
  exact congrArg (fun c => Except.ok (r, c)) hread

def bareHost : Host := { environment := [], files := [] }

def lenientOverride : Config :=
  { Config.defaults with
    codec := .fields (Entries.put SectionName.codecType.defaults.values "strict_types"
      (.bool false)) ["strict_types"] }

/-- What a thread does in a block: it assigns a field, builds a configuration from the section that
it assigned in and puts it in force, opens a block that is refused and one that an error leaves, and
the variables change. -/
def busyBody : List Step :=
  [.assign (.inSection "codec" "timestamp_rounding" (.text "floor")),
    .build ⟨.shared 1, .own (.defaults .logging), [.codec]⟩, .replace 2, .enter .notConfig,
    .enter (.config lenientOverride), .assign (.whole "logging" (.other .null)), .raise,
    .changeHost { environment := [("OIDC_CLAIMS_LOG_LEVEL", "DEBUG")], files := [] }]

/-- A section that was there before and is assigned in a block is changed from there. -/
example :
    let inside := ((start bareHost).enter (.config lenientOverride)).1
    let body := [.share .codec 0, .assign (.inSection "codec" "strict_types" (.bool false))]
    ((inside.run body).take .leave).current.toOption.map (fun c => c.2.rules.policy.strictness) =
      some .lenient := by
  decide

end Context

end IdentityClaims
