import IdentityClaims.Config.Step
import IdentityClaims.Proofs.Config.Store

/-!
# What a step can do

A step first looks up the configuration in force, if it needs it, which may load the default, and
then does one thing. `Loads` says what the loading does and `Effect` what the step does behind it;
every fact about runs is a fact about these two. Main statements: `exists_effect`, and `Sound.run`:
in every context that a run comes to, no configuration is missing that the process, the thread or a
block holds.
-/

namespace IdentityClaims

namespace Context

variable {x y z : Context} {p q : Nat} {s : Step}

inductive Loads (x : Context) : Context → Prop
  | intro (c : Config) (hnone : x.default = none) (hload : x.host.loadDefault.result = .ok c) :
    Loads x { (x.build c).1 with default := some (x.build c).2 }

def Looked (x y : Context) : Prop := y = x ∨ x.Loads y

def Settled (x : Context) (p : Nat) : Prop := x.inForce = (x, ⟨[], .ok p⟩)

theorem settled_of_own (h : x.own = some p) : x.Settled p := by
  simp [Settled, inForce, h]

theorem settled_of_default (ho : x.own = none) (hd : x.default = some p) : x.Settled p := by
  simp [Settled, inForce, needDefault, ho, hd]

/-- What is settled is the thread's own, or else the default. -/
theorem settled_iff : x.Settled p ↔ x.own = some p ∨ (x.own = none ∧ x.default = some p) := by
  constructor
  · intro h
    cases ho : x.own with
    | some q =>
        simp only [Settled, inForce, ho, Prod.mk.injEq, Logged.mk.injEq, Except.ok.injEq,
          true_and] at h
        exact .inl (congrArg some h)
    | none =>
        refine .inr ⟨rfl, ?_⟩
        cases hd : x.default with
        | some q =>
            simp only [Settled, inForce, needDefault, ho, hd, Prod.mk.injEq, Logged.mk.injEq,
              Except.ok.injEq, true_and] at h
            exact congrArg some h
        | none =>
            -- a default that is not there would be loaded, or its load would fail
            cases hl : x.host.loadDefault.result with
            | ok c =>
                have hx := congrArg (fun r => r.1.default) h
                simp [inForce, needDefault, ho, hd, hl] at hx
            | error e =>
                have hr := congrArg (fun r => r.2.result) h
                simp [inForce, needDefault, ho, hd, hl] at hr
  · rintro (ho | ⟨ho, hd⟩)
    · exact settled_of_own ho
    · exact settled_of_default ho hd

theorem Settled.unique (hp : x.Settled p) (hq : x.Settled q) : p = q := by
  have h := hp.symm.trans hq
  simpa using h

theorem Settled.current_eq (h : x.Settled p) : x.current = .ok (p, x.store.read p) := by
  rw [current, h]
  rfl

/-! ## Looking up -/

/-- Needing the default finds it, loads it, or fails and changes nothing. -/
theorem needDefault_cases (x : Context) :
    (∃ p, x.default = some p ∧ x.needDefault = (x, ⟨[], .ok p⟩)) ∨
    (∃ p, x.Loads x.needDefault.1 ∧ x.needDefault.1.default = some p ∧
      x.needDefault.2.result = .ok p) ∨
    (∃ e, x.default = none ∧ x.host.loadDefault.result = .error e ∧ x.needDefault.1 = x ∧
      x.needDefault.2.result = .error e) := by
  cases hd : x.default with
  | some p => exact .inl ⟨p, rfl, by simp [needDefault, hd]⟩
  | none =>
      cases hl : x.host.loadDefault.result with
      | ok c =>
          refine .inr (.inl ⟨(x.build c).2, ?_, ?_, ?_⟩)
          · have hx : x.needDefault.1 =
                { (x.build c).1 with default := some (x.build c).2 } := by
              simp [needDefault, hd, hl]
            rw [hx]
            exact .intro c hd hl
          · simp [needDefault, hd, hl]
          · simp [needDefault, hd, hl]
      | error e =>
          refine .inr (.inr ⟨e, rfl, rfl, ?_, ?_⟩) <;> simp [needDefault, hd, hl]

theorem needDefault_looked (x : Context) : x.Looked x.needDefault.1 := by
  obtain ⟨p, -, hx⟩ | ⟨p, hl, -⟩ | ⟨e, -, -, hx, -⟩ := x.needDefault_cases
  · exact .inl (by rw [hx])
  · exact .inr hl
  · exact .inl hx

theorem Loads.own_eq (h : x.Loads y) : y.own = x.own := by
  cases h
  rfl

theorem Loads.blocks_eq (h : x.Loads y) : y.blocks = x.blocks := by
  cases h
  rfl

theorem Loads.default_eq_none (h : x.Loads y) : x.default = none := by
  cases h
  assumption

theorem has_build (b : Blueprint) (hq : x.store.Has q) : (x.build b).1.store.Has q :=
  Store.has_build_iff.2 (.inl hq)

theorem has_build_self (x : Context) (b : Blueprint) : (x.build b).1.store.Has (x.build b).2 :=
  Store.has_build_iff.2 (.inr rfl)

theorem Loads.has_of_default (h : x.Loads y) (hp : y.default = some p) : y.store.Has p := by
  cases h with
  | intro c hnone hload =>
      obtain rfl := Option.some.inj hp
      exact x.has_build_self c

theorem Loads.not_has_of_default (h : x.Loads y) (hp : y.default = some p) : ¬ x.store.Has p := by
  cases h with
  | intro c hnone hload =>
      obtain rfl := Option.some.inj hp
      exact Store.not_has_build x.store c

theorem Looked.has_of_has (h : x.Looked y) (hp : x.store.Has p) : y.store.Has p := by
  obtain rfl | ⟨c, hnone, hload⟩ := h
  · exact hp
  · exact has_build c hp

theorem Looked.length_sections_le (h : x.Looked y) (n : SectionName) :
    (x.store.sections n).length ≤ (y.store.sections n).length := by
  obtain rfl | ⟨c, hnone, hload⟩ := h
  · exact Nat.le_refl _
  · exact x.store.length_sections_le_build c n

theorem Looked.sectionAt_eq (h : x.Looked y) {n : SectionName} {i : Nat}
    (hi : i < (x.store.sections n).length) : y.store.sectionAt n i = x.store.sectionAt n i := by
  obtain rfl | ⟨c, hnone, hload⟩ := h
  · rfl
  · exact Store.sectionAt_build_of_lt c hi

/-- Looking up finds what is in force, settled now, or fails and changes nothing. -/
theorem inForce_cases (x : Context) :
    (∃ p, (x.inForce.1 = x ∨ x.own = none ∧ x.Loads x.inForce.1) ∧ x.inForce.1.Settled p ∧
      x.inForce.2.result = .ok p) ∨
    (∃ e, x.own = none ∧ x.default = none ∧ x.inForce.1 = x ∧
      x.inForce.2.result = .error e) := by
  cases ho : x.own with
  | some p =>
      have hs := settled_of_own ho
      rw [hs]
      exact .inl ⟨p, .inl rfl, hs, rfl⟩
  | none =>
      have hx : x.inForce = x.needDefault := by simp [inForce, ho]
      rw [hx]
      obtain ⟨p, hd, hn⟩ | ⟨p, hl, hd, hr⟩ | ⟨e, hd, -, hn, hr⟩ := x.needDefault_cases
      · rw [hn]
        exact .inl ⟨p, .inl rfl, settled_of_default ho hd, rfl⟩
      · exact .inl ⟨p, .inr ⟨rfl, hl⟩, settled_of_default (hl.own_eq.trans ho) hd, hr⟩
      · exact .inr ⟨e, rfl, hd, hn, hr⟩

theorem inForce_looked (x : Context) : x.Looked x.inForce.1 := by
  obtain ⟨p, hx | hl, -⟩ | ⟨e, -, -, hx, -⟩ := x.inForce_cases
  · exact .inl hx
  · exact .inr hl.2
  · exact .inl hx

@[simp] theorem blocks_inForce (x : Context) : x.inForce.1.blocks = x.blocks := by
  obtain hx | hl := x.inForce_looked
  · rw [hx]
  · exact hl.blocks_eq

/-- Looking the configuration in force up does not change which it is. -/
theorem current_inForce (x : Context) : x.inForce.1.current = x.current := by
  obtain ⟨p, -, hs, hr⟩ | ⟨e, -, -, hx, -⟩ := x.inForce_cases
  · rw [hs.current_eq, current, readBeside, hr]
    rfl
  · rw [hx]

/-! ## What happens behind looking up -/

/-- Opening a block opens it, or is refused behind what was looked up. -/
theorem enter_cases (x : Context) (o : Override) :
    (o = .nothing ∧ x.enter o = ({ x with blocks := .transparent :: x.blocks }, .ok ())) ∨
    (∃ override p c, o = .config override ∧ x.inForce.1.Settled p ∧
      (x.inForce.1.store.read p).overriddenBy override = .ok c ∧
      x.enter o = (x.inForce.1.openBlock c, .ok ())) ∨
    (∃ y e, (y = x ∨ y = x.inForce.1) ∧ x.enter o = (y, .error e)) := by
  cases o with
  | nothing => exact .inl ⟨rfl, rfl⟩
  | notConfig => exact .inr (.inr ⟨x, .notConfig, .inl rfl, rfl⟩)
  | config override =>
      obtain ⟨p, -, hs, hr⟩ | ⟨e, -, -, -, hr⟩ := x.inForce_cases
      · cases hc : (x.inForce.1.store.read p).overriddenBy override with
        | ok c =>
            refine .inr (.inl ⟨override, p, c, rfl, hs, hc, ?_⟩)
            simp [enter, hr, hc]
        | error problems =>
            refine .inr (.inr ⟨x.inForce.1, .invalid problems, .inr rfl, ?_⟩)
            simp [enter, hr, hc]
      · refine .inr (.inr ⟨x.inForce.1, .load e, .inr rfl, ?_⟩)
        simp [enter, hr]

theorem replace_cases (x : Context) (p : Nat) :
    (∃ q, x.inForce.1.Settled q ∧ (x.replace p).1 = { x.inForce.1 with own := some p }) ∨
    (x.replace p).1 = x.inForce.1 := by
  obtain ⟨q, -, hs, hr⟩ | ⟨e, -, -, -, hr⟩ := x.inForce_cases
  · exact .inl ⟨q, hs, by simp [replace, hr]⟩
  · exact .inr (by simp [replace, hr])

/-- An assignment is made in the configuration in force, or is refused there, or nothing is in
force. -/
theorem mutate_cases (x : Context) (a : Assignment) :
    (∃ p, x.inForce.1.Settled p ∧ x.inForce.2.result = .ok p ∧
      ((∃ store, x.inForce.1.store.apply p a = .ok store ∧
          (x.mutate a).1 = { x.inForce.1 with store }) ∨
        ∃ e, x.inForce.1.store.apply p a = .error e ∧ (x.mutate a).1 = x.inForce.1)) ∨
    (∃ e, x.inForce.2.result = .error e ∧ (x.mutate a).1 = x.inForce.1) := by
  obtain ⟨p, -, hs, hr⟩ | ⟨e, -, -, -, hr⟩ := x.inForce_cases
  · refine .inl ⟨p, hs, hr, ?_⟩
    cases ha : x.inForce.1.store.apply p a with
    | ok store => exact .inl ⟨store, rfl, by simp [mutate, hr, ha]⟩
    | error e => exact .inr ⟨e, rfl, by simp [mutate, hr, ha]⟩
  · exact .inr ⟨e, hr, by simp [mutate, hr]⟩

theorem share_cases (x : Context) (n : SectionName) (i : Nat) :
    (∃ p, x.inForce.1.Settled p ∧ x.inForce.2.result = .ok p ∧
      (x.share n i).1 =
        { x.inForce.1 with store := x.inForce.1.store.exchange p n (.shared i) }) ∨
    (∃ e, x.inForce.2.result = .error e ∧ (x.share n i).1 = x.inForce.1) := by
  obtain ⟨p, -, hs, hr⟩ | ⟨e, -, -, -, hr⟩ := x.inForce_cases
  · exact .inl ⟨p, hs, hr, by simp [share, hr]⟩
  · exact .inr ⟨e, hr, by simp [share, hr]⟩

/-! ## The effect of a step -/

inductive Effect (x : Context) : Step → Context → Prop
  | idle (s : Step) : Effect x s x
  | opened : Effect x (.enter .nothing) { x with blocks := .transparent :: x.blocks }
  | overridden {p : Nat} {o c : Config} (hs : x.Settled p)
    (hc : (x.store.read p).overriddenBy o = .ok c) :
    Effect x (.enter (.config o)) (x.openBlock c)
  | left {s : Step} (hs : s.leaves = true) : Effect x s x.leave
  | built {b : Blueprint} (hb : x.store.Offers b) : Effect x (.build b) (x.build b).1
  | replaced {p q : Nat} (hs : x.Settled q) (hp : x.store.Has p) :
    Effect x (.replace p) { x with own := some p }
  | assigned {p : Nat} {a : Assignment} {store : Store} (hs : x.Settled p)
    (ha : x.store.apply p a = .ok store) : Effect x (.assign a) { x with store }
  | shared {p : Nat} {n : SectionName} {i : Nat} (hs : x.Settled p)
    (hi : i < (x.store.sections n).length) :
    Effect x (.share n i) { x with store := x.store.exchange p n (.shared i) }
  | hostChanged (host : Host) : Effect x (.changeHost host) { x with host }

/-- A step loads the default if it has to, and then has its effect. -/
theorem exists_effect (x : Context) (s : Step) :
    ∃ y, x.Looked y ∧ y.Effect s (x.take s) := by
  have hforce := x.inForce_looked
  cases s with
  | enter o =>
      rw [take]
      obtain ⟨rfl, ho⟩ | ⟨override, p, c, rfl, hs, hc, ho⟩ | ⟨y, e, rfl | rfl, ho⟩ :=
        x.enter_cases o
      · exact ⟨x, .inl rfl, ho ▸ .opened⟩
      · exact ⟨x.inForce.1, hforce, ho ▸ .overridden hs hc⟩
      · exact ⟨y, .inl rfl, ho ▸ .idle _⟩
      · exact ⟨x.inForce.1, hforce, ho ▸ .idle _⟩
  | leave => exact ⟨x, .inl rfl, .left rfl⟩
  | raise => exact ⟨x, .inl rfl, .left rfl⟩
  | build b =>
      rw [take]
      split
      · next hb => exact ⟨x, .inl rfl, .built hb⟩
      · exact ⟨x, .inl rfl, .idle _⟩
  | replace p =>
      rw [take]
      split
      · next hp =>
          have hp := hforce.has_of_has hp
          obtain ⟨q, hs, hx⟩ | hx := x.replace_cases p
          · exact ⟨x.inForce.1, hforce, hx ▸ .replaced hs hp⟩
          · exact ⟨x.inForce.1, hforce, hx ▸ .idle _⟩
      · exact ⟨x, .inl rfl, .idle _⟩
  | assign a =>
      rw [take]
      obtain ⟨p, hs, -, ⟨store, ha, hx⟩ | ⟨e, -, hx⟩⟩ | ⟨e, -, hx⟩ := x.mutate_cases a
      · exact ⟨x.inForce.1, hforce, hx ▸ .assigned hs ha⟩
      · exact ⟨x.inForce.1, hforce, hx ▸ .idle _⟩
      · exact ⟨x.inForce.1, hforce, hx ▸ .idle _⟩
  | share n i =>
      rw [take]
      split
      · next hi =>
          have hi := Nat.lt_of_lt_of_le hi (hforce.length_sections_le n)
          obtain ⟨p, hs, -, hx⟩ | ⟨e, -, hx⟩ := x.share_cases n i
          · exact ⟨x.inForce.1, hforce, hx ▸ .shared hs hi⟩
          · exact ⟨x.inForce.1, hforce, hx ▸ .idle _⟩
      · exact ⟨x, .inl rfl, .idle _⟩
  | look => exact ⟨x.inForce.1, hforce, .idle _⟩
  | newThread => exact ⟨x.needDefault.1, x.needDefault_looked, .idle _⟩
  | changeHost host => exact ⟨x, .inl rfl, .hostChanged host⟩

theorem Effect.default_eq (h : x.Effect s y) : y.default = x.default := by
  cases h with
  | left => unfold leave; split <;> rfl
  | _ => rfl

theorem Effect.has_of_has (h : x.Effect s y) (hq : x.store.Has q) : y.store.Has q := by
  cases h with
  | left => unfold leave; split <;> exact hq
  | @overridden _ _ c hs hc => exact has_build c hq
  | @built b hb => exact has_build b hq
  | assigned hs ha => exact (Store.has_iff_of_apply ha).2 hq
  | shared => exact Store.has_exchange_iff.2 hq
  | _ => exact hq

/-! ## What is held -/

/-- The thread keeps the configuration at a place: it is its own, or a block puts it back. -/
def Keeps (x : Context) (p : Nat) : Prop :=
  x.own = some p ∨ Block.restoring (some p) ∈ x.blocks

theorem Loads.keeps_iff (h : x.Loads y) : y.Keeps q ↔ x.Keeps q := by
  rw [Keeps, Keeps, h.own_eq, h.blocks_eq]

@[simp] theorem blocks_leave (x : Context) : x.leave.blocks = x.blocks.tail := by
  unfold leave
  split <;> simp [*]

theorem keeps_of_leave (h : x.leave.Keeps q) : x.Keeps q := by
  unfold leave at h
  split at h
  · exact h
  · next hb => exact h.imp_right fun hq => by simp [hb, hq]
  · next hb =>
      refine .inr ?_
      obtain rfl | hq := h
      · simp [hb]
      · simp [hb, hq]

/-- What the thread keeps after a step, it kept before, or the step built it or put it in force. -/
theorem Effect.keeps_cases (h : x.Effect s y) (hq : y.Keeps q) :
    x.Keeps q ∨ (¬ x.store.Has q ∧ y.store.Has q) ∨ (s = .replace q ∧ x.store.Has q) := by
  cases h with
  | opened => exact .inl (by simpa [Keeps] using hq)
  | left => exact .inl (keeps_of_leave hq)
  | @overridden _ _ c hs hc =>
      obtain hq | hq := hq
      · obtain rfl := Option.some.inj hq
        exact .inr (.inl ⟨Store.not_has_build x.store c, Store.has_build_iff.2 (.inr rfl)⟩)
      · refine .inl ?_
        obtain hq | hq := List.mem_cons.1 hq
        · exact .inl (Block.restoring.inj hq).symm
        · exact .inr hq
  | replaced hs hp =>
      obtain hq | hq := hq
      · obtain rfl := Option.some.inj hq
        exact .inr (.inr ⟨rfl, hp⟩)
      · exact .inl (.inr hq)
  | _ => exact .inl hq

/-- Inside a block that will put something back, the thread has a configuration of its own. -/
def Covered : Option Nat → List Block → Prop
  | _, [] => True
  | own, .transparent :: blocks => Covered own blocks
  | own, .restoring previous :: blocks => own ≠ none ∧ Covered previous blocks

theorem covered_some {own : Option Nat} {blocks : List Block} (h : Covered own blocks) (p : Nat) :
    Covered (some p) blocks := by
  induction blocks with
  | nil => trivial
  | cons b blocks ih =>
      cases b with
      | transparent => exact ih h
      | restoring previous => exact ⟨nofun, h.2⟩

theorem own_ne_none_of_covered {own previous : Option Nat} {blocks : List Block}
    (h : Covered own blocks) (hb : Block.restoring previous ∈ blocks) : own ≠ none := by
  induction blocks with
  | nil => cases hb
  | cons b blocks ih =>
      cases b with
      | transparent => exact ih h (by simpa using hb)
      | restoring previous => exact h.1

theorem Effect.covered (h : x.Effect s y) (hx : Covered x.own x.blocks) :
    Covered y.own y.blocks := by
  cases h with
  | left =>
      unfold leave
      split
      · exact hx
      · next hb => rw [hb] at hx; exact hx
      · next hb => rw [hb] at hx; exact hx.2
  | overridden hs hc => exact ⟨nofun, hx⟩
  | replaced => exact covered_some hx _
  | _ => exact hx

/-- Nothing is missing that the process or the thread holds: what they hold is in store, and the
default is loaded before the thread has a configuration of its own. -/
structure Sound (x : Context) : Prop where
  store : x.store.Sound
  default_has : ∀ p, x.default = some p → x.store.Has p
  keeps_has : ∀ p, x.Keeps p → x.store.Has p
  covered : Covered x.own x.blocks
  loaded : x.own ≠ none → x.default ≠ none

theorem sound_start (host : Host) : (start host).Sound where
  store := Store.sound_empty
  default_has := nofun
  keeps_has p h := by simp [start, Keeps] at h
  covered := trivial
  loaded h := absurd rfl h

theorem Sound.settled_has (hx : x.Sound) (hs : x.Settled p) : x.store.Has p := by
  obtain ho | ⟨-, hd⟩ := settled_iff.1 hs
  · exact hx.keeps_has p (.inl ho)
  · exact hx.default_has p hd

theorem Sound.settled_loaded (hx : x.Sound) (hs : x.Settled p) : x.default ≠ none := by
  obtain ho | ⟨-, hd⟩ := settled_iff.1 hs
  · exact hx.loaded (by simp [ho])
  · simp [hd]

theorem Sound.of_loads (hx : x.Sound) (h : x.Loads y) : y.Sound where
  store := by
    cases h with
    | intro c hnone hload => exact hx.store.build (x.store.offers_ofConfig c)
  default_has p hp := h.has_of_default hp
  keeps_has p hp := Looked.has_of_has (.inr h) (hx.keeps_has p (h.keeps_iff.1 hp))
  covered := by
    rw [h.own_eq, h.blocks_eq]
    exact hx.covered
  loaded _ := by
    cases h
    nofun

theorem Sound.of_looked (hx : x.Sound) (h : x.Looked y) : y.Sound := by
  obtain rfl | hl := h
  · exact hx
  · exact hx.of_loads hl

theorem Sound.inForce (hx : x.Sound) : x.inForce.1.Sound := hx.of_looked x.inForce_looked

theorem Sound.of_effect (hx : x.Sound) (h : x.Effect s y) : y.Sound where
  store := by
    cases h with
    | left => unfold leave; split <;> exact hx.store
    | @overridden _ _ c hs hc => exact hx.store.build (x.store.offers_ofConfig c)
    | built hb => exact hx.store.build hb
    | assigned hs ha => exact hx.store.of_apply (hx.settled_has hs) ha
    | shared hs hi => exact hx.store.exchange (hx.settled_has hs) hi
    | _ => exact hx.store
  default_has p hp := h.has_of_has (hx.default_has p (h.default_eq ▸ hp))
  keeps_has p hp := by
    obtain hp | ⟨-, hp⟩ | ⟨-, hp⟩ := h.keeps_cases hp
    · exact h.has_of_has (hx.keeps_has p hp)
    · exact hp
    · exact h.has_of_has hp
  covered := h.covered hx.covered
  loaded ho := by
    rw [h.default_eq]
    cases h with
    | left =>
        -- what a block puts back is not the first configuration that the thread has
        unfold leave at ho
        split at ho
        · exact hx.loaded ho
        · exact hx.loaded ho
        · next hb =>
            exact hx.loaded (own_ne_none_of_covered hx.covered (hb ▸ List.mem_cons_self))
    | overridden hs | replaced hs => exact hx.settled_loaded hs
    | _ => exact hx.loaded ho

theorem Sound.take (hx : x.Sound) (s : Step) : (x.take s).Sound := by
  obtain ⟨y, hy, he⟩ := x.exists_effect s
  exact (hx.of_looked hy).of_effect he

theorem Sound.run (hx : x.Sound) (steps : List Step) : (x.run steps).Sound := by
  induction steps generalizing x with
  | nil => exact hx
  | cons s steps ih => exact ih (hx.take s)

theorem has_take (hq : x.store.Has q) (s : Step) : (x.take s).store.Has q := by
  obtain ⟨y, hy, he⟩ := x.exists_effect s
  exact he.has_of_has (hy.has_of_has hq)

/-- Looking up changes nothing that is there. -/
theorem Sound.read_of_looked (hx : x.Sound) (h : x.Looked y) (hq : x.store.Has q) :
    y.store.read q = x.store.read q := by
  obtain rfl | ⟨c, hnone, hload⟩ := h
  · rfl
  · exact hx.store.read_build_of_has (.ofConfig c) hq

/-- Where the thread has a configuration of its own, nothing is left to be loaded. -/
theorem Sound.not_loads (hx : x.Sound) (ho : x.own ≠ none) : ¬ x.Loads y :=
  fun h => hx.loaded ho h.default_eq_none

theorem default_take (hd : x.default = some p) (s : Step) : (x.take s).default = some p := by
  obtain ⟨y, rfl | hl, he⟩ := x.exists_effect s
  · rw [he.default_eq, hd]
  · rw [hl.default_eq_none] at hd
    cases hd

theorem default_run (hd : x.default = some p) (steps : List Step) :
    (x.run steps).default = some p := by
  induction steps generalizing x with
  | nil => exact hd
  | cons s steps ih => exact ih (default_take hd s)

end Context

end IdentityClaims
