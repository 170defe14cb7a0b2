import IdentityClaims.Proofs.Config.Blocks

/-!
# What a new thread sees

A new thread sees the default configuration. It is what the first load that succeeded gave, with the
assignments that reached it since. Those are the ones that a thread made while the default itself
was in force, unless a section of the default was given to another configuration. Main statement:
`newThread_characterized`.
-/

namespace IdentityClaims

/-- A step gives no section of one configuration to another one. -/
def Step.SharesNothing : Step → Prop
  | build b => b.IsOwn
  | share _ _ => False
  | _ => True

instance : ∀ s : Step, Decidable s.SharesNothing
  | .build _ => inferInstanceAs (Decidable (Blueprint.IsOwn _))
  | .share _ _ => inferInstanceAs (Decidable False)
  | .enter _ | .leave | .raise | .replace _ | .assign _ | .look | .newThread | .changeHost _ =>
    inferInstanceAs (Decidable True)

namespace Context

variable {x y : Context} {p q : Nat} {s : Step}

/-! ## Using the default -/

theorem Sound.read_take_load (hx : x.Sound) (hnone : x.default = none)
    (hd : (x.take s).default = some p) :
    ∃ c, x.host.loadDefault.result = .ok c ∧
      (x.take s).store.read p = c.applyAll (assignedBy p x s) := by
  obtain ⟨y, hy⟩ := hx.exists_changes s
  rw [hy.default_eq] at hd
  obtain rfl | hl := hy.looked
  · rw [hnone] at hd
    cases hd
  · have hread := hy.read_eq p (hl.has_of_default hd)
    cases hl with
    | intro c _ hload =>
        obtain rfl := Option.some.inj hd
        rw [hread]
        exact ⟨c, hload, congrArg (Config.applyAll · _) (Store.read_build_self x.store c)⟩

/-- A step needs the configuration in force, or the default for another thread. -/
def Uses (x : Context) : Step → Prop
  | .enter (.config _) | .assign _ | .look | .newThread => True
  | .replace p => x.store.Has p
  | .share n i => i < (x.store.sections n).length
  | _ => False

/-- Every step on a run that uses the default finds it cannot be loaded, as the process is then. -/
def UsesFail : Context → List Step → Prop
  | _, [] => True
  | x, s :: steps =>
    (x.Uses s → ∃ e, x.host.loadDefault.result = .error e) ∧ UsesFail (x.take s) steps

theorem default_mutate (x : Context) (a : Assignment) :
    (x.mutate a).1.default = x.inForce.1.default := by
  obtain ⟨p, -, -, ⟨store, -, hx⟩ | ⟨e, -, hx⟩⟩ | ⟨e, -, hx⟩ := x.mutate_cases a <;> rw [hx]

theorem default_share (x : Context) (n : SectionName) (i : Nat) :
    (x.share n i).1.default = x.inForce.1.default := by
  obtain ⟨p, -, -, hx⟩ | ⟨e, -, hx⟩ := x.share_cases n i <;> rw [hx]

theorem default_take_of_uses (ho : x.own = none) (hu : x.Uses s) :
    (x.take s).default = x.inForce.1.default := by
  cases s with
  | enter o =>
      cases o with
      | config o =>
          simp only [take, enter]
          split
          · rfl
          · split <;> rfl
      | nothing | notConfig => exact absurd hu id
  | assign a => exact default_mutate x a
  | share n i =>
      have hi : i < (x.store.sections n).length := hu
      rw [take, if_pos hi, default_share]
  | look => rfl
  | newThread => simp [take, inForce, ho]
  | replace p =>
      have hp : x.store.Has p := hu
      simp only [take, if_pos hp, replace]
      split <;> rfl
  | leave | raise | build | changeHost => exact absurd hu id

theorem default_take_of_not_uses (hu : ¬ x.Uses s) : (x.take s).default = x.default := by
  cases s with
  | enter o =>
      cases o with
      | config o => exact absurd trivial hu
      | nothing | notConfig => rfl
  | assign | look | newThread => exact absurd trivial hu
  | replace p =>
      have hp : ¬ x.store.Has p := hu
      rw [take, if_neg hp]
  | share n i =>
      have hi : ¬ i < (x.store.sections n).length := hu
      rw [take, if_neg hi]
  | build b =>
      rw [take]
      split <;> rfl
  | leave | raise => exact (Effect.left (s := .leave) rfl).default_eq
  | changeHost => rfl

theorem default_inForce_eq_none_iff (ho : x.own = none) (hd : x.default = none) :
    x.inForce.1.default = none ↔ ∃ e, x.host.loadDefault.result = .error e := by
  cases hl : x.host.loadDefault.result with
  | error e => simp [inForce, needDefault, ho, hd, hl]
  | ok c => simp [inForce, needDefault, ho, hd, hl]

/-- The default is not loaded as long as every step that uses it fails to load it. -/
theorem Sound.default_take_eq_none_iff (hx : x.Sound) (hd : x.default = none) (s : Step) :
    (x.take s).default = none ↔ (x.Uses s → ∃ e, x.host.loadDefault.result = .error e) := by
  have ho : x.own = none := by
    by_contra h
    exact hx.loaded h hd
  by_cases hu : x.Uses s
  · rw [default_take_of_uses ho hu, default_inForce_eq_none_iff ho hd]
    exact ⟨fun h _ => h, fun h => h hu⟩
  · rw [default_take_of_not_uses hu, hd]
    exact ⟨fun _ h => absurd h hu, fun _ => rfl⟩

theorem Sound.usesFail_iff (hx : x.Sound) (hd : x.default = none) {steps : List Step} :
    UsesFail x steps ↔ (x.run steps).default = none := by
  induction steps generalizing x with
  | nil => exact ⟨fun _ => hd, fun _ => trivial⟩
  | cons s steps ih =>
      rw [UsesFail, ← hx.default_take_eq_none_iff hd, run_cons]
      cases hs : (x.take s).default with
      | none => simp [ih (hx.take s) hs]
      | some p => simp [default_run hs steps]

theorem Sound.exists_load (hx : x.Sound) (hnone : x.default = none) {steps : List Step}
    (hd : (x.run steps).default = some p) :
    ∃ before s after c, steps = before ++ s :: after ∧ UsesFail x before ∧
      (x.run before).Uses s ∧ (x.run before).host.loadDefault.result = .ok c ∧
      ((x.run before).take s).default = some p ∧
      ((x.run before).take s).store.read p = c.applyAll (assignedBy p (x.run before) s) := by
  induction steps generalizing x with
  | nil =>
      rw [run_nil, hnone] at hd
      cases hd
  | cons s steps ih =>
      cases hs : (x.take s).default with
      | some q =>
          rw [run_cons, default_run hs] at hd
          obtain rfl := Option.some.inj hd
          obtain ⟨c, hload, hread⟩ := hx.read_take_load hnone hs
          have huses : x.Uses s := by
            by_contra hu
            rw [default_take_of_not_uses hu, hnone] at hs
            cases hs
          exact ⟨[], s, steps, c, rfl, trivial, huses, hload, hs, hread⟩
      | none =>
          obtain ⟨before, t, after, c, rfl, hfail, hrest⟩ := ih (hx.take s) hs hd
          exact ⟨s :: before, t, after, c, rfl,
            ⟨(hx.default_take_eq_none_iff hnone s).1 hs, hfail⟩, hrest⟩

/-! ## A new thread -/

theorem newThread_of_default (hd : x.default = some p) :
    x.newThread = .ok (p, x.store.read p) := by
  simp [newThread, needDefault, readBeside, hd, Except.map]

theorem newThread_of_default_none (hd : x.default = none) :
    x.newThread.map Prod.snd = x.host.loadDefault.result := by
  cases hl : x.host.loadDefault.result with
  | error e => simp [newThread, needDefault, readBeside, hd, hl, Except.map]
  | ok c =>
      have hread : (x.build c).1.store.read (x.build c).2 = c := Store.read_build_self x.store c
      simp [newThread, needDefault, readBeside, hd, hl, Except.map, hread]

theorem Sound.not_keeps_default (hx : x.Sound) (hk : x.default = some p → ¬ x.Keeps p)
    {steps : List Step} (hs : .replace p ∉ steps) (hd : (x.run steps).default = some p) :
    ¬ (x.run steps).Keeps p := by
  induction steps generalizing x with
  | nil => exact hk hd
  | cons s steps ih =>
      refine ih (hx.take s) (fun hd hkeeps => ?_) (fun h => hs (List.mem_cons_of_mem s h)) hd
      have hne : s ≠ .replace p := fun h => hs (h ▸ List.mem_cons_self)
      obtain ⟨y, rfl | hl, he⟩ := x.exists_effect s
      · rw [he.default_eq] at hd
        obtain hq | ⟨hnot, -⟩ | ⟨h, -⟩ := he.keeps_cases hkeeps
        · exact hk hd hq
        · exact hnot (hx.default_has p hd)
        · exact hne h
      · rw [he.default_eq] at hd
        obtain hq | ⟨hnot, -⟩ | ⟨h, -⟩ := he.keeps_cases hkeeps
        · exact hl.not_has_of_default hd (hx.keeps_has p (hl.keeps_iff.1 hq))
        · exact hnot (hl.has_of_default hd)
        · exact hne h

/-! ## Runs that share no section -/

/-- The assignment that a step makes, if it makes it in the configuration at a place itself. -/
def assignedIn (p : Nat) (x : Context) (s : Step) : List Assignment :=
  if x.inForce.2.result.toOption = some p then (x.made s).toList else []

def assignmentsIn (p : Nat) : Context → List Step → List Assignment
  | _, [] => []
  | x, s :: steps => assignedIn p x s ++ assignmentsIn p (x.take s) steps

theorem assignedIn_of_made_none (h : x.made s = none) : assignedIn p x s = [] := by
  simp [assignedIn, h]

theorem Sound.separate_of_looked (hx : x.Sound) (h : x.store.Separate) (hy : x.Looked y) :
    y.store.Separate := by
  obtain rfl | ⟨c, hnone, hload⟩ := hy
  · exact h
  · exact h.build hx.store (Blueprint.isOwn_ofConfig c)

theorem Sound.separate_take (hx : x.Sound) (h : x.store.Separate) (hs : s.SharesNothing) :
    (x.take s).store.Separate := by
  obtain ⟨y, hy, he⟩ := x.exists_effect s
  have hsep := hx.separate_of_looked h hy
  have hsound := hx.of_looked hy
  generalize x.take s = z at he
  cases he with
  | left => unfold leave; split <;> exact hsep
  | @overridden _ _ c hp hc => exact hsep.build hsound.store (Blueprint.isOwn_ofConfig c)
  | built hb => exact hsep.build hsound.store hs
  | assigned hp ha => exact hsep.of_apply hsound.store (hsound.settled_has hp) ha
  | shared => exact absurd hs id
  | _ => exact hsep

/-- Where nothing is shared, an assignment reaches the default only if it is made there. -/
theorem Sound.assignedBy_eq (hx : x.Sound) (h : x.store.Separate)
    (hd : (x.take s).default = some p) : assignedBy p x s = assignedIn p x s := by
  cases hm : x.made s with
  | none => rw [assignedBy_of_made_none hm, assignedIn_of_made_none hm]
  | some a =>
      have hdefault : x.inForce.1.default = some p := by
        cases s with
        | assign a => exact (default_mutate x a).symm.trans hd
        | share n i =>
            by_cases hi : i < (x.store.sections n).length
            · rwa [Context.take, if_pos hi, default_share] at hd
            · simp [made, hi] at hm
        | _ => cases hm
      cases hr : x.inForce.2.result with
      | error e => simp [assignedBy, assignedIn, hr, Except.toOption]
      | ok q =>
          have hq : x.inForce.1.store.Has q := by
            obtain ⟨q', -, hs, hr'⟩ | ⟨e, -, -, -, hr'⟩ := x.inForce_cases
            · obtain rfl := Except.ok.inj (hr.symm.trans hr')
              exact hx.inForce.settled_has hs
            · rw [hr] at hr'
              cases hr'
          have hsep := hx.separate_of_looked h x.inForce_looked
          rw [assignedBy_of_made hr hm]
          simp [assignedIn, hr, hm, Except.toOption,
            hsep.reaches_iff hq (hx.inForce.default_has p hdefault)]

theorem Sound.assignmentsTo_eq (hx : x.Sound) (h : x.store.Separate) (hd : x.default = some p)
    {steps : List Step} (hs : ∀ s ∈ steps, s.SharesNothing) :
    assignmentsTo p x steps = assignmentsIn p x steps := by
  induction steps generalizing x with
  | nil => rfl
  | cons s steps ih =>
      have hd' := default_take hd s
      have hsep := hx.separate_take h (hs s List.mem_cons_self)
      rw [assignmentsTo, assignmentsIn, hx.assignedBy_eq h hd',
        ih (hx.take s) hsep hd' fun t ht => hs t (List.mem_cons_of_mem s ht)]

theorem Sound.separate_run (hx : x.Sound) (h : x.store.Separate) {steps : List Step}
    (hs : ∀ s ∈ steps, s.SharesNothing) : (x.run steps).store.Separate := by
  induction steps generalizing x with
  | nil => exact h
  | cons s steps ih =>
      exact ih (hx.take s) (hx.separate_take h (hs s List.mem_cons_self))
        fun t ht => hs t (List.mem_cons_of_mem s ht)

theorem Within.assignmentsIn_eq_nil {base : List Block} (hx : x.Within (· ≠ p) base)
    {steps : List Step} (hs : .replace p ∉ steps) (ho : KeepsOpen base.length x steps) :
    assignmentsIn p x steps = [] := by
  induction steps generalizing x with
  | nil => rfl
  | cons s steps ih =>
      obtain ⟨hl, ho⟩ := ho
      obtain ⟨q, hq, hne⟩ := hx.own
      have hreplace : ∀ q, s = .replace q → q ≠ p := by
        rintro q rfl rfl
        exact hs List.mem_cons_self
      have hnone : assignedIn p x s = [] := by
        rw [assignedIn, settled_of_own hq]
        exact if_neg fun h => hne (Option.some.inj h)
      rw [assignmentsIn, hnone,
        ih (hx.take hreplace hl) (fun h => hs (List.mem_cons_of_mem s h)) ho]
      rfl

/-- While the thread has another configuration of its own, nothing it does changes what a new thread
sees, as long as no section is shared. -/
theorem Sound.newThread_run (hx : x.Sound) (hsep : x.store.Separate) (hd : x.default = some p)
    (ho : x.own = some q) (hne : q ≠ p) {steps : List Step}
    (hshare : ∀ s ∈ steps, s.SharesNothing) (hs : .replace p ∉ steps)
    (hopen : KeepsOpen x.blocks.length x steps) : (x.run steps).newThread = x.newThread := by
  have hhas := hx.default_has p hd
  have hwithin : x.Within (· ≠ p) x.blocks :=
    { sound := hx
      fresh := fun r hr h => hr (h ▸ hhas)
      own := ⟨q, ho, hne⟩
      above := .refl }
  rw [newThread_of_default hd, newThread_of_default (default_run hd steps), hx.read_run hhas,
    hx.assignmentsTo_eq hsep hd hshare, hwithin.assignmentsIn_eq_nil hs hopen, Config.applyAll_nil]

/-! ## Any run -/

theorem separate_start (host : Host) : (start host).store.Separate :=
  fun p _ _ hp => absurd hp (Store.not_has_empty p)

/-- A default that is there was loaded by the first step that could, and then assigned. -/
theorem exists_newThread_of_default (host : Host) {steps : List Step}
    (hd : ((start host).run steps).default = some p) :
    ∃ before s after p c, steps = before ++ s :: after ∧
      let y := (start host).run before
      UsesFail (start host) before ∧ y.Uses s ∧ y.host.loadDefault.result = .ok c ∧
        ((start host).run steps).newThread =
          .ok (p, c.applyAll (assignmentsTo p y (s :: after))) ∧
        ((∀ t ∈ steps, t.SharesNothing) →
          assignmentsTo p y (s :: after) = assignmentsIn p y (s :: after)) := by
  have hstart := sound_start host
  obtain ⟨before, s, after, c, rfl, hfail, huses, hload, htake, hread⟩ :=
    hstart.exists_load rfl hd
  have hy := hstart.run before
  refine ⟨before, s, after, p, c, rfl, hfail, huses, hload, ?_, fun hshare => ?_⟩
  · rw [newThread_of_default hd, run_append, run_cons,
      (hy.take s).read_run ((hy.take s).default_has p htake), hread, assignmentsTo,
      Config.applyAll_append]
  · have hsep := hstart.separate_run (separate_start host) fun t ht =>
      hshare t (List.mem_append_left _ ht)
    have hs := hshare s (List.mem_append_right _ List.mem_cons_self)
    rw [assignmentsTo, assignmentsIn, hy.assignedBy_eq hsep htake,
      (hy.take s).assignmentsTo_eq (hy.separate_take hsep hs) htake fun t ht =>
        hshare t (List.mem_append_right _ (List.mem_cons_of_mem s ht))]

/-- Once the thread has a configuration of its own, the default stays as it is until the thread
leaves the block it is in. -/
theorem newThread_run_append (host : Host) {before after : List Step}
    (hshare : ∀ t ∈ before ++ after, t.SharesNothing)
    (hown : ((start host).run before).own ≠ none) :
    ∃ p, ((start host).run before).default = some p ∧
      (.replace p ∉ before ++ after →
        KeepsOpen ((start host).run before).blocks.length ((start host).run before) after →
        ((start host).run (before ++ after)).newThread = ((start host).run before).newThread) := by
  have hstart := sound_start host
  have hy := hstart.run before
  obtain ⟨p, hd⟩ := Option.ne_none_iff_exists'.1 (hy.loaded hown)
  obtain ⟨q, hq⟩ := Option.ne_none_iff_exists'.1 hown
  refine ⟨p, hd, fun hs hopen => ?_⟩
  have hkeeps : ¬ ((start host).run before).Keeps p :=
    hstart.not_keeps_default (fun h => by cases h) (fun h => hs (List.mem_append_left after h)) hd
  have hne : q ≠ p := by
    rintro rfl
    exact hkeeps (.inl hq)
  have hsep := hstart.separate_run (separate_start host) fun t ht =>
    hshare t (List.mem_append_left after ht)
  rw [run_append]
  exact hy.newThread_run hsep hd hq hne (fun t ht => hshare t (List.mem_append_right before ht))
    (fun h => hs (List.mem_append_right before h)) hopen

/-- After any run, a new thread sees one of two things. If every step that used the default failed
to load it, it is loaded now, as the process is now. Otherwise the first step that could loaded it,
as the process was then, and since then it was changed by the assignments that reached it. On a run
that gives no section of one configuration to another one, these are the assignments made in the
default itself; and from a time on at which the thread has a configuration of its own, as it has
inside every block that an override opened, what a new thread sees does not change until the thread
leaves the block it is in then, provided that it never puts the default in force by its place. -/
theorem newThread_characterized (host : Host) (steps : List Step) :
    let x := (start host).run steps
    ((UsesFail (start host) steps ∧ x.newThread.map Prod.snd = x.host.loadDefault.result) ∨
      ∃ before s after p c, steps = before ++ s :: after ∧
        let y := (start host).run before
        UsesFail (start host) before ∧ y.Uses s ∧ y.host.loadDefault.result = .ok c ∧
          x.newThread = .ok (p, c.applyAll (assignmentsTo p y (s :: after))) ∧
          ((∀ t ∈ steps, t.SharesNothing) →
            assignmentsTo p y (s :: after) = assignmentsIn p y (s :: after))) ∧
    ∀ before after, steps = before ++ after → (∀ t ∈ steps, t.SharesNothing) →
      let y := (start host).run before
      (y.own ≠ none ∨ ∃ previous, .restoring previous ∈ y.blocks) →
        ∃ p, y.default = some p ∧
          (.replace p ∉ steps → KeepsOpen y.blocks.length y after →
            x.newThread = y.newThread) := by
  intro x
  constructor
  · cases hd : x.default with
    | none => exact .inl ⟨((sound_start host).usesFail_iff rfl).2 hd, newThread_of_default_none hd⟩
    | some p => exact .inr (exists_newThread_of_default host hd)
  · rintro before after rfl hshare y (hown | ⟨previous, hprevious⟩)
    · exact newThread_run_append host hshare hown
    · have hcovered := ((sound_start host).run before).covered
      exact newThread_run_append host hshare (own_ne_none_of_covered hcovered hprevious)

def twoAssignments : List Step :=
  [.assign (.inSection "codec" "strict_types" (.bool false)), .enter (.config lenientOverride),
    .assign (.inSection "codec" "timestamp_rounding" (.text "floor"))]

theorem newThread_characterized_override :
    let y := (start bareHost).run (twoAssignments.take 2)
    let x := (start bareHost).run twoAssignments
    (∀ s ∈ twoAssignments, s.SharesNothing) ∧ y.own ≠ none ∧ .replace 0 ∉ twoAssignments ∧
      KeepsOpen y.blocks.length y (twoAssignments.drop 2) ∧ x.newThread = y.newThread ∧
      x.newThread.toOption.map (fun c => c.2.rules.policy) =
        some ⟨.truncate, .off, .lenient, .refuse⟩ := by
  intro y x
  have hshare : ∀ s ∈ twoAssignments, s.SharesNothing := by decide
  have hown : y.own ≠ none := by decide
  have hreplace : .replace 0 ∉ twoAssignments := by simp [twoAssignments]
  have hopen : KeepsOpen y.blocks.length y (twoAssignments.drop 2) := by decide
  obtain ⟨-, hshield⟩ := newThread_characterized bareHost twoAssignments
  obtain ⟨p, hp, hsame⟩ :=
    hshield (twoAssignments.take 2) (twoAssignments.drop 2) rfl hshare (.inl hown)
  have hdefault : y.default = some 0 := by decide
  obtain rfl : 0 = p := Option.some.inj (hdefault.symm.trans hp)
  exact ⟨hshare, hown, hreplace, hopen, hsame hreplace hopen, by decide⟩

def newStrictness (x : Context) : Option Strictness :=
  x.newThread.toOption.map fun c => c.2.rules.policy.strictness

def loosen : Step := .assign (.inSection "codec" "strict_types" (.bool false))

def afterSharing : Context :=
  (start bareHost).run
    [.look, .build ⟨.shared 0, .own (.defaults .logging), [.codec]⟩, .replace 1]

def afterBlock : Context :=
  (start bareHost).run
    [.enter (.config Config.defaults), .build Config.defaults, .replace 2, .leave]

/-- An assignment changes what a new thread sees although another configuration was put in force
before it: one that shares a section with the default, or one in a block that was left. -/
theorem newThread_changed_after_replace :
    afterSharing.default = some 0 ∧ afterSharing.own = some 1 ∧
      afterSharing.newStrictness = some .strict ∧
      (afterSharing.take loosen).newStrictness = some .lenient ∧
      afterBlock.default = some 0 ∧ afterBlock.newStrictness = some .strict ∧
      (afterBlock.take loosen).newStrictness = some .lenient := by
  decide

end Context

end IdentityClaims
