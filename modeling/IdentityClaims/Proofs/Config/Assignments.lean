import IdentityClaims.Proofs.Config.Steps

/-!
# What the assignments of a run change

Every step but an assignment leaves all configurations as they are. An assignment is made in the
configuration in force and shows in all that share the section in which it assigns a field. So what
a configuration is after a run is what it was before with the assignments that reached it. Main
statement: `Sound.read_run`.
-/

namespace IdentityClaims

namespace Config

def applyAll (c : Config) (as : List Assignment) : Config := as.foldl applied c

@[simp] theorem applyAll_nil (c : Config) : c.applyAll [] = c := rfl

theorem applyAll_append (c : Config) (as bs : List Assignment) :
    c.applyAll (as ++ bs) = (c.applyAll as).applyAll bs :=
  List.foldl_append

theorem applyAll_ite (c : Config) (a : Assignment) (P : Prop) [Decidable P] :
    c.applyAll (if P then [a] else []) = if P then c.applied a else c := by
  split <;> rfl

end Config

namespace Context

variable {x y : Context} {p q : Nat} {s : Step} {a : Assignment}

def made (x : Context) : Step → Option Assignment
  | .assign a => some a
  | .share n i =>
    if i < (x.store.sections n).length then some (.whole n.key (x.store.sectionAt n i)) else none
  | _ => none

/-- The assignment that a step makes, if it reaches the configuration at a place from the one in
force. -/
def assignedBy (p : Nat) (x : Context) (s : Step) : List Assignment :=
  match x.inForce.2.result with
  | .ok q => (x.made s).toList.filter fun a => x.inForce.1.store.Reaches q p a
  | .error _ => []

def assignmentsTo (p : Nat) : Context → List Step → List Assignment
  | _, [] => []
  | x, s :: steps => assignedBy p x s ++ assignmentsTo p (x.take s) steps

theorem assignedBy_of_made_none (h : x.made s = none) : assignedBy p x s = [] := by
  unfold assignedBy
  split <;> simp [h]

theorem assignedBy_of_made (hr : x.inForce.2.result = .ok q) (h : x.made s = some a) :
    assignedBy p x s = if x.inForce.1.store.Reaches q p a then [a] else [] := by
  simp [assignedBy, hr, h, List.filter_cons]

theorem assignedBy_of_error {e : LoadError} (hr : x.inForce.2.result = .error e) :
    assignedBy p x s = [] := by
  simp [assignedBy, hr]

/-- After a step the default and the configurations are those that were there once what the step
needs was looked up, but for what the step assigns. -/
structure Changes (x : Context) (s : Step) (y : Context) : Prop where
  looked : x.Looked y
  default_eq : (x.take s).default = y.default
  read_eq : ∀ p, y.store.Has p →
    (x.take s).store.read p = (y.store.read p).applyAll (assignedBy p x s)

theorem Sound.changes_of_effect (hx : x.Sound) (hy : x.Looked y) (he : y.Effect s (x.take s))
    (hassign : ∀ a, s ≠ .assign a) (hshare : ∀ n i, s ≠ .share n i) : x.Changes s y where
  looked := hy
  default_eq := he.default_eq
  read_eq p hp := by
    have hnone : x.made s = none := by
      cases s with
      | assign a => exact absurd rfl (hassign a)
      | share n i => exact absurd rfl (hshare n i)
      | _ => rfl
    have hstore := (hx.of_looked hy).store
    rw [assignedBy_of_made_none hnone, Config.applyAll_nil]
    generalize x.take s = z at he
    cases he with
    | left => unfold leave; split <;> rfl
    | @overridden _ _ c hs hc => exact hstore.read_build_of_has (.ofConfig c) hp
    | @built b hb => exact hstore.read_build_of_has b hp
    | assigned => exact absurd rfl (hassign _)
    | shared => exact absurd rfl (hshare _ _)
    | _ => rfl

theorem Sound.changes_assign (hx : x.Sound) (a : Assignment) :
    x.Changes (.assign a) x.inForce.1 := by
  have hstore := hx.inForce.store
  have htake : x.take (.assign a) = (x.mutate a).1 := rfl
  obtain ⟨q, hs, hr, ⟨store, ha, hm⟩ | ⟨e, ha, hm⟩⟩ | ⟨e, hr, hm⟩ := x.mutate_cases a
  · refine ⟨x.inForce_looked, by rw [htake, hm], fun p hp => ?_⟩
    rw [htake, hm, assignedBy_of_made hr rfl, Config.applyAll_ite]
    exact hstore.read_of_apply (hx.inForce.settled_has hs) hp ha
  · refine ⟨x.inForce_looked, by rw [htake, hm], fun p hp => ?_⟩
    rw [htake, hm, assignedBy_of_made hr rfl, Config.applyAll_ite]
    split
    · next h => exact (Store.applied_of_refused ha h).symm
    · rfl
  · refine ⟨x.inForce_looked, by rw [htake, hm], fun p hp => ?_⟩
    rw [htake, hm, assignedBy_of_error hr, Config.applyAll_nil]

theorem Sound.changes_share (hx : x.Sound) {n : SectionName} {i : Nat}
    (hi : i < (x.store.sections n).length) : x.Changes (.share n i) x.inForce.1 := by
  have hmade : x.made (.share n i) = some (.whole n.key (x.store.sectionAt n i)) := if_pos hi
  have htake : x.take (.share n i) = (x.share n i).1 := if_pos hi
  obtain ⟨q, hs, hr, hm⟩ | ⟨e, hr, hm⟩ := x.share_cases n i
  · refine ⟨x.inForce_looked, by rw [htake, hm], fun p hp => ?_⟩
    rw [htake, hm, assignedBy_of_made hr hmade, Config.applyAll_ite, Config.applied_whole,
      ← x.inForce_looked.sectionAt_eq hi]
    rw [hx.inForce.store.read_exchange (hx.inForce.settled_has hs) hp]
    exact if_congr Store.reaches_whole_iff.symm rfl rfl
  · refine ⟨x.inForce_looked, by rw [htake, hm], fun p hp => ?_⟩
    rw [htake, hm, assignedBy_of_error hr, Config.applyAll_nil]

theorem Sound.exists_changes (hx : x.Sound) (s : Step) : ∃ y, x.Changes s y := by
  obtain ⟨y, hy, he⟩ := x.exists_effect s
  cases s with
  | assign a => exact ⟨_, hx.changes_assign a⟩
  | share n i =>
      by_cases hi : i < (x.store.sections n).length
      · exact ⟨_, hx.changes_share hi⟩
      · have htake : x.take (.share n i) = x := if_neg hi
        have hmade : x.made (.share n i) = none := if_neg hi
        refine ⟨x, .inl rfl, by rw [htake], fun p _ => ?_⟩
        rw [htake, assignedBy_of_made_none hmade, Config.applyAll_nil]
  | _ => exact ⟨y, hx.changes_of_effect hy he (fun _ => nofun) fun _ _ => nofun⟩

/-- A run changes a configuration by the assignments that reach it. -/
theorem Sound.read_run (hx : x.Sound) (hp : x.store.Has p) (steps : List Step) :
    (x.run steps).store.read p = (x.store.read p).applyAll (assignmentsTo p x steps) := by
  induction steps generalizing x with
  | nil => rfl
  | cons s steps ih =>
      obtain ⟨y, hy⟩ := hx.exists_changes s
      have hread : (x.take s).store.read p = (x.store.read p).applyAll (assignedBy p x s) := by
        rw [hy.read_eq p (hy.looked.has_of_has hp), hx.read_of_looked hy.looked hp]
      rw [run_cons, ih (hx.take s) (has_take hp s), hread, assignmentsTo, Config.applyAll_append]

end Context

end IdentityClaims
