import IdentityClaims.Localized.Label

/-!
# Localized values

The values of one claim by label, which is mostly a language tag. The first value of a label stays:
a second one is refused. Variants stand in the order in which they were inserted, and equality does
not look at the order.
-/

namespace IdentityClaims

/-- A label has a value already. -/
structure DuplicateLabel where
  label : Label
  deriving Repr

/-- Why data and a value are not added to localized values. -/
inductive InsertError
  | unhashable (e : Unhashable)
  | duplicate (e : DuplicateLabel)
  deriving Repr

@[ext] structure Localized (α : Type) where
  variants : List (Label × α)
  distinct : variants.Pairwise fun a b => a.1.same b.1 = false

namespace Localized

variable {α : Type}

def empty : Localized α := ⟨[], .nil⟩

def labels (l : Localized α) : List Label := l.variants.map Prod.fst

def has (l : Localized α) (label : Label) : Bool := l.variants.any fun v => v.1.same label

def get? (l : Localized α) (label : Label) : Option α :=
  (l.variants.find? fun v => v.1.same label).map Prod.snd

def size (l : Localized α) : Nat := l.variants.length

def isEmpty (l : Localized α) : Bool := l.variants.isEmpty

theorem has_eq_false_iff {l : Localized α} {label : Label} :
    l.has label = false ↔ ∀ v ∈ l.variants, v.1.same label = false := by
  simp [has]

/-- Adds the value of a label that has none yet. -/
def insert (l : Localized α) (label : Label) (value : α) :
    Except DuplicateLabel (Localized α) :=
  if h : l.has label = true then .error ⟨label⟩
  else
    .ok ⟨l.variants ++ [(label, value)], by
      have hn := has_eq_false_iff.1 (Bool.eq_false_iff.2 h)
      refine List.pairwise_append.2 ⟨l.distinct, by simp, fun a ha b hb => ?_⟩
      rw [List.mem_singleton.1 hb]
      exact hn a ha⟩

theorem insert_of_has {l : Localized α} {label : Label} (h : l.has label = true) (value : α) :
    l.insert label value = .error ⟨label⟩ := dif_pos h

theorem insert_of_has_eq_false {l : Localized α} {label : Label}
    (h : l.has label = false) (value : α) :
    ∃ m, l.insert label value = .ok m ∧ m.variants = l.variants ++ [(label, value)] := by
  have hno : ¬ l.has label = true := by simp [h]
  exact ⟨_, dif_neg hno, rfl⟩

def insertData (l : Localized α) (label : Data) (value : α) :
    Except InsertError (Localized α) :=
  match Label.read label with
  | .error e => .error (.unhashable e)
  | .ok label => (l.insert label value).mapError .duplicate

def insertPairs (l : Localized α) : List (Data × α) → Except InsertError (Localized α)
  | [] => .ok l
  | (label, value) :: rest =>
    match l.insertData label value with
    | .error e => .error e
    | .ok l => insertPairs l rest

def ofPairs (pairs : List (Data × α)) : Except InsertError (Localized α) :=
  insertPairs empty pairs

def ofDefault (value : α) : Localized α := ⟨[(.tag none, value)], by simp⟩

/-- Whether two localized values have the same variants, in whatever order. -/
def same (eq : α → α → Bool) (a b : Localized α) : Bool :=
  a.size == b.size && a.variants.all fun v =>
    match b.get? v.1 with
    | some w => eq v.2 w
    | none => false

/-- A label that is the same as itself has the value it stands with. -/
theorem get?_of_mem {l : Localized α} {label : Label} {value : α}
    (h : (label, value) ∈ l.variants) (hl : label.same label = true) :
    l.get? label = some value := by
  obtain ⟨variants, distinct⟩ := l
  rw [get?]
  dsimp only at h ⊢
  induction variants with
  | nil => cases h
  | cons v vs ih =>
      obtain ⟨hv, hvs⟩ := List.pairwise_cons.1 distinct
      rcases List.mem_cons.1 h with rfl | h
      · simp [hl]
      · simpa [hv _ h] using ih hvs h

theorem same_of_perm {eq : α → α → Bool} {a b : Localized α} (h : a.variants.Perm b.variants)
    (hself : ∀ v ∈ b.variants, v.1.same v.1 = true ∧ eq v.2 v.2 = true) :
    a.same eq b = true := by
  rw [same, Bool.and_eq_true, List.all_eq_true, size, size, h.length_eq]
  refine ⟨beq_self_eq_true _, fun v hv => ?_⟩
  have hmem := h.mem_iff.1 hv
  rw [get?_of_mem hmem (hself v hmem).1]
  exact (hself v hmem).2

end Localized

end IdentityClaims
