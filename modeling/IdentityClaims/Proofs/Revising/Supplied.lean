import IdentityClaims.ClaimSet.Revise
import IdentityClaims.Proofs.Calendar.Moment

/-!
# What supplied values give

A text gives a localized claim its one variant without tag, a map gives it a variant for each entry,
and null gives it none. A moment gives a point of time if universal time is within the years 1 to 9999
there, and a time of day without an offset gives that time in universal time. Main statements:
`givesVariants_of_suppliedVariants` and `suppliedTime_eq_ok_iff`.
-/

namespace IdentityClaims

namespace Label

theorem same_ofKey (a b : Data) : (ofKey a).same (ofKey b) = a.same b := by
  cases a <;> cases b <;> simp [ofKey, same, Data.same, Data.sameScalar]

end Label

def entryVariants (entries : List (Data × Data)) : List (Label × Data) :=
  entries.map fun e => (.ofKey e.1, e.2)

def DistinctKeys (entries : List (Data × Data)) : Prop :=
  entries.Pairwise fun a b => a.1.same b.1 = false

namespace Localized

/-- Entries that differ in their labels, among themselves and from those that are there, are all
added in their order. -/
theorem variants_foldl_insert (entries : List (Data × Data)) (l : Localized Data)
    (h : (l.variants ++ entryVariants entries).Pairwise fun a b => a.1.same b.1 = false) :
    (entries.foldl (fun l e => ((l.insert (.ofKey e.1) e.2).toOption).getD l) l).variants =
      l.variants ++ entryVariants entries := by
  induction entries generalizing l with
  | nil => exact (List.append_nil _).symm
  | cons e entries ih =>
      have hnew : l.has (.ofKey e.1) = false :=
        has_eq_false_iff.2 fun v hv =>
          (List.pairwise_append.1 h).2.2 v hv (.ofKey e.1, e.2) List.mem_cons_self
      obtain ⟨m, hm, hvariants⟩ := insert_of_has_eq_false hnew e.2
      have hcons : l.variants ++ entryVariants (e :: entries) =
          m.variants ++ entryVariants entries := by
        rw [hvariants, List.append_assoc]
        rfl
      rw [hcons] at h ⊢
      rw [List.foldl_cons, hm]
      exact ih m h

theorem variants_ofEntries {entries : List (Data × Data)} (h : DistinctKeys entries) :
    (ofEntries entries).variants = entryVariants entries := by
  refine variants_foldl_insert entries .empty (List.pairwise_map.2 ?_)
  simpa only [DistinctKeys, Label.same_ofKey] using h

end Localized

namespace Supplied

/-- The variants that a supplied value gives a localized claim, if it gives any. -/
inductive GivesVariants : Supplied → List (Label × Data) → Prop
  | null : GivesVariants (.held (.data .null)) []
  | text (s : String) : GivesVariants (.held (.data (.text s))) [(.tag none, .text s)]
  | chosen (type s : String) : GivesVariants (.held (.chosen type s)) [(.tag none, .text s)]
  | map (entries : List (Data × Data)) :
      GivesVariants (.held (.data (.map entries))) (entryVariants entries)
  | variants (l : Localized Data) : GivesVariants (.held (.variants l)) l.variants

/-- The time that a supplied value gives: none for null, for a moment the same time on a clock in
universal time, and a time of day as it is if it has no offset. -/
inductive GivesTime : Supplied → UpdateTime → Prop
  | null : GivesTime (.held (.data .null)) .unset
  | moment {m : Moment} {t : Instant} (micros : t.toMoment.micros = m.micros)
      (universal : t.toMoment.offset = some 0) : GivesTime (.moment m) (.instant t)
  | clock (c : ClockTime) : GivesTime (.clock c none) (.clock c)

def IsProper (v : Supplied) : Prop :=
  ∀ entries, v = .held (.data (.map entries)) → DistinctKeys entries

end Supplied

namespace ClaimSet

variable {c : LocalizedClaim} {v : Supplied}

/-- A localized claim takes null, texts, maps and variants, whatever is in them. -/
theorem exists_suppliedVariants_iff :
    (∃ l, suppliedVariants c v = .ok l) ↔ ∃ vs, v.GivesVariants vs := by
  constructor
  · rintro ⟨l, h⟩
    unfold suppliedVariants at h
    split at h
    case h_6 => cases h
    all_goals exact ⟨_, by constructor⟩
  · rintro ⟨vs, h⟩
    cases h <;> exact ⟨_, rfl⟩

theorem givesVariants_of_suppliedVariants (hv : v.IsProper) {l : Localized Data}
    (h : suppliedVariants c v = .ok l) : v.GivesVariants l.variants := by
  obtain ⟨vs, hvs⟩ := exists_suppliedVariants_iff.1 ⟨l, h⟩
  cases hvs with
  | null =>
      obtain rfl := Except.ok.inj h
      exact .null
  | text s =>
      obtain rfl := Except.ok.inj h
      exact .text s
  | chosen type s =>
      obtain rfl := Except.ok.inj h
      exact .chosen type s
  | map entries =>
      obtain rfl := Except.ok.inj h
      rw [Localized.variants_ofEntries (hv entries rfl)]
      exact .map entries
  | variants l =>
      obtain rfl := Except.ok.inj h
      exact .variants l

theorem suppliedTime_eq_ok_iff {time : UpdateTime} :
    suppliedTime v = .ok time ↔ v.GivesTime time := by
  constructor
  · intro h
    unfold suppliedTime at h
    split at h
    · obtain rfl := Except.ok.inj h
      exact .null
    · rename_i m
      cases hm : m.toInstant? with
      | none => simp [hm] at h
      | some t =>
          simp only [hm, Except.ok.injEq] at h
          subst h
          have hmicros := Moment.toInstant?_eq_some_iff.1 hm
          exact .moment (t.micros_toMoment.trans hmicros) rfl
    · obtain rfl := Except.ok.inj h
      exact .clock _
    · cases h
    · cases h
  · rintro (_ | @⟨m, t, hmicros, -⟩ | c)
    · rfl
    · rw [Instant.micros_toMoment] at hmicros
      simp only [suppliedTime, Moment.toInstant?_eq_some_iff.2 hmicros]
    · rfl

theorem suppliedTime_resupplied (time : UpdateTime) :
    suppliedTime time.resupplied =
      match time with
      | .clock _ => .error .zonedClock
      | _ => .ok time := by
  cases time with
  | instant t => simp only [UpdateTime.resupplied, suppliedTime, t.toInstant?_toMoment]
  | _ => rfl

theorem eq_of_suppliedTime_resupplied {time later : UpdateTime}
    (h : suppliedTime time.resupplied = .ok later) : time = later := by
  rw [suppliedTime_resupplied] at h
  cases time with
  | clock c => cases h
  | _ => exact Except.ok.inj h

end ClaimSet

end IdentityClaims
