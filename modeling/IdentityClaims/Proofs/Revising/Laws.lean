import IdentityClaims.Proofs.Revising.Supplied
import Mathlib.Tactic.ByContra

/-!
# Laws of revising

What a claim set has to hold after a revision, and which revisions fail. Main statements:
`revise_eq_ok_iff`, `Revises.trans`, two revisions are one, and `exists_revise_eq_error_iff`.
-/

namespace IdentityClaims

namespace Entity

open ClaimSet

variable {e t u : Entity} {changes supplied : Entries String Supplied}

/-- A claim set is known by what it claims besides the time of the last update, and by the time that
is held. -/
theorem ext_time (hplain : ∀ c, e.claims.plain c = t.claims.plain c)
    (hlocalized : ∀ c, e.claims.localized c = t.claims.localized c) (htime : e.time = t.time)
    (hadditional : e.claims.additional = t.claims.additional) : e = t := by
  have hclaims : e.claims = t.claims :=
    ClaimSet.ext (funext hplain) (funext hlocalized) (by rw [e.claimed, t.claimed, htime])
      hadditional
  cases e
  cases t
  simp_all

/-! ## One revision -/

structure Revises (e : Entity) (changes : Entries String Supplied) (t : Entity) : Prop where
  known : ∀ name ∈ Entries.keys changes, name ∈ Claim.attributeNames
  plain : ∀ c, (Entries.get? changes c.key).elim (e.claims.plain c)
    (fun v => settled (suppliedHeld v)) = t.claims.plain c
  localized : ∀ c, (Entries.get? changes c.key).elim (.ok (e.claims.localized c))
    (suppliedVariants c) = .ok (t.claims.localized c)
  time : suppliedTime ((Entries.get? changes Claim.updatedAt.key).getD e.time.resupplied) =
    .ok t.time
  additional : (Entries.get? changes additionalName).elim e.claims.additional suppliedHeld =
    t.claims.additional

theorem revisedVariants_eq_elim (e : Entity) (changes : Entries String Supplied)
    (c : LocalizedClaim) : e.revisedVariants changes c =
      (Entries.get? changes c.key).elim (.ok (e.claims.localized c)) (suppliedVariants c) := by
  rw [revisedVariants]
  cases Entries.get? changes c.key <;> rfl

theorem errorOf?_eq_none_iff {ε α : Type} {r : Except ε α} :
    errorOf? r = none ↔ ∃ a, r = .ok a := by
  cases r <;> simp [errorOf?]

theorem find?_isUnknown_eq_none_iff :
    (changes.find? fun e => isUnknown e.1) = none ↔
      ∀ name ∈ Entries.keys changes, name ∈ Claim.attributeNames := by
  simp [isUnknown, Entries.keys, List.find?_eq_none]

theorem has_receiverName_eq_false (h : ∀ name ∈ Entries.keys changes, name ∈ Claim.attributeNames) :
    Entries.has changes receiverName = false := by
  rw [← Bool.not_eq_true, Entries.has_iff_mem_keys]
  intro hmem
  exact absurd (h _ hmem) (by decide)

/-- Nothing stands against a revision exactly if every name is known, every localized claim gets
variants and the time is a point of time. -/
theorem revisionError?_eq_none_iff :
    e.revisionError? changes = none ↔
      (∀ name ∈ Entries.keys changes, name ∈ Claim.attributeNames) ∧
        (∀ c, ∃ l, e.revisedVariants changes c = .ok l) ∧
        ∃ time, e.revisedTime changes = .ok time := by
  have hvariants : (LocalizedClaim.all.findSome? fun c => errorOf? (e.revisedVariants changes c)) =
      none ↔ ∀ c, ∃ l, e.revisedVariants changes c = .ok l := by
    simp only [List.findSome?_eq_none_iff, errorOf?_eq_none_iff]
    exact ⟨fun h c => h c (LocalizedClaim.mem_all c), fun h c _ => h c⟩
  rw [revisionError?, Option.or_eq_none_iff, Option.or_eq_none_iff, Option.or_eq_none_iff,
    Option.map_eq_none_iff, find?_isUnknown_eq_none_iff, hvariants, errorOf?_eq_none_iff]
  constructor
  · rintro ⟨⟨⟨-, hknown⟩, hlocalized⟩, htime⟩
    exact ⟨hknown, hlocalized, htime⟩
  · rintro ⟨hknown, hlocalized, htime⟩
    exact ⟨⟨⟨by simp [has_receiverName_eq_false hknown], hknown⟩, hlocalized⟩, htime⟩

theorem revise_eq_ok_iff : e.revise changes = .ok t ↔ e.Revises changes t := by
  constructor
  · intro h
    rw [revise] at h
    cases he : e.revisionError? changes with
    | some err => simp [he] at h
    | none =>
        obtain ⟨hknown, hlocalized, time, htime⟩ := revisionError?_eq_none_iff.1 he
        simp only [he, Except.ok.injEq] at h
        subst h
        refine ⟨hknown, fun c => ?_, fun c => ?_, ?_, ?_⟩
        · dsimp only
          cases Entries.get? changes c.key <;> rfl
        · obtain ⟨l, hl⟩ := hlocalized c
          simp only [← revisedVariants_eq_elim, hl]
          rfl
        · simp only [htime]
          exact htime
        · cases Entries.get? changes additionalName <;> rfl
  · intro h
    have hlocalized (c : LocalizedClaim) : e.revisedVariants changes c = .ok (t.claims.localized c) :=
      (e.revisedVariants_eq_elim changes c).trans (h.localized c)
    have htime : e.revisedTime changes = .ok t.time := h.time
    have hnone : e.revisionError? changes = none :=
      revisionError?_eq_none_iff.2 ⟨h.known, fun c => ⟨_, hlocalized c⟩, ⟨_, htime⟩⟩
    simp only [revise, hnone, Except.ok.injEq]
    refine ext_time (fun c => ?_) (fun c => ?_) ?_ ?_
    · rw [← h.plain]
      dsimp only
      cases Entries.get? changes c.key <;> rfl
    · simp only [hlocalized]
      rfl
    · simp only [htime]
      rfl
    · rw [← h.additional]
      cases Entries.get? changes additionalName <;> rfl

theorem build_eq_ok_iff :
    build supplied = .ok t ↔
      PlainClaim.sub.key ∈ Entries.keys supplied ∧ (ofClaims .empty).Revises supplied t := by
  have hmissing : (PlainClaim.all.find? fun c => c.isRequired && !Entries.has supplied c.key) =
      none ↔ PlainClaim.sub.key ∈ Entries.keys supplied := by
    rw [List.find?_eq_none, ← Entries.has_iff_mem_keys]
    constructor
    · intro h
      simpa [PlainClaim.isRequired] using h .sub (PlainClaim.mem_all .sub)
    · intro h c _ hc
      simp only [Bool.and_eq_true, PlainClaim.isRequired, decide_eq_true_eq, Bool.not_eq_true']
        at hc
      obtain ⟨rfl, hc⟩ := hc
      rw [h] at hc
      cases hc
  rw [← revise_eq_ok_iff, ← hmissing, build]
  constructor
  · intro h
    split at h
    · cases h
    · split at h
      · cases h
      · exact ⟨‹_›, h⟩
  · rintro ⟨hsub, h⟩
    have hunknown := find?_isUnknown_eq_none_iff.2 (revise_eq_ok_iff.1 h).known
    simp only [hunknown, hsub, h]

/-- Supplying nothing changes nothing, where no time of day is held. -/
theorem revises_nil (h : ∀ c, e.time ≠ .clock c) : e.Revises [] e where
  known := by simp [Entries.keys]
  plain _ := rfl
  localized _ := rfl
  time := by
    rw [Entries.get?_nil, Option.getD_none, suppliedTime_resupplied]
    cases ht : e.time with
    | clock c => exact absurd ht (h c)
    | _ => rfl
  additional := rfl

theorem elim_get?_putAll {α : Type} {a b : Entries String Supplied} (hb : (Entries.keys b).Nodup)
    (name : String) (before : α) (f : Supplied → α) :
    (Entries.get? (Entries.putAll a b) name).elim before f =
      (Entries.get? b name).elim ((Entries.get? a name).elim before f) f := by
  rw [Entries.get?_putAll hb]
  cases Entries.get? b name <;> rfl

theorem getD_get?_putAll {a b : Entries String Supplied} (hb : (Entries.keys b).Nodup)
    (name : String) (before : Supplied) :
    (Entries.get? (Entries.putAll a b) name).getD before =
      (Entries.get? b name).getD ((Entries.get? a name).getD before) := by
  rw [Entries.get?_putAll hb]
  cases Entries.get? b name <;> rfl

theorem Revises.trans {a b : Entries String Supplied} (hb : (Entries.keys b).Nodup)
    (het : e.Revises a t) (htu : t.Revises b u) : e.Revises (Entries.putAll a b) u where
  known name hname := by
    obtain ⟨entry, hentry, rfl⟩ := List.mem_map.1 hname
    rcases Entries.mem_of_mem_putAll hentry with hentry | hentry
    · exact het.known _ (List.mem_map_of_mem hentry)
    · exact htu.known _ (List.mem_map_of_mem hentry)
  plain c := by rw [elim_get?_putAll hb, het.plain, htu.plain]
  localized c := by rw [elim_get?_putAll hb, het.localized, htu.localized]
  time := by
    have htime := htu.time
    rw [getD_get?_putAll hb]
    cases hv : Entries.get? b Claim.updatedAt.key with
    | some v =>
        rw [hv] at htime
        exact htime
    | none =>
        rw [hv] at htime
        rw [Option.getD_none, het.time, eq_of_suppliedTime_resupplied htime]
  additional := by rw [elim_get?_putAll hb, het.additional, htu.additional]

/-! ## Refused revisions -/

/-- Changes that a claim set cannot be revised with: they have an unknown name, a localized claim
that is given no variants, a time that is none, or no time where a time of day is held. -/
inductive Refused (e : Entity) (changes : Entries String Supplied) : Prop
  | unknown {name : String} (mem : name ∈ Entries.keys changes)
      (unknown : name ∉ Claim.attributeNames)
  | localized {c : LocalizedClaim} {v : Supplied} (get : Entries.get? changes c.key = some v)
      (nothing : ∀ vs, ¬ v.GivesVariants vs)
  | updatedAt {v : Supplied} (get : Entries.get? changes Claim.updatedAt.key = some v)
      (nothing : ∀ time, ¬ v.GivesTime time)
  | clock {c : ClockTime} (get : Entries.get? changes Claim.updatedAt.key = none)
      (held : e.time = .clock c)

theorem exists_revisedTime_or_refused (e : Entity) (changes : Entries String Supplied) :
    (∃ time, e.revisedTime changes = .ok time) ∨ e.Refused changes := by
  rw [revisedTime]
  cases hv : Entries.get? changes Claim.updatedAt.key with
  | none =>
      rw [Option.getD_none, suppliedTime_resupplied]
      cases ht : e.time with
      | clock c => exact .inr (.clock hv ht)
      | _ => exact .inl ⟨_, rfl⟩
  | some v =>
      by_cases h : ∃ time, v.GivesTime time
      · obtain ⟨time, htime⟩ := h
        exact .inl ⟨time, suppliedTime_eq_ok_iff.2 htime⟩
      · exact .inr (.updatedAt hv fun time htime => h ⟨time, htime⟩)

theorem exists_revisedVariants_or_refused (e : Entity) (changes : Entries String Supplied)
    (c : LocalizedClaim) : (∃ l, e.revisedVariants changes c = .ok l) ∨ e.Refused changes := by
  rw [revisedVariants_eq_elim]
  cases hv : Entries.get? changes c.key with
  | none => exact .inl ⟨_, rfl⟩
  | some v =>
      by_cases h : ∃ vs, v.GivesVariants vs
      · exact .inl (exists_suppliedVariants_iff.2 h)
      · exact .inr (.localized hv fun vs hvs => h ⟨vs, hvs⟩)

theorem Revises.not_refused (h : e.Revises changes t) : ¬ e.Refused changes := by
  intro hrefused
  cases hrefused with
  | unknown hmem hunknown => exact absurd (h.known _ hmem) hunknown
  | @localized c v hv hno =>
      have hc := h.localized c
      rw [hv] at hc
      obtain ⟨vs, hvs⟩ := exists_suppliedVariants_iff.1 ⟨_, hc⟩
      exact hno vs hvs
  | @updatedAt v hv hno =>
      have htime := h.time
      rw [hv] at htime
      exact hno _ (suppliedTime_eq_ok_iff.1 htime)
  | @clock c hv ht =>
      have htime := h.time
      rw [hv, Option.getD_none, suppliedTime_resupplied, ht] at htime
      cases htime

theorem exists_revise_eq_error_iff :
    (∃ err, e.revise changes = .error err) ↔ e.Refused changes := by
  constructor
  · rintro ⟨err, herr⟩
    by_contra hrefused
    have hnone : e.revisionError? changes = none := by
      refine revisionError?_eq_none_iff.2 ⟨fun name hname => ?_, fun c => ?_, ?_⟩
      · by_contra hunknown
        exact hrefused (.unknown hname hunknown)
      · exact (e.exists_revisedVariants_or_refused changes c).resolve_right hrefused
      · exact (e.exists_revisedTime_or_refused changes).resolve_right hrefused
    simp [revise, hnone] at herr
  · intro hrefused
    cases hr : e.revise changes with
    | error err => exact ⟨err, rfl⟩
    | ok t => exact absurd hrefused (revise_eq_ok_iff.1 hr).not_refused

end Entity

end IdentityClaims
