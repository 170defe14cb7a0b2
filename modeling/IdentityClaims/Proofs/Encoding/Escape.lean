import IdentityClaims.Proofs.Encoding.Collision
import IdentityClaims.Proofs.Values.Portable

/-!
# Errors that escape from encoding

Encoding stops at the first thing that stands in its way: a standard claim in the order of the
claims, then the additional claims, then a collision. What it says then is an error of encoding,
unless a value had no portable form and nothing caught that. Of a plain claim and of the additional
claims only a value of an unknown kind is caught, of a variant nothing is. Main statement: which
claim sets fail with which error, and which errors of their values come through as they are.
-/

namespace IdentityClaims

namespace ClaimSet

inductive Hinders (s : ClaimSet) : Claim → EncodeError → Prop
  | missing {c : PlainClaim} (h : s.plain c = none) (hr : c.isRequired = true) :
      Hinders s (.plain c) (.missing c)
  | plain {c : PlainClaim} {v : Held} {p : PortableError} (h : s.plain c = some v)
      (hp : v.Blocks c.unfit false p) : Hinders s (.plain c) (.plain c p)
  | variant {c : LocalizedClaim} {pre post : List (Label × Data)} {label : Label} {value : Data}
      {p : PortableError} (h : (s.localized c).variants = pre ++ (label, value) :: post)
      (hpre : ∀ v ∈ pre, v.2.Writable) (hp : value.Blocks p) :
      Hinders s (.localized c) (.variant c p)

/-- The first thing that keeps a claim set from being encoded. -/
inductive Fails (s : ClaimSet) (policy : Policy) : EncodeError → Prop
  | standard {pre post : List Claim} {c : Claim} {e : EncodeError}
      (horder : Claim.all = pre ++ c :: post) (hpre : ∀ c' ∈ pre, ∀ e, ¬ s.Hinders c' e)
      (h : s.Hinders c e) : Fails s policy e
  | additional {p : PortableError} (hall : ∀ c e, ¬ s.Hinders c e)
      (hp : s.additional.Blocks .noSchema true p) : Fails s policy (.additional p)
  | notMap {d : Data} (hall : ∀ c e, ¬ s.Hinders c e) (hne : s.additional ≠ .data .null)
      (h : s.additional.portable true = .ok d) (hd : ∀ es, d ≠ .map es) :
      Fails s policy (.additionalNotMap d.kind)
  | collision {dumped : FlatMap} {key : String} {c : Claim} (hall : ∀ c e, ¬ s.Hinders c e)
      (h : s.DumpsTo dumped) (hrule : policy.collisions = .refuse)
      (hfirst : FirstOwned dumped key c) : Fails s policy (.collision key c)

/-- The error of a value that is the first to stand in the way of encoding, where nothing catches
it. -/
inductive Escapes (s : ClaimSet) : PortableError → Prop
  | plain {pre post : List Claim} {c : PlainClaim} {v : Held} {p : PortableError}
      (horder : Claim.all = pre ++ .plain c :: post) (hpre : ∀ c' ∈ pre, ∀ e, ¬ s.Hinders c' e)
      (h : s.plain c = some v) (hp : v.Blocks c.unfit false p)
      (hcaught : ∀ kind, p ≠ .unknownKind kind) : Escapes s p
  | variant {pre post : List Claim} {c : LocalizedClaim} {p : PortableError}
      (horder : Claim.all = pre ++ .localized c :: post)
      (hpre : ∀ c' ∈ pre, ∀ e, ¬ s.Hinders c' e) (h : s.Hinders (.localized c) (.variant c p)) :
      Escapes s p
  | additional {p : PortableError} (hall : ∀ c e, ¬ s.Hinders c e)
      (hp : s.additional.Blocks .noSchema true p) (hcaught : ∀ kind, p ≠ .unknownKind kind) :
      Escapes s p

variable {s : ClaimSet} {policy : Policy} {c : Claim} {e : EncodeError} {p : PortableError}

/-- Of the elements of a list that do not all satisfy something, one is the first that does not. -/
theorem exists_first_of_not_forall {α : Type} {P : α → Prop} {l : List α} (h : ¬ ∀ x ∈ l, P x) :
    ∃ pre x post, l = pre ++ x :: post ∧ (∀ y ∈ pre, P y) ∧ ¬ P x := by
  classical
  push Not at h
  obtain ⟨x, hx, hP⟩ := h
  obtain ⟨y, hy⟩ : ∃ y, l.find? (fun x => ¬ P x) = some y :=
    Option.isSome_iff_exists.1 (List.find?_isSome.2 ⟨x, hx, decide_eq_true hP⟩)
  obtain ⟨hfirst, pre, post, rfl, hpre⟩ := List.find?_eq_some_iff_append.1 hy
  exact ⟨pre, y, post, rfl, fun z hz => by simpa using hpre z hz, of_decide_eq_true hfirst⟩

/-! ## Standard claims -/

theorem exists_variantEntries {c : LocalizedClaim} {vs : List (Label × Data)}
    (h : ∀ v ∈ vs, v.2.Writable) : ∃ m, variantEntries c vs = .ok m := by
  induction vs with
  | nil => exact ⟨[], rfl⟩
  | cons v vs ih =>
    obtain ⟨d, hd⟩ := (h v List.mem_cons_self).exists_portable
    obtain ⟨m, hm⟩ := ih fun w hw => h w (List.mem_cons_of_mem _ hw)
    refine ⟨(FlatKey.join c.key v.1.travelling, d) :: m, ?_⟩
    simp only [variantEntries, writeVariant, hd, hm]
    rfl

/-- Variants are written one after the other, up to the first that is not. -/
theorem variantEntries_append {c : LocalizedClaim} {pre post : List (Label × Data)}
    (hpre : ∀ v ∈ pre, v.2.Writable) (h : variantEntries c post = .error e) :
    variantEntries c (pre ++ post) = .error e := by
  induction pre with
  | nil => exact h
  | cons v pre ih =>
    obtain ⟨d, hd⟩ := (hpre v List.mem_cons_self).exists_portable
    have hrest := ih fun w hw => hpre w (List.mem_cons_of_mem _ hw)
    simp only [List.cons_append, variantEntries, writeVariant, hd, hrest]
    rfl

theorem Hinders.claimEntries_eq (h : s.Hinders c e) : s.claimEntries policy c = .error e := by
  cases h with
  | missing h hr => simp only [claimEntries, h, hr, if_true]
  | plain h hp => simp only [claimEntries, h, PlainClaim.write_eq_error_iff.2 hp]
  | @variant c pre post label value p h hpre hp =>
    have hfirst : variantEntries c ((label, value) :: post) = .error (.variant c p) := by
      simp only [variantEntries, writeVariant, hp.portable_eq]
    rw [claimEntries, h, variantEntries_append hpre hfirst]
    rfl

theorem exists_claimEntries (h : ∀ e, ¬ s.Hinders c e) : ∃ m, s.claimEntries policy c = .ok m := by
  rcases c with c | c | _
  · rw [claimEntries]
    cases hv : s.plain c with
    | none =>
      have hr : ¬ c.isRequired = true := fun hr => h _ (.missing hv hr)
      exact ⟨[], by simp only [hr]; rfl⟩
    | some v =>
      cases hw : c.write v with
      | error p => exact absurd (.plain hv (PlainClaim.write_eq_error_iff.1 hw)) (h (.plain c p))
      | ok d => exact ⟨[(c.key, d)], by simp only [hw]⟩
  · have hall : ∀ v ∈ (s.localized c).variants, v.2.Writable := by
      by_contra hnot
      obtain ⟨pre, ⟨label, value⟩, post, hvs, hpre, hvalue⟩ := exists_first_of_not_forall hnot
      obtain ⟨p, hp⟩ := value.writable_or_blocks.resolve_left hvalue
      exact h _ (.variant hvs hpre hp)
    obtain ⟨m, hm⟩ := exists_variantEntries (c := c) hall
    exact ⟨Entries.ofPairs m, by rw [claimEntries, hm]; rfl⟩
  · rw [claimEntries]
    cases s.updatedAt with
    | none => exact ⟨[], rfl⟩
    | some t => exact ⟨[(Claim.updatedAt.key, writeTime policy t)], rfl⟩

theorem entriesOf_append {pre post : List Claim} (hpre : ∀ c ∈ pre, ∀ e, ¬ s.Hinders c e)
    (h : s.entriesOf policy post = .error e) : s.entriesOf policy (pre ++ post) = .error e := by
  induction pre with
  | nil => exact h
  | cons c pre ih =>
    obtain ⟨m, hm⟩ : ∃ m, s.claimEntries policy c = .ok m :=
      exists_claimEntries (hpre c List.mem_cons_self)
    have hrest := ih fun c' hc' => hpre c' (List.mem_cons_of_mem _ hc')
    simp only [List.cons_append, entriesOf, hm, hrest]
    rfl

theorem exists_standardEntries (hall : ∀ c e, ¬ s.Hinders c e) :
    ∃ m, s.standardEntries policy = .ok m := by
  have hentries : ∀ c, ∃ m, s.claimEntries policy c = .ok m :=
    fun c => exists_claimEntries (hall c)
  choose es hes using hentries
  exact ⟨_, entriesOf_eq_ok fun c _ => hes c⟩

/-! ## Additional claims -/

theorem additionalEntries_of_ne (h : s.additional ≠ .data .null) :
    s.additionalEntries = match s.additional.portable true with
      | .error p => .error (.additional p)
      | .ok (.map entries) => .ok (textEntries entries)
      | .ok d => .error (.additionalNotMap d.kind) := by
  unfold additionalEntries
  split
  · contradiction
  · rfl

theorem additionalEntries_of_blocks (hp : s.additional.Blocks .noSchema true p) :
    s.additionalEntries = .error (.additional p) := by
  rw [← Held.portable_eq_error_iff] at hp
  have hne : s.additional ≠ .data .null := by
    intro hnull
    rw [hnull] at hp
    cases hp
  rw [additionalEntries_of_ne hne, hp]

theorem additionalEntries_of_ne_map {d : Data} (hne : s.additional ≠ .data .null)
    (h : s.additional.portable true = .ok d) (hd : ∀ es, d ≠ .map es) :
    s.additionalEntries = .error (.additionalNotMap d.kind) := by
  rw [additionalEntries_of_ne hne, h]
  cases d with
  | map es => exact absurd rfl (hd es)
  | _ => rfl

/-- Additional claims travel as the entries of a map, or something in them has no portable form, or
they have one that is no map. -/
theorem dumpsTo_or_blocks (s : ClaimSet) :
    (∃ dumped, s.DumpsTo dumped) ∨ (∃ p, s.additional.Blocks .noSchema true p) ∨
      ∃ d, s.additional ≠ .data .null ∧ s.additional.portable true = .ok d ∧
        ∀ es, d ≠ .map es := by
  by_cases hnull : s.additional = .data .null
  · exact .inl ⟨[], .absent hnull⟩
  · cases hport : s.additional.portable true with
    | error p => exact .inr (.inl ⟨p, Held.portable_eq_error_iff.1 hport⟩)
    | ok d =>
      by_cases hmap : ∃ es, d = .map es
      · obtain ⟨es, rfl⟩ := hmap
        obtain ⟨pairs, rfl, -⟩ := exists_textPairs_of_portable hport
        exact .inl ⟨pairs, .mapping hport⟩
      · exact .inr (.inr ⟨d, hnull, rfl, fun es hes => hmap ⟨es, hes⟩⟩)

/-! ## The whole claim set -/

theorem Fails.encode_eq (h : s.Fails policy e) : s.encode policy = .error e := by
  cases h with
  | @standard pre post c _ horder hpre h =>
    have hfirst : s.entriesOf policy (c :: post) = .error e := by
      simp only [entriesOf, h.claimEntries_eq]
    rw [encode, standardEntries, horder, entriesOf_append hpre hfirst]
  | additional hall hp =>
    obtain ⟨standard, hs⟩ : ∃ m, s.standardEntries policy = .ok m := exists_standardEntries hall
    simp only [encode, hs, additionalEntries_of_blocks hp]
  | notMap hall hne h hd =>
    obtain ⟨standard, hs⟩ : ∃ m, s.standardEntries policy = .ok m := exists_standardEntries hall
    simp only [encode, hs, additionalEntries_of_ne_map hne h hd]
  | collision hall h hrule hfirst =>
    obtain ⟨standard, hs⟩ : ∃ m, s.standardEntries policy = .ok m := exists_standardEntries hall
    rw [encode_eq_merge hs h, hrule]
    exact merge_refuse_eq_error_iff.2 ⟨_, _, hfirst, rfl⟩

theorem exists_encode_or_fails (s : ClaimSet) (policy : Policy) :
    (∃ m, s.encode policy = .ok m) ∨ ∃ e, s.Fails policy e := by
  by_cases hall : ∀ c ∈ Claim.all, ∀ e, ¬ s.Hinders c e
  · have hall' : ∀ c e, ¬ s.Hinders c e := fun c => hall c (Claim.mem_all c)
    obtain ⟨standard, hs⟩ : ∃ m, s.standardEntries policy = .ok m := exists_standardEntries hall'
    rcases s.dumpsTo_or_blocks with ⟨dumped, hd⟩ | ⟨p, hp⟩ | ⟨d, hne, hport, hd⟩
    · cases hm : merge policy.collisions standard dumped with
      | ok m => exact .inl ⟨m, (encode_eq_merge hs hd).trans hm⟩
      | error e =>
        cases hrule : policy.collisions with
        | override =>
          rw [hrule, merge_override] at hm
          cases hm
        | refuse =>
          rw [hrule] at hm
          obtain ⟨key, c, hfirst, -⟩ := merge_refuse_eq_error_iff.1 hm
          exact .inr ⟨_, .collision hall' hd hrule hfirst⟩
    · exact .inr ⟨_, .additional hall' hp⟩
    · exact .inr ⟨_, .notMap hall' hne hport hd⟩
  · obtain ⟨pre, c, post, horder, hpre, hc⟩ := exists_first_of_not_forall hall
    push Not at hc
    obtain ⟨e, he⟩ := hc
    exact .inr ⟨e, .standard horder hpre he⟩

theorem encode_eq_error_iff : s.encode policy = .error e ↔ s.Fails policy e := by
  refine ⟨fun h => ?_, Fails.encode_eq⟩
  rcases s.exists_encode_or_fails policy with ⟨m, hm⟩ | ⟨e', he⟩
  · rw [hm] at h
    cases h
  · rw [he.encode_eq] at h
    exact Except.error.inj h ▸ he

/-! ## What comes through -/

theorem uncaught?_eq_some_iff {q : PortableError} :
    q.uncaught? = some p ↔ q = p ∧ ∀ kind, p ≠ .unknownKind kind := by
  cases q with
  | unknownKind kind =>
    refine ⟨nofun, ?_⟩
    rintro ⟨rfl, hcaught⟩
    exact absurd rfl (hcaught kind)
  | _ =>
    refine ⟨fun h => ?_, ?_⟩
    · cases h
      exact ⟨rfl, nofun⟩
    · rintro ⟨rfl, -⟩
      rfl

theorem Fails.escapes (h : s.Fails policy e) (he : e.escaping? = some p) : s.Escapes p := by
  cases h with
  | standard horder hpre h =>
    cases h with
    | missing h hr => cases he
    | plain h hp =>
      obtain ⟨rfl, hcaught⟩ := uncaught?_eq_some_iff.1 he
      exact .plain horder hpre h hp hcaught
    | variant h hbefore hp =>
      cases he
      exact .variant horder hpre (.variant h hbefore hp)
  | additional hall hp =>
    obtain ⟨rfl, hcaught⟩ := uncaught?_eq_some_iff.1 he
    exact .additional hall hp hcaught
  | notMap hall hne h hd => cases he
  | collision hall h hrule hfirst => cases he

theorem Escapes.exists_fails (h : s.Escapes p) (policy : Policy) :
    ∃ e, s.Fails policy e ∧ e.escaping? = some p := by
  cases h with
  | @plain pre post c v _ horder hpre h hp hcaught =>
    exact ⟨.plain c p, .standard horder hpre (.plain h hp), uncaught?_eq_some_iff.2 ⟨rfl, hcaught⟩⟩
  | @variant pre post c _ horder hpre h => exact ⟨.variant c p, .standard horder hpre h, rfl⟩
  | additional hall hp hcaught =>
    exact ⟨.additional p, .additional hall hp, uncaught?_eq_some_iff.2 ⟨rfl, hcaught⟩⟩

def opaqueName : ClaimSet :=
  { ClaimSet.empty with
    plain := fun c => if c = .sub then some (.data (.text "a")) else none
    localized := fun c =>
      if c = .name then ⟨[(.tag (some "fr"), .object "object")], by simp⟩ else .empty }

def strayEmail : ClaimSet :=
  { ClaimSet.empty with
    plain := fun c =>
      if c = .sub then some (.data (.text "a"))
      else if c = .email then some (.data (.bytes [0xFF]))
      else none }

end ClaimSet

end IdentityClaims
