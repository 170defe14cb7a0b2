import IdentityClaims.LanguageTag
import Mathlib.Computability.Language

/-!
# The grammar of language tags

The structure of a language tag is `1*8alphanum *("-" 1*8alphanum)`. The check reads a tag from the
left and keeps the size of the current subtag; what it still accepts is the rest of a subtag and
then the further subtags, each after a hyphen. Main statement: `Tag.isWellFormed_iff`.
-/

namespace IdentityClaims

namespace Tag

open scoped Computability

def subtag : Language Char :=
  {cs | 1 ≤ cs.length ∧ cs.length ≤ 8 ∧ ∀ c ∈ cs, isAlphanumeric c = true}

/-- A hyphen and a subtag, any number of times. -/
def furtherSubtags : Language Char := ({['-']} * subtag)∗

def grammar : Language Char := subtag * furtherSubtags

/-- What may follow `size` characters of a subtag. -/
def Continues (size : Nat) (cs : List Char) : Prop :=
  ∃ run rest, run ++ rest = cs ∧ 1 ≤ size + run.length ∧ size + run.length ≤ 8 ∧
    (∀ c ∈ run, isAlphanumeric c = true) ∧ rest ∈ furtherSubtags

theorem continues_zero_iff {cs : List Char} : Continues 0 cs ↔ cs ∈ grammar := by
  rw [grammar, Language.mem_mul]
  constructor
  · rintro ⟨run, rest, happ, hpos, hle, hrun, hrest⟩
    rw [Nat.zero_add] at hpos hle
    exact ⟨run, ⟨hpos, hle, hrun⟩, rest, hrest, happ⟩
  · rintro ⟨run, ⟨hpos, hle, hrun⟩, rest, hrest, happ⟩
    refine ⟨run, rest, happ, ?_, ?_, hrun, hrest⟩ <;> rwa [Nat.zero_add]

/-- Further subtags are none, or they are a hyphen and what is a tag itself. -/
theorem cons_mem_furtherSubtags_iff {c : Char} {cs : List Char} :
    c :: cs ∈ furtherSubtags ↔ c = '-' ∧ cs ∈ grammar := by
  have hunfold : furtherSubtags = 1 + {['-']} * grammar := by
    rw [grammar, ← mul_assoc, furtherSubtags, Language.one_add_self_mul_kstar_eq_kstar]
  rw [hunfold, Language.mem_add, Language.mem_one, Language.mem_mul]
  constructor
  · rintro (hnil | ⟨hyphen, rfl, tag, htag, happ⟩)
    · cases hnil
    · cases happ
      exact ⟨rfl, htag⟩
  · rintro ⟨rfl, htag⟩
    exact .inr ⟨['-'], rfl, cs, htag, rfl⟩

theorem nil_mem_furtherSubtags : [] ∈ furtherSubtags := Language.nil_mem_kstar _

theorem continues_nil_iff {size : Nat} (h : size ≤ 8) : Continues size [] ↔ size ≠ 0 := by
  constructor
  · rintro ⟨run, rest, happ, hpos, -⟩
    obtain ⟨rfl, rfl⟩ := List.append_eq_nil_iff.1 happ
    exact Nat.one_le_iff_ne_zero.1 hpos
  · intro hsize
    exact ⟨[], [], rfl, Nat.one_le_iff_ne_zero.2 hsize, h, by simp, nil_mem_furtherSubtags⟩

theorem continues_hyphen_iff {size : Nat} (h : size ≤ 8) {cs : List Char} :
    Continues size ('-' :: cs) ↔ size ≠ 0 ∧ cs ∈ grammar := by
  constructor
  · rintro ⟨run, rest, happ, hpos, -, hrun, hrest⟩
    cases run with
    | nil =>
      rw [List.nil_append] at happ
      subst happ
      exact ⟨Nat.one_le_iff_ne_zero.1 hpos, (cons_mem_furtherSubtags_iff.1 hrest).2⟩
    | cons c run =>
      obtain ⟨rfl, -⟩ := List.cons_eq_cons.1 happ
      exact absurd (hrun '-' List.mem_cons_self) (by decide)
  · rintro ⟨hsize, htag⟩
    exact ⟨[], '-' :: cs, rfl, Nat.one_le_iff_ne_zero.2 hsize, h, by simp,
      cons_mem_furtherSubtags_iff.2 ⟨rfl, htag⟩⟩

theorem continues_cons_iff {size : Nat} {c : Char} (hc : c ≠ '-') {cs : List Char} :
    Continues size (c :: cs) ↔ isAlphanumeric c = true ∧ size < 8 ∧ Continues (size + 1) cs := by
  constructor
  · rintro ⟨run, rest, happ, hpos, hle, hrun, hrest⟩
    cases run with
    | nil =>
      rw [List.nil_append] at happ
      subst happ
      exact absurd (cons_mem_furtherSubtags_iff.1 hrest).1 hc
    | cons d run =>
      obtain ⟨rfl, rfl⟩ := List.cons_eq_cons.1 happ
      rw [List.length_cons] at hle
      refine ⟨hrun d List.mem_cons_self, by omega, run, rest, rfl, by omega, by omega, ?_, hrest⟩
      exact fun e he => hrun e (List.mem_cons_of_mem d he)
  · rintro ⟨halpha, -, run, rest, rfl, hpos, hle, hrun, hrest⟩
    refine ⟨c :: run, rest, rfl, ?_, ?_, List.forall_mem_cons.2 ⟨halpha, hrun⟩, hrest⟩ <;>
      rw [List.length_cons] <;> omega

/-- The check accepts what may follow the characters that it has read. -/
theorem wellFormedFrom_iff (cs : List Char) {size : Nat} (h : size ≤ 8) :
    wellFormedFrom size cs = true ↔ Continues size cs := by
  induction cs generalizing size with
  | nil => rw [continues_nil_iff h, wellFormedFrom, bne_iff_ne]
  | cons c cs ih =>
    rw [wellFormedFrom]
    split
    · rename_i hc
      subst hc
      rw [continues_hyphen_iff h, Bool.and_eq_true, bne_iff_ne, ih (Nat.zero_le 8),
        continues_zero_iff]
    · rename_i hc
      rw [continues_cons_iff hc, Bool.and_eq_true, Bool.and_eq_true, decide_eq_true_iff, and_assoc]
      refine and_congr_right fun _ => and_congr_right fun hlt => ih hlt

theorem isWellFormed_iff (tag : String) : isWellFormed tag = true ↔ tag.toList ∈ grammar := by
  rw [isWellFormed, wellFormedFrom_iff tag.toList (Nat.zero_le 8), continues_zero_iff]

end Tag

end IdentityClaims
