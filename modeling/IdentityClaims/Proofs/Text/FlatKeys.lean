import IdentityClaims.LanguageTag
import Mathlib.Data.Set.Function

/-!
# Keys and what they consist of

A key stands for exactly one name without a delimiter and one tag, or none. Splitting finds them and
joining puts them together again, so different names and tags have different keys, and a key with an
empty tag is not the key without a tag. Main statement: `FlatKey.split_join_inverse`.
-/

namespace IdentityClaims

namespace FlatKey

variable {base key : String} {tag : Tag}

/-- Names without a delimiter, each with a tag or none. -/
def plainNames : Set (String × Tag) := {p | delimiter ∉ p.1.toList}

def joinPair (p : String × Tag) : String := join p.1 p.2

theorem split_mem_plainNames (key : String) : split key ∈ plainNames := delimiter_not_mem_base key

theorem leftInvOn_split : Set.LeftInvOn split joinPair plainNames :=
  fun p hp => split_join hp p.2

theorem bijOn_joinPair : Set.BijOn joinPair plainNames Set.univ := by
  refine ⟨Set.mapsTo_univ _ _, leftInvOn_split.injOn, ?_⟩
  intro key _
  exact ⟨split key, split_mem_plainNames key, join_split key⟩

theorem tag_eq_none_iff : (split key).2 = none ↔ delimiter ∉ key.toList := by
  constructor
  · intro h
    have hjoin := join_split key
    rw [h, join_none] at hjoin
    exact hjoin ▸ delimiter_not_mem_base key
  · intro h
    have hsplit := split_join h none
    rw [join_none] at hsplit
    rw [hsplit]

theorem tag_eq_empty_iff :
    (split key).2 = some "" ↔ ∃ base : String, delimiter ∉ base.toList ∧ key = base.push delimiter := by
  have hpush : ∀ base : String, join base (some "") = base.push delimiter := fun base => by
    rw [← String.toList_inj]
    simp [join]
  constructor
  · intro h
    have hjoin := join_split key
    rw [h, hpush] at hjoin
    exact ⟨_, delimiter_not_mem_base key, hjoin.symm⟩
  · rintro ⟨base, hbase, rfl⟩
    rw [← hpush, split_join hbase]

/-- Splitting a key and joining its parts are inverse to each other, for every key on one side and
for names without a delimiter on the other, with any tag, be it absent, empty or with delimiters in
it. So the key tells the name and the tag, and whether there is a tag at all. -/
theorem split_join_inverse :
    (∀ key : String, join (split key).1 (split key).2 = key ∧ delimiter ∉ (split key).1.toList) ∧
    (∀ (base : String) (tag : Tag), delimiter ∉ base.toList →
      split (join base tag) = (base, tag)) ∧
    (∀ (base base' : String) (tag tag' : Tag), delimiter ∉ base.toList →
      delimiter ∉ base'.toList → (base, tag) ≠ (base', tag') → join base tag ≠ join base' tag') ∧
    (∀ base base' : String, delimiter ∉ base.toList → delimiter ∉ base'.toList →
      join base none ≠ join base' (some "")) ∧
    (∀ key : String, (split key).2 = none ↔ delimiter ∉ key.toList) ∧
    (∀ key : String, (split key).2 = some "" ↔
      ∃ base : String, delimiter ∉ base.toList ∧ key = base.push delimiter) := by
  have hne : ∀ (base base' : String) (tag tag' : Tag), delimiter ∉ base.toList →
      delimiter ∉ base'.toList → (base, tag) ≠ (base', tag') → join base tag ≠ join base' tag' :=
    fun base base' tag tag' hbase hbase' h => bijOn_joinPair.injOn.ne hbase hbase' h
  refine ⟨?_, ?_, hne, ?_, ?_, ?_⟩
  · exact fun key => ⟨join_split key, delimiter_not_mem_base key⟩
  · exact fun base tag hbase => split_join hbase tag
  · exact fun base base' hbase hbase' => hne base base' none (some "") hbase hbase' (by simp)
  · exact fun key => tag_eq_none_iff
  · exact fun key => tag_eq_empty_iff

theorem split_join_inverse_delimiters :
    delimiter ∉ "name".toList ∧ split (join "name" (some "#fr#")) = ("name", some "#fr#") ∧
      join "name" none ≠ join "name" (some "") ∧ (split "name#").2 = some "" := by
  have hname : delimiter ∉ "name".toList := by decide
  obtain ⟨-, hsplit, -, hempty, -, htag⟩ := split_join_inverse
  exact ⟨hname, hsplit "name" (some "#fr#") hname, hempty "name" "name" hname hname,
    (htag "name#").2 ⟨"name", hname, by decide⟩⟩

end FlatKey

end IdentityClaims
