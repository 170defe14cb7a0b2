/-!
# Language-tagged keys

A claim in a language has the key `name#tag`. Only the first `#` of a key separates the claim's
name from the tag; whatever follows it, even nothing at all, is the tag. Main statements: joining
undoes splitting, and splitting undoes joining for a name without `#`.
-/

namespace IdentityClaims

abbrev Tag := Option String

inductive TagCheck
  | off
  | structural
  deriving DecidableEq, Repr, Inhabited

namespace FlatKey

def delimiter : Char := '#'

def split (key : String) : String × Tag :=
  let cs := key.toList
  match cs.dropWhile (· != delimiter) with
  | [] => (key, none)
  | _ :: tag => (String.ofList (cs.takeWhile (· != delimiter)), some (String.ofList tag))

def base (key : String) : String := (split key).1

def join (base : String) : Tag → String
  | none => base
  | some tag => String.ofList (base.toList ++ delimiter :: tag.toList)

@[simp] theorem join_none (base : String) : join base none = base := rfl

theorem ne_delimiter {cs : List Char} (h : delimiter ∉ cs) (c : Char) (hc : c ∈ cs) :
    (c != delimiter) = true := by
  simpa using fun e : c = delimiter => h (e ▸ hc)

theorem toList_base (key : String) :
    (base key).toList = key.toList.takeWhile (· != delimiter) := by
  have happ : key.toList.takeWhile (· != delimiter) ++ key.toList.dropWhile (· != delimiter)
      = key.toList := List.takeWhile_append_dropWhile
  cases hd : key.toList.dropWhile (· != delimiter) with
  | nil =>
    rw [hd, List.append_nil] at happ
    simp only [base, split, hd, happ]
  | cons c tag => simp only [base, split, hd, String.toList_ofList]

theorem delimiter_not_mem_base (key : String) : delimiter ∉ (base key).toList := by
  intro hm
  rw [toList_base] at hm
  simpa using List.all_eq_true.1 List.all_takeWhile _ hm

theorem join_split (key : String) : join (split key).1 (split key).2 = key := by
  have happ : key.toList.takeWhile (· != delimiter) ++ key.toList.dropWhile (· != delimiter)
      = key.toList := List.takeWhile_append_dropWhile
  cases hd : key.toList.dropWhile (· != delimiter) with
  | nil => simp only [split, hd, join]
  | cons c tag =>
    have hc : c = delimiter := by
      simpa [hd] using List.head?_dropWhile_not (· != delimiter) key.toList
    rw [hd, hc] at happ
    simp only [split, hd, join, String.toList_ofList, happ, String.ofList_toList]

/-- A name without delimiter and its tag are found again in their key. -/
theorem split_join {base : String} (h : delimiter ∉ base.toList) (tag : Tag) :
    split (join base tag) = (base, tag) := by
  have hn := ne_delimiter h
  cases tag with
  | none =>
    have hd : base.toList.dropWhile (· != delimiter) = [] := by
      rw [← List.append_nil base.toList, List.dropWhile_append_of_pos hn, List.dropWhile_nil]
    simp only [join, split, hd]
  | some tag =>
    have hd : (base.toList ++ delimiter :: tag.toList).dropWhile (· != delimiter)
        = delimiter :: tag.toList := by
      rw [List.dropWhile_append_of_pos hn, List.dropWhile_cons_of_neg (by simp)]
    have ht : (base.toList ++ delimiter :: tag.toList).takeWhile (· != delimiter)
        = base.toList := by
      rw [List.takeWhile_append_of_pos hn, List.takeWhile_cons_of_neg (by simp), List.append_nil]
    simp only [join, split, String.toList_ofList, hd, ht, String.ofList_toList]

end FlatKey

namespace Tag

def isAlphanumeric (c : Char) : Bool :=
  ('0' ≤ c && c ≤ '9') || ('a' ≤ c && c ≤ 'z') || ('A' ≤ c && c ≤ 'Z')

def maxSubtag : Nat := 8

/-- Whether characters, read from the left, are subtags of one to eight letters or digits with
single hyphens between them; `size` characters of the current subtag are read already. -/
def wellFormedFrom : Nat → List Char → Bool
  | size, [] => size != 0
  | size, c :: cs =>
    if c = '-' then size != 0 && wellFormedFrom 0 cs
    else isAlphanumeric c && size < maxSubtag && wellFormedFrom (size + 1) cs

/-- Whether a language tag has the structure of one: subtags of one to eight ASCII letters or
digits, joined by hyphens. -/
def isWellFormed (tag : String) : Bool := wellFormedFrom 0 tag.toList

end Tag

namespace TagCheck

/-- The check that a name stands for: none by its name, the structural one by any other. -/
def ofName (name : String) : TagCheck := if name = "none" then .off else .structural

def accepts : TagCheck → String → Bool
  | .off, _ => true
  | .structural, tag => Tag.isWellFormed tag

end TagCheck

end IdentityClaims
