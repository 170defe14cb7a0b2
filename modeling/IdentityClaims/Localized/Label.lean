import IdentityClaims.Data.Display
import IdentityClaims.Data.Key
import IdentityClaims.LanguageTag

/-!
# Labels

The values of a localized claim are told apart by labels. A label is a language tag or its absence;
where a caller supplies a map that was never checked, it may also be any other data that a map can
have as a key. Labels are the same when they are the same key of a map.
-/

namespace IdentityClaims

/-- What a value of a localized claim is filed under. `other` is for data that is neither null nor
text. -/
inductive Label
  | tag (t : Tag)
  | other (d : Data)
  deriving Repr, Inhabited

def Tag.data : Tag → Data
  | none => .null
  | some tag => .text tag

namespace Label

def ofKey : Data → Label
  | .null => .tag none
  | .text s => .tag (some s)
  | d => .other d

def read (d : Data) : Except Unhashable Label :=
  match d.keyFault? with
  | some e => .error e
  | none => .ok (.ofKey d)

def data : Label → Data
  | .tag t => t.data
  | .other d => d

def same : Label → Label → Bool
  | .tag a, .tag b => a == b
  | .other a, .other b => a.same b
  | _, _ => false

def travelling : Label → Tag
  | .tag t => t
  | .other d => some d.display

/-- A label as messages show it. The absence of a tag is shown by a word that is not in quotes, so
that it is never mistaken for a tag. -/
def display (l : Label) : String := l.data.display

@[simp] theorem same_tag (a b : Tag) : (tag a).same (tag b) = (a == b) := rfl

end Label

end IdentityClaims
