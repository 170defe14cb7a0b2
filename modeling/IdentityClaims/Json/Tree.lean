import IdentityClaims.Data.Basic

/-!
# JSON trees

What a JSON text says, with every member of an object in the order of the text. A name may occur
twice in an object, and the tree keeps both; `JsonTree.toData` settles it: the first place, the
last value.
-/

namespace IdentityClaims

inductive JsonTree
  | null
  | bool (b : Bool)
  | int (n : Int)
  | float (x : Binary64)
  | text (s : String)
  | list (items : List JsonTree)
  | object (members : List (String × JsonTree))
  deriving Repr, Inhabited

namespace JsonTree

mutual

/-- The tree as data, where a repeated name keeps its first place and its last value. -/
def toData : JsonTree → Data
  | .null => .null
  | .bool b => .bool b
  | .int n => .int n
  | .float x => .float x
  | .text s => .text s
  | .list items => .list (itemsData items)
  | .object members => .ofPairs (membersData members)

def itemsData : List JsonTree → List Data
  | [] => []
  | t :: ts => t.toData :: itemsData ts

def membersData : List (String × JsonTree) → List (Data × Data)
  | [] => []
  | (name, t) :: ms => (.text name, t.toData) :: membersData ms

end

/-! A program turns a tree into data by calls that lie inside each other: two for a list or an
object, one for it and one for what is in it, and one for everything else. There is room for so many
of them. -/

mutual

/-- The tree as data, where so many calls can lie inside each other. -/
def toDataWithin (room : Nat) : JsonTree → Option Data
  | .list items => if 2 ≤ room then (itemsWithin (room - 2) items).map .list else none
  | .object members => if 2 ≤ room then (membersWithin (room - 2) members).map .ofPairs else none
  | t => if 1 ≤ room then some t.toData else none

def itemsWithin (room : Nat) : List JsonTree → Option (List Data)
  | [] => some []
  | t :: ts => (t.toDataWithin room).bind fun d => (itemsWithin room ts).map (d :: ·)

def membersWithin (room : Nat) : List (String × JsonTree) → Option (List (Data × Data))
  | [] => some []
  | (name, t) :: ms =>
    (t.toDataWithin room).bind fun d => (membersWithin room ms).map ((.text name, d) :: ·)

end

end JsonTree

end IdentityClaims
