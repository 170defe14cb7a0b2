import IdentityClaims.Number.Binary64

/-!
# Data

Claims arrive as data of no fixed type: what a decoded payload, a configuration file or a caller
can hold. `Data.same` is the equality that maps and comparisons use: numbers are equal across
kinds when they are the same number, truth values count as one and zero, and the order of a map's
entries does not matter.
-/

namespace IdentityClaims

/-- A value of no fixed type. The entries of a map are in order and have keys that are pairwise
not the same; `object` stands for any other thing, known by its kind only. -/
inductive Data
  | null
  | bool (b : Bool)
  | int (n : Int)
  | float (x : Binary64)
  | text (s : String)
  | bytes (bs : List UInt8)
  | list (items : List Data)
  | map (entries : List (Data × Data))
  | object (kind : String)
  deriving Repr, Inhabited

namespace Data

def kind : Data → String
  | .null => "NoneType"
  | .bool _ => "bool"
  | .int _ => "int"
  | .float _ => "float"
  | .text _ => "str"
  | .bytes _ => "bytes"
  | .list _ => "list"
  | .map _ => "dict"
  | .object kind => kind

def sameAsInt (x : Binary64) (n : Int) : Bool := x.toInt? == some n

def sameScalar : Data → Data → Bool
  | .null, .null => true
  | .bool a, .bool b => a == b
  | .bool a, .int n => n == (if a then 1 else 0)
  | .int n, .bool a => n == (if a then 1 else 0)
  | .int m, .int n => m == n
  | .float x, .float y => x.same y
  | .float x, .int n => sameAsInt x n
  | .int n, .float x => sameAsInt x n
  | .float x, .bool a => sameAsInt x (if a then 1 else 0)
  | .bool a, .float x => sameAsInt x (if a then 1 else 0)
  | .text s, .text t => s == t
  | .bytes a, .bytes b => a == b
  | _, _ => false

mutual

/-- Whether two values are the same. Maps are the same when each entry of one has its like in the
other; an object is the same as nothing. -/
def same : Data → Data → Bool
  | .list xs, .list ys => sameItems xs ys
  | .map es, .map fs => es.length == fs.length && sameEntries es fs
  | a, b => sameScalar a b

def sameItems : List Data → List Data → Bool
  | [], [] => true
  | x :: xs, y :: ys => x.same y && sameItems xs ys
  | _, _ => false

def sameEntries : List (Data × Data) → List (Data × Data) → Bool
  | [], _ => true
  | (k, v) :: es, fs => fs.any (fun f => k.same f.1 && v.same f.2) && sameEntries es fs

end

@[simp] theorem same_text (s t : String) : (text s).same (text t) = (s == t) := by
  simp [same, sameScalar]

/-- Gives a key of a map a value: where the same key stands, if it does, and at the end
otherwise. A key that is there stays as it was written first. -/
def putEntry : List (Data × Data) → Data → Data → List (Data × Data)
  | [], k, v => [(k, v)]
  | e :: es, k, v => if e.1.same k then (e.1, v) :: es else e :: putEntry es k v

def ofPairs (pairs : List (Data × Data)) : Data :=
  .map (pairs.foldl (fun es e => putEntry es e.1 e.2) [])

def ofEntries (entries : List (String × Data)) : Data :=
  .map (entries.map fun e => (.text e.1, e.2))

/-- Whether a value counts as true where one is needed: not null, zero or empty. -/
def isTruthy : Data → Bool
  | .null => false
  | .bool b => b
  | .int n => n != 0
  | .float x => !x.same (.zero false)
  | .text s => !s.isEmpty
  | .bytes bs => !bs.isEmpty
  | .list items => !items.isEmpty
  | .map entries => !entries.isEmpty
  | .object _ => true

def isNull : Data → Bool
  | .null => true
  | _ => false

def text? : Data → Option String
  | .text s => some s
  | _ => none

@[simp] theorem text?_text (s : String) : (text s).text? = some s := rfl

end Data

end IdentityClaims
