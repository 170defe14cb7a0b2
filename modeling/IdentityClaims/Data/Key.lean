import IdentityClaims.Data.Basic

/-!
# Keys of maps

Data of almost every kind can be a key of a map: lists and maps cannot.
-/

namespace IdentityClaims

structure Unhashable where
  kind : String
  deriving DecidableEq, Repr

def Unhashable.message (e : Unhashable) : String := "unhashable type: '" ++ e.kind ++ "'"

namespace Data

/-- Why data cannot be a key, if it cannot. -/
def keyFault? : Data → Option Unhashable
  | .list items => some ⟨(Data.list items).kind⟩
  | .map entries => some ⟨(Data.map entries).kind⟩
  | _ => none

def readMap (pairs : List (Data × Data)) : Except Unhashable Data :=
  match pairs.findSome? fun e => keyFault? e.1 with
  | some e => .error e
  | none => .ok (ofPairs pairs)

end Data

end IdentityClaims
