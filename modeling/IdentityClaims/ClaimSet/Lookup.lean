import IdentityClaims.ClaimSet.Basic
import IdentityClaims.Data.Merge

/-!
# Looking values up

What a claim set holds under a name may have values by key: a localized claim has, and so have maps
and records that keep extra keys, where a record answers for its extra keys first. A claim that is
not set has no values.
-/

namespace IdentityClaims

/-- Why no value is looked up. -/
inductive LookupError
  | noName (name : String)
  | noKeys (kind : String)
  deriving DecidableEq, Repr

def LookupError.message : LookupError → String
  | .noName name => "'StandardClaims' object has no attribute '" ++ name ++ "'"
  | .noKeys kind => "'" ++ kind ++ "' object has no attribute 'get'"

/-- The value of a key in a record: keys that are not text have none. -/
def Record.lookup (r : Record) (key : Data) : Option Data :=
  key.text?.bind fun name => (Entries.get? r.extras name).or (r.get? name)

def Held.lookup (h : Held) (key : Data) : Except LookupError (Option Data) :=
  match h with
  | .variants l => .ok (l.get? (.ofKey key))
  | .data (.map entries) => .ok (Data.lookup entries key)
  | .record r =>
    if r.type.extras = .kept then .ok (r.lookup key) else .error (.noKeys r.type.name)
  | h => .error (.noKeys h.kind)

namespace ClaimSet

def held? (s : ClaimSet) : Claim → Option Held
  | .plain c => s.plain c
  | .localized c => if (s.localized c).isEmpty then none else some (.variants (s.localized c))
  | .updatedAt => s.updatedAt.map fun _ => .data (.object "datetime.datetime")

def named (s : ClaimSet) (name : String) : Except LookupError (Option Held) :=
  match Claim.ofKey? name with
  | some c => .ok (s.held? c)
  | none => if name = additionalName then .ok (some s.additional) else .error (.noName name)

def lookup (s : ClaimSet) (name : String) (key : Data) : Except LookupError (Option Data) :=
  match s.named name with
  | .error e => .error e
  | .ok none => .ok none
  | .ok (some h) => h.lookup key

end ClaimSet

end IdentityClaims
