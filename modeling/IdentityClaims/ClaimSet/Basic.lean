import IdentityClaims.Calendar.Instant
import IdentityClaims.Claim.Basic
import IdentityClaims.Localized

/-!
# Claim sets

What is claimed about one user. A plain claim is set or not, a localized claim is set when it has a
variant, and the additional claims are a value of the caller's type. A claim set is not checked:
its values may be any data.
-/

namespace IdentityClaims

@[ext] structure ClaimSet where
  plain : PlainClaim → Option Held
  localized : LocalizedClaim → Localized Data
  updatedAt : Option Instant
  additional : Held

namespace ClaimSet

def settled : Held → Option Held
  | .data .null => none
  | h => some h

def empty : ClaimSet where
  plain := fun _ => none
  localized := fun _ => .empty
  updatedAt := none
  additional := .record AdditionalType.emptyType.defaults

def isSet (s : ClaimSet) : Claim → Bool
  | .plain c => (s.plain c).isSome
  | .localized c => !(s.localized c).isEmpty
  | .updatedAt => s.updatedAt.isSome

/-- Whether two values, each there or not, are the same. -/
def sameOption : Option Held → Option Held → Bool
  | none, none => true
  | some a, some b => a.same b
  | _, _ => false

/-- Whether two claim sets hold the same values, where localized variants may come in any order. -/
def same (s t : ClaimSet) : Bool :=
  PlainClaim.all.all (fun c => sameOption (s.plain c) (t.plain c)) &&
    LocalizedClaim.all.all (fun c => (s.localized c).same Data.same (t.localized c)) &&
    s.updatedAt == t.updatedAt && s.additional.same t.additional

end ClaimSet

end IdentityClaims
