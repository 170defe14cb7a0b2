import IdentityClaims.Calendar.Seconds
import IdentityClaims.LanguageTag
import IdentityClaims.Schema.Shape

/-!
# Policies

How closely a claim set is checked on its way in, and how it is written on its way out.
-/

namespace IdentityClaims

/-- What happens when an additional claim has the key of a standard claim. -/
inductive CollisionRule
  | refuse
  | override
  deriving DecidableEq, Repr

structure Policy where
  rounding : Rounding := .truncate
  tagCheck : TagCheck := .off
  strictness : Strictness := .strict
  collisions : CollisionRule := .refuse
  deriving DecidableEq, Repr

end IdentityClaims
