import IdentityClaims.Policy

/-!
# Flaws of rules

Rules for reading and writing claim sets can be put in force unchecked. Then they may have a flaw:
there may be something else in the place of the whole rules, or in the place of the switch for
strictness. A flaw does harm only where the rules are asked for what it spoils.
-/

namespace IdentityClaims

inductive PolicyFlaw
  | notRules (kind : String)
  | notSwitch (kind : String)
  deriving DecidableEq, Repr

inductive Rule
  | rounding
  | tagCheck
  | strictness
  | collisions
  deriving DecidableEq, Repr

def Rule.name : Rule → String
  | rounding => "timestamp_rounding"
  | tagCheck => "language_tag_validation"
  | strictness => "strict_types"
  | collisions => "reject_extension_collisions"

inductive PolicyFault
  | noRule (kind : String) (rule : Rule)
  | notSwitch (kind : String)
  deriving DecidableEq, Repr

def PolicyFault.message : PolicyFault → String
  | .noRule kind rule => "'" ++ kind ++ "' object has no attribute '" ++ rule.name ++ "'"
  | .notSwitch kind => "'" ++ kind ++ "' object is not an instance of 'bool'"

/-- Rules as they are in force: a policy, and a flaw if they have one. The policy says what holds
where the flaw does no harm. -/
structure Rules where
  policy : Policy
  flaw? : Option PolicyFlaw
  deriving DecidableEq, Repr

def Rules.ofPolicy (policy : Policy) : Rules := { policy, flaw? := none }

namespace PolicyFlaw

def onAsking (flaw : PolicyFlaw) (rule : Rule) : Option PolicyFault :=
  match flaw with
  | .notRules kind => some (.noRule kind rule)
  | .notSwitch _ => none

/-- The harm that is done when a value is checked as the switch for strictness says. -/
def onChecking : PolicyFlaw → PolicyFault
  | .notRules kind => .noRule kind .strictness
  | .notSwitch kind => .notSwitch kind

end PolicyFlaw

end IdentityClaims
