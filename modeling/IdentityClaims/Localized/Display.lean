import IdentityClaims.Localized

/-!
# Localized values in messages

How a message shows the variants of a claim.
-/

namespace IdentityClaims

def DuplicateLabel.message (e : DuplicateLabel) : String :=
  "language tag " ++ e.label.display ++ " is already present"

def Localized.displayVariant (v : Label × Data) : String :=
  Data.bracket "(" ")" [v.1.display, v.2.display]

/-- The variants of a claim in their order as messages show them. -/
def Localized.display (l : Localized Data) : String :=
  "LocalizedClaim(" ++ Data.bracket "[" "]" (l.variants.map displayVariant) ++ ")"

end IdentityClaims
