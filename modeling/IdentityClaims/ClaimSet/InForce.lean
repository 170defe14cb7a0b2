import IdentityClaims.ClaimSet.Decode
import IdentityClaims.ClaimSet.Encode
import IdentityClaims.Policy.Flaw

/-!
# Claim sets under rules in force

Decoding and encoding under rules that may have a flaw. The harm of a flaw is done when the first
pair or claim is reached that needs what it spoils, so an error that is found before that pair or
claim goes first. Under rules without a flaw nothing changes.
-/

namespace IdentityClaims

namespace Intake

/-- The harm that a flaw does when a pair is taken, if it does any. A claim that is refused or left
out before its value is looked at asks for nothing, and neither does one that does not heed the
strictness. -/
def fault? (flaw : PolicyFlaw) (policy : Policy) (p : Intake) (pair : Data × Data) :
    Option PolicyFault :=
  match pair.1 with
  | .text key =>
    let (base, tag) := FlatKey.split key
    match Claim.ofKey? base with
    | none => none
    | some (.localized _) =>
      (tag.bind fun _ => flaw.onAsking .tagCheck).or
        (if acceptsTag policy tag then some flaw.onChecking else none)
    | some (.plain c) =>
      match p.see (.plain c) tag with
      | .error _ => none
      | .ok _ =>
        if (pair.2.isNull && !c.isRequired) || !c.heedsStrictness then none
        else some flaw.onChecking
    | some .updatedAt =>
      match p.see .updatedAt tag with
      | .error _ => none
      | .ok _ => if pair.2.isNull then none else flaw.onAsking .strictness
  | _ => none

/-- The first harm that a flaw does while pairs are taken one after the other, unless a pair that
does not fit comes before it. -/
def firstFault? (flaw : PolicyFlaw) (policy : Policy) (genderType : Schema) (p : Intake) :
    List (Data × Data) → Option PolicyFault
  | [] => none
  | pair :: rest =>
    match p.fault? flaw policy pair with
    | some fault => some fault
    | none =>
      match take policy genderType p pair with
      | .error _ => none
      | .ok p => firstFault? flaw policy genderType p rest

end Intake

inductive InForceError (ε : Type)
  | own (e : ε)
  | policy (fault : PolicyFault)
  deriving Repr

def guarded {ε α : Type} (fault? : Option PolicyFault) (result : Except ε α) :
    Except (InForceError ε) α :=
  match fault? with
  | some fault => .error (.policy fault)
  | none => result.mapError .own

namespace Decoder

def fault? (d : Decoder) (flaw? : Option PolicyFlaw) (pairs : List (Data × Data)) :
    Option PolicyFault :=
  flaw?.bind fun flaw => Intake.start.firstFault? flaw d.policy d.genderType pairs

def decodeInForce (d : Decoder) (flaw? : Option PolicyFlaw) (pairs : List (Data × Data)) :
    Except (InForceError DecodeError) ClaimSet :=
  guarded (d.fault? flaw? pairs) (d.decode pairs)

end Decoder

namespace ClaimSet

def fault? (s : ClaimSet) (rules : Rules) : Option PolicyFault :=
  rules.flaw?.bind fun flaw =>
    match s.standardEntries rules.policy with
    | .error _ => none
    | .ok _ =>
      (s.updatedAt.bind fun _ => flaw.onAsking .rounding).or
        (match s.additionalEntries with
        | .error _ => none
        | .ok additional =>
          if (collisions additional).isEmpty then none else flaw.onAsking .collisions)

def encodeInForce (s : ClaimSet) (rules : Rules) : Except (InForceError EncodeError) FlatMap :=
  guarded (s.fault? rules) (s.encode rules.policy)

end ClaimSet

end IdentityClaims
