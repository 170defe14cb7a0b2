import IdentityClaims.Claim.Value
import IdentityClaims.ClaimSet.Basic
import IdentityClaims.Logging.Level

/-!
# Encoding claim sets

A claim set becomes a flat map: the standard claims in their order, each localized claim with one
key per variant, and then what the additional claims travel as. An additional key that belongs to a
standard claim collides with it, whether or not that claim is set.
-/

namespace IdentityClaims

inductive EncodeError
  | missing (claim : PlainClaim)
  | plain (claim : PlainClaim) (e : PortableError)
  | variant (claim : LocalizedClaim) (e : PortableError)
  | additional (e : PortableError)
  | additionalNotMap (kind : String)
  | collision (key : String) (claim : Claim)
  deriving DecidableEq, Repr

/-- The error of a value, unless it is of an unknown kind: that alone is caught. -/
def PortableError.uncaught? : PortableError → Option PortableError
  | .unknownKind _ => none
  | e => some e

namespace EncodeError

/-- The error of the value itself, where it comes through as it is and not as one of encoding. Of a
variant nothing is caught. -/
def escaping? : EncodeError → Option PortableError
  | .plain _ e => e.uncaught?
  | .variant _ e => some e
  | .additional e => e.uncaught?
  | _ => none

/-- The message for a claim set without flat map. -/
def message (e : EncodeError) : String :=
  match e.escaping?, e with
  | some e, _ => e.message
  | none, .missing claim => "missing required claim `" ++ claim.key ++ "`"
  | none, .plain claim e => "cannot serialize claim `" ++ claim.key ++ "`: " ++ e.message
  | none, .variant _ e => e.message
  | none, .additional e => "cannot serialize additional claims: " ++ e.message
  | none, .additionalNotMap kind => "additional claims must serialize to a mapping, got " ++ kind
  | none, .collision key claim =>
    "additional claim `" ++ key ++ "` collides with standard claim `" ++ claim.key ++ "`"

end EncodeError

abbrev FlatMap := Entries String Data

def FlatMap.same : FlatMap → FlatMap → Bool
  | [], [] => true
  | e :: es, f :: fs => e.1 == f.1 && e.2.same f.2 && same es fs
  | _, _ => false

namespace ClaimSet

def variantEntries (c : LocalizedClaim) : List (Label × Data) → Except EncodeError FlatMap
  | [] => .ok []
  | (label, value) :: rest =>
    match writeVariant value with
    | .error e => .error (.variant c e)
    | .ok d => (variantEntries c rest).map ((FlatKey.join c.key label.travelling, d) :: ·)

def claimEntries (s : ClaimSet) (policy : Policy) : Claim → Except EncodeError FlatMap
  | .plain c =>
    match s.plain c with
    | none => if c.isRequired then .error (.missing c) else .ok []
    | some value =>
      match c.write value with
      | .error e => .error (.plain c e)
      | .ok d => .ok [(c.key, d)]
  | .localized c => (variantEntries c (s.localized c).variants).map Entries.ofPairs
  | .updatedAt =>
    match s.updatedAt with
    | none => .ok []
    | some t => .ok [(Claim.updatedAt.key, writeTime policy t)]

def entriesOf (s : ClaimSet) (policy : Policy) : List Claim → Except EncodeError FlatMap
  | [] => .ok []
  | c :: cs =>
    match s.claimEntries policy c with
    | .error e => .error e
    | .ok es => (s.entriesOf policy cs).map (es ++ ·)

def standardEntries (s : ClaimSet) (policy : Policy) : Except EncodeError FlatMap :=
  s.entriesOf policy Claim.all

def textEntries (entries : List (Data × Data)) : FlatMap :=
  entries.filterMap fun e => e.1.text?.map fun k => (k, e.2)

/-- The entries that the additional claims travel as. -/
def additionalEntries (s : ClaimSet) : Except EncodeError FlatMap :=
  match s.additional with
  | .data .null => .ok []
  | h =>
    match h.portable true with
    | .error e => .error (.additional e)
    | .ok (.map entries) => .ok (textEntries entries)
    | .ok d => .error (.additionalNotMap d.kind)

def collisions (es : FlatMap) : List (String × Claim) :=
  es.filterMap fun e => (Claim.ofKey? (FlatKey.base e.1)).map fun c => (e.1, c)

/-- Adds the additional entries to the standard ones, as far as the rule for collisions allows. -/
def merge (rule : CollisionRule) (standard additional : FlatMap) : Except EncodeError FlatMap :=
  match rule, collisions additional with
  | .refuse, (key, claim) :: _ => .error (.collision key claim)
  | _, _ => .ok (Entries.putAll standard additional)

def encode (s : ClaimSet) (policy : Policy) : Except EncodeError FlatMap :=
  match s.standardEntries policy with
  | .error e => .error e
  | .ok standard =>
    match s.additionalEntries with
    | .error e => .error e
    | .ok additional => merge policy.collisions standard additional

def overrideRecord (key : String) (claim : Claim) : LogRecord where
  level := .warning
  message := "Additional claim `" ++ key ++ "` overrides standard claim `" ++ claim.key ++ "`"

def encodeRecords (s : ClaimSet) (policy : Policy) : List LogRecord :=
  match s.encode policy, s.additionalEntries with
  | .ok _, .ok additional => (collisions additional).map fun (key, c) => overrideRecord key c
  | _, _ => []

end ClaimSet

end IdentityClaims
