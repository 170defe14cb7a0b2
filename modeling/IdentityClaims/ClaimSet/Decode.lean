import IdentityClaims.Claim.Value
import IdentityClaims.ClaimSet.Basic
import IdentityClaims.Logging.Level

/-!
# Decoding claim sets

A flat map of claims becomes a claim set. The pairs of the map are taken one after the other, so
the first pair that does not fit decides the error. A key that belongs to no standard claim is left
over, and when all pairs are taken the leftover map is checked as the additional claims.
-/

namespace IdentityClaims

inductive DecodeError
  | keyNotText (key : Data)
  | unexpectedVariant (claim : Claim) (tag : String)
  | duplicate (name : String) (tag : Tag)
  | mismatch (claim : Claim) (fault : ValueFault)
  | invalidTag (claim : LocalizedClaim) (tag : String)
  | missing (claim : PlainClaim)
  | additional (problems : List Problem)
  deriving Repr

namespace DecodeError

def keyFault : String := "claim keys must be strings"

def mismatchMessage (name detail : String) : String :=
  "invalid value for claim `" ++ name ++ "`" ++ (if detail.isEmpty then "" else ": " ++ detail)

def message : DecodeError → String
  | .keyNotText key => mismatchMessage key.display keyFault
  | .unexpectedVariant claim tag =>
    "unexpected localized variant `" ++ FlatKey.join claim.key (some tag) ++ "`"
  | .duplicate name none => "duplicate claim `" ++ name ++ "`"
  | .duplicate name (some tag) =>
    "duplicate claim `" ++ name ++ "` for language tag `" ++ tag ++ "`"
  | .mismatch claim fault => mismatchMessage claim.key fault.message
  | .invalidTag claim tag => "invalid language tag `" ++ tag ++ "` on claim `" ++ claim.key ++ "`"
  | .missing claim => "missing required claim `" ++ claim.key ++ "`"
  | .additional problems => Problem.summary problems

end DecodeError

/-- What the pairs taken so far amount to. A claim that was null is seen but not set. -/
structure Intake where
  seen : List Claim
  plain : PlainClaim → Option Held
  localized : LocalizedClaim → Localized Data
  updatedAt : Option Instant
  leftover : Entries String Data

namespace Intake

def start : Intake where
  seen := []
  plain := fun _ => none
  localized := fun _ => .empty
  updatedAt := none
  leftover := []

/-- Sees a claim that has one value: it takes no tag, and it is seen once. -/
def see (p : Intake) (claim : Claim) (tag : Tag) : Except DecodeError Intake :=
  match tag with
  | some tag => .error (.unexpectedVariant claim tag)
  | none =>
    if claim ∈ p.seen then .error (.duplicate claim.key none)
    else .ok { p with seen := claim :: p.seen }

def setPlain (p : Intake) (c : PlainClaim) (value : Held) : Intake :=
  { p with plain := fun d => if d = c then some value else p.plain d }

def setLocalized (p : Intake) (c : LocalizedClaim) (l : Localized Data) : Intake :=
  { p with localized := fun d => if d = c then l else p.localized d }

/-- Takes the value of a plain claim. Null stands for an optional claim that is not there. -/
def takePlain (p : Intake) (policy : Policy) (genderType : Schema) (c : PlainClaim) (tag : Tag)
    (raw : Data) : Except DecodeError Intake :=
  match p.see (.plain c) tag with
  | .error e => .error e
  | .ok p =>
    if raw.isNull && !c.isRequired then .ok p
    else
      match c.read policy genderType raw with
      | .error fault => .error (.mismatch (.plain c) fault)
      | .ok value => .ok (p.setPlain c value)

def takeTime (p : Intake) (policy : Policy) (tag : Tag) (raw : Data) :
    Except DecodeError Intake :=
  match p.see .updatedAt tag with
  | .error e => .error e
  | .ok p =>
    if raw.isNull then .ok p
    else
      match readTime policy raw with
      | .error fault => .error (.mismatch .updatedAt fault)
      | .ok t => .ok { p with updatedAt := some t }

def acceptsTag (policy : Policy) : Tag → Bool
  | none => true
  | some tag => policy.tagCheck.accepts tag

def takeVariant (p : Intake) (policy : Policy) (c : LocalizedClaim) (tag : Tag) (raw : Data) :
    Except DecodeError Intake :=
  if acceptsTag policy tag then
    match readVariant policy raw with
    | .error fault => .error (.mismatch (.localized c) fault)
    | .ok value =>
      match (p.localized c).insert (.tag tag) value with
      | .error _ => .error (.duplicate c.key tag)
      | .ok l => .ok (p.setLocalized c l)
  else .error (.invalidTag c (tag.getD ""))

/-- Keeps a pair whose key belongs to no standard claim. -/
def keep (p : Intake) (key : String) (raw : Data) : Except DecodeError Intake :=
  if Entries.has p.leftover key then .error (.duplicate key none)
  else .ok { p with leftover := p.leftover ++ [(key, raw)] }

def takeKey (policy : Policy) (genderType : Schema) (p : Intake) (key : String) (raw : Data) :
    Except DecodeError Intake :=
  let (base, tag) := FlatKey.split key
  match Claim.ofKey? base with
  | none => p.keep key raw
  | some (.localized c) => p.takeVariant policy c tag raw
  | some (.plain c) => p.takePlain policy genderType c tag raw
  | some .updatedAt => p.takeTime policy tag raw

theorem takeKey_eq (policy : Policy) (genderType : Schema) (p : Intake) (key : String)
    (raw : Data) :
    takeKey policy genderType p key raw =
      match Claim.owner? key with
      | none => p.keep key raw
      | some (.localized c) => p.takeVariant policy c (FlatKey.split key).2 raw
      | some (.plain c) => p.takePlain policy genderType c (FlatKey.split key).2 raw
      | some .updatedAt => p.takeTime policy (FlatKey.split key).2 raw := rfl

def take (policy : Policy) (genderType : Schema) (p : Intake) (pair : Data × Data) :
    Except DecodeError Intake :=
  match pair.1 with
  | .text key => takeKey policy genderType p key pair.2
  | key => .error (.keyNotText key)

/-- Takes pairs one after the other, up to the first that does not fit. -/
def takeAll (policy : Policy) (genderType : Schema) (p : Intake) :
    List (Data × Data) → Except DecodeError Intake
  | [] => .ok p
  | pair :: rest =>
    match take policy genderType p pair with
    | .error e => .error e
    | .ok p => takeAll policy genderType p rest

def missing? (p : Intake) : Option PlainClaim :=
  PlainClaim.all.find? fun c => c.isRequired && (p.plain c).isNone

/-- The standard claims that were given a value, in their order. A checked value counts even where
it is null. -/
def valued (p : Intake) : List Claim :=
  Claim.all.filter fun
    | .plain c => (p.plain c).isSome
    | .localized c => !(p.localized c).isEmpty
    | .updatedAt => p.updatedAt.isSome

/-- The claim set of an intake with checked additional claims. A plain claim whose checked value is
null is not set. -/
def claimSet (p : Intake) (additional : Held) : ClaimSet where
  plain := fun c => (p.plain c).bind ClaimSet.settled
  localized := p.localized
  updatedAt := p.updatedAt
  additional := additional

end Intake

structure Decoder where
  policy : Policy
  genderType : Schema := GenderType.core
  additionalType : Schema := AdditionalType.empty

namespace Decoder

def gather (d : Decoder) (pairs : List (Data × Data)) : Except DecodeError Intake :=
  match Intake.start.takeAll d.policy d.genderType pairs with
  | .error e => .error e
  | .ok p =>
    match p.missing? with
    | some c => .error (.missing c)
    | none => .ok p

def assemble (d : Decoder) (p : Intake) : Except DecodeError ClaimSet :=
  match d.additionalType.check .lenient (.ofEntries p.leftover) with
  | .error problems => .error (.additional problems)
  | .ok additional => .ok (p.claimSet additional)

def decode (d : Decoder) (pairs : List (Data × Data)) : Except DecodeError ClaimSet :=
  match d.gather pairs with
  | .error e => .error e
  | .ok p => d.assemble p

def leftoverRecord (d : Decoder) (keys : List String) : LogRecord where
  level := .debug
  message := "Passing " ++ toString keys.length ++ " unrecognized claim(s) to "
    ++ d.additionalType.name ++ ": "
    ++ (Data.list ((keys.mergeSort fun a b => a ≤ b).map .text)).display

def decodedRecord (count : Nat) : LogRecord where
  level := .debug
  message := "Decoded " ++ toString count ++ " standard claim(s)"

def records (d : Decoder) (pairs : List (Data × Data)) : List LogRecord :=
  match d.gather pairs with
  | .error _ => []
  | .ok p =>
    (if p.leftover.isEmpty then [] else [d.leftoverRecord (Entries.keys p.leftover)]) ++
      match d.assemble p with
      | .error _ => []
      | .ok _ => [decodedRecord p.valued.length]

end Decoder

end IdentityClaims
