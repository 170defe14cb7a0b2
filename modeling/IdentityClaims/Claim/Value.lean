import IdentityClaims.Claim.Basic
import IdentityClaims.Policy

/-!
# Values of single claims

How the raw value of one claim is read, and how a claim's value is written. A reader says why a
value does not fit its claim: because of the problems of its type, or because it gives no point of
time.
-/

namespace IdentityClaims

/-- Why a raw value does not fit a claim. -/
inductive ValueFault
  | problems (ps : List Problem)
  | noTime (e : SecondsError)
  deriving Repr

def ValueFault.message : ValueFault → String
  | .problems ps => Problem.summary ps
  | .noTime e => e.message

/-- The number that a text stands for: an integer if it can be one, a float otherwise. -/
def checkNumberText (s : String) : Checked Data :=
  match checkIntegerText s with
  | .ok n => .ok (.int n)
  | .error ps =>
    match Binary64.readLoose? s with
    | some x => .ok (.float x)
    | none => .error (ps.map (.within (.key "int")) ++ [⟨[.key "float"], .unreadableNumber⟩])

def readSeconds : Strictness → Data → Checked Data
  | .lenient, .text s => checkNumberText s
  | _, d => .ok d

def readTime (policy : Policy) (raw : Data) : Except ValueFault Instant :=
  match readSeconds policy.strictness raw with
  | .error ps => .error (.problems ps)
  | .ok seconds => (Instant.ofSeconds seconds).mapError .noTime

def writeTime (policy : Policy) (t : Instant) : Data := .int (t.toSeconds policy.rounding)

/-- Whole seconds are read alike under every policy. -/
theorem readTime_int (policy : Policy) (n : Int) :
    readTime policy (.int n) = (Instant.ofSeconds (.int n)).mapError .noTime := by
  rw [readTime]
  cases policy.strictness <;> rfl

def readVariant (policy : Policy) (raw : Data) : Except ValueFault Data :=
  (Shape.text.check policy.strictness raw).mapError .problems

theorem readVariant_eq_ok_iff {policy : Policy} {raw v : Data} :
    readVariant policy raw = .ok v ↔ Shape.text.check policy.strictness raw = .ok v :=
  Checked.mapError_eq_ok_iff

def writeVariant (value : Data) : Except PortableError Data := value.portable

namespace PlainClaim

def strictness (c : PlainClaim) (policy : Policy) : Strictness :=
  if c.heedsStrictness then policy.strictness else .lenient

/-- Reads the value of a plain claim as a value of a given type. -/
def readAs (c : PlainClaim) (policy : Policy) (type : Schema) (raw : Data) :
    Except ValueFault Held :=
  (type.check (c.strictness policy) raw).mapError .problems

def read (c : PlainClaim) (policy : Policy) (genderType : Schema) (raw : Data) :
    Except ValueFault Held :=
  c.readAs policy (c.schema genderType) raw

theorem read_eq_ok_iff {c : PlainClaim} {policy : Policy} {genderType : Schema} {raw : Data}
    {v : Held} : c.read policy genderType raw = .ok v ↔
      (c.schema genderType).check (c.strictness policy) raw = .ok v :=
  Checked.mapError_eq_ok_iff

def write (c : PlainClaim) (value : Held) : Except PortableError Data :=
  if c.isPluggable then value.portable false else value.inferred

end PlainClaim

inductive ClaimValue
  | held (h : Held)
  | time (t : Instant)

/-- Reads the value of a claim, of a localized claim for one language tag. A given type stands in
for the claim's own, but a point of time has no other type. -/
def Claim.readValue (c : Claim) (policy : Policy) (type? : Option Schema) (raw : Data) :
    Except ValueFault ClaimValue :=
  match c, type? with
  | .plain c, type? => (c.readAs policy (type?.getD (c.schema GenderType.core)) raw).map .held
  | .localized _, none => (readVariant policy raw).map fun d => .held (.data d)
  | .localized _, some type =>
    ((type.check policy.strictness raw).mapError .problems).map .held
  | .updatedAt, _ => (readTime policy raw).map .time

end IdentityClaims
