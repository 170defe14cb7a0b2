import IdentityClaims.Data.Basic
import IdentityClaims.Number.IntegerText
import IdentityClaims.Number.Shortest
import IdentityClaims.Text.Hex
import IdentityClaims.Text.Utf8

/-!
# The portable form of data

Data that leaves the library has only null, truth values, numbers, text, lists, and maps with text
keys. Bytes leave as the text they encode, keys as their texts, and a float inside a container
that is not finite leaves as null. What has no portable form is an error.
-/

namespace IdentityClaims

/-- Why a value has no portable form: bytes that encode no text, an integer for a key with more
digits than are converted, a value of a kind that nothing is known about, or one whose kind was to
say how it is written and has no schema. -/
inductive PortableError
  | notUtf8 (byte : UInt8) (position : Nat)
  | longKey
  | unknownKind (kind : String)
  | noSchema (kind : String)
  deriving DecidableEq, Repr

/-- The message for a value without portable form. What is said of a missing schema ends with a
pointer to the pages of one release, which is left out here. -/
def PortableError.message : PortableError → String
  | .notUtf8 byte position =>
    "'utf-8' codec can't decode byte 0x" ++ String.ofList (Hex.digits 2 byte.toNat)
      ++ " in position " ++ toString position ++ ": invalid utf-8"
  | .longKey => IntegerText.unprintableMessage
  | .unknownKind kind => "Unable to serialize unknown type: <class '" ++ kind ++ "'>"
  | .noSchema kind =>
    "Unable to generate pydantic-core schema for <class '" ++ kind ++ "'>. Set "
      ++ "`arbitrary_types_allowed=True` in the model_config to ignore this error or implement "
      ++ "`__get_pydantic_core_schema__` on your type to fully support it.\n\nIf you got this error "
      ++ "by calling handler(<some type>) within `__get_pydantic_core_schema__` then you likely need "
      ++ "to call `handler.generate_schema(<some type>)` since we do not call "
      ++ "`__get_pydantic_core_schema__` on `<some type>` otherwise to avoid infinite recursion."

namespace Data

def portableBytes (bs : List UInt8) : Except PortableError String :=
  match Utf8.decode bs with
  | .ok s => .ok s
  | .error position => .error (.notUtf8 (bs.getD position 0) position)

def portableInteger (n : Int) : Except PortableError String :=
  if IntegerText.maxLength < (Nat.toDigits 10 n.natAbs).length then .error .longKey
  else .ok (toString n)

def portableKey : Data → Except PortableError String
  | .null => .ok "None"
  | .bool b => .ok (if b then "true" else "false")
  | .int n => portableInteger n
  | .float (.finite negative m q) => .ok ((Binary64.finite negative m q).render .plain)
  | .float _ => .ok "None"
  | .text s => .ok s
  | .bytes bs => portableBytes bs
  | d => .error (.unknownKind d.kind)

mutual

def portable : Data → Except PortableError Data
  | .float (.finite negative m q) => .ok (.float (.finite negative m q))
  | .float _ => .ok .null
  | .bytes bs => (portableBytes bs).map .text
  | .list items => (portableItems items).map .list
  | .map entries => (portableEntries entries).map .ofPairs
  | .object kind => .error (.unknownKind kind)
  | .null => .ok .null
  | .bool b => .ok (.bool b)
  | .int n => .ok (.int n)
  | .text s => .ok (.text s)

def portableItems : List Data → Except PortableError (List Data)
  | [] => .ok []
  | x :: xs =>
    match x.portable with
    | .error e => .error e
    | .ok y => (portableItems xs).map (y :: ·)

def portableEntries : List (Data × Data) → Except PortableError (List (Data × Data))
  | [] => .ok []
  | (k, v) :: es =>
    match k.portableKey, v.portable with
    | .error e, _ => .error e
    | .ok _, .error e => .error e
    | .ok s, .ok w => (portableEntries es).map ((.text s, w) :: ·)

end

end Data

end IdentityClaims
