import IdentityClaims.ClaimSet.Decode
import IdentityClaims.ClaimSet.Encode
import IdentityClaims.Json.Reader
import IdentityClaims.Json.Writer

/-!
# Claim sets as JSON text

A claim set travels as the text of one JSON object. Reading keeps the members of that object as
they are written, so that a member written twice is a duplicate claim.
-/

namespace IdentityClaims

inductive JsonSource
  | text (s : String)
  | bytes (bs : List UInt8)

inductive TextError
  | notUtf8
  | json (text : String) (e : JsonError)
  | notObject
  | claims (e : DecodeError)

namespace TextError

/-- The error of the reader, where it comes through as it is and not as one of decoding. An integer
that is too long is no fault of the text. -/
def escaping? : TextError → Option JsonError
  | .json _ (.longInteger digits) => some (.longInteger digits)
  | _ => none

def message : TextError → String
  | .notUtf8 => "Non-UTF8 claims"
  | .json text (.longInteger digits) => (JsonError.longInteger digits).message text
  | .json text e => "Invalid JSON in claims: " ++ e.message text
  | .notObject => "claims must be a JSON object"
  | .claims e => e.message

end TextError

/-- Why a text is no claim set where so many calls can lie inside each other. -/
inductive NestedTextError
  | tooDeep
  | text (e : TextError)

def NestedTextError.message : NestedTextError → String
  | .tooDeep => "maximum recursion depth exceeded"
  | .text e => e.message

inductive WriteError
  | claims (e : EncodeError)
  | json (e : JsonWriteError)

def WriteError.message : WriteError → String
  | .claims e => e.message
  | .json e => e.message

namespace JsonSource

def toText : JsonSource → Except TextError String
  | .text s => .ok s
  | .bytes bs => (Utf8.decode bs).mapError fun _ => .notUtf8

def pairs [Json.LoneUnits] (source : JsonSource) : Except TextError (List (Data × Data)) :=
  match source.toText with
  | .error e => .error e
  | .ok t =>
    match Json.read t with
    | .error e => .error (.json t e)
    | .ok (.object members) => .ok (JsonTree.membersData members)
    | .ok _ => .error .notObject

/-- The members of the JSON object in a source, of which data is made by calls inside a call. Reading
needs less room for a text than that. -/
def pairsWithin [Json.LoneUnits] (room : Nat) (source : JsonSource) :
    Except NestedTextError (List (Data × Data)) :=
  match source.toText with
  | .error e => .error (.text e)
  | .ok t =>
    match Json.read t with
    | .error e => .error (.text (.json t e))
    | .ok (.object members) =>
      if 1 ≤ room then
        match JsonTree.membersWithin (room - 1) members with
        | some pairs => .ok pairs
        | none => .error .tooDeep
      else .error .tooDeep
    | .ok _ => .error (.text .notObject)

end JsonSource

def Decoder.decodeText [Json.LoneUnits] (d : Decoder) (source : JsonSource) :
    Except TextError ClaimSet :=
  match source.pairs with
  | .error e => .error e
  | .ok pairs => (d.decode pairs).mapError .claims

/-- Decodes a text where so many calls can lie inside each other. -/
def Decoder.decodeTextWithin [Json.LoneUnits] (d : Decoder) (room : Nat) (source : JsonSource) :
    Except NestedTextError ClaimSet :=
  match source.pairsWithin room with
  | .error e => .error e
  | .ok pairs => (d.decode pairs).mapError fun e => .text (.claims e)

def ClaimSet.encodeText (s : ClaimSet) (policy : Policy) (layout : JsonLayout) :
    Except WriteError String :=
  match s.encode policy with
  | .error e => .error (.claims e)
  | .ok es => (Json.write layout (.ofEntries es)).mapError .json

end IdentityClaims
