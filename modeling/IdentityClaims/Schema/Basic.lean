import IdentityClaims.Localized
import IdentityClaims.Schema.Record

/-!
# Schemas

A schema is a type that a pluggable claim can have: a shape of plain data, a text in a wrapper of
its own, one of a list of options, a record, or a type of the caller's own, of which nothing is
known but its name and how it checks a value. What a checked value holds remembers which of these
it is, because that decides how it is compared and how it travels.
-/

namespace IdentityClaims

inductive Held
  | data (d : Data)
  | variants (l : Localized Data)
  | wrapped (type text : String)
  | chosen (type option : String)
  | record (r : Record)

inductive Schema
  | shape (shape : Shape)
  | wrapped (name : String)
  | choice (name : String) (options : List String)
  | record (type : RecordType)
  | own (name : String) (check : Strictness → Data → Checked Held)

/-- The option that a value chooses; bytes choose the option that they encode. To a strict check
plain data is never an option, not even the text of one. -/
def checkChoice (name : String) (options : List String) (mode : Strictness) (d : Data) :
    Checked String :=
  match mode with
  | .strict => .fail (.notInstance name)
  | .lenient =>
    match checkText .lenient d with
    | .ok s => if options.contains s then .ok s else .fail (.notChoice options)
    | .error _ => .fail (.notChoice options)

namespace Schema

def name : Schema → String
  | .shape .text => "str"
  | .shape .truth => "bool"
  | .shape .integer => "int"
  | .shape (.listOf _) => "list"
  | .shape (.mapOf _) => "dict"
  | .shape _ => "Any"
  | .wrapped name => name
  | .choice name _ => name
  | .record type => type.name
  | .own name _ => name

def check (mode : Strictness) : Schema → Data → Checked Held
  | .shape s, d => (s.check mode d).map .data
  | .wrapped name, d => (checkText mode d).map (.wrapped name)
  | .choice name options, d => (checkChoice name options mode d).map (.chosen name)
  | .record type, d => (type.check mode d).map .record
  | .own _ check, d => check mode d

end Schema

namespace Held

def localizedKind : String := "LocalizedClaim"

def localizedType : String := "oidc_claims.core.models.localized." ++ localizedKind

def kind : Held → String
  | .data d => d.kind
  | .variants _ => localizedKind
  | .wrapped type _ => type
  | .chosen type _ => type
  | .record r => r.type.name

def same : Held → Held → Bool
  | .data a, .data b => a.same b
  | .variants a, .variants b => a.same Data.same b
  | .wrapped t a, .wrapped u b => t == u && a == b
  | .chosen t a, .chosen u b => t == u && a == b
  | .chosen _ a, .data b => (Data.text a).same b
  | .data a, .chosen _ b => a.same (.text b)
  | .record a, .record b => a.same b
  | _, _ => false

/-- The portable form of a value of its own type. A float that stands alone stays as it is. -/
def portable (keepNull : Bool) : Held → Except PortableError Data
  | .data (.float x) => .ok (.float x)
  | .data d => d.portable
  | .variants _ => .error (.noSchema localizedType)
  | .wrapped _ s => .ok (.text s)
  | .chosen _ s => .ok (.text s)
  | .record r => r.portable keepNull

/-- The portable form of a value that stands for one of another type, whatever its own is. -/
def inferred : Held → Except PortableError Data
  | .data d => d.portable
  | .variants _ => .error (.unknownKind localizedType)
  | h => h.portable false

end Held

end IdentityClaims
