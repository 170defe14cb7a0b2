import IdentityClaims.Data.Portable
import IdentityClaims.Entries
import IdentityClaims.Schema.Shape

/-!
# Records

A record type names members with their shapes and says what happens to keys it does not name. A
member has a name, by which it is known here, and a key, under which it travels. A member without a
default has to be there.
-/

namespace IdentityClaims

inductive ExtraKeys
  | dropped
  | refused
  | kept
  deriving DecidableEq, Repr

structure Member where
  name : String
  key : String
  shape : Shape
  default? : Option Data
  deriving Repr

namespace Member

def plain (name : String) (shape : Shape) (default? : Option Data) : Member :=
  { name, key := name, shape, default? }

/-- A member of an optional shape that is null unless it is given. -/
def nullable (name key : String) (shape : Shape) : Member :=
  { name, key, shape := .optional shape, default? := some .null }

end Member

/-- A type of records. `byName` lets a member be given under its name as well as under its key. -/
structure RecordType where
  name : String
  members : List Member
  extras : ExtraKeys
  byName : Bool
  deriving Repr

structure Record where
  type : RecordType
  values : Entries String Data
  extras : Entries String Data
  deriving Repr

def Data.valueOf? : List (Data × Data) → String → Option Data
  | [], _ => none
  | (k, v) :: es, key => if k.text? = some key then some v else Data.valueOf? es key

namespace Member

/-- The key under which the entries of a map give a member, with its value: its own key first. -/
def find? (m : Member) (byName : Bool) (entries : List (Data × Data)) : Option (String × Data) :=
  match Data.valueOf? entries m.key with
  | some v => some (m.key, v)
  | none => if byName then (Data.valueOf? entries m.name).map fun v => (m.name, v) else none

def check (m : Member) (mode : Strictness) (byName : Bool) (entries : List (Data × Data)) :
    Checked (String × Data) :=
  match m.find? byName entries with
  | some (key, v) => (Checked.within (.key key) (m.shape.check mode v)).map fun v => (m.name, v)
  | none =>
    match m.default? with
    | some v => .ok (m.name, v)
    | none => Checked.within (.key m.key) (.fail .missing)

end Member

namespace RecordType

def usedKeys (t : RecordType) (entries : List (Data × Data)) : List String :=
  t.members.filterMap fun m => (m.find? t.byName entries).map Prod.fst

def given (t : RecordType) (entries : List (Data × Data)) : List String :=
  t.members.filterMap fun m => (m.find? t.byName entries).map fun _ => m.name

def unused (t : RecordType) (entries : List (Data × Data)) : List (Data × Data) :=
  let used := t.usedKeys entries
  entries.filter fun e =>
    match e.1 with
    | .text s => !used.contains s
    | _ => true

/-- Checks one entry that gives no member, where such entries are not dropped. -/
def checkExtra (t : RecordType) (e : Data × Data) : Checked (String × Data) :=
  match e.1 with
  | .text s =>
    if t.extras = .refused then Checked.within (.key s) (.fail .extraKey) else .ok (s, e.2)
  | k => Checked.within (.ofKey k) (.fail .keyNotText)

def checkExtras (t : RecordType) (entries : List (Data × Data)) : Checked (Entries String Data) :=
  if t.extras = .dropped then .ok []
  else .all ((t.unused entries).map t.checkExtra)

def checkEntries (t : RecordType) (mode : Strictness) (entries : List (Data × Data)) :
    Checked Record :=
  (Checked.both (.all (t.members.map fun m => m.check mode t.byName entries))
    (t.checkExtras entries)).map fun (values, extras) => { type := t, values, extras }

def check (t : RecordType) (mode : Strictness) : Data → Checked Record
  | .map entries => t.checkEntries mode entries
  | _ => .fail (.notRecord t.name)

/-- The record in which every member has its default, and null where it has none. -/
def defaults (t : RecordType) : Record :=
  { type := t, values := t.members.map fun m => (m.name, m.default?.getD .null), extras := [] }

end RecordType

namespace Record

def get? (r : Record) (name : String) : Option Data := Entries.get? r.values name

def travelling (r : Record) : List (String × Data) :=
  (r.type.members.filterMap fun m => (r.get? m.name).map fun v => (m.key, v)) ++ r.extras

def named (r : Record) : List (String × Data) := r.values ++ r.extras

def portable (r : Record) (keepNull : Bool) : Except PortableError Data :=
  let entries := r.travelling.filter fun e =>
    match e.2 with
    | .null => keepNull
    | _ => true
  (Data.portableEntries (entries.map fun e => (.text e.1, e.2))).map .ofPairs

/-- Whether two records are of one type and have the same values, in whatever order. -/
def same (a b : Record) : Bool :=
  a.type.name == b.type.name &&
    (Data.ofEntries a.values).same (.ofEntries b.values) &&
    (Data.ofEntries a.extras).same (.ofEntries b.extras)

end Record

end IdentityClaims
