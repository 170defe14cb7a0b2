import IdentityClaims.Config.Attribute
import IdentityClaims.Schema.Record

/-!
# Sections of a configuration

A configuration has a section for reading and writing claim sets and a section for logging. A
section knows which of its fields were set explicitly, since only those override others. Fields
can be assigned any value at all; values are checked where a configuration comes from outside and
where one overrides another.
-/

namespace IdentityClaims

inductive SectionName
  | codec
  | logging
  deriving DecidableEq, Repr

namespace SectionName

def all : List SectionName := [codec, logging]

def key : SectionName → String
  | codec => "codec"
  | logging => "logging"

def ofKey? (key : String) : Option SectionName := all.find? fun s => s.key = key

def codecType : RecordType where
  name := "CodecConfig"
  members := [
    .plain "timestamp_rounding" (.literal ["truncate", "floor", "round"]) (some (.text "truncate")),
    .plain "language_tag_validation" (.literal ["none", "structural"]) (some (.text "none")),
    .plain "strict_types" .truth (some (.bool true)),
    .plain "reject_extension_collisions" .truth (some (.bool true))]
  extras := .dropped
  byName := false

def loggingType : RecordType where
  name := "LoggingConfig"
  members := [
    .plain "level" .text (some (.text "INFO")),
    .plain "format" (.literal ["json", "plain"]) (some (.text "plain")),
    .nullable "file" "file" .text,
    .plain "max_size_mb" .integer (some (.int 10)),
    .plain "backup_count" .integer (some (.int 5))]
  extras := .dropped
  byName := false

def type : SectionName → RecordType
  | codec => codecType
  | logging => loggingType

def hasField (s : SectionName) (field : String) : Bool := s.type.members.any fun m => m.name = field

end SectionName

/-- What a configuration has for a section: the values of the fields and the names of those that
were set explicitly, or something else that was put in the section's place. -/
inductive SectionValue
  | fields (values : Entries String Data) (assigned : List String)
  | other (d : Data)
  deriving Repr

namespace SectionValue

def defaults (s : SectionName) : SectionValue := .fields s.type.defaults.values []

/-- Checks data that has to be a section. -/
def check (s : SectionName) : Data → Checked SectionValue
  | .map entries =>
    (s.type.checkEntries .lenient entries).map fun r => .fields r.values (s.type.given entries)
  | _ => .fail (.notRecord s.type.name)

def dump : SectionValue → Data
  | .fields values _ => .ofEntries values
  | .other d => d

def get? (v : SectionValue) (field : String) : Option Data :=
  match v with
  | .fields values _ => Entries.get? values field
  | .other _ => none

/-- What a section contributes to an override: all of it if it was set as a whole, otherwise the
fields that were set explicitly, and nothing if there are none. -/
def contribution (whole : Bool) : SectionValue → Option Data
  | .fields values assigned =>
    if whole then some (.ofEntries values)
    else
      let set := values.filter fun e => assigned.contains e.1
      if set.isEmpty then none else some (.ofEntries set)
  | .other d => if whole then some d else none

/-- A section with a field assigned, whatever the value is. -/
def assign (s : SectionName) (field : String) (value : Data) :
    SectionValue → Except AssignError SectionValue
  | .fields values assigned =>
    if s.hasField field then
      .ok (.fields (Entries.put values field value)
        (if assigned.contains field then assigned else assigned ++ [field]))
    else (Attribute.assignOther s.type.name field).map fun _ => .fields values assigned
  | .other d => .error (Attribute.dataError d field)

end SectionValue

end IdentityClaims
