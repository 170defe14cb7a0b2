import IdentityClaims.Config.Section
import IdentityClaims.Data.Merge
import IdentityClaims.Policy.Flaw

/-!
# Configurations

A configuration is a value for each section, together with the sections that were set as a whole.
Overriding a configuration by another one lays what the other sets explicitly over it and checks
the outcome.
-/

namespace IdentityClaims

structure Config where
  codec : SectionValue
  logging : SectionValue
  assigned : List SectionName
  deriving Repr

/-- Something that is assigned in a configuration: a field of the section of a name, or what stands
in the place of that section. -/
inductive Assignment
  | inSection (name field : String) (value : Data)
  | whole (name : String) (v : SectionValue)
  deriving Repr

namespace Assignment

def splitPath (path : String) : String × Option String :=
  let cs := path.toList
  (String.ofList (cs.takeWhile (· != '.')),
    match cs.dropWhile (· != '.') with
    | [] => none
    | _ :: field => some (String.ofList field))

def ofPath (path : String) (value : Data) : Assignment :=
  match splitPath path with
  | (name, none) => .whole name (.other value)
  | (name, some field) => .inSection name field value

end Assignment

namespace Config

def typeName : String := "ConfigData"

def defaults : Config where
  codec := .defaults .codec
  logging := .defaults .logging
  assigned := []

def get (c : Config) : SectionName → SectionValue
  | .codec => c.codec
  | .logging => c.logging

def put (c : Config) (s : SectionName) (v : SectionValue) : Config :=
  match s with
  | .codec => { c with codec := v }
  | .logging => { c with logging := v }

/-- The section that the entries of a map give, or the section in which nothing was set. -/
def checkSection (entries : List (Data × Data)) (s : SectionName) : Checked SectionValue :=
  match Data.valueOf? entries s.key with
  | some d => Checked.within (.key s.key) (SectionValue.check s d)
  | none => .ok (.defaults s)

def ofEntries (entries : List (Data × Data)) : Checked Config :=
  (Checked.both (checkSection entries .codec) (checkSection entries .logging)).map fun p =>
    { codec := p.1
      logging := p.2
      assigned := SectionName.all.filter fun s => (Data.valueOf? entries s.key).isSome }

def check : Data → Checked Config
  | .map entries => ofEntries entries
  | _ => .fail (.notRecord typeName)

def dump (c : Config) : Data :=
  .ofEntries (SectionName.all.map fun s => (s.key, (c.get s).dump))

def contribution (c : Config) : Data :=
  .ofEntries (SectionName.all.filterMap fun s =>
    ((c.get s).contribution (c.assigned.contains s)).map fun d => (s.key, d))

def overriddenBy (base override : Config) : Checked Config :=
  check (base.dump.merge override.contribution)

/-- A configuration with a whole section assigned, whatever is put in its place. -/
def assignSection (c : Config) (s : SectionName) (v : SectionValue) : Config :=
  { c.put s v with
    assigned := if c.assigned.contains s then c.assigned else c.assigned ++ [s] }

/-- A configuration with a field of a section assigned, whatever the value is. -/
def assignField (c : Config) (s : SectionName) (field : String) (value : Data) :
    Except AssignError Config :=
  ((c.get s).assign s field value).map (c.put s)

def assignIn (c : Config) (name field : String) (value : Data) : Except AssignError Config :=
  match SectionName.ofKey? name with
  | some s => c.assignField s field value
  | none => .error (.noSection typeName name)

def assignWhole (c : Config) (name : String) (v : SectionValue) : Except AssignError Config :=
  match SectionName.ofKey? name with
  | some s => .ok (c.assignSection s v)
  | none => (Attribute.assignOther typeName name).map fun _ => c

def apply (c : Config) : Assignment → Except AssignError Config
  | .inSection name field value => c.assignIn name field value
  | .whole name v => c.assignWhole name v

def assignAll (c : Config) : List (String × Data) → Except AssignError Config
  | [] => .ok c
  | (path, value) :: rest =>
    match c.apply (.ofPath path value) with
    | .error e => .error e
    | .ok c => c.assignAll rest

end Config

/-- How a section says that claim sets are read and written. An unknown rounding is the nearest
second, an unknown check of tags is the structural one, and a switch is on when its value counts
as true. -/
def SectionValue.policy (v : SectionValue) : Policy :=
  let name (field : String) : String := ((v.get? field).bind Data.text?).getD ""
  let isOn (field : String) : Bool := ((v.get? field).map Data.isTruthy).getD true
  { rounding := .ofName (name Rule.rounding.name)
    tagCheck := .ofName (name Rule.tagCheck.name)
    strictness := if isOn Rule.strictness.name then .strict else .lenient
    collisions := if isOn Rule.collisions.name then .refuse else .override }

/-- What is wrong with a section as rules, if anything is: a switch is a truth value or null. -/
def SectionValue.flaw? : SectionValue → Option PolicyFlaw
  | .other d => some (.notRules d.kind)
  | .fields values _ =>
    match Entries.get? values Rule.strictness.name with
    | none | some .null | some (.bool _) => none
    | some d => some (.notSwitch d.kind)

def Config.rules (c : Config) : Rules := { policy := c.codec.policy, flaw? := c.codec.flaw? }

end IdentityClaims
