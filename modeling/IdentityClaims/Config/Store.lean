import IdentityClaims.Config.Basic

/-!
# Configurations in store

Several can hold one configuration: the process holds the default, a thread what it put in force,
and a block what it is going to put back. If one of them assigns a field, all that hold the same
configuration see it. So configurations are kept in a store and held by their place in it. Sections
have places of their own, since fields are assigned in sections and not in copies of them, and a
program that gives a section of one configuration to another one makes both see what is assigned in
it from then on.
-/

namespace IdentityClaims

/-- What a configuration is built with for a section: a new one, or one that is in store already. -/
inductive SectionPart
  | own (v : SectionValue)
  | shared (place : Nat)
  deriving Repr

namespace SectionPart

def IsIn (vs : List SectionValue) : SectionPart → Prop
  | own _ => True
  | shared i => i < vs.length

instance (vs : List SectionValue) : ∀ part, Decidable (IsIn vs part)
  | own _ => inferInstanceAs (Decidable True)
  | shared _ => inferInstanceAs (Decidable (_ < _))

def addTo (vs : List SectionValue) : SectionPart → List SectionValue × Nat
  | own v => (vs ++ [v], vs.length)
  | shared i => (vs, i)

end SectionPart

structure Blueprint where
  codec : SectionPart
  logging : SectionPart
  assigned : List SectionName
  deriving Repr

namespace Blueprint

def part (b : Blueprint) : SectionName → SectionPart
  | .codec => b.codec
  | .logging => b.logging

def ofConfig (c : Config) : Blueprint where
  codec := .own c.codec
  logging := .own c.logging
  assigned := c.assigned

instance : Coe Config Blueprint := ⟨ofConfig⟩

end Blueprint

/-- A configuration as it is kept: the places of its sections, and which of them were set as a
whole. -/
structure StoredConfig where
  codec : Nat
  logging : Nat
  assigned : List SectionName
  deriving Repr, Inhabited

namespace StoredConfig

def place (c : StoredConfig) : SectionName → Nat
  | .codec => c.codec
  | .logging => c.logging

/-- A configuration whose section of a name is somewhere else, where it was put as a whole. -/
def move (c : StoredConfig) (n : SectionName) (i : Nat) : StoredConfig :=
  let assigned := if c.assigned.contains n then c.assigned else c.assigned ++ [n]
  match n with
  | .codec => { c with codec := i, assigned }
  | .logging => { c with logging := i, assigned }

end StoredConfig

/-- Sections and configurations by their place. The sections of each name have places apart, so that
no configuration has a section in the place of one of the other name. -/
structure Store where
  codecs : List SectionValue
  loggings : List SectionValue
  configs : List StoredConfig
  deriving Repr

namespace Store

def empty : Store := { codecs := [], loggings := [], configs := [] }

def sections (s : Store) : SectionName → List SectionValue
  | .codec => s.codecs
  | .logging => s.loggings

def withSections (s : Store) (n : SectionName) (vs : List SectionValue) : Store :=
  match n with
  | .codec => { s with codecs := vs }
  | .logging => { s with loggings := vs }

def sectionAt (s : Store) (n : SectionName) (i : Nat) : SectionValue :=
  (s.sections n).getD i (.other .null)

def configAt (s : Store) (p : Nat) : StoredConfig := s.configs.getD p default

/-- What the configuration at a place is, with its sections as they are now. -/
def read (s : Store) (p : Nat) : Config where
  codec := s.sectionAt .codec (s.configAt p).codec
  logging := s.sectionAt .logging (s.configAt p).logging
  assigned := (s.configAt p).assigned

def Has (s : Store) (p : Nat) : Prop := p < s.configs.length

instance (s : Store) (p : Nat) : Decidable (s.Has p) := inferInstanceAs (Decidable (_ < _))

def Offers (s : Store) (b : Blueprint) : Prop :=
  b.codec.IsIn s.codecs ∧ b.logging.IsIn s.loggings

instance (s : Store) (b : Blueprint) : Decidable (s.Offers b) :=
  inferInstanceAs (Decidable (_ ∧ _))

/-- Puts a configuration that is built where none is yet, and says where. -/
def build (s : Store) (b : Blueprint) : Store × Nat :=
  let (codecs, codec) := b.codec.addTo s.codecs
  let (loggings, logging) := b.logging.addTo s.loggings
  ({ codecs, loggings, configs := s.configs ++ [{ codec, logging, assigned := b.assigned }] },
    s.configs.length)

def write (s : Store) (p : Nat) (n : SectionName) (v : SectionValue) : Store :=
  s.withSections n ((s.sections n).set ((s.configAt p).place n) v)

def exchange (s : Store) (p : Nat) (n : SectionName) (part : SectionPart) : Store :=
  let (vs, i) := part.addTo (s.sections n)
  { s.withSections n vs with configs := s.configs.set p ((s.configAt p).move n i) }

def apply (s : Store) (p : Nat) : Assignment → Except AssignError Store
  | .inSection name field value =>
    match SectionName.ofKey? name with
    | some n => (((s.read p).get n).assign n field value).map (s.write p n)
    | none => .error (.noSection Config.typeName name)
  | .whole name v =>
    match SectionName.ofKey? name with
    | some n => .ok (s.exchange p n (.own v))
    | none => (Attribute.assignOther Config.typeName name).map fun _ => s

end Store

end IdentityClaims
