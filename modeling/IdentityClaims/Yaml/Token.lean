/-!
# Tokens

What a YAML text consists of. The start and the end of a block collection are tokens of their own,
although nothing but the indentation shows them in the text.
-/

namespace IdentityClaims.Yaml

/-- A tag as it is written: a handle, if there is one, and what follows it. -/
structure TagText where
  handle : Option String
  name : String
  deriving DecidableEq, Repr

inductive Directive
  | version (major : Nat)
  | tagHandle (handle expansion : String)
  | unknown
  deriving DecidableEq, Repr

inductive Token
  | directive (d : Directive)
  | documentStart
  | documentEnd
  | blockSequenceStart
  | blockMappingStart
  | blockEnd
  | flowSequenceStart
  | flowSequenceEnd
  | flowMappingStart
  | flowMappingEnd
  | blockEntry
  | flowEntry
  | key
  | value
  | alias (name : String)
  | anchor (name : String)
  | tag (t : TagText)
  | scalar (text : String) (plain : Bool)
  | textEnd
  deriving DecidableEq, Repr

end IdentityClaims.Yaml
