import IdentityClaims.Data.Basic
import IdentityClaims.Text.Quoted

/-!
# Attributes

An assignment names an attribute. Private names can be given to anything that has fields, and
nothing comes of it. Plain data has no fields: what it can be asked and told to do are attributes of
its own, and none of them can be assigned.
-/

namespace IdentityClaims

/-- Why an attribute is not assigned. -/
inductive AssignError
  | noField (type name : String)
  | noSection (type name : String)
  | noSetter (type name : String)
  | noAttribute (kind name : String)
  | readOnly (kind name : String)
  | notWritable (kind name : String)
  deriving DecidableEq, Repr

def AssignError.message : AssignError → String
  | .noField type name => "\"" ++ type ++ "\" object has no field \"" ++ name ++ "\""
  | .noSection type name =>
    Quoted.text type ++ " object has no attribute " ++ Quoted.text name
  | .noSetter type name =>
    "property " ++ Quoted.text name ++ " of " ++ Quoted.text type ++ " object has no setter"
  | .noAttribute kind name => "'" ++ kind ++ "' object has no attribute '" ++ name ++ "'"
  | .readOnly kind name => "'" ++ kind ++ "' object attribute '" ++ name ++ "' is read-only"
  | .notWritable kind name =>
    "attribute '" ++ name ++ "' of '" ++ kind ++ "' objects is not writable"

namespace Attribute

def isPrivate (name : String) : Bool := name.toList.head? = some '_'

/-- What anything that has fields says about itself. -/
def reported : List String := ["model_extra", "model_fields_set"]

def ofInteger : List String :=
  ["as_integer_ratio", "bit_count", "bit_length", "conjugate", "from_bytes", "to_bytes"]

def ofFloat : List String := ["as_integer_ratio", "conjugate", "fromhex", "hex", "is_integer"]

def ofSequence : List String :=
  ["capitalize", "center", "count", "endswith", "expandtabs", "find", "index", "isalnum", "isalpha",
    "isascii", "isdigit", "islower", "isspace", "istitle", "isupper", "join", "ljust", "lower",
    "lstrip", "maketrans", "partition", "removeprefix", "removesuffix", "replace", "rfind", "rindex",
    "rjust", "rpartition", "rsplit", "rstrip", "split", "splitlines", "startswith", "strip",
    "swapcase", "title", "translate", "upper", "zfill"]

def ofText : List String :=
  ["casefold", "encode", "format", "format_map", "isdecimal", "isidentifier", "isnumeric",
    "isprintable"]

def ofBytes : List String := ["decode", "fromhex", "hex"]

def ofList : List String :=
  ["append", "clear", "copy", "count", "extend", "index", "insert", "pop", "remove", "reverse",
    "sort"]

def ofMap : List String :=
  ["clear", "copy", "fromkeys", "get", "items", "keys", "pop", "popitem", "setdefault", "update",
    "values"]

def methods : Data → List String
  | .bool _ | .int _ => ofInteger
  | .float _ => ofFloat
  | .text _ => ofSequence ++ ofText
  | .bytes _ => ofSequence ++ ofBytes
  | .list _ => ofList
  | .map _ => ofMap
  | .null | .object _ => []

def parts : Data → String × List String
  | .bool _ | .int _ => ((Data.int 0).kind, ["denominator", "imag", "numerator", "real"])
  | .float x => ((Data.float x).kind, ["imag", "real"])
  | d => (d.kind, [])

/-- Why an attribute of plain data is not assigned. -/
def dataError (d : Data) (name : String) : AssignError :=
  if (methods d).contains name then .readOnly d.kind name
  else if (parts d).2.contains name then .notWritable (parts d).1 name
  else .noAttribute d.kind name

/-- What assigning a name that no field has comes to: nothing for a private name. -/
def assignOther (type name : String) : Except AssignError Unit :=
  if isPrivate name then .ok ()
  else if reported.contains name then .error (.noSetter type name)
  else .error (.noField type name)

end Attribute

end IdentityClaims
