import IdentityClaims.Data.Basic
import IdentityClaims.Number.IntegerText
import IdentityClaims.Number.Shortest
import IdentityClaims.Text.Hex

/-!
# Writing JSON

Data with text keys as JSON text, in a layout of the caller's choice. Every float is written with
the fewest digits that read back; a float that is not finite has a name, or is refused if the
layout says so. An integer with more digits than are converted is refused in every layout.
-/

namespace IdentityClaims

/-- How JSON is laid out. With an indent, every item stands on a line of its own, and what
separates items has no space at its end. -/
structure JsonLayout where
  indent : Option String := none
  itemSeparator : String := if indent.isSome then "," else ", "
  keySeparator : String := ": "
  sortKeys : Bool := false
  asciiOnly : Bool := true
  allowNonFinite : Bool := true
  deriving Repr

/-- Why data is not written: because of a float that is not finite, which the layout refuses, or
because of an integer with more digits than are converted. -/
inductive JsonWriteError
  | nonFinite (value : Binary64) (onLines : Bool)
  | longInteger
  deriving DecidableEq, Repr

def JsonWriteError.message : JsonWriteError → String
  | .nonFinite value onLines =>
    "Out of range float values are not JSON compliant"
      ++ (if onLines then ": " ++ value.render .plain else "")
  | .longInteger => IntegerText.unprintableMessage

namespace Json

def escapeByCode (n : Nat) : List Char :=
  let unit (n : Nat) : List Char := '\\' :: 'u' :: Hex.digits 4 n
  if n < 0x10000 then unit n
  else unit (0xD800 + (n - 0x10000) / 0x400) ++ unit (0xDC00 + (n - 0x10000) % 0x400)

def writeChar (asciiOnly : Bool) (c : Char) : List Char :=
  if c = '"' ∨ c = '\\' then ['\\', c]
  else if c = '\n' then ['\\', 'n']
  else if c = '\r' then ['\\', 'r']
  else if c = '\t' then ['\\', 't']
  else if c.toNat = 8 then ['\\', 'b']
  else if c.toNat = 12 then ['\\', 'f']
  else if c.toNat < 0x20 then escapeByCode c.toNat
  else if asciiOnly ∧ 0x7E < c.toNat then escapeByCode c.toNat
  else [c]

def writeText (asciiOnly : Bool) (s : String) : String :=
  String.ofList ('"' :: s.toList.flatMap (writeChar asciiOnly) ++ ['"'])

def keyText : Data → String
  | .text s => s
  | _ => ""

mutual

def sorted : Data → Data
  | .list items => .list (sortedItems items)
  | .map entries => .map ((sortedEntries entries).mergeSort fun a b => keyText a.1 ≤ keyText b.1)
  | d => d

def sortedItems : List Data → List Data
  | [] => []
  | x :: xs => sorted x :: sortedItems xs

def sortedEntries : List (Data × Data) → List (Data × Data)
  | [] => []
  | (k, v) :: es => (k, sorted v) :: sortedEntries es

end

/-- Why a float is not written, if it is not. -/
def floatRefusal? (layout : JsonLayout) : Binary64 → Option JsonWriteError
  | .finite _ _ _ => none
  | x => if layout.allowNonFinite then none else some (.nonFinite x layout.indent.isSome)

/-- Why an integer is not written, if it is not. -/
def integerRefusal? (n : Int) : Option JsonWriteError :=
  if IntegerText.maxLength < (Nat.toDigits 10 n.natAbs).length then some .longInteger else none

mutual

/-- Why data is not written, if it is not: the first reason in the order of writing. -/
def refusal? (layout : JsonLayout) : Data → Option JsonWriteError
  | .int n => integerRefusal? n
  | .float x => floatRefusal? layout x
  | .list items => refusalOfItems? layout items
  | .map entries => refusalOfEntries? layout entries
  | _ => none

def refusalOfItems? (layout : JsonLayout) : List Data → Option JsonWriteError
  | [] => none
  | x :: xs => (refusal? layout x).or (refusalOfItems? layout xs)

def refusalOfEntries? (layout : JsonLayout) : List (Data × Data) → Option JsonWriteError
  | [] => none
  | (_, v) :: es => (refusal? layout v).or (refusalOfEntries? layout es)

end

def lineBreak (layout : JsonLayout) (depth : Nat) : String :=
  match layout.indent with
  | none => ""
  | some indent => "\n" ++ String.join (List.replicate depth indent)

def enclose (layout : JsonLayout) (depth : Nat) (left right : String) (parts : List String) :
    String :=
  if parts.isEmpty then left ++ right
  else
    left ++ lineBreak layout (depth + 1)
      ++ (layout.itemSeparator ++ lineBreak layout (depth + 1)).intercalate parts
      ++ lineBreak layout depth ++ right

mutual

/-- A value at a depth. What JSON has no form for is written as null. -/
def render (layout : JsonLayout) (depth : Nat) : Data → String
  | .null => "null"
  | .bool b => if b then "true" else "false"
  | .int n => toString n
  | .float x => x.render .interchange
  | .text s => writeText layout.asciiOnly s
  | .list items => enclose layout depth "[" "]" (renderItems layout (depth + 1) items)
  | .map entries =>
    enclose layout depth "\x7b" "\x7d" (renderEntries layout (depth + 1) entries)
  | .bytes _ => "null"
  | .object _ => "null"

def renderItems (layout : JsonLayout) (depth : Nat) : List Data → List String
  | [] => []
  | x :: xs => render layout depth x :: renderItems layout depth xs

def renderEntries (layout : JsonLayout) (depth : Nat) : List (Data × Data) → List String
  | [] => []
  | (k, v) :: es =>
    (writeText layout.asciiOnly (keyText k) ++ layout.keySeparator ++ render layout depth v)
      :: renderEntries layout depth es

end

def write (layout : JsonLayout) (d : Data) : Except JsonWriteError String :=
  let d := if layout.sortKeys then sorted d else d
  match refusal? layout d with
  | some e => .error e
  | none => .ok (render layout 0 d)

end Json

end IdentityClaims
