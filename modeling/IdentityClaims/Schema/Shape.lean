import IdentityClaims.Data.Display
import IdentityClaims.Number.IntegerText
import IdentityClaims.Number.MachineWord
import IdentityClaims.Schema.Problem
import IdentityClaims.Text.Utf8

/-!
# Shapes

A shape is a type that plain data can have. Checking is strict, where a value has the shape or is
refused, or lenient, where a value that clearly stands for one of the shape is turned into it:
UTF-8 bytes into text, words and zero and one into truth values, whole numbers and their texts into
integers.
-/

namespace IdentityClaims

inductive Strictness
  | strict
  | lenient
  deriving DecidableEq, Repr

inductive Shape
  | any
  | text
  | truth
  | integer
  | literal (options : List String)
  | optional (shape : Shape)
  | listOf (item : Shape)
  | mapOf (value : Shape)
  deriving Repr

def checkText : Strictness → Data → Checked String
  | _, .text s => .ok s
  | .lenient, .bytes bs =>
    match Utf8.decode bs with
    | .ok s => .ok s
    | .error _ => .fail .notUtf8Text
  | _, _ => .fail .notText

def truthOfWord? (s : String) : Option Bool :=
  let word := String.ofList (s.toList.map Char.toLower)
  if ["1", "t", "y", "yes", "on", "true"].contains word then some true
  else if ["0", "f", "n", "no", "off", "false"].contains word then some false
  else none

def truthOfInt? (n : Int) : Option Bool :=
  if n = 1 then some true else if n = 0 then some false else none

/-- A truth value that was found, or not. -/
def foundTruth : Option Bool → Checked Bool
  | some b => .ok b
  | none => .fail .unreadableTruth

def wordBits : Nat := 64

/-- The integer that a number is, where the least machine word counts as too long already. -/
def checkWholeNumber (x : Binary64) : Checked Int :=
  match x with
  | .finite _ _ _ =>
    match x.toInt? with
    | some n => if n.natAbs < MachineWord.limit wordBits then .ok n else .fail .integerTooLong
    | none => .fail .fractional
  | _ => .fail .notFinite

/-- A truth value, or for a lenient check what stands for one. -/
def checkTruth : Strictness → Data → Checked Bool
  | _, .bool b => .ok b
  | .strict, _ => .fail .notTruth
  | .lenient, .text s => foundTruth (truthOfWord? s)
  | .lenient, .bytes bs => foundTruth ((Utf8.decode bs).toOption.bind truthOfWord?)
  | .lenient, .int n => if MachineWord.fits wordBits n then foundTruth (truthOfInt? n) else .fail .notTruth
  | .lenient, .float x =>
    match checkWholeNumber x with
    | .ok n => foundTruth (truthOfInt? n)
    | .error _ => .fail .notTruth
  | .lenient, _ => .fail .notTruth

def checkIntegerText (s : String) : Checked Int :=
  match IntegerText.read s with
  | .ok n => .ok n
  | .error .tooLong => .fail .integerTooLong
  | .error .malformed => .fail .unreadableInteger

def checkInteger : Strictness → Data → Checked Int
  | _, .int n => .ok n
  | .strict, _ => .fail .notInteger
  | .lenient, .bool b => .ok (if b then 1 else 0)
  | .lenient, .float x => checkWholeNumber x
  | .lenient, .text s => checkIntegerText s
  | .lenient, .bytes bs =>
    match Utf8.decode bs with
    | .ok s => checkIntegerText s
    | .error _ => .fail .unreadableInteger
  | .lenient, _ => .fail .notInteger

/-- The step to the value of a key: a position for an integer of machine size. -/
def PathStep.ofKey : Data → PathStep
  | .text s => .key s
  | .int n => if MachineWord.fits wordBits n then .index n else .key (toString n)
  | .bool b => .index (if b then 1 else 0)
  | d => .key d.display

def checkItems (check : Data → Checked Data) (items : List Data) : Checked (List Data) :=
  .all (items.zipIdx.map fun (item, i) => Checked.within (.index i) (check item))

def checkKey (mode : Strictness) (key : Data) : Checked Data :=
  Checked.within (.ofKey key) (Checked.within (.key "[key]") ((checkText mode key).map .text))

def checkEntries (mode : Strictness) (check : Data → Checked Data)
    (entries : List (Data × Data)) : Checked (List (Data × Data)) :=
  .all (entries.map fun (k, v) =>
    .both (checkKey mode k) (Checked.within (.ofKey k) (check v)))

def Shape.check (mode : Strictness) : Shape → Data → Checked Data
  | .any, d => .ok d
  | .text, d => (checkText mode d).map .text
  | .truth, d => (checkTruth mode d).map .bool
  | .integer, d => (checkInteger mode d).map .int
  | .literal options, d =>
    match d with
    | .text s => if options.contains s then .ok (.text s) else .fail (.notOption options)
    | _ => .fail (.notOption options)
  | .optional shape, d =>
    match d with
    | .null => .ok .null
    | d => shape.check mode d
  | .listOf item, d =>
    match d with
    | .list items => (checkItems (item.check mode) items).map .list
    | _ => .fail .notList
  | .mapOf value, d =>
    match d with
    | .map entries => (checkEntries mode (value.check mode) entries).map .ofPairs
    | _ => .fail .notMap

end IdentityClaims
