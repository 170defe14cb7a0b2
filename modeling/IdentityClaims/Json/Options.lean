import IdentityClaims.Data.Display
import IdentityClaims.Data.Merge
import IdentityClaims.Json.Writer

/-!
# Layout options

A layout for JSON is asked for by named options. An indent is a text or a number of spaces, the
separators come as a pair, and a switch is on when its value counts as true. Options that ask for
nothing the writer knows are refused before anything is written; which of them is refused first is
the order of `LayoutError`.
-/

namespace IdentityClaims

inductive LayoutError
  | unknown (option : String)
  | notPair (kind : String)
  | tooFew (count : Nat)
  | tooMany
  | indent (kind : String)
  | separator (place : Nat) (kind : String)
  | itemSeparator (kind : String)
  | keySeparator (kind : String)
  deriving DecidableEq, Repr

def LayoutError.message : LayoutError → String
  | .unknown option =>
    "JSONEncoder.__init__() got an unexpected keyword argument '" ++ option ++ "'"
  | .notPair kind => "cannot unpack non-iterable " ++ kind ++ " object"
  | .tooFew count => "not enough values to unpack (expected 2, got " ++ toString count ++ ")"
  | .tooMany => "too many values to unpack (expected 2)"
  | .indent kind => "can't multiply sequence by non-int of type '" ++ kind ++ "'"
  | .separator place kind =>
    "make_encoder() argument " ++ toString place ++ " must be str, not "
      ++ (if kind = "NoneType" then "None" else kind)
  | .itemSeparator "list" => "can only concatenate list (not \"str\") to list"
  | .itemSeparator "bytes" => "can't concat str to bytes"
  | .itemSeparator kind => "unsupported operand type(s) for +: '" ++ kind ++ "' and 'str'"
  | .keySeparator kind => "sequence item 3: expected str instance, " ++ kind ++ " found"

namespace JsonLayout

/-- The options by name. The last four change nothing that is written. -/
def optionNames : List String :=
  ["indent", "separators", "sort_keys", "ensure_ascii", "allow_nan", "skipkeys", "check_circular",
    "cls", "default"]

def indentOf : Data → Except LayoutError (Option String)
  | .null => .ok none
  | .int n => .ok (some (String.ofList (List.replicate n.toNat ' ')))
  | .bool b => .ok (some (if b then " " else ""))
  | .text s => .ok (some s)
  | d => .error (.indent d.kind)

def partsOf? : Data → Option (List Data)
  | .text s => some (s.toList.map fun c => .text (String.singleton c))
  | .bytes bs => some (bs.map fun b => .int b.toNat)
  | .list items => some items
  | .map entries => some (entries.map Prod.fst)
  | _ => none

def pairOf (d : Data) : Except LayoutError (Data × Data) :=
  match partsOf? d with
  | none => .error (.notPair d.kind)
  | some [a, b] => .ok (a, b)
  | some parts => .error (if parts.length < 2 then .tooFew parts.length else .tooMany)

/-- The texts of two separators, of which the second is looked at first if all stands on one
line. -/
def separatorTexts (onLines : Bool) (item key : Data) : Except LayoutError (String × String) :=
  match item, key with
  | .text item, .text key => .ok (item, key)
  | .text _, key =>
    .error (if onLines then .keySeparator key.kind else .separator 5 key.kind)
  | item, .text _ =>
    .error (if onLines then .itemSeparator item.kind else .separator 6 item.kind)
  | item, key =>
    .error (if onLines then .itemSeparator item.kind else .separator 5 key.kind)

def ofOptions (options : List (Data × Data)) : Except LayoutError JsonLayout := do
  let value (name : String) : Data := ((Data.lookup options (.text name)).getD .null)
  let isOn (name : String) (default : Bool) : Bool :=
    ((Data.lookup options (.text name)).map Data.isTruthy).getD default
  match options.find? fun e => !(e.1.text?.any optionNames.contains) with
  | some e => throw (.unknown (e.1.text?.getD e.1.display))
  | none =>
    let separators ← match value "separators" with
      | .null => pure none
      | d => (pairOf d).map some
    let indent ← indentOf (value "indent")
    let layout : JsonLayout :=
      { indent
        sortKeys := isOn "sort_keys" false
        asciiOnly := isOn "ensure_ascii" true
        allowNonFinite := isOn "allow_nan" true }
    match separators with
    | none => return layout
    | some (item, key) =>
      let (itemSeparator, keySeparator) ← separatorTexts indent.isSome item key
      return { layout with itemSeparator, keySeparator }

end JsonLayout

end IdentityClaims
