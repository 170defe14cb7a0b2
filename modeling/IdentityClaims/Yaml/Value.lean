import IdentityClaims.Data.Basic
import IdentityClaims.Number.Numeral
import IdentityClaims.Text.LowerCase
import IdentityClaims.Yaml.Error
import IdentityClaims.Yaml.ScalarKind

/-!
# Values of scalars

The value that the text of a scalar stands for once its type is known, by tag or by its text.
-/

namespace IdentityClaims.Yaml

def integerIn (base : Nat) (cs : List Char) : YamlResult Int :=
  match Numeral.integer base cs with
  | .ok n => .ok n
  | .error .malformed => .error (.scalar (.notInteger (.ofList cs) base))
  | .error (.tooLong digits) => .error (.scalar (.longInteger digits))

def withSign {α : Type} (negate : α → α) (cs : List Char)
    (read : List Char → YamlResult α) : YamlResult α :=
  match cs with
  | [] => .error (.scalar .emptyNumber)
  | '-' :: rest => (read rest).map negate
  | '+' :: rest => read rest
  | cs => read cs

def integerSize (cs : List Char) : YamlResult Int :=
  match cs with
  | [] => .error (.scalar .emptyNumber)
  | ['0'] => .ok 0
  | '0' :: 'b' :: digits => integerIn 2 digits
  | '0' :: 'x' :: digits => integerIn 16 digits
  | '0' :: digits => integerIn 8 ('0' :: digits)
  | cs =>
    if cs.contains ':' then
      ((splitColons cs).mapM (integerIn 10)).map fun parts =>
        parts.foldl (fun n d => 60 * n + d) 0
    else integerIn 10 cs

def integerValue (s : String) : YamlResult Int :=
  withSign (fun n => -n) (dropSeparators s.toList) integerSize

def floatOf (cs : List Char) : YamlResult Binary64 :=
  match Numeral.float? cs with
  | some x => .ok x
  | none => .error (.scalar (.notFloat (.ofList cs)))

/-- Adds parts in sixties to a sum, the last part first; `base` is what the next part counts. Each
step is rounded, and what a part counts has to be in range even where the part is zero. -/
def addSixties (sum : Binary64) (base : Nat) : List Binary64 → YamlResult Binary64
  | [] => .ok sum
  | part :: rest =>
    match Binary64.ofInt base with
    | .finite negative m q =>
      addSixties (sum.add (part.mul (.finite negative m q))) (60 * base) rest
    | _ => .error (.scalar .tooManySixties)

def floatSize (cs : List Char) : YamlResult Binary64 :=
  if cs == ".inf".toList then .ok (.infinite false)
  else if cs == ".nan".toList then .ok .nan
  else if cs.contains ':' then
    match (splitColons cs).mapM floatOf with
    | .ok parts => addSixties (.zero false) 1 parts.reverse
    | .error e => .error e
  else floatOf cs

def floatValue (s : String) : YamlResult Binary64 :=
  withSign Binary64.negate (lowerCase (.ofList (dropSeparators s.toList))).toList floatSize

def truthValue (s : String) : YamlResult Bool :=
  let word := lowerCase s
  if ScalarKind.trueWords.contains word then .ok true
  else if ScalarKind.falseWords.contains word then .ok false
  else .error (.scalar (.notTruth word))

def timeFault? (t : TimeText) : Option CalendarFault :=
  match t.clock with
  | none => t.date.fault?
  | some c => (c.moment t.date).fault?

/-- The value of a time, of which only the kind is kept. -/
def timeValue (s : String) : YamlResult Data :=
  match readTime? (dropLineEnd s.toList) with
  | none => .error (.scalar .notTime)
  | some t =>
    match timeFault? t with
    | some fault => .error (.scalar (.time fault))
    | none => .ok (.object (if t.clock.isNone then "datetime.date" else "datetime.datetime"))

def sixBits? (c : Char) : Option Nat :=
  if 'A' ≤ c && c ≤ 'Z' then some (c.toNat - 'A'.toNat)
  else if 'a' ≤ c && c ≤ 'z' then some (c.toNat - 'a'.toNat + 26)
  else if c.isDigit then some (c.toNat - '0'.toNat + 52)
  else if c == '+' then some 62
  else if c == '/' then some 63
  else none

/-- The bytes of a binary text: every four characters give three bytes, a byte as soon as its bits
are there. `place` says how many characters of a group are read, `held` what is left of their bits,
and `pads` how many padding characters stand behind them. Padding that fills up a group ends the
text; other characters of no meaning are passed over. -/
def binaryBytes (place held pads : Nat) : List Char → Option (List UInt8)
  | [] => if place = 0 then some [] else none
  | c :: rest =>
    if c == '=' then
      if place < 2 then binaryBytes place held pads rest
      else if 4 ≤ place + (pads + 1) then some []
      else binaryBytes place held (pads + 1) rest
    else
      match sixBits? c with
      | none => binaryBytes place held pads rest
      | some n =>
        match place with
        | 0 => binaryBytes 1 n 0 rest
        | 1 => (binaryBytes 2 (n % 16) 0 rest).map ((4 * held + n / 16).toUInt8 :: ·)
        | 2 => (binaryBytes 3 (n % 4) 0 rest).map ((16 * held + n / 4).toUInt8 :: ·)
        | _ => (binaryBytes 0 0 0 rest).map ((64 * held + n).toUInt8 :: ·)

def binaryValue (s : String) : YamlResult Data :=
  if s.toList.all fun c => c.toNat < 0x80 then
    (orMalformed (binaryBytes 0 0 0 s.toList)).map .bytes
  else .error .malformed

namespace ScalarKind

/-- The value of a text of a kind. Keys and signs with a meaning of their own have no value. -/
def value (s : String) : ScalarKind → YamlResult Data
  | .null => .ok .null
  | .truth => (truthValue s).map .bool
  | .integer => (integerValue s).map .int
  | .float => (floatValue s).map .float
  | .time => timeValue s
  | .merge => .error .malformed
  | .equals => .error .malformed
  | .indicator => .error .malformed
  | .text => .ok (.text s)

end ScalarKind

end IdentityClaims.Yaml
