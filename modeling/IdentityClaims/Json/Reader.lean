import IdentityClaims.Json.Tree
import IdentityClaims.Number.IntegerText
import IdentityClaims.Text.Hex

/-!
# Reading JSON

A reader of JSON text that says where and why it stops. It takes the whole grammar of JSON and,
beside it, the names `NaN`, `Infinity` and `-Infinity` for numbers. Every reading function takes
the characters that are left and gives back those it did not use; a fault is located by the number
of characters left at it, which `JsonError.message` turns into line, column and offset.
-/

namespace IdentityClaims

inductive JsonFault
  | expectedValue
  | expectedName
  | expectedColon
  | expectedComma
  | unterminatedText
  | invalidEscape
  | invalidUnicodeEscape
  | controlCharacter
  | extraText
  | byteOrderMark
  deriving DecidableEq, Repr

def JsonFault.describe : JsonFault → String
  | .expectedValue => "Expecting value"
  | .expectedName => "Expecting property name enclosed in double quotes"
  | .expectedColon => "Expecting ':' delimiter"
  | .expectedComma => "Expecting ',' delimiter"
  | .unterminatedText => "Unterminated string starting at"
  | .invalidEscape => "Invalid \\escape"
  | .invalidUnicodeEscape => "Invalid \\uXXXX escape"
  | .controlCharacter => "Invalid control character at"
  | .extraText => "Extra data"
  | .byteOrderMark => "Unexpected UTF-8 BOM (decode using utf-8-sig)"

/-- Why a JSON text is refused: a fault with that many characters left, or an integer with more
digits than are converted. -/
inductive JsonError
  | fault (what : JsonFault) (left : Nat)
  | longInteger (digits : Nat)
  deriving DecidableEq, Repr

namespace JsonError

/-- Line and column of an offset, both counted from one. -/
def lineAndColumn (cs : List Char) (offset : Nat) : Nat × Nat :=
  let before := cs.take offset
  (before.count '\n' + 1, (before.reverse.takeWhile (· != '\n')).length + 1)

def message (text : String) : JsonError → String
  | .fault what left =>
    let cs := text.toList
    let offset := cs.length - left
    let (line, column) := lineAndColumn cs offset
    what.describe ++ ": line " ++ toString line ++ " column " ++ toString column
      ++ " (char " ++ toString offset ++ ")"
  | .longInteger digits => IntegerText.tooLongMessage digits

end JsonError

namespace Json

def isSpace (c : Char) : Bool := c == ' ' || c == '\t' || c == '\n' || c == '\r'

def skipSpace (cs : List Char) : List Char := cs.dropWhile isSpace

def readHex4? : List Char → Option (Nat × List Char)
  | a :: b :: c :: d :: rest => (Hex.read? [a, b, c, d]).map fun n => (n, rest)
  | _ => none

def isHighSurrogate (n : Nat) : Bool := 0xD800 ≤ n && n ≤ 0xDBFF

def isLowSurrogate (n : Nat) : Bool := 0xDC00 ≤ n && n ≤ 0xDFFF

def isSurrogate (n : Nat) : Bool := isHighSurrogate n || isLowSurrogate n

/-- An escape can name a surrogate that no other one completes. Such a lone unit is no character,
and each of them has a character in its place. -/
class LoneUnits where
  char : Nat → Char
  eq_of_char : ∀ a b, isSurrogate a = true → isSurrogate b = true → char a = char b → a = b

theorem toNat_ofNat {n : Nat} (h : n.isValidChar) : (Char.ofNat n).toNat = n := by
  rw [Char.ofNat, dif_pos h]
  rfl

/-- The last characters for private use stand for lone units. -/
instance lastPrivateUse : LoneUnits where
  char n := Char.ofNat (0x102000 + n)
  eq_of_char a b ha hb h := by
    simp only [isSurrogate, isHighSurrogate, isLowSurrogate, Bool.or_eq_true, Bool.and_eq_true,
      decide_eq_true_eq] at ha hb
    have hnat := congrArg Char.toNat h
    rw [toNat_ofNat (.inr (by omega)), toNat_ofNat (.inr (by omega))] at hnat
    omega

def charOfUnit [LoneUnits] (n : Nat) : Char :=
  if isSurrogate n then LoneUnits.char n else Char.ofNat n

def charOfPair (high low : Nat) : Char :=
  Char.ofNat (0x10000 + (high - 0xD800) * 0x400 + (low - 0xDC00))

def simpleEscape? (c : Char) : Option Char :=
  if c = '"' ∨ c = '\\' ∨ c = '/' then some c
  else if c = 'b' then some (Char.ofNat 8)
  else if c = 'f' then some (Char.ofNat 12)
  else if c = 'n' then some '\n'
  else if c = 'r' then some '\r'
  else if c = 't' then some '\t'
  else none

/-- The character of an escape by code, read after its `u`; a pair of such escapes gives one
character. An escape at the very end of the text is refused, as no quote could follow it. -/
def readUnicodeEscape [LoneUnits] (cs : List Char) : Except JsonError (Char × List Char) :=
  let bad : Except JsonError (Char × List Char) :=
    .error (.fault .invalidUnicodeEscape (cs.length + 1))
  if cs.length ≤ 4 then bad
  else
    match readHex4? cs with
    | none => bad
    | some (high, rest) =>
      match rest with
      | '\\' :: 'u' :: after =>
        if isHighSurrogate high && 6 < rest.length then
          match readHex4? after with
          | none => .error (.fault .invalidUnicodeEscape (after.length + 1))
          | some (low, final) =>
            if isLowSurrogate low then .ok (charOfPair high low, final)
            else .ok (charOfUnit high, rest)
        else .ok (charOfUnit high, rest)
      | _ => .ok (charOfUnit high, rest)

def readText [LoneUnits] (start : Nat) :
    Nat → List Char → Except JsonError (List Char × List Char)
  | 0, _ => .error (.fault .unterminatedText start)
  | _ + 1, [] => .error (.fault .unterminatedText start)
  | fuel + 1, c :: cs =>
    if c = '"' then .ok ([], cs)
    else if c = '\\' then
      match cs with
      | [] => .error (.fault .unterminatedText start)
      | e :: rest =>
        if e = 'u' then
          match readUnicodeEscape rest with
          | .error e => .error e
          | .ok (x, rest) => (readText start fuel rest).map fun r => (x :: r.1, r.2)
        else
          match simpleEscape? e with
          | none => .error (.fault .invalidEscape (cs.length + 1))
          | some x => (readText start fuel rest).map fun r => (x :: r.1, r.2)
    else if c.toNat < 0x20 then .error (.fault .controlCharacter (cs.length + 1))
    else (readText start fuel cs).map fun r => (c :: r.1, r.2)

def readQuoted [LoneUnits] (cs : List Char) : Except JsonError (String × List Char) :=
  (readText (cs.length + 1) (cs.length + 1) cs).map fun r => (String.ofList r.1, r.2)

/-- The digits of a whole number: a zero alone, or digits that do not start with one. -/
def splitWhole : List Char → List Char × List Char
  | '0' :: rest => (['0'], rest)
  | cs => (cs.takeWhile Char.isDigit, cs.dropWhile Char.isDigit)

def splitFraction : List Char → List Char × List Char
  | '.' :: rest =>
    let digits := rest.takeWhile Char.isDigit
    if digits.isEmpty then ([], '.' :: rest) else (digits, rest.dropWhile Char.isDigit)
  | cs => ([], cs)

def splitExponent (cs : List Char) : Option Int × List Char :=
  match cs with
  | c :: rest =>
    if c = 'e' ∨ c = 'E' then
      let (negative, after) := splitSign rest
      let digits := after.takeWhile Char.isDigit
      if digits.isEmpty then (none, cs)
      else
        let n : Int := digitsValue digits
        (some (if negative then -n else n), after.dropWhile Char.isDigit)
    else (none, cs)
  | [] => (none, [])

/-- A number. One with neither fraction nor exponent is an integer. -/
def readNumber (cs : List Char) : Except JsonError (JsonTree × List Char) :=
  let (negative, after) :=
    match cs with
    | '-' :: rest => (true, rest)
    | cs => (false, cs)
  let (whole, rest) := splitWhole after
  if whole.isEmpty then .error (.fault .expectedValue cs.length)
  else
    let (fraction, rest) := splitFraction rest
    let (exponent, rest) := splitExponent rest
    if fraction.isEmpty && exponent.isNone then
      if IntegerText.maxLength < whole.length then .error (.longInteger whole.length)
      else
        let n : Int := digitsValue whole
        .ok (.int (if negative then -n else n), rest)
    else
      let x := Binary64.ofDecimal negative (digitsValue (whole ++ fraction))
        (exponent.getD 0 - fraction.length)
      .ok (.float x, rest)

def named : List (String × JsonTree) :=
  [("null", .null), ("true", .bool true), ("false", .bool false), ("NaN", .float .nan),
    ("Infinity", .float (.infinite false)), ("-Infinity", .float (.infinite true))]

def readNamed? (cs : List Char) : Option (JsonTree × List Char) :=
  named.findSome? fun (name, value) =>
    if name.toList.isPrefixOf cs then some (value, cs.drop name.length) else none

mutual

def readValue [LoneUnits] : Nat → List Char → Except JsonError (JsonTree × List Char)
  | 0, cs => .error (.fault .expectedValue cs.length)
  | fuel + 1, cs =>
    match cs with
    | [] => .error (.fault .expectedValue 0)
    | '"' :: rest => (readQuoted rest).map fun r => (.text r.1, r.2)
    | '\x7b' :: rest =>
      match skipSpace rest with
      | '\x7d' :: rest => .ok (.object [], rest)
      | rest => (readMembers fuel rest).map fun r => (.object r.1, r.2)
    | '[' :: rest =>
      match skipSpace rest with
      | ']' :: rest => .ok (.list [], rest)
      | rest => (readItems fuel rest).map fun r => (.list r.1, r.2)
    | cs =>
      match readNamed? cs with
      | some r => .ok r
      | none => readNumber cs

def readItems [LoneUnits] : Nat → List Char → Except JsonError (List JsonTree × List Char)
  | 0, cs => .error (.fault .expectedValue cs.length)
  | fuel + 1, cs =>
    match readValue fuel cs with
    | .error e => .error e
    | .ok (value, rest) =>
      match skipSpace rest with
      | ']' :: rest => .ok ([value], rest)
      | ',' :: rest => (readItems fuel (skipSpace rest)).map fun r => (value :: r.1, r.2)
      | rest => .error (.fault .expectedComma rest.length)

/-- The members of an object up to its closing brace, of which there is at least one. -/
def readMembers [LoneUnits] :
    Nat → List Char → Except JsonError (List (String × JsonTree) × List Char)
  | 0, cs => .error (.fault .expectedName cs.length)
  | fuel + 1, cs =>
    match cs with
    | '"' :: rest =>
      match readQuoted rest with
      | .error e => .error e
      | .ok (name, rest) =>
        match skipSpace rest with
        | ':' :: rest =>
          match readValue fuel (skipSpace rest) with
          | .error e => .error e
          | .ok (value, rest) =>
            match skipSpace rest with
            | '\x7d' :: rest => .ok ([(name, value)], rest)
            | ',' :: rest =>
              (readMembers fuel (skipSpace rest)).map fun r => ((name, value) :: r.1, r.2)
            | rest => .error (.fault .expectedComma rest.length)
        | rest => .error (.fault .expectedColon rest.length)
    | cs => .error (.fault .expectedName cs.length)

end

/-- Reads a whole text as one JSON value. -/
def read [LoneUnits] (text : String) : Except JsonError JsonTree :=
  let cs := text.toList
  if cs.head? == some (Char.ofNat 0xFEFF) then .error (.fault .byteOrderMark cs.length)
  else
    match readValue (2 * cs.length + 2) (skipSpace cs) with
    | .error e => .error e
    | .ok (value, rest) =>
      let rest := skipSpace rest
      if rest.isEmpty then .ok value else .error (.fault .extraText rest.length)

end Json

end IdentityClaims
