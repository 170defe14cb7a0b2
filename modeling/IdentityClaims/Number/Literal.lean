import IdentityClaims.Number.Binary64
import IdentityClaims.Text.Blank

/-!
# Numbers in text

Readers of decimal numbers that accept a whole text or nothing. A decimal literal has an optional
sign, digits with at most one point among or around them, and an optional exponent.
-/

namespace IdentityClaims

def digitValue (c : Char) : Nat := c.toNat - '0'.toNat

def digitsValue (cs : List Char) : Nat := cs.foldl (fun n c => 10 * n + digitValue c) 0

def separatorsInside (cs : List Char) : Bool :=
  let doubled := (cs.zip (cs.drop 1)).any fun (a, b) => a == '_' && b == '_'
  !(cs.head? == some '_' || cs.getLast? == some '_' || doubled)

def dropSeparators (cs : List Char) : List Char := cs.filter (· != '_')

def splitSign : List Char → Bool × List Char
  | '-' :: rest => (true, rest)
  | '+' :: rest => (false, rest)
  | rest => (false, rest)

structure DecimalLiteral where
  negative : Bool
  digits : Nat
  power : Int
  deriving DecidableEq, Repr

namespace DecimalLiteral

/-- The exponent part of a literal: nothing, or `e` with an optional sign and some digits. -/
def readExponent? : List Char → Option Int
  | [] => some 0
  | c :: rest =>
    if c == 'e' || c == 'E' then
      let (negative, digits) := splitSign rest
      if digits.isEmpty || !digits.all Char.isDigit then none
      else some (if negative then -(digitsValue digits : Int) else (digitsValue digits : Int))
    else none

def read? (cs : List Char) : Option DecimalLiteral :=
  let (negative, cs) := splitSign cs
  let whole := cs.takeWhile Char.isDigit
  let rest := cs.dropWhile Char.isDigit
  let (fraction, rest) :=
    match rest with
    | '.' :: rest => (rest.takeWhile Char.isDigit, rest.dropWhile Char.isDigit)
    | rest => ([], rest)
  if whole.isEmpty && fraction.isEmpty then none
  else
    (readExponent? rest).map fun power =>
      { negative, digits := digitsValue (whole ++ fraction), power := power - fraction.length }

def toBinary64 (d : DecimalLiteral) : Binary64 := .ofDecimal d.negative d.digits d.power

end DecimalLiteral

namespace Binary64

/-- Reads a whole text as a number: a decimal literal, or the name of an infinity or of what is no
number, in any case. -/
def read? (cs : List Char) : Option Binary64 :=
  match DecimalLiteral.read? cs with
  | some d => some d.toBinary64
  | none =>
    let (negative, name) := splitSign cs
    let name := name.map Char.toLower
    if name == "inf".toList || name == "infinity".toList then some (.infinite negative)
    else if name == "nan".toList then some .nan
    else none

/-- Reads a text as a number after dropping the blanks around it, or, where that fails, single
underscores inside it. -/
def readLoose? (s : String) : Option Binary64 :=
  match read? (trimBlanks s.toList) with
  | some x => some x
  | none =>
    if separatorsInside s.toList then read? (dropSeparators s.toList) else none

end Binary64

end IdentityClaims
