import IdentityClaims.Number.IntegerText
import IdentityClaims.Text.DecimalDigit

/-!
# Numerals

Whole numbers in a base and decimal numbers, as a configuration file spells them: with blanks
around them, a sign, digits of any script, and single underscores between digits.
-/

namespace IdentityClaims

inductive NumeralError
  | malformed
  | tooLong (digits : Nat)
  deriving DecidableEq, Repr

namespace Numeral

def isAsciiBlank (c : Char) : Bool := c == ' ' || ('\t' ≤ c && c ≤ '\r')

/-- A text without ASCII blanks at its two ends. -/
def trim (cs : List Char) : List Char :=
  ((cs.dropWhile isAsciiBlank).reverse.dropWhile isAsciiBlank).reverse

def digitIn? (base : Nat) (c : Char) : Option Nat :=
  let value :=
    if c.isDigit then some (c.toNat - '0'.toNat)
    else if 'a' ≤ c && c ≤ 'z' then some (c.toNat - 'a'.toNat + 10)
    else if 'A' ≤ c && c ≤ 'Z' then some (c.toNat - 'A'.toNat + 10)
    else none
  value.filter (· < base)

def baseMark? (base : Nat) : Option Char :=
  if base = 16 then some 'x' else if base = 8 then some 'o' else if base = 2 then some 'b' else none

def dropMark (base : Nat) : List Char → List Char
  | '0' :: mark :: rest =>
    if baseMark? base = some mark.toLower then
      (match rest with
        | '_' :: rest => rest
        | rest => rest)
    else '0' :: mark :: rest
  | cs => cs

/-- Whether a base is a power of two, so that its numbers are read digit by digit however many
there are. -/
def isBinary (base : Nat) : Bool := base == 2 || base == 8 || base == 16

/-- Reads a text that has no blanks around it. The digits that come first are counted, whatever
follows them. -/
def readUnsigned (base : Nat) (cs : List Char) : Except NumeralError Nat :=
  let isPart (c : Char) : Bool := c == '_' || (digitIn? base c).isSome
  let digits := cs.takeWhile isPart
  let values := digits.filterMap (digitIn? base)
  if values.isEmpty || !separatorsInside digits then .error .malformed
  else if !isBinary base && decide (IntegerText.maxLength < values.length) then
    .error (.tooLong values.length)
  else if (cs.drop digits.length).isEmpty then .ok (values.foldl (fun n d => base * n + d) 0)
  else .error .malformed

def integer (base : Nat) (cs : List Char) : Except NumeralError Int :=
  let (negative, cs) := splitSign (trim (asciiNumeral cs))
  (readUnsigned base (dropMark base cs)).map fun n => if negative then -(n : Int) else (n : Int)

def separatorsBetweenDigits : Bool → List Char → Bool
  | _, [] => true
  | afterDigit, '_' :: rest =>
    afterDigit && rest.head?.any Char.isDigit && separatorsBetweenDigits false rest
  | _, c :: rest => separatorsBetweenDigits c.isDigit rest

def float? (cs : List Char) : Option Binary64 :=
  let cs := trim (asciiNumeral cs)
  if separatorsBetweenDigits false cs then Binary64.read? (dropSeparators cs) else none

end Numeral

end IdentityClaims
