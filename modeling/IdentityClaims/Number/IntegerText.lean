import IdentityClaims.Number.Literal

/-!
# Integers as people type them

An integer text may have blanks around it, a sign, zeros in front, a fraction of zeros behind and
underscores inside. The sign is set apart first, so that zeros may follow a minus as well. What is
left when all else is taken away has to be an integer literal: a minus or nothing, and digits of
which the first is zero only if it is the only one. Without a minus in front, one may also stand
behind the zeros.
-/

namespace IdentityClaims

inductive IntegerTextError
  | tooLong
  | malformed
  deriving DecidableEq, Repr

namespace IntegerText

def maxLength : Nat := 4300

def tooLongMessage (digits : Nat) : String :=
  "Exceeds the limit (" ++ toString maxLength
    ++ " digits) for integer string conversion: value has " ++ toString digits
    ++ " digits; use sys.set_int_max_str_digits() to increase the limit"

def unprintableMessage : String :=
  "Exceeds the limit (" ++ toString maxLength
    ++ " digits) for integer string conversion; use sys.set_int_max_str_digits() to increase the "
    ++ "limit"

/-- Reads a whole text as an integer literal. Too many digits are an error whatever follows. -/
def readLiteral (cs : List Char) : Except IntegerTextError Int :=
  let (negative, body) :=
    match cs with
    | '-' :: rest => (true, rest)
    | cs => (false, cs)
  let digits := body.takeWhile Char.isDigit
  match digits with
  | [] => .error .malformed
  | '0' :: _ => if body = ['0'] then .ok 0 else .error .malformed
  | digits =>
    if maxLength < digits.length then .error .tooLong
    else if digits.length < body.length then .error .malformed
    else .ok (if negative then -(digitsValue digits : Int) else (digitsValue digits : Int))

/-- A text without the zeros and underscores behind a first zero, read up to a digit or a minus.
The zero before a point stays, and so does the last character where there is nothing else. -/
def dropZeros (previous : Char) : List Char → Option (List Char)
  | [] => some [previous]
  | c :: rest =>
    if c == '0' || c == '_' then dropZeros c rest
    else if c.isDigit || c == '-' then some (c :: rest)
    else if c == '.' then some (previous :: c :: rest)
    else none

def dropLeadingZeros : List Char → Option (List Char)
  | [] => none
  | c :: rest =>
    if c == '0' then dropZeros c rest
    else if c.isDigit || c == '-' then some (c :: rest)
    else none

def dropFraction (cs : List Char) : List Char :=
  match cs.dropWhile (· != '.') with
  | _ :: zeros =>
    if !zeros.isEmpty && zeros.all (· == '0') then cs.takeWhile (· != '.') else cs
  | [] => cs

/-- What is left of a text behind its sign: no zeros in front, no fraction, no underscores. -/
def cleanUnsigned (cs : List Char) : Option (List Char) :=
  (dropLeadingZeros cs).map fun cs =>
    let cs := dropFraction cs
    if separatorsInside cs then dropSeparators cs else cs

def clean : List Char → Option (List Char)
  | '-' :: rest => (cleanUnsigned rest).map ('-' :: ·)
  | '+' :: '-' :: _ => none
  | '+' :: rest => cleanUnsigned rest
  | cs => cleanUnsigned cs

def read (s : String) : Except IntegerTextError Int :=
  match clean (trimBlanks s.toList) with
  | some cs => readLiteral cs
  | none => .error .malformed

end IntegerText

end IdentityClaims
