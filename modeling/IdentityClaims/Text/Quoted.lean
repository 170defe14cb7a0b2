import IdentityClaims.Text.Hex
import IdentityClaims.Text.Printable

/-!
# Quoted text

How messages show a text or a byte sequence between quotes: single quotes, unless the text has a
single quote and no double quote. The quote and the backslash are escaped, tab, line feed and
carriage return have short escapes, and everything else that is not printable is shown by its code
in hexadecimal.
-/

namespace IdentityClaims.Quoted

/-- The quote to put around a text that has, or has not, single and double quotes. -/
def quoteFor (hasSingle hasDouble : Bool) : Char := if hasSingle && !hasDouble then '"' else '\''

/-- The escape of a code that is not printable. -/
def escapeCode (n : Nat) : List Char :=
  if n < 0x100 then '\\' :: 'x' :: Hex.digits 2 n
  else if n < 0x10000 then '\\' :: 'u' :: Hex.digits 4 n
  else '\\' :: 'U' :: Hex.digits 8 n

def escapeChar (quote c : Char) : List Char :=
  if c = quote ∨ c = '\\' then ['\\', c]
  else if c = '\t' then ['\\', 't']
  else if c = '\n' then ['\\', 'n']
  else if c = '\r' then ['\\', 'r']
  else if isPrintable c then [c]
  else escapeCode c.toNat

def text (s : String) : String :=
  let cs := s.toList
  let quote := quoteFor (cs.contains '\'') (cs.contains '"')
  String.ofList (quote :: cs.flatMap (escapeChar quote) ++ [quote])

def escapeByte (quote : Char) (b : UInt8) : List Char :=
  if b < 0x7F then escapeChar quote (Char.ofNat b.toNat) else escapeCode b.toNat

def bytes (bs : List UInt8) : String :=
  let quote := quoteFor (bs.contains 0x27) (bs.contains 0x22)
  String.ofList ('b' :: quote :: bs.flatMap (escapeByte quote) ++ [quote])

end IdentityClaims.Quoted
