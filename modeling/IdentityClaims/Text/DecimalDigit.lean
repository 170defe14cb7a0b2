import IdentityClaims.Text.Blank

/-!
# Decimal digits of all scripts

The characters with the general category decimal number, in version 14 of the Unicode Character
Database. They come in tens from zero to nine, so the zeros tell them all.
-/

namespace IdentityClaims

namespace DecimalDigit

def zeros : List Nat := [
  0x0030, 0x0660, 0x06F0, 0x07C0, 0x0966, 0x09E6, 0x0A66, 0x0AE6, 0x0B66, 0x0BE6, 0x0C66, 0x0CE6,
  0x0D66, 0x0DE6, 0x0E50, 0x0ED0, 0x0F20, 0x1040, 0x1090, 0x17E0, 0x1810, 0x1946, 0x19D0, 0x1A80,
  0x1A90, 0x1B50, 0x1BB0, 0x1C40, 0x1C50, 0xA620, 0xA8D0, 0xA900, 0xA9D0, 0xA9F0, 0xAA50, 0xABF0,
  0xFF10, 0x104A0, 0x10D30, 0x11066, 0x110F0, 0x11136, 0x111D0, 0x112F0, 0x11450, 0x114D0,
  0x11650, 0x116C0, 0x11730, 0x118E0, 0x11950, 0x11C50, 0x11D50, 0x11DA0, 0x16A60, 0x16AC0,
  0x16B50, 0x1D7CE, 0x1D7D8, 0x1D7E2, 0x1D7EC, 0x1D7F6, 0x1E140, 0x1E2F0, 0x1E950, 0x1FBF0]

def value? (c : Char) : Option Nat :=
  (zeros.find? fun first => first ≤ c.toNat && c.toNat ≤ first + 9).map fun first => c.toNat - first

/-- Characters of a number with the digits of any script as ASCII digits and blanks as spaces. They
end with a question mark in the place of the first character that is neither. -/
def toAscii : List Char → List Char
  | [] => []
  | c :: rest =>
    if c.toNat < 0x7F then c :: toAscii rest
    else if isBlank c then ' ' :: toAscii rest
    else
      match value? c with
      | some n => Char.ofNat ('0'.toNat + n) :: toAscii rest
      | none => ['?']

end DecimalDigit

def asciiNumeral (cs : List Char) : List Char :=
  if cs.all fun c => c.toNat < 0x80 then cs else DecimalDigit.toAscii cs

end IdentityClaims
