/-!
# UTF-8

Decoding follows the table of well-formed byte sequences: the first byte fixes the length and the
range of the second byte, all further bytes are continuation bytes. Overlong forms, surrogates and
code points above U+10FFFF are ill-formed. A failure gives the number of bytes before the first
sequence that is not well formed.
-/

namespace IdentityClaims.Utf8

def isContinuation (b : UInt8) : Bool := 0x80 ≤ b && b ≤ 0xBF

def isSecondOfThree (a b : UInt8) : Bool :=
  if a == 0xE0 then 0xA0 ≤ b && b ≤ 0xBF
  else if a == 0xED then 0x80 ≤ b && b ≤ 0x9F
  else isContinuation b

def isSecondOfFour (a b : UInt8) : Bool :=
  if a == 0xF0 then 0x90 ≤ b && b ≤ 0xBF
  else if a == 0xF4 then 0x80 ≤ b && b ≤ 0x8F
  else isContinuation b

def low6 (b : UInt8) : Nat := b.toNat % 64

/-- Decodes from a position on; the failure is the position of the first ill-formed sequence. -/
def decodeFrom (position : Nat) : List UInt8 → Except Nat (List Char)
  | [] => .ok []
  | a :: rest =>
    if a < 0x80 then
      (decodeFrom (position + 1) rest).map (Char.ofNat a.toNat :: ·)
    else
      match rest with
      | [] => .error position
      | b :: rest =>
        if 0xC2 ≤ a ∧ a ≤ 0xDF ∧ isContinuation b then
          let c := Char.ofNat (a.toNat % 32 * 64 + low6 b)
          (decodeFrom (position + 2) rest).map (c :: ·)
        else
          match rest with
          | [] => .error position
          | c :: rest =>
            if 0xE0 ≤ a ∧ a ≤ 0xEF ∧ isSecondOfThree a b ∧ isContinuation c then
              let d := Char.ofNat (a.toNat % 16 * 4096 + low6 b * 64 + low6 c)
              (decodeFrom (position + 3) rest).map (d :: ·)
            else
              match rest with
              | [] => .error position
              | d :: rest =>
                if 0xF0 ≤ a ∧ a ≤ 0xF4 ∧ isSecondOfFour a b ∧ isContinuation c ∧
                    isContinuation d then
                  let e := Char.ofNat
                    (a.toNat % 8 * 262144 + low6 b * 4096 + low6 c * 64 + low6 d)
                  (decodeFrom (position + 4) rest).map (e :: ·)
                else .error position

/-- The text that a byte sequence encodes, or the number of well-formed bytes before the first
ill-formed sequence. -/
def decode (bytes : List UInt8) : Except Nat String :=
  (decodeFrom 0 bytes).map String.ofList

def encodeChar (c : Char) : List UInt8 :=
  let n := c.toNat
  if n < 0x80 then [n.toUInt8]
  else if n < 0x800 then [(0xC0 + n / 64).toUInt8, (0x80 + n % 64).toUInt8]
  else if n < 0x10000 then
    [(0xE0 + n / 4096).toUInt8, (0x80 + n / 64 % 64).toUInt8, (0x80 + n % 64).toUInt8]
  else
    [(0xF0 + n / 262144).toUInt8, (0x80 + n / 4096 % 64).toUInt8, (0x80 + n / 64 % 64).toUInt8,
      (0x80 + n % 64).toUInt8]

def encode (s : String) : List UInt8 := s.toList.flatMap encodeChar

end IdentityClaims.Utf8
