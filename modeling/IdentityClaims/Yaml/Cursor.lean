/-!
# Reading position in a YAML text

A cursor is the text that is left, with the line and the column it starts at. The classes of
characters are those of YAML 1.1, where next line, line separator and paragraph separator end a
line too.
-/

namespace IdentityClaims.Yaml

def isBreak (c : Char) : Bool :=
  c == '\n' || c == '\r' || c.toNat == 0x85 || c.toNat == 0x2028 || c.toNat == 0x2029

def isLineEnd : Option Char → Bool
  | none => true
  | some c => isBreak c

def isSpaceOrEnd (c : Option Char) : Bool := isLineEnd c || c == some ' '

/-- Whether a place separates tokens: the end of the text or of a line, a space or a tab. -/
def isGap (c : Option Char) : Bool := isSpaceOrEnd c || c == some '\t'

/-- The mark that may stand before a text and has no width. -/
def byteOrderMark : Char := Char.ofNat 0xFEFF

def isAllowed (c : Char) : Bool :=
  let n := c.toNat
  n == 0x09 || n == 0x0A || n == 0x0D || (0x20 ≤ n && n ≤ 0x7E) || n == 0x85 ||
    (0xA0 ≤ n && n ≤ 0xD7FF) || (0xE000 ≤ n && n ≤ 0xFFFD) || 0x10000 ≤ n

def isWordChar (c : Char) : Bool := c.isAlphanum || c == '-' || c == '_'

/-- The text that is left and where it starts. The whole text has fewer than `bound` characters, so
nothing takes more steps than that. -/
structure Cursor where
  rest : List Char
  line : Nat
  column : Nat
  index : Nat
  bound : Nat
  deriving Repr

namespace Cursor

def start (text : String) : Cursor :=
  { rest := text.toList, line := 0, column := 0, index := 0, bound := text.length + 1 }

def peek (k : Cursor) : Option Char := k.rest.head?

def peekAt (k : Cursor) (n : Nat) : Option Char := k.rest[n]?

def next (k : Cursor) : Cursor :=
  match k.rest with
  | [] => k
  | c :: rest =>
    let endsLine := isBreak c && !(c == '\r' && rest.head? == some '\n')
    if endsLine then { k with rest, line := k.line + 1, column := 0, index := k.index + 1 }
    else if c == byteOrderMark then { k with rest, index := k.index + 1 }
    else { k with rest, column := k.column + 1, index := k.index + 1 }

def skip (k : Cursor) : Nat → Cursor
  | 0 => k
  | n + 1 => k.next.skip n

def span (k : Cursor) (test : Char → Bool) : List Char × Cursor :=
  let taken := k.rest.takeWhile test
  (taken, k.skip taken.length)

def skipWhile (k : Cursor) (test : Char → Bool) : Cursor := (k.span test).2

def skipSpaces (k : Cursor) : Cursor := k.skipWhile (· == ' ')

def skipLine (k : Cursor) : Cursor := k.skipWhile fun c => !isBreak c

/-- Reads the end of a line: what it counts as, and the cursor behind it. -/
def lineBreak? (k : Cursor) : Option (Char × Cursor) :=
  match k.rest with
  | '\r' :: '\n' :: _ => some ('\n', k.skip 2)
  | c :: _ =>
    if isBreak c then some (if c.toNat == 0x2028 || c.toNat == 0x2029 then c else '\n', k.next)
    else none
  | [] => none

/-- Whether three given characters stand here as a word of their own. -/
def atMarker (k : Cursor) (c : Char) : Bool :=
  k.rest.take 3 == [c, c, c] && isGap (k.peekAt 3)

def atDocumentMarker (k : Cursor) : Bool := k.atMarker '-' || k.atMarker '.'

/-- The cursor behind what may stand at the end of a line: spaces and a comment. -/
def endLine? (k : Cursor) : Option Cursor :=
  let k := k.skipSpaces
  let k := if k.peek == some '#' then k.skipLine else k
  match k.lineBreak? with
  | some (_, k) => some k
  | none => if k.peek.isNone then some k else none

end Cursor

end IdentityClaims.Yaml
