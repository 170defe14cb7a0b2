import IdentityClaims.Text.Hex
import IdentityClaims.Yaml.Cursor
import IdentityClaims.Yaml.Error

/-!
# Scalars

The text of a scalar: plain, in quotes, or as a block of lines. Line ends inside a plain or quoted
scalar are folded, a single one into a space, and a block keeps or folds them as its header says.
Every reader takes the cursor at the start of the scalar and gives the text and the cursor behind
it; fuel bounds the number of lines or pieces, and the length of the text is always enough.
-/

namespace IdentityClaims.Yaml

def fold (first : Char) (more : List Char) : List Char :=
  if first != '\n' then first :: more
  else if more.isEmpty then [' '] else more

/-! ## Plain scalars -/

def endsPlain (inFlow : Bool) (c : Char) (after : Option Char) : Bool :=
  c == ' ' || c == '\t' || isBreak c ||
    (c == ':' && (isGap after || (inFlow && (after.any fun d => ",[]\x7b\x7d".toList.contains d)))) ||
    (inFlow && ",?[]\x7b\x7d".toList.contains c)

def plainWord (inFlow : Bool) : List Char → List Char
  | [] => []
  | c :: rest => if endsPlain inFlow c rest.head? then [] else c :: plainWord inFlow rest

/-- What stands between two words of a plain scalar: the text it becomes and whether a line ended.
A document marker ends the scalar, so it leaves no text. -/
structure PlainGap where
  text : List Char
  cursor : Cursor
  newLine : Bool

/-- The line ends and spaces behind a first line end; no text at a document marker. -/
def plainBreaks : Nat → Cursor → List Char → Option (List Char) × Cursor
  | 0, k, breaks => (some breaks.reverse, k)
  | fuel + 1, k, breaks =>
    if k.peek == some ' ' then plainBreaks fuel k.next breaks
    else
      match k.lineBreak? with
      | some (b, k) =>
        if k.atDocumentMarker then (none, k) else plainBreaks fuel k (b :: breaks)
      | none => (some breaks.reverse, k)

def plainGap (k : Cursor) : PlainGap :=
  let (spaces, k) := k.span (· == ' ')
  match k.lineBreak? with
  | none => ⟨spaces, k, false⟩
  | some (first, k) =>
    if k.atDocumentMarker then ⟨[], k, true⟩
    else
      match plainBreaks k.bound k [] with
      | (some more, k) => ⟨fold first more, k, true⟩
      | (none, k) => ⟨[], k, true⟩

structure PlainText where
  text : List Char
  cursor : Cursor
  newLine : Bool

/-- Reads the words of a plain scalar that continue the ones before; `between` is what stands
between them. -/
def plainWords (inFlow : Bool) (indent : Int) :
    Nat → Cursor → List Char → Bool → PlainText
  | 0, k, _, newLine => ⟨[], k, newLine⟩
  | fuel + 1, k, between, newLine =>
    let word := plainWord inFlow k.rest
    if k.peek == some '#' || word.isEmpty then ⟨[], k, newLine⟩
    else
      let gap := plainGap (k.skip word.length)
      let newLine := gap.newLine
      let stop := gap.text.isEmpty || gap.cursor.peek == some '#' ||
        (!inFlow && decide ((gap.cursor.column : Int) < indent))
      if stop then ⟨between ++ word, gap.cursor, newLine⟩
      else
        let more := plainWords inFlow indent fuel gap.cursor gap.text newLine
        ⟨between ++ word ++ more.text, more.cursor, more.newLine⟩

def plainScalar (inFlow : Bool) (indent : Int) (k : Cursor) : PlainText :=
  plainWords inFlow indent k.bound k [] false

/-! ## Quoted scalars -/

def escapedChar? (c : Char) : Option Char :=
  match c with
  | '0' => some (Char.ofNat 0)
  | 'a' => some (Char.ofNat 7)
  | 'b' => some (Char.ofNat 8)
  | 't' => some '\t'
  | '\t' => some '\t'
  | 'n' => some '\n'
  | 'v' => some (Char.ofNat 0x0B)
  | 'f' => some (Char.ofNat 0x0C)
  | 'r' => some '\r'
  | 'e' => some (Char.ofNat 0x1B)
  | ' ' => some ' '
  | '"' => some '"'
  | '\\' => some '\\'
  | '/' => some '/'
  | 'N' => some (Char.ofNat 0x85)
  | '_' => some (Char.ofNat 0xA0)
  | 'L' => some (Char.ofNat 0x2028)
  | 'P' => some (Char.ofNat 0x2029)
  | _ => none

def escapeWidth? (c : Char) : Option Nat :=
  match c with
  | 'x' => some 2
  | 'u' => some 4
  | 'U' => some 8
  | _ => none

def quotedBreaks : Nat → Cursor → YamlResult (List Char × Cursor)
  | 0, k => .ok ([], k)
  | fuel + 1, k =>
    if k.atDocumentMarker then .error .malformed
    else
      let k := k.skipWhile fun c => c == ' ' || c == '\t'
      match k.lineBreak? with
      | some (b, k) => (quotedBreaks fuel k).map fun r => (b :: r.1, r.2)
      | none => .ok ([], k)

def quotedGap (k : Cursor) : YamlResult (List Char × Cursor) :=
  let (blanks, k) := k.span fun c => c == ' ' || c == '\t'
  if k.peek.isNone then .error .malformed
  else
    match k.lineBreak? with
    | none => .ok (blanks, k)
    | some (first, k) =>
      (quotedBreaks k.bound k).map fun r => (fold first r.1, r.2)

def escape (k : Cursor) : YamlResult (List Char × Cursor) :=
  match k.peek with
  | none => .error .malformed
  | some c =>
    match escapedChar? c, escapeWidth? c with
    | some d, _ => .ok ([d], k.next)
    | none, some width =>
      let digits := k.next.rest.take width
      match Hex.read? digits with
      | some code =>
        if digits.length != width then .error .malformed
        else if code < 0x110000 then .ok ([Char.ofNat code], k.next.skip width)
        else .error (.scalar (.noCharacter code))
      | none => .error .malformed
    | none, none =>
      match k.lineBreak? with
      | some (_, k) => quotedBreaks k.bound k
      | none => .error .malformed

def quotedPieces (quote : Char) : Nat → Cursor → YamlResult (List Char × Cursor)
  | 0, _ => .error .malformed
  | fuel + 1, k =>
    match k.peek with
    | none => .error .malformed
    | some c =>
      if c == quote then
        if quote == '\'' && k.peekAt 1 == some '\'' then
          (quotedPieces quote fuel (k.skip 2)).map fun r => ('\'' :: r.1, r.2)
        else .ok ([], k.next)
      else if c == '\\' && quote == '"' then
        match escape k.next with
        | .error e => .error e
        | .ok (text, k) => (quotedPieces quote fuel k).map fun r => (text ++ r.1, r.2)
      else if c == ' ' || c == '\t' || isBreak c then
        match quotedGap k with
        | .error e => .error e
        | .ok (text, k) => (quotedPieces quote fuel k).map fun r => (text ++ r.1, r.2)
      else (quotedPieces quote fuel k.next).map fun r => (c :: r.1, r.2)

def quotedScalar (quote : Char) (k : Cursor) : YamlResult (List Char × Cursor) :=
  quotedPieces quote k.bound k.next

/-! ## Blocks of lines -/

inductive Chomping
  | strip
  | clip
  | keep
  deriving DecidableEq, Repr

def chomping? (c : Option Char) : Option Chomping :=
  match c with
  | some '+' => some .keep
  | some '-' => some .strip
  | _ => none

/-- Reads the digit of a header that gives the indentation; zero is not one. -/
def indentDigit (k : Cursor) : YamlResult (Option Nat × Cursor) :=
  match k.peek with
  | some c =>
    if c == '0' then .error .malformed
    else if c.isDigit then .ok (some (c.toNat - '0'.toNat), k.next)
    else .ok (none, k)
  | none => .ok (none, k)

/-- The header of a block: chomping, indentation if it is given, and the cursor behind the line. -/
structure BlockHeader where
  chomping : Chomping
  indent : Option Nat
  cursor : Cursor

def blockHeader (k : Cursor) : YamlResult BlockHeader :=
  let finish (chomping : Option Chomping) (indent : Option Nat) (k : Cursor) :
      YamlResult BlockHeader :=
    if isSpaceOrEnd k.peek then
      (orMalformed k.endLine?).map fun k => ⟨chomping.getD .clip, indent, k⟩
    else .error .malformed
  match chomping? k.peek with
  | some c =>
    match indentDigit k.next with
    | .error e => .error e
    | .ok (indent, k) => finish (some c) indent k
  | none =>
    match indentDigit k with
    | .error e => .error e
    | .ok (none, k) => finish none none k
    | .ok (some n, k) =>
      match chomping? k.peek with
      | some c => finish (some c) (some n) k.next
      | none => finish none (some n) k

def skipIndent (indent : Nat) : Nat → Cursor → Cursor
  | 0, k => k
  | fuel + 1, k =>
    if k.column < indent && k.peek == some ' ' then skipIndent indent fuel k.next else k

/-- The empty lines of a block and the cursor at the indentation of the line behind them. -/
def blockBreaks (indent : Nat) : Nat → Cursor → List Char × Cursor
  | 0, k => ([], k)
  | fuel + 1, k =>
    let k := skipIndent indent indent k
    match k.lineBreak? with
    | some (b, k) =>
      let r := blockBreaks indent fuel k
      (b :: r.1, r.2)
    | none => ([], k)

/-- The empty lines at the start of a block, and the largest indentation among them and the line
behind them. -/
def blockIndentation : Nat → Cursor → Nat → List Char × Nat × Cursor
  | 0, k, most => ([], most, k)
  | fuel + 1, k, most =>
    if k.peek == some ' ' then blockIndentation fuel k.next (max most k.next.column)
    else
      match k.lineBreak? with
      | some (b, k) =>
        let r := blockIndentation fuel k most
        (b :: r.1, r.2)
      | none => ([], most, k)

def blockEnd (chomping : Chomping) (last : List Char) (breaks : List Char) : List Char :=
  match chomping with
  | .strip => []
  | .clip => last
  | .keep => last ++ breaks

def blockLines (folded : Bool) (chomping : Chomping) (indent : Nat) :
    Nat → Cursor → List Char → List Char × Cursor
  | 0, k, _ => ([], k)
  | fuel + 1, k, before =>
    let isText (c : Option Char) : Bool := c != some ' ' && c != some '\t'
    let startsWithText := isText k.peek
    let (line, k) := k.span fun c => !isBreak c
    let (last, k) :=
      match k.lineBreak? with
      | some (b, k) => ([b], k)
      | none => ([], k)
    let (breaks, k) := blockBreaks indent k.bound k
    if k.column == indent && k.peek.isSome then
      let joint :=
        if folded && last == ['\n'] && startsWithText && isText k.peek then
          (if breaks.isEmpty then [' '] else [])
        else last
      let more := blockLines folded chomping indent fuel k (joint ++ breaks)
      (before ++ line ++ more.1, more.2)
    else (before ++ line ++ blockEnd chomping last breaks, k)

def blockScalar (folded : Bool) (outer : Int) (k : Cursor) : YamlResult (List Char × Cursor) :=
  match blockHeader k.next with
  | .error e => .error e
  | .ok h =>
    let least : Nat := (max (outer + 1) 1).toNat
    let fuel := h.cursor.bound
    let (breaks, indent, k) :=
      match h.indent with
      | some n =>
        let indent := least + n - 1
        let (breaks, k) := blockBreaks indent fuel h.cursor
        (breaks, indent, k)
      | none =>
        let (breaks, most, k) := blockIndentation fuel h.cursor 0
        (breaks, max least most, k)
    if k.column == indent && k.peek.isSome then
      .ok (blockLines folded h.chomping indent fuel k breaks)
    else .ok (blockEnd h.chomping [] breaks, k)

end IdentityClaims.Yaml
