import IdentityClaims.Yaml.Scalar
import IdentityClaims.Yaml.Tag

/-!
# The tokens of a text

A text is read token by token, and no further than the next token needs. In block context the
indentation opens and closes collections. What looks like a value may turn out to be the key of a
mapping when a colon follows it on its line, so every place where a key may start is remembered, the
tokens of the key are put in there afterwards, and a token at such a place is not known before that
is settled.
-/

namespace IdentityClaims.Yaml

/-- A place where a key may have started. In block context a key is required where a line of a
mapping starts. -/
structure KeyPlace where
  position : Nat
  required : Bool
  index : Nat
  line : Nat
  column : Nat

/-- How far reading has come. `taken` counts the tokens that are used up, `flow` is the depth of flow
collections and `keyPlaces` has at most one place for each depth. -/
structure Reading where
  cursor : Cursor
  tokens : Array Token
  taken : Nat
  atEnd : Bool
  flow : Nat
  indent : Int
  outer : List Int
  keyAllowed : Bool
  keyPlaces : List (Nat × KeyPlace)

namespace Reading

def start (text : String) : Reading where
  cursor := .start text
  tokens := #[]
  taken := 0
  atEnd := false
  flow := 0
  indent := -1
  outer := []
  keyAllowed := true
  keyPlaces := []

def push (r : Reading) (t : Token) : Reading := { r with tokens := r.tokens.push t }

def moveTo (r : Reading) (k : Cursor) : Reading := { r with cursor := k }

def insertAt (r : Reading) (position : Nat) (t : Token) : Reading :=
  { r with tokens := r.tokens.insertIdxIfInBounds position t }

def nextContent : Nat → Cursor → Bool → Cursor × Bool
  | 0, k, newLine => (k, newLine)
  | fuel + 1, k, newLine =>
    let k := k.skipSpaces
    let k := if k.peek == some '#' then k.skipLine else k
    match k.lineBreak? with
    | some (_, k) => nextContent fuel k true
    | none => (k, newLine)

/-- Moves to the next token. After a line end in block context a key may start. -/
def toContent (r : Reading) : Reading :=
  let k := r.cursor
  let k := if k.index == 0 && k.peek == some byteOrderMark then k.next else k
  let (k, newLine) := nextContent k.bound k false
  { r with cursor := k, keyAllowed := r.keyAllowed || (newLine && r.flow == 0) }

def maxKey : Nat := 1024

/-- Gives up the places that no key can have started at: those on an earlier line or too far
back. -/
def dropStale (r : Reading) : YamlResult Reading :=
  let isStale (p : KeyPlace) : Bool :=
    p.line != r.cursor.line || decide (maxKey < r.cursor.index - p.index)
  if r.keyPlaces.any fun p => isStale p.2 && p.2.required then .error .malformed
  else .ok { r with keyPlaces := r.keyPlaces.filter fun p => !isStale p.2 }

def keyPlace? (r : Reading) : Option KeyPlace :=
  (r.keyPlaces.find? fun p => p.1 == r.flow).map Prod.snd

def forgetKey (r : Reading) : Reading :=
  { r with keyPlaces := r.keyPlaces.filter fun p => p.1 != r.flow }

/-- Gives up the place of the current depth, where no key may be required. -/
def dropKey (r : Reading) : YamlResult Reading :=
  match r.keyPlace? with
  | some p => if p.required then .error .malformed else .ok r.forgetKey
  | none => .ok r

def saveKey (r : Reading) : YamlResult Reading :=
  if r.keyAllowed then do
    let r ← r.dropKey
    let k := r.cursor
    let place : KeyPlace :=
      { position := r.tokens.size
        required := r.flow == 0 && r.indent == (k.column : Int)
        index := k.index
        line := k.line
        column := k.column }
    .ok { r with keyPlaces := (r.flow, place) :: r.keyPlaces }
  else .ok r

/-- Closes the block collections that are indented by more than a column. -/
def unwindTo (column : Int) : List Int → Int → Array Token → List Int × Int × Array Token
  | [], indent, tokens => ([], indent, tokens)
  | o :: outer, indent, tokens =>
    if column < indent then unwindTo column outer o (tokens.push .blockEnd)
    else (o :: outer, indent, tokens)

def unwind (r : Reading) (column : Int) : Reading :=
  if r.flow != 0 then r
  else
    let (outer, indent, tokens) := unwindTo column r.outer r.indent r.tokens
    { r with outer, indent, tokens }

def indentTo (r : Reading) (column : Nat) : Option Reading :=
  if r.indent < (column : Int) then
    some { r with indent := column, outer := r.indent :: r.outer }
  else none

/-- Opens a block collection at the current column, if it is indented more deeply. -/
def openBlock (r : Reading) (t : Token) : Reading :=
  match r.indentTo r.cursor.column with
  | some r => r.push t
  | none => r

def marker (r : Reading) (t : Token) (k : Cursor) : YamlResult Reading := do
  let r ← (r.unwind (-1)).dropKey
  .ok { r.push t with keyAllowed := false, cursor := k }

def openFlow (r : Reading) (t : Token) : YamlResult Reading := do
  let r ← r.saveKey
  .ok { r.push t with flow := r.flow + 1, keyAllowed := true, cursor := r.cursor.next }

def closeFlow (r : Reading) (t : Token) : YamlResult Reading := do
  let r ← r.dropKey
  if r.flow == 0 then .error .malformed
  else .ok { r.push t with flow := r.flow - 1, keyAllowed := false, cursor := r.cursor.next }

def flowEntry (r : Reading) : YamlResult Reading := do
  let r ← { r with keyAllowed := true }.dropKey
  .ok ((r.push .flowEntry).moveTo r.cursor.next)

def blockEntry (r : Reading) : YamlResult Reading := do
  if r.flow == 0 && !r.keyAllowed then .error .malformed
  else
    let r := if r.flow == 0 then r.openBlock .blockSequenceStart else r
    let r ← { r with keyAllowed := true }.dropKey
    .ok ((r.push .blockEntry).moveTo r.cursor.next)

def explicitKey (r : Reading) : YamlResult Reading := do
  if r.flow == 0 && !r.keyAllowed then .error .malformed
  else
    let r := if r.flow == 0 then r.openBlock .blockMappingStart else r
    let r ← { r with keyAllowed := r.flow == 0 }.dropKey
    .ok ((r.push .key).moveTo r.cursor.next)

/-- Adds the colon of a value: the key that belongs to it, if its place is remembered, is put in
there. -/
def mappingValue (r : Reading) : YamlResult Reading := do
  match r.keyPlace? with
  | some p =>
    let r := r.forgetKey.insertAt p.position .key
    let r :=
      if r.flow == 0 then
        match r.indentTo p.column with
        | some r => r.insertAt p.position .blockMappingStart
        | none => r
      else r
    .ok { (r.push .value).moveTo r.cursor.next with keyAllowed := false }
  | none =>
    if r.flow == 0 && !r.keyAllowed then .error .malformed
    else
      let r := if r.flow == 0 then r.openBlock .blockMappingStart else r
      let r ← { r with keyAllowed := r.flow == 0 }.dropKey
      .ok ((r.push .value).moveTo r.cursor.next)

def content (r : Reading) (read : Cursor → YamlResult (Token × Cursor)) : YamlResult Reading := do
  let r ← r.saveKey
  let (t, k) ← read r.cursor
  .ok { (r.push t).moveTo k with keyAllowed := false }

def block (r : Reading) (folded : Bool) : YamlResult Reading := do
  let r ← { r with keyAllowed := true }.dropKey
  let (text, k) ← blockScalar folded r.indent r.cursor
  .ok ((r.push (.scalar (.ofList text) false)).moveTo k)

def plain (r : Reading) : YamlResult Reading := do
  let r ← r.saveKey
  let p := plainScalar (r.flow != 0) (r.indent + 1) r.cursor
  .ok { (r.push (.scalar (.ofList p.text) true)).moveTo p.cursor with keyAllowed := p.newLine }

def startsPlain (inFlow : Bool) (c : Char) (after : Option Char) : Bool :=
  let isIndicator := "-?:,[]\x7b\x7d#&*!|>'\"%@\x60".toList.contains c
  (!isGap (some c) && !isIndicator) ||
    (!isGap after && (c == '-' || (!inFlow && (c == '?' || c == ':'))))

def token (r : Reading) (c : Char) : YamlResult Reading :=
  let k := r.cursor
  let inFlow := r.flow != 0
  let after := k.peekAt 1
  if c == '%' && k.column == 0 then do
    let (d, k) ← directive k
    r.marker (.directive d) k
  else if k.column == 0 && k.atMarker '-' then r.marker .documentStart (k.skip 3)
  else if k.column == 0 && k.atMarker '.' then r.marker .documentEnd (k.skip 3)
  else if c == '[' then r.openFlow .flowSequenceStart
  else if c == '\x7b' then r.openFlow .flowMappingStart
  else if c == ']' then r.closeFlow .flowSequenceEnd
  else if c == '\x7d' then r.closeFlow .flowMappingEnd
  else if c == ',' then r.flowEntry
  else if c == '-' && isGap after then r.blockEntry
  else if c == '?' && (inFlow || isGap after) then r.explicitKey
  else if c == ':' && (inFlow || isGap after) then r.mappingValue
  else if c == '*' then r.content fun k => (anchorName k).map fun n => (.alias n.1, n.2)
  else if c == '&' then r.content fun k => (anchorName k).map fun n => (.anchor n.1, n.2)
  else if c == '!' then r.content fun k => (tag k).map fun t => (.tag t.1, t.2)
  else if c == '|' && !inFlow then r.block false
  else if c == '>' && !inFlow then r.block true
  else if c == '\'' || c == '"' then
    r.content fun k => (quotedScalar c k).map fun s => (.scalar (.ofList s.1) false, s.2)
  else if startsPlain inFlow c after then r.plain
  else .error .malformed

def finish (r : Reading) : YamlResult Reading := do
  let r ← (r.unwind (-1)).dropKey
  .ok { r.push .textEnd with keyAllowed := false, keyPlaces := [], atEnd := true }

def more (r : Reading) : YamlResult Reading := do
  let r ← r.toContent.dropStale
  let r := r.unwind r.cursor.column
  match r.cursor.peek with
  | none => r.finish
  | some c => r.token c

def firstPlace? (r : Reading) : Option Nat := (r.keyPlaces.map fun p => p.2.position).min?

/-- Reads on until the next token is known. Every step takes a character or is the last one. -/
def readyWithin : Nat → Reading → YamlResult Reading
  | 0, _ => .error .malformed
  | fuel + 1, r =>
    if r.atEnd then .ok r
    else if r.tokens.size ≤ r.taken then
      match r.more with
      | .error e => .error e
      | .ok r => readyWithin fuel r
    else
      match r.dropStale with
      | .error e => .error e
      | .ok r =>
        if r.firstPlace? = some r.taken then
          match r.more with
          | .error e => .error e
          | .ok r => readyWithin fuel r
        else .ok r

/-- Reads on until the next token is known. -/
def ready (r : Reading) : YamlResult Reading :=
  if r.atEnd then .ok r else r.readyWithin (r.cursor.bound + 2)

def next (r : Reading) : Token := r.tokens.getD r.taken .textEnd

def drop (r : Reading) : Reading := { r with taken := r.taken + 1 }

end Reading

end IdentityClaims.Yaml
