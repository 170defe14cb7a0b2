import IdentityClaims.Text.Hex
import IdentityClaims.Text.Utf8
import IdentityClaims.Yaml.Cursor
import IdentityClaims.Yaml.Error
import IdentityClaims.Yaml.Token

/-!
# Anchors, tags and directives

The readers of what stands beside the content of a document: names of anchors, tags with their
handles, and the directives in front of a document.
-/

namespace IdentityClaims.Yaml

/-- Reads the name of an anchor or of an alias behind its indicator. -/
def anchorName (k : Cursor) : YamlResult (String × Cursor) :=
  let (name, k) := k.next.span isWordChar
  let mayFollow (c : Option Char) : Bool :=
    isGap c || (c.any fun c => "?:,]\x7d%@\x60".toList.contains c)
  if !name.isEmpty && mayFollow k.peek then .ok (.ofList name, k) else .error .malformed

def isTagChar (c : Char) : Bool := c.isAlphanum || "-;/?:@&=+$,_.!~*'()[]".toList.contains c

def escapedBytes : List Char → Option (List UInt8)
  | '%' :: a :: b :: rest =>
    match Hex.read? [a, b] with
    | some byte => (escapedBytes rest).map (byte.toUInt8 :: ·)
    | none => none
  | '%' :: _ => none
  | _ => some []

def escapedText (k : Cursor) : YamlResult (List Char × Cursor) :=
  match escapedBytes k.rest with
  | none => .error .malformed
  | some bytes =>
    match Utf8.decode bytes with
    | .ok s => .ok (s.toList, k.skip (3 * bytes.length))
    | .error _ => .error .malformed

def tagPieces : Nat → Cursor → YamlResult (List Char × Cursor)
  | 0, k => .ok ([], k)
  | fuel + 1, k =>
    let (plain, k) := k.span isTagChar
    if k.peek == some '%' then
      match escapedText k with
      | .error e => .error e
      | .ok (text, k) => (tagPieces fuel k).map fun r => (plain ++ text ++ r.1, r.2)
    else .ok (plain, k)

/-- Reads the text of a tag, which is not empty. -/
def tagText (k : Cursor) : YamlResult (String × Cursor) :=
  let starts := k.peek.any fun c => isTagChar c || c == '%'
  if starts then (tagPieces k.bound k).map fun r => (.ofList r.1, r.2)
  else .error .malformed

/-- Reads a handle: a mark alone, two marks, or a word between two marks. -/
def tagHandle (k : Cursor) : YamlResult (String × Cursor) :=
  if k.peek != some '!' then .error .malformed
  else if k.next.peek == some ' ' then .ok ("!", k.next)
  else
    let (word, k) := k.next.span isWordChar
    if k.peek == some '!' then .ok (.ofList ('!' :: word ++ ['!']), k.next)
    else .error .malformed

def tag (k : Cursor) : YamlResult (TagText × Cursor) := do
  let (t, k) ←
    if k.peekAt 1 == some '<' then do
      let (name, k) ← tagText (k.skip 2)
      if k.peek == some '>' then .ok (⟨none, name⟩, k.next) else .error .malformed
    else if isGap (k.peekAt 1) then .ok (⟨none, "!"⟩, k.next)
    else do
      let word := k.next.rest.takeWhile fun c => !(c == ' ' || isBreak c)
      let (handle, k) ← if word.contains '!' then tagHandle k else .ok ("!", k.next)
      let (name, k) ← tagText k
      .ok (⟨some handle, name⟩, k)
  if isSpaceOrEnd k.peek then .ok (t, k) else .error .malformed

def directiveNumber (k : Cursor) : YamlResult (Nat × Cursor) :=
  let (digits, k) := k.span Char.isDigit
  if digits.isEmpty then .error .malformed
  else if IntegerText.maxLength < digits.length then .error (.scalar (.longInteger digits.length))
  else .ok (digitsValue digits, k)

def directiveVersion (k : Cursor) : YamlResult (Directive × Cursor) := do
  let (major, k) ← directiveNumber k.skipSpaces
  if k.peek != some '.' then .error .malformed
  else do
    let (_, k) ← directiveNumber k.next
    if isSpaceOrEnd k.peek then .ok (.version major, k) else .error .malformed

def directiveHandle (k : Cursor) : YamlResult (Directive × Cursor) := do
  let (handle, k) ← tagHandle k.skipSpaces
  if k.peek != some ' ' then .error .malformed
  else do
    let (expansion, k) ← tagText k.skipSpaces
    if isSpaceOrEnd k.peek then .ok (.tagHandle handle expansion, k) else .error .malformed

def directive (k : Cursor) : YamlResult (Directive × Cursor) := do
  let (name, k) := k.next.span isWordChar
  if name.isEmpty || !isSpaceOrEnd k.peek then .error .malformed
  else do
    let (d, k) ←
      if name == "YAML".toList then directiveVersion k
      else if name == "TAG".toList then directiveHandle k
      else .ok (.unknown, k.skipLine)
    let k ← orMalformed k.endLine?
    .ok (d, k)

end IdentityClaims.Yaml
