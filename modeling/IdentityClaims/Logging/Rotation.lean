import IdentityClaims.Data.Display
import IdentityClaims.Number.Numeral

/-!
# Rotation of a log file

A log file is rotated at a size in megabytes. Of the files that were rotated away a number is kept,
or those of the last span of time. A size is written as a number before the unit, a span of time as
one or more numbers with a unit each, with blanks or commas between them.

The letter `e` belongs to numbers as well as to units, so a text has to be tried in every way in
which it could be a span; `SpanPlace` holds the places that a reader of the text could be at.
-/

namespace IdentityClaims

inductive RotationError
  | notSize (number : String)
  | notRotation (text : String)
  | notSpan (number : String)
  | notUnit (unit : String)
  | notRetention (text : String)
  | notAmount (kind : String)
  deriving DecidableEq, Repr

def RotationError.message : RotationError → String
  | .notSize number => "Invalid float value while parsing size: '" ++ number ++ "'"
  | .notRotation text => "Cannot parse rotation from: '" ++ text ++ "'"
  | .notSpan number => "Invalid float value while parsing duration: '" ++ number ++ "'"
  | .notUnit unit => "Invalid unit value while parsing duration: '" ++ unit ++ "'"
  | .notRetention text => "Cannot parse retention from: '" ++ text ++ "'"
  | .notAmount kind => "Cannot infer retention for objects of type: '" ++ kind ++ "'"

namespace Rotation

def isNumeral (c : Char) : Bool :=
  c == 'e' || c == 'E' || c == '+' || c == '-' || c == '.' || (DecimalDigit.value? c).isSome

def isDivider (c : Char) : Bool := isSpace c || c == ','

inductive SpanPlace
  | start
  | number
  | gap
  | unit
  | divider
  deriving DecidableEq, Repr

namespace SpanPlace

def after (c : Char) : SpanPlace → List SpanPlace
  | .start => if isNumeral c then [.number] else []
  | .number =>
    (if isNumeral c then [.number] else []) ++ (if isSpace c then [.gap] else [])
      ++ (if c.isAlpha then [.unit] else [])
  | .gap => (if isSpace c then [.gap] else []) ++ (if c.isAlpha then [.unit] else [])
  | .unit =>
    (if c.isAlpha then [.unit] else []) ++ (if isDivider c then [.divider] else [])
      ++ (if isNumeral c then [.number] else [])
  | .divider => (if isDivider c then [.divider] else []) ++ (if isNumeral c then [.number] else [])

def isFinal : SpanPlace → Bool
  | .unit | .divider => true
  | _ => false

end SpanPlace

def isSpan (cs : List Char) : Bool :=
  (cs.foldl (fun places c => (places.flatMap (SpanPlace.after c)).eraseDups) [.start]).any
    SpanPlace.isFinal

/-- A number and its unit at the start of a text, with the rest of the text. The number takes as
many characters as leave a unit. -/
def leadingPart? (cs : List Char) : Option (List Char × List Char × List Char) :=
  let longest := (cs.takeWhile isNumeral).length
  (List.range longest).reverse.findSome? fun n =>
    let rest := (cs.drop (n + 1)).dropWhile isSpace
    let unit := rest.takeWhile Char.isAlpha
    if unit.isEmpty then none else some (cs.take (n + 1), unit, rest.drop unit.length)

/-- The numbers of a span with their units. The fuel is at least the length of the text. -/
def spanParts : Nat → List Char → List (List Char × List Char)
  | 0, _ => []
  | _, [] => []
  | fuel + 1, c :: cs =>
    match leadingPart? (c :: cs) with
    | some (number, unit, rest) => (number, unit) :: spanParts fuel rest
    | none => spanParts fuel cs

def units : List String :=
  ["y", "year", "years", "month", "months", "w", "week", "weeks", "d", "day", "days", "h", "hour",
    "hours", "min", "mins", "minute", "minutes", "s", "sec", "secs", "second", "seconds", "ms",
    "millisecond", "milliseconds", "us", "microsecond", "microseconds"]

def partFault? (number unit : List Char) : Option RotationError :=
  if (Numeral.float? number).isNone then some (.notSpan (String.ofList number))
  else if units.contains (String.ofList (unit.map Char.toLower)) then none
  else some (.notUnit (String.ofList unit))

def spanFault? (cs : List Char) : Option RotationError :=
  (spanParts cs.length cs).findSome? fun part => partFault? part.1 part.2

/-- A text without the space at its two ends. -/
def trimSpace (cs : List Char) : List Char :=
  ((cs.dropWhile isSpace).reverse.dropWhile isSpace).reverse

def textFault? (text : String) : Option RotationError :=
  let cs := trimSpace text.toList
  let number := cs.takeWhile isNumeral
  let unit := (cs.drop number.length).dropWhile isSpace
  if !number.isEmpty && unit == ['M', 'B'] then
    if (Numeral.float? number).isNone then some (.notSize (String.ofList number)) else none
  else if isSpan cs then spanFault? cs
  else some (.notRotation text)

/-- What is wrong with a value for the megabytes at which a file is rotated. -/
def sizeFault? (d : Data) : Option RotationError :=
  textFault? (d.text?.getD d.display ++ " MB")

/-- What is wrong with a value for the files that are kept: a number of them, a span of time, or
all. -/
def retentionFault? : Data → Option RotationError
  | .null | .int _ | .bool _ => none
  | .text s =>
    let cs := trimSpace s.toList
    if isSpan cs then spanFault? cs else some (.notRetention s)
  | d => some (.notAmount d.kind)

def fault? (size retention : Data) : Option RotationError :=
  (sizeFault? size).or (retentionFault? retention)

end Rotation

end IdentityClaims
