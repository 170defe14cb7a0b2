import IdentityClaims.Calendar.Instant
import IdentityClaims.Text.Hex

/-!
# Kinds of scalars

What type the text of an untagged plain scalar has by the rules of YAML 1.1: null, truth values,
integers in four bases and in sixties, floats, times, the two keys with a meaning of their own, and
the signs of references, anchors and tags, which stand for nothing. Any other text is just text.
One line end may follow the text of every kind but text.
-/

namespace IdentityClaims.Yaml

inductive ScalarKind
  | null
  | truth
  | integer
  | float
  | time
  | merge
  | equals
  | indicator
  | text
  deriving DecidableEq, Repr

/-- A text without a line feed at its end. -/
def dropLineEnd (cs : List Char) : List Char :=
  if cs.getLast? == some '\n' then cs.dropLast else cs

def isDigitOrSeparator (c : Char) : Bool := c.isDigit || c == '_'

def dropSign : List Char → List Char
  | '-' :: rest => rest
  | '+' :: rest => rest
  | rest => rest

def splitColons (cs : List Char) : List (List Char) := cs.splitOnP (· == ':')

def isSixtieth : List Char → Bool
  | [c] => c.isDigit
  | [c, d] => '0' ≤ c && c ≤ '5' && d.isDigit
  | _ => false

/-- Whether a text has digits and underscores, a digit first that may be zero or not. -/
def isDigits (zeroFirst : Bool) : List Char → Bool
  | [] => false
  | c :: rest => c.isDigit && (zeroFirst || c != '0') && rest.all isDigitOrSeparator

def isInteger (cs : List Char) : Bool :=
  let body := dropSign cs
  let inBase (digits : List Char) (isDigit : Char → Bool) : Bool :=
    !digits.isEmpty && digits.all fun c => isDigit c || c == '_'
  let hasBase :=
    match body with
    | '0' :: 'b' :: digits => inBase digits fun c => c == '0' || c == '1'
    | '0' :: 'x' :: digits => inBase digits Hex.isDigit
    | '0' :: digits => digits.isEmpty || inBase digits fun c => '0' ≤ c && c ≤ '7'
    | _ => false
  let inSixties :=
    match splitColons body with
    | first :: second :: rest => isDigits false first && (second :: rest).all isSixtieth
    | _ => false
  hasBase || isDigits false body || inSixties

/-- Whether a text is the end of a float behind its fraction: nothing, or a signed exponent. -/
def isExponent : List Char → Bool
  | [] => true
  | e :: sign :: digits =>
    (e == 'e' || e == 'E') && (sign == '-' || sign == '+') && !digits.isEmpty &&
      digits.all Char.isDigit
  | _ => false

def isFloat (cs : List Char) : Bool :=
  let body := dropSign cs
  let whole := body.takeWhile isDigitOrSeparator
  let decimal :=
    match body.dropWhile isDigitOrSeparator with
    | '.' :: rest => isDigits true whole && isExponent (rest.dropWhile isDigitOrSeparator)
    | _ => false
  let fraction :=
    match cs with
    | '.' :: rest =>
      isDigits true (rest.takeWhile isDigitOrSeparator) && isExponent (rest.dropWhile isDigitOrSeparator)
    | _ => false
  let inSixties :=
    match splitColons (body.takeWhile (· != '.')), body.dropWhile (· != '.') with
    | first :: second :: rest, _ :: fraction =>
      isDigits true first && (second :: rest).all isSixtieth && fraction.all isDigitOrSeparator
    | _, _ => false
  let named :=
    [".inf", ".Inf", ".INF"].any (fun s => s.toList == body) ||
      [".nan", ".NaN", ".NAN"].any (fun s => s.toList == cs)
  decimal || fraction || inSixties || named

/-- The time of day in the text of a time, with the offset from universal time in minutes, if it is
given. -/
structure ClockText where
  hour : Nat
  minute : Nat
  second : Nat
  offset : Option Int
  deriving DecidableEq, Repr

def ClockText.moment (c : ClockText) (date : Date) : Moment where
  date := date
  hour := c.hour
  minute := c.minute
  second := c.second
  micro := 0
  offset := c.offset.map fun minutes => .ofSeconds (60 * minutes)

/-- The parts of the text of a time. `padded` says whether month and day have two digits each. -/
structure TimeText where
  date : Date
  padded : Bool
  clock : Option ClockText
  deriving DecidableEq, Repr

/-- A number of at least and at most so many digits, and what follows it. -/
def digitsBetween? (least most : Nat) (cs : List Char) : Option (Nat × Nat × List Char) :=
  let digits := (cs.take most).takeWhile Char.isDigit
  if digits.length < least then none
  else
    some (digits.foldl (fun n c => 10 * n + (c.toNat - '0'.toNat)) 0, digits.length,
      cs.drop digits.length)

def after? (c : Char) : List Char → Option (List Char)
  | d :: rest => if c == d then some rest else none
  | [] => none

def isBlankChar (c : Char) : Bool := c == ' ' || c == '\t'

def readOffset? (cs : List Char) : Option (Option Int) := do
  match cs.dropWhile isBlankChar with
  | [] => if cs.isEmpty then some none else none
  | ['Z'] => some (some 0)
  | sign :: rest =>
    if sign != '-' && sign != '+' then none
    else do
      let (hours, _, rest) ← digitsBetween? 1 2 rest
      let minutes ←
        match rest with
        | [] => some 0
        | rest => do
          let rest ← after? ':' rest
          let (minutes, _, rest) ← digitsBetween? 2 2 rest
          if rest.isEmpty then some minutes else none
      let total : Int := (60 * hours + minutes : Nat)
      some (some (if sign == '-' then -total else total))

def readClock? (cs : List Char) : Option ClockText := do
  let rest ←
    match cs with
    | 'T' :: rest => some rest
    | 't' :: rest => some rest
    | c :: rest => if isBlankChar c then some (rest.dropWhile isBlankChar) else none
    | [] => none
  let (hour, _, rest) ← digitsBetween? 1 2 rest
  let (minute, _, rest) ← digitsBetween? 2 2 (← after? ':' rest)
  let (second, _, rest) ← digitsBetween? 2 2 (← after? ':' rest)
  let rest :=
    match rest with
    | '.' :: rest => rest.dropWhile Char.isDigit
    | rest => rest
  let offset ← readOffset? rest
  some { hour, minute, second, offset }

def readTime? (cs : List Char) : Option TimeText := do
  let (year, _, rest) ← digitsBetween? 4 4 cs
  let (month, monthSize, rest) ← digitsBetween? 1 2 (← after? '-' rest)
  let (day, daySize, rest) ← digitsBetween? 1 2 (← after? '-' rest)
  let clock ←
    match rest with
    | [] => some none
    | rest => (readClock? rest).map some
  some { date := { year, month, day }, padded := monthSize == 2 && daySize == 2, clock }

def isTime (cs : List Char) : Bool := (readTime? cs).any fun t => t.padded || t.clock.isSome

namespace ScalarKind

def trueWords : List String := ["yes", "Yes", "YES", "true", "True", "TRUE", "on", "On", "ON"]

def falseWords : List String :=
  ["no", "No", "NO", "false", "False", "FALSE", "off", "Off", "OFF"]

def nullWords : List String := ["~", "null", "Null", "NULL"]

def indicators : List String := ["!", "&", "*"]

/-- The type that a text which does not end with a line end has. -/
def ofLine (s : String) : ScalarKind :=
  let cs := s.toList
  if trueWords.contains s || falseWords.contains s then .truth
  else if isFloat cs then .float
  else if isInteger cs then .integer
  else if s == "<<" then .merge
  else if nullWords.contains s then .null
  else if isTime cs then .time
  else if s == "=" then .equals
  else if indicators.contains s then .indicator
  else .text

def ofText (s : String) : ScalarKind :=
  if s.isEmpty then .null else ofLine (String.ofList (dropLineEnd s.toList))

end ScalarKind

end IdentityClaims.Yaml
