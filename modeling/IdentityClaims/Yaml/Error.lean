import IdentityClaims.Calendar.Fault
import IdentityClaims.Number.IntegerText
import IdentityClaims.Text.Quoted

/-!
# Faults of YAML texts

A text can fail to be YAML, or it can be YAML with a scalar whose text does not fit its type.
-/

namespace IdentityClaims

/-- The kinds of faults. A fault of a value says that something given from outside is wrong; the
others say what a step of the work ran into. -/
inductive FaultKind
  | value
  | type
  | key
  | index
  | attribute
  | overflow
  | recursion
  | file
  deriving DecidableEq, Repr

inductive ScalarFault
  | notInteger (text : String) (base : Nat)
  | longInteger (digits : Nat)
  | notFloat (text : String)
  | tooManySixties
  | emptyNumber
  | notTruth (word : String)
  | notTime
  | timeNotText
  | time (fault : CalendarFault)
  | noCharacter (code : Nat)
  | endless
  deriving DecidableEq, Repr

namespace ScalarFault

/-- A message shows this many characters of a text that is no integer. -/
def shownLength : Nat := 200

def codeLimit : Nat := 0x80000000

def message : ScalarFault → String
  | .notInteger text base =>
    "invalid literal for int() with base " ++ toString base ++ ": "
      ++ String.ofList ((Quoted.text text).toList.take shownLength)
  | .longInteger digits => IntegerText.tooLongMessage digits
  | .notFloat text => "could not convert string to float: " ++ Quoted.text text
  | .tooManySixties => "int too large to convert to float"
  | .emptyNumber => "string index out of range"
  | .notTruth word => Quoted.text word
  | .notTime => "'NoneType' object has no attribute 'groupdict'"
  | .timeNotText => "expected string or bytes-like object, got 'list'"
  | .time fault => fault.message
  | .noCharacter code =>
    if code < codeLimit then "chr() arg not in range(0x110000)"
    else "Python int too large to convert to C int"
  | .endless => "maximum recursion depth exceeded"

def kind : ScalarFault → FaultKind
  | .notInteger _ _ | .longInteger _ | .notFloat _ | .time _ => .value
  | .tooManySixties => .overflow
  | .emptyNumber => .index
  | .notTruth _ => .key
  | .notTime => .attribute
  | .timeNotText => .type
  | .noCharacter code => if code < codeLimit then .value else .overflow
  | .endless => .recursion

end ScalarFault

/-- Why a text gives no document. -/
inductive YamlError
  | malformed
  | scalar (fault : ScalarFault)
  deriving DecidableEq, Repr

def YamlError.kind : YamlError → FaultKind
  | .malformed => .value
  | .scalar fault => fault.kind

abbrev YamlResult (α : Type) := Except YamlError α

namespace Yaml

def orMalformed {α : Type} : Option α → YamlResult α
  | some a => .ok a
  | none => .error .malformed

end Yaml

end IdentityClaims
