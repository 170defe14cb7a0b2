import IdentityClaims.Config.Template
import IdentityClaims.Logging.Level
import IdentityClaims.Text.UpperCase

/-!
# Variables of a mode

A process runs in a mode. A variable whose name starts with the mode in upper case and an
underscore holds, in that mode, the value of the variable named by the rest.
-/

namespace IdentityClaims.Mode

def start (mode : String) : String := upperCase mode ++ "_"

def restAfter? (start text : String) : Option String :=
  if start.toList.isPrefixOf text.toList then some (String.ofList (text.toList.drop start.length))
  else none

/-- The variables of a mode with their own names and the names that they stand for. -/
def own (mode : String) (vars : Variables) : List (String × String × String) :=
  vars.filterMap fun (name, value) =>
    (restAfter? (start mode) name).map fun rest => (name, rest, value)

def view (mode : String) (vars : Variables) : Variables :=
  Entries.putAll vars ((own mode vars).map fun (_, rest, value) => (rest, value))

structure Pass where
  source : Variables
  copy : Variables
  deriving Repr

namespace Pass

def begin (vars : Variables) : Pass := { source := vars, copy := vars }

/-- Meets a variable. One of the mode's own is put into the copy. -/
def meet (mode : String) (p : Pass) (e : String × String) : Pass :=
  match restAfter? (start mode) e.1 with
  | some rest => { p with copy := Entries.put p.copy rest e.2 }
  | none => p

def run (mode : String) (p : Pass) : Pass := p.source.foldl (meet mode) p

end Pass

def records (mode : String) (vars : Variables) : List LogRecord :=
  (own mode vars).map fun (name, rest, _) => ⟨.debug, "Using " ++ name ++ " for " ++ rest⟩

end IdentityClaims.Mode
