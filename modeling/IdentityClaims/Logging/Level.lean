/-!
# Log levels

A level is a number with, mostly, a name. A record is worth writing when its number is at least
that of the level asked for.
-/

namespace IdentityClaims

/-- A named log level. -/
structure LogLevel where
  name : String
  number : Int
  deriving DecidableEq, Repr

namespace LogLevel

def debug : LogLevel := ⟨"DEBUG", 10⟩

def info : LogLevel := ⟨"INFO", 20⟩

def warning : LogLevel := ⟨"WARNING", 30⟩

def all : List LogLevel :=
  [⟨"TRACE", 5⟩, debug, info, ⟨"SUCCESS", 25⟩, warning, ⟨"ERROR", 40⟩, ⟨"CRITICAL", 50⟩]

def named? (name : String) : Option LogLevel := all.find? fun l => l.name = name

end LogLevel

/-- What is written to the log: a level and a message. -/
structure LogRecord where
  level : LogLevel
  message : String
  deriving DecidableEq, Repr

end IdentityClaims
