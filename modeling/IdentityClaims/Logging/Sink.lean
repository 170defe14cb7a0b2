import IdentityClaims.Config.Section
import IdentityClaims.Files.Pathname
import IdentityClaims.Logging.Level
import IdentityClaims.Logging.Rotation

/-!
# Sinks

Logging is set up with a level and perhaps a file. Messages come in at a named or a numbered level,
from this library or from a named source, and go out on the error stream and to the file if their
level is high enough. A message of a named source comes with a number, which stands for the named
level of the same number if the source's five levels have it.
-/

namespace IdentityClaims

inductive LogMessage
  | own (level : Data) (message : String)
  | sourced (source : String) (level : Data) (message : String)
  deriving Repr

structure SinkRecord where
  level : String
  number : Int
  message : String
  source : Option String
  deriving DecidableEq, Repr

structure Sinks where
  threshold : Int
  file : Option Pathname
  asJson : Bool
  deriving DecidableEq, Repr

inductive LevelError
  | unknown (name : String)
  | negative (number : Int)
  | notLevel (kind : String)
  | notInteger
  deriving DecidableEq, Repr

def LevelError.message : LevelError → String
  | .unknown name => "Level '" ++ name ++ "' does not exist"
  | .negative number =>
    "Invalid level value, it should be a positive integer, not: " ++ toString number
  | .notLevel kind => "Invalid level, it should be an integer or a string, not: '" ++ kind ++ "'"
  | .notInteger => "level must be an integer"

def LogLevel.numberOf : Data → Except LevelError Int
  | .text name =>
    match LogLevel.named? name with
    | some l => .ok l.number
    | none => .error (.unknown name)
  | .int n => if n < 0 then .error (.negative n) else .ok n
  | .bool b => .ok (if b then 1 else 0)
  | d => .error (.notLevel d.kind)

def LogLevel.numberName (n : Int) : String := "Level " ++ toString n

def LogLevel.shared : List LogLevel :=
  LogLevel.all.filter fun l => ["DEBUG", "INFO", "WARNING", "ERROR", "CRITICAL"].contains l.name

inductive SetupError
  | noAttribute (kind field : String)
  | level (e : LevelError)
  | notPath (kind : String)
  | rotation (e : RotationError)
  deriving DecidableEq, Repr

def SetupError.message : SetupError → String
  | .noAttribute kind field => "'" ++ kind ++ "' object has no attribute '" ++ field ++ "'"
  | .level e => e.message
  | .notPath "bytes" =>
    "argument should be a str object or an os.PathLike object returning str, not <class 'bytes'>"
  | .notPath kind => "expected str, bytes or os.PathLike object, not " ++ kind
  | .rotation e => e.message

namespace Sinks

/-- The file that a value names: none if the value does not count as true. -/
def fileOf (d : Data) : Except SetupError (Option Pathname) :=
  if d.isTruthy then
    match d with
    | .text path => .ok (some (.ofText path))
    | d => .error (.notPath d.kind)
  else .ok none

/-- The first field that data in place of a section turns out not to have. Of these fields a text
has an attribute of the name `format`. -/
def absentField : Data → String
  | .text _ => "level"
  | _ => "format"

def rotationFault? (file : Option Pathname) (size retention : Data) : Option RotationError :=
  file.bind fun _ => Rotation.fault? size retention

/-- The sinks that a section on logging asks for. The level is looked at before the file, and the
file before its rotation. -/
def ofSection : SectionValue → Except SetupError Sinks
  | .other d => .error (.noAttribute d.kind (absentField d))
  | .fields values _ =>
    let value (field : String) : Data := (Entries.get? values field).getD .null
    match LogLevel.numberOf (value "level") with
    | .error e => .error (.level e)
    | .ok threshold =>
      match fileOf (value "file") with
      | .error e => .error e
      | .ok file =>
        match rotationFault? file (value "max_size_mb") (value "backup_count") with
        | some e => .error (.rotation e)
        | none => .ok { threshold, file, asJson := (value "format").text? = some "json" }

end Sinks

namespace LogMessage

/-- The name of a source; the source without a name is the one above all others. -/
def sourceName (source : String) : String := if source.isEmpty then "root" else source

def ownRecord (level : Data) (message : String) : Except LevelError SinkRecord :=
  (LogLevel.numberOf level).map fun n => ⟨level.text?.getD (LogLevel.numberName n), n, message, none⟩

/-- The record of a source's message, which has none at level zero or below. -/
def sourceRecord? (source : String) (level : Int) (message : String) : Option SinkRecord :=
  if level ≤ 0 then none
  else
    let name :=
      match LogLevel.shared.find? fun l => l.number = level with
      | some l => l.name
      | none => LogLevel.numberName level
    some ⟨name, level, message, some (sourceName source)⟩

def record? : LogMessage → Except LevelError (Option SinkRecord)
  | .own level message => (ownRecord level message).map some
  | .sourced source (.int n) message => .ok (sourceRecord? source n message)
  | .sourced source (.bool b) message => .ok (sourceRecord? source (if b then 1 else 0) message)
  | .sourced _ _ _ => .error .notInteger

def records : List LogMessage → Except LevelError (List SinkRecord)
  | [] => .ok []
  | m :: ms =>
    match m.record? with
    | .error e => .error e
    | .ok r => (records ms).map (r.toList ++ ·)

end LogMessage

def Sinks.received (s : Sinks) (records : List SinkRecord) : List SinkRecord :=
  records.filter fun r => s.threshold ≤ r.number

end IdentityClaims
