import IdentityClaims.Config.EnvFile
import IdentityClaims.Files.Directory
import IdentityClaims.Schema.Record
import IdentityClaims.Text.LowerCase

/-!
# Settings

What a process is told by its variables: the mode it runs in, a log level, and where its
configuration is. The names of these variables match in any case, a variable that is empty is not
there, and a variable of the process goes before one in the file of variables.
-/

namespace IdentityClaims

/-- What a process finds when it starts: its variables and the files of its directory. -/
structure Host where
  environment : Variables
  files : Directory
  deriving Repr

structure Settings where
  mode : String
  logLevel : Option String
  configFile : Option String
  deriving DecidableEq, Repr

namespace Settings

def start : String := "oidc_claims_"

def fileName : String := ".env"

def type : RecordType where
  name := "EnvironmentVariables"
  members := [
    .plain "environment" (.literal ["development", "production", "test"])
      (some (.text "development")),
    .nullable "log_level" "log_level" .text,
    .nullable "config_file" "config_file" .text]
  extras := .dropped
  byName := false

/-- The value of a setting among names with or without values: that of the last one with the name
in any case, where those with an empty value do not count. A name without a value hides the values
before it. -/
def find? (vars : Entries String (Option String)) (field : String) : Option String :=
  (vars.reverse.find? fun e => lowerCase e.1 = start ++ field && e.2 != some "").bind Prod.snd

def fileVariables (host : Host) : Entries String (Option String) :=
  match Entries.get? host.files fileName with
  | some text => EnvFile.read host.environment text
  | none => []

def found (host : Host) : List (Data × Data) :=
  let process : Entries String (Option String) := host.environment.map fun e => (e.1, some e.2)
  let file := fileVariables host
  type.members.filterMap fun m =>
    ((find? process m.name).or (find? file m.name)).map fun v => (.text m.name, .text v)

def read (host : Host) : Checked Settings :=
  (type.checkEntries .lenient (found host)).map fun r =>
    let value (name : String) : Option String := (r.get? name).bind Data.text?
    { mode := (value "environment").getD ""
      logLevel := value "log_level"
      configFile := value "config_file" }

end Settings

end IdentityClaims
