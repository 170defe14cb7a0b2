import IdentityClaims.Config.Basic
import IdentityClaims.Config.Mode
import IdentityClaims.Config.Settings
import IdentityClaims.Yaml.Load

/-!
# Loading a configuration

A configuration is loaded from a template: placeholders are replaced by variables as the mode sees
them, the text is read as YAML, and its `config` entry is checked. The settings of the process say
which file the template is in, and their log level goes before that of the file. Without a file the
configuration has its defaults.
-/

namespace IdentityClaims

/-- Why no configuration is loaded. -/
inductive LoadError
  | file (e : OpenError)
  | settings (problems : List Problem)
  | template (e : TemplateError)
  | yaml (e : YamlError)
  | notMap
  | sectionsNotMap (kind : String)
  | keyNotText
  | invalid (problems : List Problem)
  deriving Repr

/-- A section that is no map and a key that is no text are found out when the sections are handed
over by their keys, before anything is checked. -/
def LoadError.kind : LoadError → FaultKind
  | .file .nullCharacter => .value
  | .file _ => .file
  | .settings _ | .template _ | .notMap | .invalid _ => .value
  | .yaml e => e.kind
  | .sectionsNotMap _ | .keyNotText => .type

def LoadError.message : LoadError → String
  | .file e => e.message
  | .settings problems => Problem.summary problems
  | .template e => e.message
  | .yaml .malformed => "Error parsing YAML"
  | .yaml (.scalar fault) => fault.message
  | .notMap => "Failed to parse YAML: expected a mapping at the top level"
  | .sectionsNotMap kind =>
    "oidc_claims.runtime.config.config_data.ConfigData() argument after ** must be a mapping, not "
      ++ kind
  | .keyNotText => "keywords must be strings"
  | .invalid _ => "Invalid configuration"

structure Logged (α : Type) where
  records : List LogRecord
  result : α

namespace Config

def rootKey : String := "config"

/-- Nothing in a configuration lies deeper in its document than this: the configuration itself, its
sections, their fields, and what these hold. -/
def documentDepth : Nat := 4

/-- The configuration that the value of the root key gives; an empty value gives the defaults. -/
def ofRoot (root : Data) : Except LoadError Config :=
  if root.isTruthy then
    match root with
    | .map entries =>
      if entries.all fun e => e.1.text?.isSome then (ofEntries entries).mapError .invalid
      else .error .keyNotText
    | d => .error (.sectionsNotMap d.kind)
  else .ok defaults

def ofDocument : Data → Except LoadError Config
  | .null => .ok defaults
  | .map entries => ofRoot ((Data.valueOf? entries rootKey).getD .null)
  | _ => .error .notMap

def withLogLevel (c : Config) : Option String → Config
  | none => c
  | some level =>
    match c.assignField .logging "level" (.text level) with
    | .ok c => c
    | .error _ => c

/-- The configuration that a text without placeholders gives for given settings. -/
def ofText (settings : Settings) (text : String) : Except LoadError Config :=
  match Yaml.load documentDepth text with
  | .error e => .error (.yaml e)
  | .ok document => (ofDocument document).map fun c => c.withLogLevel settings.logLevel

def ofTemplate (settings : Settings) (vars : Variables) (text : String) :
    Except LoadError Config :=
  match Template.substitute (Mode.view settings.mode vars) text with
  | .error e => .error (.template e)
  | .ok text => ofText settings text

end Config

namespace Host

def modeRecord (mode : String) : LogRecord :=
  ⟨.info, "Loading configuration for environment: " ++ mode⟩

def defaultsRecord : LogRecord :=
  ⟨.debug, "No configuration file configured, using defaults"⟩

def loadText (host : Host) (text : String) : Logged (Except LoadError Config) :=
  match Settings.read host with
  | .error problems => ⟨[], .error (.settings problems)⟩
  | .ok settings =>
    ⟨modeRecord settings.mode :: Mode.records settings.mode host.environment,
      Config.ofTemplate settings host.environment (.ofList (unifyLineEnds text.toList))⟩

def loadFile (host : Host) (path : String) : Logged (Except LoadError Config) :=
  match host.files.read (.ofText path) with
  | .error e => ⟨[], .error (.file e)⟩
  | .ok text => host.loadText text

def loadDefault (host : Host) : Logged (Except LoadError Config) :=
  match Settings.read host with
  | .error problems => ⟨[], .error (.settings problems)⟩
  | .ok settings =>
    match settings.configFile with
    | none => ⟨[defaultsRecord], .ok (Config.defaults.withLogLevel settings.logLevel)⟩
    | some path => host.loadFile path

end Host

def Config.standardTemplate : String :=
  "config:\n  codec:\n    # truncate | floor | round\n"
    ++ "    timestamp_rounding: $\x7bOIDC_CLAIMS_TIMESTAMP_ROUNDING:-truncate\x7d\n"
    ++ "    # none | structural\n"
    ++ "    language_tag_validation: $\x7bOIDC_CLAIMS_LANGUAGE_TAG_VALIDATION:-none\x7d\n"
    ++ "    strict_types: true\n    reject_extension_collisions: true\n  logging:\n"
    ++ "    level: $\x7bLOG_LEVEL:-INFO\x7d\n    format: plain\n"

end IdentityClaims
