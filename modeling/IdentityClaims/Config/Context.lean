import IdentityClaims.Config.Load
import IdentityClaims.Config.Store

/-!
# The configuration in force

A thread starts with the default configuration, which is loaded when it is first needed and kept
once it is loaded. It can put another configuration in force, or open a block in which an override
is in force; leaving the block puts back what was in force before. Assigning a field changes the
configuration in force itself, for all that hold it, so an assignment to the default lasts.
-/

namespace IdentityClaims

/-- What leaving a block puts back: nothing, or what was in force, which is the configuration at a
place or else the default. -/
inductive Block
  | transparent
  | restoring (previous : Option Nat)
  deriving Repr

/-- The configurations of a process and of one of its threads: the places of the default and of
the thread's own in the store. Without a configuration of its own the thread uses the default. -/
structure Context where
  host : Host
  store : Store
  default : Option Nat
  own : Option Nat
  blocks : List Block
  deriving Repr

inductive Override
  | nothing
  | config (c : Config)
  | notConfig
  deriving Repr

inductive EnterError
  | notConfig
  | load (e : LoadError)
  | invalid (problems : List Problem)
  deriving Repr

def EnterError.message : EnterError → String
  | .notConfig => "config_override must be ConfigData, or None"
  | .load e => e.message
  | .invalid problems => Problem.summary problems

inductive MutateError
  | load (e : LoadError)
  | assign (e : AssignError)
  deriving Repr

namespace Context

def start (host : Host) : Context :=
  { host, store := .empty, default := none, own := none, blocks := [] }

def build (x : Context) (b : Blueprint) : Context × Nat :=
  ({ x with store := (x.store.build b).1 }, (x.store.build b).2)

/-- Where the default configuration is, which is loaded if it is not loaded yet. A load that fails
is not remembered. -/
def needDefault (x : Context) : Context × Logged (Except LoadError Nat) :=
  match x.default with
  | some p => (x, ⟨[], .ok p⟩)
  | none =>
    let loaded := x.host.loadDefault
    match loaded.result with
    | .ok c =>
      let (x, p) := x.build c
      ({ x with default := some p }, ⟨loaded.records, .ok p⟩)
    | .error e => (x, ⟨loaded.records, .error e⟩)

def inForce (x : Context) : Context × Logged (Except LoadError Nat) :=
  match x.own with
  | some p => (x, ⟨[], .ok p⟩)
  | none => x.needDefault

def readBeside (found : Context × Logged (Except LoadError Nat)) :
    Except LoadError (Nat × Config) :=
  found.2.result.map fun p => (p, found.1.store.read p)

def current (x : Context) : Except LoadError (Nat × Config) := readBeside x.inForce

/-- The configuration that a new thread sees: where it is, and what it is. A new thread has none of
its own. -/
def newThread (x : Context) : Except LoadError (Nat × Config) := readBeside x.needDefault

def rules (x : Context) : Context × Logged (Except LoadError Rules) :=
  (x.inForce.1, ⟨x.inForce.2.records, x.current.map fun c => c.2.rules⟩)

def openBlock (x : Context) (c : Config) : Context :=
  let (y, p) := x.build c
  { y with own := some p, blocks := .restoring x.own :: x.blocks }

/-- Opens a block. An override is laid over what the configuration in force is now; what comes of it
is built anew and put in force. -/
def enter (x : Context) : Override → Context × Except EnterError Unit
  | .nothing => ({ x with blocks := .transparent :: x.blocks }, .ok ())
  | .notConfig => (x, .error .notConfig)
  | .config override =>
    let (x, base) := x.inForce
    match base.result with
    | .error e => (x, .error (.load e))
    | .ok base =>
      match (x.store.read base).overriddenBy override with
      | .error problems => (x, .error (.invalid problems))
      | .ok c => (x.openBlock c, .ok ())

def leave (x : Context) : Context :=
  match x.blocks with
  | [] => x
  | .transparent :: blocks => { x with blocks }
  | .restoring previous :: blocks => { x with own := previous, blocks }

def replace (x : Context) (p : Nat) : Context × Except LoadError Unit :=
  let (x, base) := x.inForce
  match base.result with
  | .error e => (x, .error e)
  | .ok _ => ({ x with own := some p }, .ok ())

def mutate (x : Context) (a : Assignment) : Context × Except MutateError Unit :=
  let (x, base) := x.inForce
  match base.result with
  | .error e => (x, .error (.load e))
  | .ok p =>
    match x.store.apply p a with
    | .error e => (x, .error (.assign e))
    | .ok store => ({ x with store }, .ok ())

/-- Gives the configuration in force a section that is in store already. -/
def share (x : Context) (n : SectionName) (i : Nat) : Context × Except LoadError Unit :=
  let (x, base) := x.inForce
  match base.result with
  | .error e => (x, .error e)
  | .ok p => ({ x with store := x.store.exchange p n (.shared i) }, .ok ())

def setVariable (x : Context) (name value : String) : Context :=
  { x with host := { x.host with environment := Entries.put x.host.environment name value } }

end Context

end IdentityClaims
