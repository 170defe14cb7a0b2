import IdentityClaims.Config.Load
import IdentityClaims.Proofs.Config.ModeView

/-!
# What a configuration takes from variables

A template is filled from the variables that its placeholders name, and from the mode's own variables
for them. The configuration that is loaded depends on these and on the settings, and on nothing else
in the process. Main statement: `load_depends_on_named`.
-/

namespace IdentityClaims

/-! ## One placeholder -/

namespace Placeholder

variable {vars other : Variables} {p : Placeholder}

def whenUnset : Placeholder → Except TemplateError String
  | .withDefault _ default => .ok default
  | .withMessage name message => .error (.notSetBecause name message)
  | .required name => .error (.notSet name)

theorem resolve_eq (vars : Variables) (p : Placeholder) :
    p.resolve vars = ((Entries.get? vars p.name).map .ok).getD p.whenUnset := by
  cases p with
  | withDefault name default =>
      rw [resolve, Placeholder.name]
      cases Entries.get? vars name <;> rfl
  | withMessage name message =>
      rw [resolve, Placeholder.name]
      cases Entries.get? vars name <;> rfl
  | required name =>
      rw [resolve, Placeholder.name]
      cases Entries.get? vars name <;> rfl

theorem resolve_congr (h : Entries.get? vars p.name = Entries.get? other p.name) :
    p.resolve vars = p.resolve other := by
  rw [resolve_eq, resolve_eq, h]

def Unset (mode : String) (vars : Variables) (name : String) : Prop :=
  Entries.get? vars (Mode.start mode ++ name) = none ∧ Entries.get? vars name = none

/-- What a placeholder stands for in a mode: the value of the mode's own variable if it is set, else
that of the variable, else the default or an error. -/
inductive StandsFor (mode : String) (vars : Variables) :
    Placeholder → Except TemplateError String → Prop
  | own {p : Placeholder} {value : String}
      (set : Entries.get? vars (Mode.start mode ++ p.name) = some value) :
      StandsFor mode vars p (.ok value)
  | plain {p : Placeholder} {value : String}
      (unset : Entries.get? vars (Mode.start mode ++ p.name) = none)
      (set : Entries.get? vars p.name = some value) : StandsFor mode vars p (.ok value)
  | default {name default : String} (unset : Unset mode vars name) :
      StandsFor mode vars (.withDefault name default) (.ok default)
  | message {name message : String} (unset : Unset mode vars name) :
      StandsFor mode vars (.withMessage name message) (.error (.notSetBecause name message))
  | required {name : String} (unset : Unset mode vars name) :
      StandsFor mode vars (.required name) (.error (.notSet name))

/-- A placeholder stands for what it is resolved to in the mode's view of the variables. -/
theorem standsFor_resolve (h : (Entries.keys vars).Nodup) (mode : String) (p : Placeholder) :
    p.StandsFor mode vars (p.resolve (Mode.view mode vars)) := by
  rw [resolve_eq, Mode.get?_view h]
  cases hown : Entries.get? vars (Mode.start mode ++ p.name) with
  | some value => exact .own hown
  | none =>
      cases hplain : Entries.get? vars p.name with
      | some value => exact .plain hown hplain
      | none =>
          cases p with
          | withDefault name default => exact .default ⟨hown, hplain⟩
          | withMessage name message => exact .message ⟨hown, hplain⟩
          | required name => exact .required ⟨hown, hplain⟩

end Placeholder

/-! ## A template -/

namespace Template

variable {vars other : Variables} {mode : String}

def names : List TemplatePart → List String
  | [] => []
  | .literal _ :: ps => names ps
  | .placeholder body :: ps => (Placeholder.ofBody body).name :: names ps

/-- What the pieces of a template are filled to: its text with what each placeholder stands for, or
the error of the first placeholder that stands for one. -/
inductive Fills (mode : String) (vars : Variables) :
    List TemplatePart → Except TemplateError (List Char) → Prop
  | nil : Fills mode vars [] (.ok [])
  | literal {c : Char} {ps : List TemplatePart} {r : Except TemplateError (List Char)}
      (rest : Fills mode vars ps r) : Fills mode vars (.literal c :: ps) (r.map (c :: ·))
  | value {body : List Char} {value : String} {ps : List TemplatePart}
      {r : Except TemplateError (List Char)}
      (here : (Placeholder.ofBody body).StandsFor mode vars (.ok value))
      (rest : Fills mode vars ps r) :
      Fills mode vars (.placeholder body :: ps) (r.map (value.toList ++ ·))
  | error {body : List Char} {e : TemplateError} {ps : List TemplatePart}
      (here : (Placeholder.ofBody body).StandsFor mode vars (.error e)) :
      Fills mode vars (.placeholder body :: ps) (.error e)

theorem render_congr {ps : List TemplatePart}
    (h : ∀ name ∈ names ps, Entries.get? vars name = Entries.get? other name) :
    render vars ps = render other ps := by
  induction ps with
  | nil => rfl
  | cons p ps ih =>
      cases p with
      | literal c => rw [render, render, ih h]
      | placeholder body =>
          have hhere : (Placeholder.ofBody body).resolve vars =
              (Placeholder.ofBody body).resolve other :=
            Placeholder.resolve_congr (h _ List.mem_cons_self)
          rw [render, render, hhere, ih fun name hname => h name (List.mem_cons_of_mem _ hname)]

theorem fills_render (h : (Entries.keys vars).Nodup) (mode : String) (ps : List TemplatePart) :
    Fills mode vars ps (render (Mode.view mode vars) ps) := by
  induction ps with
  | nil => exact .nil
  | cons p ps ih =>
      cases p with
      | literal c => exact .literal ih
      | placeholder body =>
          have hhere := Placeholder.standsFor_resolve h mode (.ofBody body)
          rw [render]
          cases hr : (Placeholder.ofBody body).resolve (Mode.view mode vars) with
          | error e => exact .error (hr ▸ hhere)
          | ok value => exact .value (hr ▸ hhere) ih

/-- Variables agree, for a mode, on a name: on the variable and on the mode's own variable for it. -/
structure Agree (mode : String) (vars other : Variables) (name : String) : Prop where
  plain : Entries.get? vars name = Entries.get? other name
  own : Entries.get? vars (Mode.start mode ++ name) = Entries.get? other (Mode.start mode ++ name)

theorem Agree.get?_view {name : String} (h : Agree mode vars other name)
    (hvars : (Entries.keys vars).Nodup) (hother : (Entries.keys other).Nodup) :
    Entries.get? (Mode.view mode vars) name = Entries.get? (Mode.view mode other) name := by
  rw [Mode.get?_view hvars, Mode.get?_view hother, h.plain, h.own]

def ofFile (text : String) : List TemplatePart := parts (unifyLineEnds text.toList)

end Template

/-! ## Loading -/

def Config.ofFilled (settings : Settings) :
    Except TemplateError (List Char) → Except LoadError Config
  | .error e => .error (.template e)
  | .ok text => Config.ofText settings (.ofList text)

namespace Host

variable {host other : Host} {path text : String} {settings : Settings}

theorem loadFile_of_read (hfile : host.files.read (.ofText path) = .ok text) :
    host.loadFile path = host.loadText text := by
  delta loadFile
  rw [hfile]

theorem loadText_eq (text : String) (hsettings : Settings.read host = .ok settings) :
    (host.loadText text).result = Config.ofFilled settings
      (Template.render (Mode.view settings.mode host.environment) (Template.ofFile text)) := by
  delta loadText
  rw [hsettings]
  simp only [Config.ofTemplate, Template.substitute, String.toList_ofList, Template.ofFile]
  cases Template.render (Mode.view settings.mode host.environment)
    (Template.parts (unifyLineEnds text.toList)) <;> rfl

theorem loadText_of_no_settings {problems : List Problem} (text : String)
    (hsettings : Settings.read host = .error problems) :
    (host.loadText text).result = .error (.settings problems) := by
  delta loadText
  rw [hsettings]

end Host

/-- Two processes that have the same settings load the same configuration from a template, or fail
with the same error, if their variables agree on each name in a placeholder and on the mode's own
variable for it. What is loaded is the configuration of the template filled in the mode: a
placeholder stands for the mode's own variable, else for the variable, else for its default or its
error. -/
theorem load_depends_on_named (host other : Host) (path text : String)
    (hfile : host.files.read (.ofText path) = .ok text)
    (hother : other.files.read (.ofText path) = .ok text)
    (hkeys : (Entries.keys host.environment).Nodup)
    (hkeys' : (Entries.keys other.environment).Nodup)
    (hsettings : Settings.read host = Settings.read other)
    (hagree : ∀ settings, Settings.read host = .ok settings →
      ∀ name ∈ Template.names (Template.ofFile text),
        Template.Agree settings.mode host.environment other.environment name) :
    (host.loadFile path).result = (other.loadFile path).result ∧
      ∀ settings, Settings.read host = .ok settings →
        ∃ filled, Template.Fills settings.mode host.environment (Template.ofFile text) filled ∧
          (host.loadFile path).result = Config.ofFilled settings filled := by
  rw [Host.loadFile_of_read hfile, Host.loadFile_of_read hother]
  cases hread : Settings.read host with
  | error problems =>
      rw [Host.loadText_of_no_settings text hread,
        Host.loadText_of_no_settings text (hsettings ▸ hread)]
      exact ⟨rfl, fun settings h => by cases h⟩
  | ok settings =>
      have hrender := Template.render_congr fun name hname =>
        (hagree settings hread name hname).get?_view hkeys hkeys'
      rw [Host.loadText_eq text hread, Host.loadText_eq text (hsettings ▸ hread), hrender]
      refine ⟨rfl, fun settings' h => ?_⟩
      obtain rfl := Except.ok.inj h
      exact ⟨_, Template.fills_render hkeys _ _, by rw [hrender]⟩

def levelTemplate : String := "config:\n  logging:\n    level: $\x7bLEVEL:-INFO\x7d\n"

def bareHost : Host where
  environment :=
    [("OIDC_CLAIMS_ENVIRONMENT", "test"), ("LEVEL", "ERROR"), ("TEST_LEVEL", "DEBUG")]
  files := [("config.yaml", levelTemplate)]

/-- A process in the test mode that has variables of its own, one of which starts with the mode
twice. -/
def busyHost : Host where
  environment :=
    [("TEST_LEVEL", "DEBUG"), ("TEST_TEST_LEVEL", "WARN"), ("oidc_claims_environment", "test"),
      ("PATH", "$\x7bLEVEL\x7d"), ("LEVEL", "ERROR")]
  files := [("config.yaml", levelTemplate)]

theorem load_depends_on_named_level :
    ∃ c, (bareHost.loadFile "config.yaml").result = .ok c ∧
      (busyHost.loadFile "config.yaml").result = .ok c ∧
      (c.logging.get? "level").bind Data.text? = some "DEBUG" := by
  have hbare : bareHost.files.read (.ofText "config.yaml") = .ok levelTemplate := by decide +kernel
  have hbusy : busyHost.files.read (.ofText "config.yaml") = .ok levelTemplate := by decide +kernel
  have hsettings : Settings.read bareHost = .ok ⟨"test", none, none⟩ := by decide +kernel
  have hsettings' : Settings.read busyHost = .ok ⟨"test", none, none⟩ := by decide +kernel
  have hnames : Template.names (Template.ofFile levelTemplate) = ["LEVEL"] := by decide +kernel
  have hagree : ∀ settings, Settings.read bareHost = .ok settings →
      ∀ name ∈ Template.names (Template.ofFile levelTemplate),
        Template.Agree settings.mode bareHost.environment busyHost.environment name := by
    intro settings h name hname
    rw [hsettings, Except.ok.injEq] at h
    rw [hnames, List.mem_singleton] at hname
    subst h hname
    exact ⟨by decide +kernel, by decide +kernel⟩
  obtain ⟨hsame, -⟩ := load_depends_on_named bareHost busyHost "config.yaml" levelTemplate hbare
    hbusy (by decide) (by decide) (hsettings.trans hsettings'.symm) hagree
  have hfilled : Template.render (Mode.view "test" bareHost.environment)
      (Template.ofFile levelTemplate) = .ok "config:\n  logging:\n    level: DEBUG\n".toList := by
    decide +kernel
  have hlevel : ((Config.ofFilled ⟨"test", none, none⟩
      (.ok "config:\n  logging:\n    level: DEBUG\n".toList)).toOption.bind fun c =>
        (c.logging.get? "level").bind Data.text?) = some "DEBUG" := by
    decide +kernel
  have hresult := Host.loadText_eq levelTemplate hsettings
  rw [hfilled, ← Host.loadFile_of_read hbare] at hresult
  rw [← hresult] at hlevel
  cases hc : (bareHost.loadFile "config.yaml").result with
  | error e =>
      rw [hc] at hlevel
      cases hlevel
  | ok c =>
      rw [hc] at hlevel
      exact ⟨c, rfl, hsame.symm.trans hc, hlevel⟩

end IdentityClaims
