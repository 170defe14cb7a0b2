import IdentityClaims.Proofs.Config.Placeholders

/-!
# How loading a configuration fails

A file that holds no configuration is told as a wrong value, whatever is wrong: the settings, a
variable that is not set, the YAML text, the sections or their fields. Two things come through
otherwise. A scalar whose text does not fit the type that its tag gives it runs into a fault of its
own while the document is made, and what stands under the root key is taken apart by its keys before
anything is checked, so it has to be empty or a map whose keys are texts. Main statement:
`Host.loadFile_escapes`.
-/

namespace IdentityClaims

/-! ## Documents -/

namespace Config

variable {document root : Data} {e : LoadError}

/-- What stands under the root key of a document can not be taken apart by its keys. The error says
why. -/
inductive Misplaced : Data → LoadError → Prop
  | notMap {entries : List (Data × Data)} {root : Data}
      (hroot : Data.valueOf? entries rootKey = some root) (hfull : root.isTruthy = true)
      (hmap : ∀ es, root ≠ .map es) : Misplaced (.map entries) (.sectionsNotMap root.kind)
  | keyNotText {entries es : List (Data × Data)}
      (hroot : Data.valueOf? entries rootKey = some (.map es))
      (hkey : ∃ e ∈ es, e.1.text? = none) : Misplaced (.map entries) .keyNotText

theorem kind_of_misplaced (h : Misplaced document e) : e.kind = .type := by
  cases h <;> rfl

theorem ofRoot_map (es : List (Data × Data)) :
    ofRoot (.map es) =
      if es.all fun e => e.1.text?.isSome then (ofEntries es).mapError .invalid
      else .error .keyNotText := by
  cases es with
  | nil => rfl
  | cons e es => rfl

theorem ofRoot_of_empty (hempty : root.isTruthy = false) : ofRoot root = .ok defaults := by
  rw [ofRoot.eq_def, hempty]
  rfl

theorem ofRoot_of_not_map (hfull : root.isTruthy = true) (hmap : ∀ es, root ≠ .map es) :
    ofRoot root = .error (.sectionsNotMap root.kind) := by
  rw [ofRoot.eq_def, if_pos hfull]
  cases root with
  | map es => exact absurd rfl (hmap es)
  | _ => rfl

theorem not_all_text_iff {es : List (Data × Data)} :
    ¬ (es.all fun e => e.1.text?.isSome) = true ↔ ∃ e ∈ es, e.1.text? = none := by
  simp

theorem kind_of_ofEntries {es : List (Data × Data)}
    (h : (ofEntries es).mapError .invalid = .error e) : e.kind = .value := by
  cases hcheck : ofEntries es with
  | ok c =>
    rw [hcheck] at h
    cases h
  | error problems =>
    rw [hcheck] at h
    exact Except.error.inj h ▸ rfl

theorem misplaced_of_ofRoot {entries : List (Data × Data)}
    (hroot : Data.valueOf? entries rootKey = some root) (h : ofRoot root = .error e)
    (hkind : e.kind ≠ .value) : Misplaced (.map entries) e := by
  by_cases hmap : ∃ es, root = .map es
  · obtain ⟨es, rfl⟩ := hmap
    rw [ofRoot_map] at h
    split at h
    case isTrue => exact absurd (kind_of_ofEntries h) hkind
    case isFalse hkeys => exact Except.error.inj h ▸ .keyNotText hroot (not_all_text_iff.1 hkeys)
  · push Not at hmap
    cases hfull : root.isTruthy with
    | true =>
      rw [ofRoot_of_not_map hfull hmap] at h
      exact Except.error.inj h ▸ .notMap hroot hfull hmap
    | false =>
      rw [ofRoot_of_empty hfull] at h
      cases h

/-- A document fails with something else than a wrong value exactly if what stands under its root
key can not be taken apart. -/
theorem ofDocument_eq_error_iff :
    ofDocument document = .error e ∧ e.kind ≠ .value ↔ Misplaced document e := by
  constructor
  · rintro ⟨h, hkind⟩
    cases document with
    | null => cases h
    | map entries =>
      rw [ofDocument] at h
      cases hroot : Data.valueOf? entries rootKey with
      | none =>
        rw [hroot] at h
        cases h
      | some root =>
        rw [hroot] at h
        exact misplaced_of_ofRoot hroot h hkind
    | _ => exact absurd (Except.error.inj h ▸ rfl) hkind
  · intro h
    refine ⟨?_, by rw [kind_of_misplaced h]; decide⟩
    cases h with
    | notMap hroot hfull hmap =>
      rw [ofDocument, hroot]
      exact ofRoot_of_not_map hfull hmap
    | keyNotText hroot hkey =>
      rw [ofDocument, hroot]
      exact (ofRoot_map _).trans (if_neg (not_all_text_iff.2 hkey))

end Config

/-! ## Files -/

namespace Host

variable {host : Host} {path text filled : String} {settings : Settings} {document : Data}
  {e : LoadError}

structure Fills (host : Host) (settings : Settings) (text filled : String) : Prop where
  settings_eq : Settings.read host = .ok settings
  substitute_eq :
    Template.substitute (Mode.view settings.mode host.environment)
      (.ofList (unifyLineEnds text.toList)) = .ok filled

theorem loadText_of_settings (text : String) (h : Settings.read host = .ok settings) :
    (host.loadText text).result = Config.ofTemplate settings host.environment
      (.ofList (unifyLineEnds text.toList)) := by
  delta loadText
  rw [h]

theorem loadText_of_fills (h : host.Fills settings text filled) :
    (host.loadText text).result = Config.ofText settings filled := by
  rw [loadText_of_settings text h.settings_eq, Config.ofTemplate, h.substitute_eq]

theorem fills_of_loadText (h : (host.loadText text).result = .error e) (hkind : e.kind ≠ .value) :
    ∃ settings filled, host.Fills settings text filled := by
  cases hsettings : Settings.read host with
  | error problems =>
    rw [loadText_of_no_settings text hsettings] at h
    exact absurd (Except.error.inj h ▸ rfl) hkind
  | ok settings =>
    cases hfill : Template.substitute (Mode.view settings.mode host.environment)
        (.ofList (unifyLineEnds text.toList)) with
    | error missing =>
      rw [loadText_of_settings text hsettings, Config.ofTemplate, hfill] at h
      exact absurd (Except.error.inj h ▸ rfl) hkind
    | ok filled => exact ⟨settings, filled, hsettings, hfill⟩

/-- What comes through as something else than a wrong value. -/
inductive Escapes (host : Host) (text : String) : LoadError → Prop
  | scalar {settings : Settings} {filled : String} {fault : ScalarFault}
      (hfill : host.Fills settings text filled)
      (hyaml : Yaml.load Config.documentDepth filled = .error (.scalar fault))
      (hkind : fault.kind ≠ .value) : Escapes host text (.yaml (.scalar fault))
  | misplaced {settings : Settings} {filled : String} {document : Data} {e : LoadError}
      (hfill : host.Fills settings text filled)
      (hyaml : Yaml.load Config.documentDepth filled = .ok document)
      (hplace : Config.Misplaced document e) : Escapes host text e

theorem ofText_of_document (hyaml : Yaml.load Config.documentDepth filled = .ok document) :
    Config.ofText settings filled =
      (Config.ofDocument document).map fun c => c.withLogLevel settings.logLevel := by
  rw [Config.ofText, hyaml]

theorem ofText_eq_error_iff (hyaml : Yaml.load Config.documentDepth filled = .ok document) :
    Config.ofText settings filled = .error e ↔ Config.ofDocument document = .error e := by
  rw [ofText_of_document hyaml]
  cases Config.ofDocument document <;> simp [Except.map]

theorem loadText_eq_error_iff :
    (host.loadText text).result = .error e ∧ e.kind ≠ .value ↔ host.Escapes text e := by
  constructor
  · rintro ⟨h, hkind⟩
    obtain ⟨settings, filled, hfill⟩ := fills_of_loadText h hkind
    rw [loadText_of_fills hfill] at h
    cases hyaml : Yaml.load Config.documentDepth filled with
    | ok document =>
      rw [ofText_eq_error_iff hyaml] at h
      exact .misplaced hfill hyaml (Config.ofDocument_eq_error_iff.1 ⟨h, hkind⟩)
    | error fault =>
      rw [Config.ofText, hyaml] at h
      obtain rfl := Except.error.inj h
      cases fault with
      | malformed => exact absurd rfl hkind
      | scalar fault => exact .scalar hfill hyaml hkind
  · intro h
    cases h with
    | scalar hfill hyaml hkind =>
      refine ⟨?_, hkind⟩
      rw [loadText_of_fills hfill, Config.ofText, hyaml]
    | misplaced hfill hyaml hplace =>
      obtain ⟨h, hkind⟩ := Config.ofDocument_eq_error_iff.2 hplace
      exact ⟨by rw [loadText_of_fills hfill, ofText_eq_error_iff hyaml, h], hkind⟩

/-- What is wrong with a file that can be read is told as a wrong value, with two exceptions: a
scalar that does not fit the type of its tag may have a fault of another kind, and what stands under
the root key of the document may not be taken apart by its keys. So a document gives a configuration
or an error of a value, unless it is misplaced, and then the error is one of a type. -/
theorem loadFile_escapes (host : Host) {path text : String}
    (hfile : host.files.read (.ofText path) = .ok text) :
    (∀ e, (host.loadFile path).result = .error e ∧ e.kind ≠ .value ↔ host.Escapes text e) ∧
    ∀ settings filled document, host.Fills settings text filled →
      Yaml.load Config.documentDepth filled = .ok document →
      ((∀ e, ¬ Config.Misplaced document e) →
        (∃ c, (host.loadFile path).result = .ok c) ∨
          ∃ e, (host.loadFile path).result = .error e ∧ e.kind = .value) ∧
      ∀ e, Config.Misplaced document e →
        (host.loadFile path).result = .error e ∧ e.kind = .type := by
  rw [loadFile_of_read hfile]
  refine ⟨fun e => loadText_eq_error_iff, fun settings filled document hfill hyaml => ⟨?_, ?_⟩⟩
  · intro hplaced
    cases hresult : (host.loadText text).result with
    | ok c => exact .inl ⟨c, rfl⟩
    | error e =>
      refine .inr ⟨e, rfl, ?_⟩
      by_contra hkind
      rw [loadText_of_fills hfill, ofText_eq_error_iff hyaml] at hresult
      exact hplaced e (Config.ofDocument_eq_error_iff.1 ⟨hresult, hkind⟩)
  · intro e hplace
    obtain ⟨h, -⟩ := loadText_eq_error_iff.2 (Escapes.misplaced hfill hyaml hplace)
    exact ⟨h, Config.kind_of_misplaced hplace⟩

def nullKeyed : String := "config:\n  ~: x\n"

def nullKeyedHost : Host where
  environment := []
  files := [("config.yaml", nullKeyed)]

theorem loadFile_escapes_nullKeyed :
    nullKeyedHost.files.read (.ofText "config.yaml") = .ok nullKeyed ∧
      ∃ settings filled document, nullKeyedHost.Fills settings nullKeyed filled ∧
        Yaml.load Config.documentDepth filled = .ok document ∧
        Config.Misplaced document .keyNotText ∧
        (nullKeyedHost.loadFile "config.yaml").result = .error .keyNotText ∧
        LoadError.keyNotText.kind = .type := by
  have hfile : nullKeyedHost.files.read (.ofText "config.yaml") = .ok nullKeyed := by
    decide +kernel
  have hshape : (match (nullKeyedHost.loadFile "config.yaml").result with
      | .error .keyNotText => true
      | _ => false) = true := by decide +kernel
  have hresult : (nullKeyedHost.loadFile "config.yaml").result = .error .keyNotText := by
    split at hshape
    · assumption
    · cases hshape
  obtain ⟨hescapes, hdocument⟩ := loadFile_escapes nullKeyedHost hfile
  cases (hescapes .keyNotText).1 ⟨hresult, by decide⟩ with
  | misplaced hfill hyaml hplace =>
    obtain ⟨-, hmisplaced⟩ := hdocument _ _ _ hfill hyaml
    exact ⟨hfile, _, _, _, hfill, hyaml, hplace, hmisplaced _ hplace⟩

def listHost : Host where
  environment := []
  files := [("config.yaml", "config: [a]\n")]

/-- A list under the root key is told as a wrong type. -/
theorem list_root_escapes :
    ∃ e, (listHost.loadFile "config.yaml").result = .error e ∧ e.kind = .type := by
  have hshape : (match (listHost.loadFile "config.yaml").result with
      | .error (.sectionsNotMap "list") => true
      | _ => false) = true := by decide +kernel
  split at hshape
  · rename_i hresult
    exact ⟨_, hresult, rfl⟩
  · cases hshape

end Host

end IdentityClaims
