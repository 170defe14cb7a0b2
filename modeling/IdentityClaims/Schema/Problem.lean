import IdentityClaims.Text.Quoted

/-!
# Problems of a value

Checking a value against a type finds all its problems, not the first one only. A problem says
where it is, as a path from the whole value to the part, and what it is.
-/

namespace IdentityClaims

/-- A step from a value to a part of it: a key or a position. -/
inductive PathStep
  | key (name : String)
  | index (n : Int)
  deriving DecidableEq, Repr

inductive ProblemKind
  | notText
  | notUtf8Text
  | notTruth
  | unreadableTruth
  | notInteger
  | unreadableInteger
  | integerTooLong
  | fractional
  | notFinite
  | unreadableNumber
  | missing
  | extraKey
  | keyNotText
  | notList
  | notMap
  | notRecord (type : String)
  | notOption (options : List String)
  | notChoice (options : List String)
  | notInstance (type : String)
  deriving DecidableEq, Repr

namespace ProblemKind

def orList : List String → String
  | [] => ""
  | [x] => Quoted.text x
  | [x, y] => Quoted.text x ++ " or " ++ Quoted.text y
  | x :: rest => Quoted.text x ++ ", " ++ orList rest

def code : ProblemKind → String
  | .notText => "string_type"
  | .notUtf8Text => "string_unicode"
  | .notTruth => "bool_type"
  | .unreadableTruth => "bool_parsing"
  | .notInteger => "int_type"
  | .unreadableInteger => "int_parsing"
  | .integerTooLong => "int_parsing_size"
  | .fractional => "int_from_float"
  | .notFinite => "finite_number"
  | .unreadableNumber => "float_parsing"
  | .missing => "missing"
  | .extraKey => "extra_forbidden"
  | .keyNotText => "invalid_key"
  | .notList => "list_type"
  | .notMap => "dict_type"
  | .notRecord _ => "model_type"
  | .notOption _ => "literal_error"
  | .notChoice _ => "enum"
  | .notInstance _ => "is_instance_of"

def message : ProblemKind → String
  | .notText => "Input should be a valid string"
  | .notUtf8Text => "Input should be a valid string, unable to parse raw data as a unicode string"
  | .notTruth => "Input should be a valid boolean"
  | .unreadableTruth => "Input should be a valid boolean, unable to interpret input"
  | .notInteger => "Input should be a valid integer"
  | .unreadableInteger => "Input should be a valid integer, unable to parse string as an integer"
  | .integerTooLong => "Unable to parse input string as an integer, exceeded maximum size"
  | .fractional => "Input should be a valid integer, got a number with a fractional part"
  | .notFinite => "Input should be a finite number"
  | .unreadableNumber => "Input should be a valid number, unable to parse string as a number"
  | .missing => "Field required"
  | .extraKey => "Extra inputs are not permitted"
  | .keyNotText => "Keys should be strings"
  | .notList => "Input should be a valid list"
  | .notMap => "Input should be a valid dictionary"
  | .notRecord type => "Input should be a valid dictionary or instance of " ++ type
  | .notOption options => "Input should be " ++ orList options
  | .notChoice options => "Input should be " ++ orList options
  | .notInstance type => "Input should be an instance of " ++ type

end ProblemKind

structure Problem where
  path : List PathStep
  kind : ProblemKind
  deriving DecidableEq, Repr

/-- The problem of a part, seen from the value around it. -/
def Problem.within (step : PathStep) (p : Problem) : Problem := { p with path := step :: p.path }

def Problem.summary (ps : List Problem) : String :=
  "; ".intercalate (ps.map fun p => p.kind.message)

abbrev Checked (α : Type) := Except (List Problem) α

namespace Checked

variable {α β : Type}

/-- The value has one problem, and it is the value's own. -/
def fail (kind : ProblemKind) : Checked α := .error [⟨[], kind⟩]

/-- A part's result, seen from the value around it. -/
def within (step : PathStep) (c : Checked α) : Checked α := c.mapError (·.map (·.within step))

def both : Checked α → Checked β → Checked (α × β)
  | .ok a, .ok b => .ok (a, b)
  | .ok _, .error qs => .error qs
  | .error ps, .ok _ => .error ps
  | .error ps, .error qs => .error (ps ++ qs)

def all : List (Checked α) → Checked (List α)
  | [] => .ok []
  | c :: cs => (both c (all cs)).map fun p => p.1 :: p.2

@[simp] theorem mapError_ok {ε ε' : Type} (f : ε → ε') (a : α) :
    (Except.ok a).mapError f = .ok a := rfl

@[simp] theorem mapError_error {ε ε' : Type} (f : ε → ε') (e : ε) :
    (Except.error e : Except ε α).mapError f = .error (f e) := rfl

theorem mapError_eq_ok_iff {ε ε' : Type} {x : Except ε α} {f : ε → ε'} {a : α} :
    x.mapError f = .ok a ↔ x = .ok a := by
  cases x <;> simp

theorem map_eq_ok_iff {ε : Type} {c : Except ε α} {g : α → β} {b : β} :
    c.map g = .ok b ↔ ∃ a, c = .ok a ∧ g a = b := by
  cases c <;> simp [Except.map]

theorem map_eq_error_iff {ε : Type} {c : Except ε α} {g : α → β} {e : ε} :
    c.map g = .error e ↔ c = .error e := by
  cases c <;> simp [Except.map]

@[simp] theorem within_eq_ok_iff {step : PathStep} {c : Checked α} {a : α} :
    within step c = .ok a ↔ c = .ok a := mapError_eq_ok_iff

@[simp] theorem both_eq_ok_iff {c : Checked α} {d : Checked β} {p : α × β} :
    both c d = .ok p ↔ c = .ok p.1 ∧ d = .ok p.2 := by
  cases c <;> cases d <;> simp [both, Prod.ext_iff]

/-- Results come together exactly when none of them has problems. -/
theorem all_eq_ok_iff {cs : List (Checked α)} {as : List α} :
    all cs = .ok as ↔ cs = as.map .ok := by
  induction cs generalizing as with
  | nil => cases as <;> simp [all]
  | cons c cs ih =>
    cases c with
    | error ps => cases h : all cs <;> cases as <;> simp [all, both, h, Except.map]
    | ok a =>
      cases h : all cs with
      | error qs =>
        cases as with
        | nil => simp [all, both, h, Except.map]
        | cons b bs =>
          have hne : cs ≠ bs.map .ok := fun hc => by simpa [h] using ih.2 hc
          simp [all, both, h, Except.map, hne]
      | ok xs =>
        cases as with
        | nil => simp [all, both, h, Except.map]
        | cons b bs =>
          simp only [all, both, h, Except.map, Except.ok.injEq, List.cons.injEq, List.map_cons]
          rw [← ih, h, Except.ok.injEq]

end Checked

end IdentityClaims
