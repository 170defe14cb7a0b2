import IdentityClaims.Entries

/-!
# Templates

A template is text with placeholders between `${` and the next closing brace. A placeholder names a
variable and may say what stands in for it when it is not set, or what the error then says. The
text is read once from left to right, so what a variable holds is never read for placeholders.
-/

namespace IdentityClaims

abbrev Variables := Entries String String

inductive Placeholder
  | withDefault (name default : String)
  | withMessage (name message : String)
  | required (name : String)
  deriving DecidableEq, Repr

/-- A variable that a placeholder needs is not set. -/
inductive TemplateError
  | notSet (name : String)
  | notSetBecause (name message : String)
  deriving DecidableEq, Repr

def TemplateError.message : TemplateError → String
  | .notSet name => "Required environment variable " ++ name ++ " not set"
  | .notSetBecause name message => "Required environment variable " ++ name ++ ": " ++ message

namespace Placeholder

def splitAtMark (mark : Char) : List Char → Option (List Char × List Char)
  | [] => none
  | [_] => none
  | c :: d :: rest =>
    if c = ':' ∧ d = mark then some ([], rest)
    else (splitAtMark mark (d :: rest)).map fun p => (c :: p.1, p.2)

def ofBody (body : List Char) : Placeholder :=
  match splitAtMark '-' body with
  | some (name, default) => .withDefault (.ofList name) (.ofList default)
  | none =>
    match splitAtMark '?' body with
    | some (name, message) => .withMessage (.ofList name) (.ofList message)
    | none => .required (.ofList body)

def name : Placeholder → String
  | .withDefault name _ => name
  | .withMessage name _ => name
  | .required name => name

def resolve (vars : Variables) : Placeholder → Except TemplateError String
  | .withDefault name default => .ok ((Entries.get? vars name).getD default)
  | .withMessage name message =>
    match Entries.get? vars name with
    | some value => .ok value
    | none => .error (.notSetBecause name message)
  | .required name =>
    match Entries.get? vars name with
    | some value => .ok value
    | none => .error (.notSet name)

end Placeholder

inductive TemplatePart
  | literal (c : Char)
  | placeholder (body : List Char)
  deriving DecidableEq, Repr

namespace Template

/-- Whether a character is not the one that ends a placeholder. -/
def isBody (c : Char) : Bool := c != '\x7d'

/-- The pieces of a template. Between the braces of a placeholder stands at least one character. -/
def parts : List Char → List TemplatePart
  | [] => []
  | c :: rest =>
    match c, rest with
    | '$', '\x7b' :: inner =>
      match _h : inner.dropWhile isBody with
      | _ :: after =>
        if (inner.takeWhile isBody).isEmpty then .literal '$' :: parts ('\x7b' :: inner)
        else .placeholder (inner.takeWhile isBody) :: parts after
      | [] => .literal '$' :: parts ('\x7b' :: inner)
    | c, rest => .literal c :: parts rest
termination_by cs => cs.length
decreasing_by
  · simp
  · have := (List.dropWhile_suffix (l := inner) isBody).length_le
    rw [_h] at this
    simp only [List.length_cons] at this ⊢
    omega
  · simp
  · simp

/-- The text that pieces stand for, up to the first that stands for nothing. -/
def render (vars : Variables) : List TemplatePart → Except TemplateError (List Char)
  | [] => .ok []
  | .literal c :: rest => (render vars rest).map (c :: ·)
  | .placeholder body :: rest =>
    match (Placeholder.ofBody body).resolve vars with
    | .error e => .error e
    | .ok value => (render vars rest).map (value.toList ++ ·)

def substitute (vars : Variables) (text : String) : Except TemplateError String :=
  (render vars (parts text.toList)).map String.ofList

end Template

end IdentityClaims
