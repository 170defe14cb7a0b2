import IdentityClaims.Config.Template
import IdentityClaims.Text.Blank

/-!
# Files of variables

A file of variables has bindings `NAME=value`, mostly one to a line. A value may stand in quotes,
where it may go over several lines and have escapes, and it may refer to other variables in braces.
A line that is no binding is passed over.
-/

namespace IdentityClaims.EnvFile

/-- A text up to the closing quote, and what follows. A character behind a backslash belongs to the
text, whatever it is. -/
def readQuoted (quote : Char) : List Char → Option (List Char × List Char)
  | [] => none
  | [c] => if c = quote then some ([], []) else none
  | c :: d :: rest =>
    if c = quote then some ([], d :: rest)
    else if c = '\\' then (readQuoted quote rest).map fun r => (c :: d :: r.1, r.2)
    else (readQuoted quote (d :: rest)).map fun r => (c :: r.1, r.2)

def escaped (quote c : Char) : Option Char :=
  if c = '\\' ∨ c = '\'' then some c
  else if quote = '\'' then none
  else
    match c with
    | '"' => some '"'
    | 'a' => some (Char.ofNat 7)
    | 'b' => some (Char.ofNat 8)
    | 'f' => some (Char.ofNat 12)
    | 'n' => some '\n'
    | 'r' => some '\r'
    | 't' => some '\t'
    | 'v' => some (Char.ofNat 11)
    | _ => none

def unescape (quote : Char) : List Char → List Char
  | [] => []
  | [c] => [c]
  | c :: d :: rest =>
    if c = '\\' then
      match escaped quote d with
      | some e => e :: unescape quote rest
      | none => c :: unescape quote (d :: rest)
    else c :: unescape quote (d :: rest)

def dropComment (afterSpace : Bool) : List Char → List Char
  | [] => []
  | c :: rest =>
    if c = '#' ∧ afterSpace then [] else c :: dropComment (isSpace c) rest

def trimEnd (cs : List Char) : List Char := (cs.reverse.dropWhile isSpace).reverse

def inLine (c : Char) : Bool := c != '\n' && c != '\r'

/-- Reads what stands behind an equals sign: a value in quotes, or the rest of the line up to a
comment. Space before either is dropped; a comment may follow it at once. -/
def readValue (cs : List Char) : Option (List Char × List Char) :=
  match cs.dropWhile isInlineSpace with
  | [] => some ([], [])
  | c :: rest =>
    if c = '\'' ∨ c = '"' then
      (readQuoted c rest).map fun r => (unescape c r.1, r.2)
    else
      let afterSpace := (cs.head?.map isInlineSpace).getD false
      let value := dropComment afterSpace ((c :: rest).takeWhile inLine)
      some (trimEnd value, (c :: rest).dropWhile inLine)

def readName : List Char → Option (List Char × List Char)
  | '\'' :: rest =>
    let name := rest.takeWhile (· != '\'')
    match rest.dropWhile (· != '\'') with
    | _ :: rest => if name.isEmpty then none else some (name, rest)
    | [] => none
  | cs =>
    let isName (c : Char) : Bool := c != '=' && c != '#' && !isSpace c
    let name := cs.takeWhile isName
    if name.isEmpty then none else some (name, cs.dropWhile isName)

def dropExport (cs : List Char) : List Char :=
  let word := "export".toList
  if word.isPrefixOf cs then
    let rest := cs.drop word.length
    if (rest.head?.map isInlineSpace).getD false then rest.dropWhile isInlineSpace else cs
  else cs

def endLine (cs : List Char) : Option (List Char) :=
  let cs := cs.dropWhile isInlineSpace
  let cs := if cs.head? = some '#' then cs.dropWhile inLine else cs
  match cs with
  | [] => some []
  | '\r' :: '\n' :: rest => some rest
  | c :: rest => if inLine c then none else some rest

def dropLine (cs : List Char) : List Char := (cs.dropWhile inLine).drop 1

/-- What one step of reading gives: a binding, with no value if there is no equals sign. -/
structure Line where
  binding : Option (String × Option String)
  rest : List Char

def readLine (cs : List Char) : Line :=
  let cs := dropExport cs
  if cs.head? = some '#' then ⟨none, dropLine cs⟩
  else
    match readName cs with
    | none => ⟨none, dropLine cs⟩
    | some (name, rest) =>
      match rest.dropWhile isInlineSpace with
      | '=' :: rest =>
        match readValue rest with
        | none => ⟨none, dropLine rest⟩
        | some (value, rest) =>
          match endLine rest with
          | some rest => ⟨some (.ofList name, some (.ofList value)), rest⟩
          | none => ⟨none, dropLine rest⟩
      | rest =>
        match endLine rest with
        | some rest => ⟨some (.ofList name, none), rest⟩
        | none => ⟨none, dropLine rest⟩

def readLines : Nat → List Char → List (String × Option String)
  | 0, _ => []
  | fuel + 1, cs =>
    match cs.dropWhile isSpace with
    | [] => []
    | cs =>
      let line := readLine cs
      line.binding.toList ++ readLines fuel line.rest

def byteOrderMark : Char := Char.ofNat 0xFEFF

def bindings (text : String) : List (String × Option String) :=
  let cs := unifyLineEnds text.toList
  let cs := if cs.head? = some byteOrderMark then cs.drop 1 else cs
  readLines (cs.length + 1) cs

/-- What a reference looks a variable up in: no answer if nothing binds the name, and no value if it
is bound without one. -/
abbrev Scope := String → Option (Option String)

def readReference? (scope : Scope) (cs : List Char) : Option (List Char × List Char) :=
  let isName (c : Char) : Bool := c != '\x7d' && c != ':'
  let name := String.ofList (cs.takeWhile isName)
  let value (default : List Char) : List Char :=
    match scope name with
    | some (some v) => v.toList
    | some none => []
    | none => default
  match cs.dropWhile isName with
  | '\x7d' :: rest => some (value [], rest)
  | ':' :: '-' :: rest =>
    match rest.dropWhile (· != '\x7d') with
    | _ :: after => some (value (rest.takeWhile (· != '\x7d')), after)
    | [] => none
  | _ => none

/-- A value with its references replaced, at most as many as there is fuel. -/
def resolve (scope : Scope) : Nat → List Char → List Char
  | 0, cs => cs
  | _ + 1, [] => []
  | fuel + 1, '$' :: '\x7b' :: inner =>
    match readReference? scope inner with
    | some (value, rest) => value ++ resolve scope fuel rest
    | none => '$' :: resolve scope fuel ('\x7b' :: inner)
  | fuel + 1, c :: rest => c :: resolve scope fuel rest

/-- Adds a binding whose references are to earlier bindings or, where there is none of the name, to
the variables of the process. -/
def bind (process : Variables) (vars : Entries String (Option String))
    (b : String × Option String) : Entries String (Option String) :=
  let scope (name : String) : Option (Option String) :=
    (Entries.get? vars name).or ((Entries.get? process name).map some)
  Entries.put vars b.1 (b.2.map fun v =>
    String.ofList (resolve scope (v.toList.length + 1) v.toList))

def read (process : Variables) (text : String) : Entries String (Option String) :=
  (bindings text).foldl (bind process) []

end IdentityClaims.EnvFile
