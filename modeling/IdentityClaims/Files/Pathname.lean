/-!
# Paths

A path says where a file is: what it starts from, and the names on the way. A name that is empty or
a single dot leads nowhere, so it is left out; two dots lead to the directory around.
-/

namespace IdentityClaims

/-- A path. One that starts from the root has one slash before its names, or exactly two, which are
kept apart. -/
structure Pathname where
  root : String
  names : List String
  deriving DecidableEq, Repr

namespace Pathname

def separator : Char := '/'

def here : String := "."

def above : String := ".."

def ofText (text : String) : Pathname :=
  let slashes := (text.toList.takeWhile (· == separator)).length
  { root := if slashes = 0 then "" else if slashes = 2 then "//" else "/"
    names := ((text.toList.splitOn separator).map String.ofList).filter fun name =>
      !(name.isEmpty || name == here) }

/-- The text of a path; a path that leads nowhere is that of the directory itself. -/
def render (p : Pathname) : String :=
  if p.root.isEmpty && p.names.isEmpty then here else p.root ++ "/".intercalate p.names

end Pathname

end IdentityClaims
