import IdentityClaims.Entries
import IdentityClaims.Files.Pathname
import IdentityClaims.Text.Quoted

/-!
# Files of a directory

A process finds the files of its directory, each under the names on the way to it. Of the
directories around that one nothing is known but that they are there. Opening a file walks along its
path, and each step needs a directory to go on from.
-/

namespace IdentityClaims

abbrev Directory := Entries String String

/-- Why a file is not opened. -/
inductive OpenError
  | missing (path : Pathname)
  | notDirectory (path : Pathname)
  | isDirectory (path : Pathname)
  | nameTooLong (path : Pathname)
  | nullCharacter
  deriving DecidableEq, Repr

def OpenError.message : OpenError → String
  | .missing path => "[Errno 2] No such file or directory: " ++ Quoted.text path.render
  | .notDirectory path => "[Errno 20] Not a directory: " ++ Quoted.text path.render
  | .isDirectory path => "[Errno 21] Is a directory: " ++ Quoted.text path.render
  | .nameTooLong path => "[Errno 36] File name too long: " ++ Quoted.text path.render
  | .nullCharacter => "embedded null byte"

namespace Directory

/-- Where a walk has come to: under the directory, by the names on the way, or around it. -/
inductive Place
  | under (names : List String)
  | around
  deriving DecidableEq, Repr

inductive Finding
  | nothing
  | file (text : String)
  | directory
  deriving DecidableEq, Repr

def maxName : Nat := 255

def maxPath : Nat := 4095

def find (files : Directory) : Place → Finding
  | .around => .directory
  | .under [] => .directory
  | .under names =>
    let path := "/".intercalate names
    match Entries.get? files path with
    | some text => .file text
    | none =>
      if files.any fun e => (path ++ "/").toList.isPrefixOf e.1.toList then .directory
      else .nothing

def Place.up : Place → Place
  | .around => .around
  | .under [] => .around
  | .under (name :: names) => .under (name :: names).dropLast

/-- Goes from a place to the one that a name leads to; `path` is the path of the whole walk. -/
def go (files : Directory) (path : Pathname) (place : Place) (name : String) :
    Except OpenError Place :=
  match find files place with
  | .nothing => .error (.missing path)
  | .file _ => .error (.notDirectory path)
  | .directory =>
    if name = Pathname.above then .ok place.up
    else if maxName < name.utf8ByteSize then .error (.nameTooLong path)
    else
      match place with
      | .under names => .ok (.under (names ++ [name]))
      | .around => .error (.missing path)

def walk (files : Directory) (path : Pathname) : Except OpenError Place :=
  path.names.foldlM (go files path) (if path.root.isEmpty then .under [] else .around)

def read (files : Directory) (path : Pathname) : Except OpenError String :=
  if path.render.toList.contains (Char.ofNat 0) then .error .nullCharacter
  else if maxPath < path.render.utf8ByteSize then .error (.nameTooLong path)
  else
    match walk files path with
    | .error e => .error e
    | .ok place =>
      match find files place with
      | .nothing => .error (.missing path)
      | .file text => .ok text
      | .directory => .error (.isDirectory path)

end Directory

end IdentityClaims
