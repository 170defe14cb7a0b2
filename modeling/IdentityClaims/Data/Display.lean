import IdentityClaims.Data.Basic
import IdentityClaims.Number.Shortest
import IdentityClaims.Text.Quoted

/-!
# Data in messages

How a message shows a value: text and bytes in quotes, numbers in full, containers with their
contents.
-/

namespace IdentityClaims.Data

/-- Joins the parts of a container between its brackets. -/
def bracket (left right : String) (parts : List String) : String :=
  left ++ ", ".intercalate parts ++ right

mutual

def display : Data → String
  | .null => "None"
  | .bool b => if b then "True" else "False"
  | .int n => toString n
  | .float x => x.render .plain
  | .text s => Quoted.text s
  | .bytes bs => Quoted.bytes bs
  | .list items => bracket "[" "]" (displayItems items)
  | .map entries => bracket "\x7b" "\x7d" (displayEntries entries)
  | .object kind => "<" ++ kind ++ ">"

def displayItems : List Data → List String
  | [] => []
  | x :: xs => x.display :: displayItems xs

def displayEntries : List (Data × Data) → List String
  | [] => []
  | (k, v) :: es => (k.display ++ ": " ++ v.display) :: displayEntries es

end

end IdentityClaims.Data
