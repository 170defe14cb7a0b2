import IdentityClaims.Yaml.ScalarKind
import IdentityClaims.Yaml.Token

/-!
# Nodes

A document is a graph of nodes: an anchored node can be referred to from several places, even from
inside itself, so nodes are kept in a table and name each other by their places in it. A node is a
scalar, a sequence or a mapping, and it has a type, which a tag gives it or its own nature.
-/

namespace IdentityClaims.Yaml

inductive NodeType
  | scalar (kind : ScalarKind)
  | binary
  | sequence
  | mapping
  | set
  | pairs
  | unknown
  deriving DecidableEq, Repr

/-- How a node is tagged: not at all, by the mark alone that leaves the type of a scalar to its
text, or by a full name. -/
inductive NodeTag
  | none
  | unspecific
  | named (name : String)
  deriving DecidableEq, Repr

namespace NodeType

def start : String := "tag:yaml.org,2002:"

def known : List (String × NodeType) :=
  [("null", .scalar .null), ("bool", .scalar .truth), ("int", .scalar .integer),
    ("float", .scalar .float), ("timestamp", .scalar .time), ("merge", .scalar .merge),
    ("value", .scalar .equals), ("str", .scalar .text), ("binary", .binary), ("seq", .sequence),
    ("map", .mapping), ("set", .set), ("omap", .pairs), ("pairs", .pairs)]

def named (name : String) : NodeType :=
  ((known.find? fun e => start ++ e.1 == name).map Prod.snd).getD .unknown

/-- The type of a scalar. Text in quotes has no other type unless it is tagged. -/
def ofScalar (tag : NodeTag) (text : String) (plain : Bool) : NodeType :=
  match tag with
  | .none => .scalar (if plain then .ofText text else .text)
  | .unspecific => .scalar (.ofText text)
  | .named name => named name

/-- The type of a collection that has a type of its own. -/
def ofCollection (tag : NodeTag) (own : NodeType) : NodeType :=
  match tag with
  | .named name => named name
  | _ => own

end NodeType

abbrev NodeId := Nat

inductive NodeBody
  | scalar (text : String)
  | sequence (items : List NodeId)
  | mapping (entries : List (NodeId × NodeId))
  deriving Repr

structure Node where
  type : NodeType
  body : NodeBody
  deriving Repr

namespace Node

def nothing : Node := ⟨.scalar .null, .scalar ""⟩

instance : Inhabited Node := ⟨nothing⟩

end Node

abbrev NodeTable := Array Node

namespace NodeTable

def node (t : NodeTable) (n : NodeId) : Node := t.getD n .nothing

def put (t : NodeTable) (n : NodeId) (node : Node) : NodeTable := t.setIfInBounds n node

def entries (t : NodeTable) (n : NodeId) : List (NodeId × NodeId) :=
  match (t.node n).body with
  | .mapping entries => entries
  | _ => []

/-- Whether an entry merges other mappings into its own. -/
def isMerge (t : NodeTable) (e : NodeId × NodeId) : Bool := (t.node e.1).type = .scalar .merge

/-- The number of entries that merge other mappings into their own. -/
def mergeCount (t : NodeTable) : Nat :=
  t.foldl (fun n node =>
    match node.body with
    | .mapping entries => n + (entries.filter t.isMerge).length
    | _ => n) 0

end NodeTable

end IdentityClaims.Yaml
