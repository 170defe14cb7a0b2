import IdentityClaims.Yaml.Node
import IdentityClaims.Yaml.Value

/-!
# Collections

What the nodes of a document stand for. A scalar stands for its value. A collection is made empty
where its node is first met and filled when all that was met before it is filled, so it can contain
itself, and a fault near the root comes before one further down. Before a mapping is filled, the
entries of the mappings that are merged into it are put in front of its own.
-/

namespace IdentityClaims.Yaml

inductive Thing
  | value (d : Data)
  | collection (n : NodeId)

inductive Collection
  | list (items : List Thing)
  | map (entries : List (Data × Thing))
  | set (keys : List Data)
  | pairs (items : List (Thing × Thing))

namespace Collection

def empty : NodeType → Collection
  | .mapping => .map []
  | .set => .set []
  | .pairs => .pairs []
  | _ => .list []

end Collection

/-- What is made of a document so far: the things of nodes, the contents of collections, and, in
reverse, the nodes whose collections are to be filled. -/
structure Making where
  nodes : NodeTable
  things : Array (Option Thing)
  collections : Array Collection
  waiting : List NodeId

abbrev Make (α : Type) := StateT Making (Except YamlError) α

namespace Make

/-- Some node has no value of its type. -/
def fail {α : Type} : Make α := throw .malformed

def node (n : NodeId) : Make Node := return (← get).nodes.node n

def text : Nat → NodeId → Make String
  | 0, _ => throw (.scalar .endless)
  | fuel + 1, n => do
    match (← node n).body with
    | .scalar s => pure s
    | .sequence _ => fail
    | .mapping entries => do
      let nodes := (← get).nodes
      match entries.find? fun e => (nodes.node e.1).type = .scalar .equals with
      | some e => text fuel e.2
      | none => fail

def scalar (kind : ScalarKind) (n : NodeId) : Make Data := do
  match kind with
  | .merge | .equals | .indicator => fail
  | kind => do
    let s ← text ((← get).nodes.size + 1) n
    match kind, (← node n).body with
    | .time, .scalar _ => kind.value s
    | .time, _ => throw (.scalar .timeNotText)
    | kind, _ => kind.value s

def remember (n : NodeId) (t : Thing) : Make Thing := do
  modify fun m => { m with things := m.things.setIfInBounds n (some t) }
  pure t

def thing (n : NodeId) : Make Thing := do
  match (← get).things.getD n none with
  | some t => pure t
  | none => do
    match (← node n).type with
    | .scalar kind => remember n (.value (← scalar kind n))
    | .binary => remember n (.value (← binaryValue (← text ((← get).nodes.size + 1) n)))
    | .unknown => fail
    | type => do
      modify fun m =>
        { m with
          collections := m.collections.setIfInBounds n (.empty type)
          waiting := n :: m.waiting }
      remember n (.collection n)

def putEntries (n : NodeId) (entries : List (NodeId × NodeId)) : Make Unit :=
  modify fun m => { m with nodes := m.nodes.put n ⟨(m.nodes.node n).type, .mapping entries⟩ }

def settleKeys (entries : List (NodeId × NodeId)) : Make Unit :=
  modify fun m =>
    { m with
      nodes := entries.foldl (fun nodes e =>
        let key := nodes.node e.1
        if key.type = .scalar .equals then nodes.put e.1 ⟨.scalar .text, key.body⟩ else nodes)
        m.nodes }

/-- Takes the merging entries of a mapping out one by one, puts the entries of what they merge in
front of the mapping's own, and of several mappings in a list puts the first one last. `merged` is
what comes from the entries that are taken out already. -/
def flattenAfter (merged : List (NodeId × NodeId)) : Nat → NodeId → Make Unit
  | 0, _ => fail
  | fuel + 1, n => do
    let nodes := (← get).nodes
    let entries := nodes.entries n
    let own := entries.takeWhile fun e => !nodes.isMerge e
    match entries.drop own.length with
    | [] => do
      settleKeys entries
      if merged.isEmpty then pure () else putEntries n (merged ++ entries)
    | (_, value) :: rest => do
      putEntries n (own ++ rest)
      let inner (n : NodeId) : Make (List (NodeId × NodeId)) := do
        match (← node n).body with
        | .mapping _ => do
          flattenAfter [] fuel n
          pure ((← get).nodes.entries n)
        | _ => fail
      let more ← match (← node value).body with
        | .sequence items => do pure (← items.mapM inner).reverse.flatten
        | _ => inner value
      flattenAfter (merged ++ more) fuel n

/-- Puts the entries of merged mappings in front of a mapping's own. Every step takes out a merging
entry or is the last one. -/
def flatten (n : NodeId) : Make Unit := do
  flattenAfter [] ((← get).nodes.mergeCount + 1) n

/-- The entries of a mapping, whose keys are no collections. -/
def entries (n : NodeId) : Make (List (Data × Thing)) := do
  match (← node n).body with
  | .mapping _ => do
    flatten n
    ((← get).nodes.entries n).mapM fun (k, v) => do
      match ← thing k with
      | .value key => do pure (key, ← thing v)
      | .collection _ => fail
  | _ => fail

def items (n : NodeId) : Make (List NodeId) := do
  match (← node n).body with
  | .sequence items => pure items
  | _ => fail

def pair (n : NodeId) : Make (Thing × Thing) := do
  match (← node n).body with
  | .mapping [(k, v)] => do
    let key ← thing k
    pure (key, ← thing v)
  | _ => fail

def contents (n : NodeId) : Make Collection := do
  match (← node n).type with
  | .mapping => return .map (← entries n)
  | .set => return .set ((← entries n).map Prod.fst)
  | .pairs => return .pairs (← (← items n).mapM pair)
  | _ => return .list (← (← items n).mapM thing)

/-- Fills the collections of some nodes, and then those that were met on the way. Every collection
is filled once. -/
def fillAll : Nat → List NodeId → Make Unit
  | 0, _ => fail
  | fuel + 1, [] => do
    match (← get).waiting with
    | [] => pure ()
    | waiting => do
      modify fun m => { m with waiting := [] }
      fillAll fuel waiting.reverse
  | fuel + 1, n :: rest => do
    let c ← contents n
    modify fun m => { m with collections := m.collections.setIfInBounds n c }
    fillAll fuel rest

end Make

namespace Making

def start (nodes : NodeTable) : Making where
  nodes := nodes
  things := Array.replicate nodes.size none
  collections := Array.replicate nodes.size (.list [])
  waiting := []

def data (m : Making) : Nat → Thing → Data
  | _, .value d => d
  | 0, .collection n =>
    match m.collections.getD n (.list []) with
    | .map _ => .map []
    | _ => .list []
  | depth + 1, .collection n =>
    match m.collections.getD n (.list []) with
    | .list items => .list (items.map (m.data depth))
    | .map entries => .ofPairs (entries.map fun e => (e.1, m.data depth e.2))
    | .set keys => if keys.isEmpty then .list [] else .object "set"
    | .pairs items => .list (items.map fun e => .list [m.data depth e.1, m.data depth e.2])

end Making

def NodeTable.data (nodes : NodeTable) (depth : Nat) (root : NodeId) : YamlResult Data :=
  let make : Make Thing := do
    let t ← Make.thing root
    Make.fillAll (2 * nodes.size + 2) []
    pure t
  match make.run (.start nodes) with
  | .error e => .error e
  | .ok (t, m) => .ok (m.data depth t)

end IdentityClaims.Yaml
