import IdentityClaims.Yaml.Node
import IdentityClaims.Yaml.Tokens

/-!
# Documents

The nodes of the one document in a text. Tokens are asked for one by one, so of several faults in a
text the first one counts, be it a fault of the tokens, of their order, or of an anchor. An empty
text has no document.
-/

namespace IdentityClaims.Yaml

abbrev Handles := List (String × String)

namespace Handles

def default : Handles := [("!", "!"), ("!!", NodeType.start)]

/-- The full tag of a tag as it is written. -/
def resolve (hs : Handles) (t : TagText) : YamlResult NodeTag :=
  let named (name : String) : NodeTag := if name == "!" then .unspecific else .named name
  match t.handle with
  | none => .ok (named t.name)
  | some h =>
    match hs.find? fun e => e.1 == h with
    | some e => .ok (named (e.2 ++ t.name))
    | none => .error .malformed

end Handles

structure Composition where
  reading : Reading
  nodes : NodeTable
  anchors : List (String × NodeId)
  handles : Handles

abbrev Compose (α : Type) := StateT Composition (Except YamlError) α

namespace Compose

def fail {α : Type} : Compose α := throw .malformed

def peek : Compose Token := do
  let c ← get
  let reading ← c.reading.ready
  set { c with reading }
  pure reading.next

def drop : Compose Unit := modify fun c => { c with reading := c.reading.drop }

def add (node : Node) : Compose NodeId := do
  let c ← get
  set { c with nodes := c.nodes.push node }
  pure c.nodes.size

def nothing : Compose NodeId := add .nothing

structure Properties where
  anchor : Option String
  tag : Option TagText

namespace Properties

def isSome (p : Properties) : Bool := p.anchor.isSome || p.tag.isSome

end Properties

def anchor : Compose (Option String) := do
  match ← peek with
  | .anchor a => do drop; pure (some a)
  | _ => pure none

def tag : Compose (Option TagText) := do
  match ← peek with
  | .tag t => do drop; pure (some t)
  | _ => pure none

def properties : Compose Properties := do
  match ← anchor with
  | some a => do
    let t ← tag
    pure ⟨some a, t⟩
  | none => do
    match ← tag with
    | some t => do
      let a ← anchor
      pure ⟨a, some t⟩
    | none => pure ⟨none, none⟩

def addUnder (anchor : Option String) (node : Node) : Compose NodeId := do
  match anchor with
  | none => add node
  | some a => do
    if (← get).anchors.any fun e => e.1 == a then fail
    else do
      let n ← add node
      modify fun c => { c with anchors := (a, n) :: c.anchors }
      pure n

def fill (n : NodeId) (body : NodeBody) : Compose NodeId := do
  modify fun c => { c with nodes := c.nodes.put n ⟨(c.nodes.node n).type, body⟩ }
  pure n

def referred (name : String) : Compose NodeId := do
  match (← get).anchors.find? fun e => e.1 == name with
  | some e => pure e.2
  | none => fail

def endsBlockPart (t : Token) : Bool := t == .key || t == .value || t == .blockEnd

def endsFlowPart (close t : Token) : Bool := t == .flowEntry || t == close

mutual

/-- Reads a node. In a block it may be a block collection, and as the value of a mapping it may be
a sequence whose hyphens are not indented. -/
def node (inBlock unindented : Bool) : Nat → Compose NodeId
  | 0 => fail
  | fuel + 1 => do
    match ← peek with
    | .alias name => do drop; referred name
    | _ => do
      let p ← properties
      let tag ← match p.tag with
        | some t => (← get).handles.resolve t
        | none => pure .none
      let sequence : Compose NodeId :=
        addUnder p.anchor ⟨.ofCollection tag .sequence, .sequence []⟩
      let mapping : Compose NodeId :=
        addUnder p.anchor ⟨.ofCollection tag .mapping, .mapping []⟩
      match ← peek, inBlock, unindented with
      | .blockEntry, _, true => do
        let n ← sequence
        fill n (.sequence (← unindentedItems [] fuel))
      | .scalar text plain, _, _ => do
        drop
        addUnder p.anchor ⟨.ofScalar tag text plain, .scalar text⟩
      | .flowSequenceStart, _, _ => do
        let n ← sequence
        drop
        fill n (.sequence (← flowItems true [] fuel))
      | .flowMappingStart, _, _ => do
        let n ← mapping
        drop
        fill n (.mapping (← flowEntries true [] fuel))
      | .blockSequenceStart, true, _ => do
        let n ← sequence
        drop
        fill n (.sequence (← blockItems [] fuel))
      | .blockMappingStart, true, _ => do
        let n ← mapping
        drop
        fill n (.mapping (← blockEntries [] fuel))
      | _, _, _ =>
        if p.isSome then addUnder p.anchor ⟨.ofScalar tag "" true, .scalar ""⟩ else fail

/-- Reads the items of a block sequence behind some others, which are given in reverse. -/
def blockItems (before : List NodeId) : Nat → Compose (List NodeId)
  | 0 => fail
  | fuel + 1 => do
    match ← peek with
    | .blockEnd => do drop; pure before.reverse
    | .blockEntry => do
      drop
      let t ← peek
      let n ← if t == .blockEntry || t == .blockEnd then nothing else node true false fuel
      blockItems (n :: before) fuel
    | _ => fail

/-- Reads the items of a sequence whose hyphens are not indented. -/
def unindentedItems (before : List NodeId) : Nat → Compose (List NodeId)
  | 0 => fail
  | fuel + 1 => do
    match ← peek with
    | .blockEntry => do
      drop
      let t ← peek
      let n ← if t == .blockEntry || endsBlockPart t then nothing else node true false fuel
      unindentedItems (n :: before) fuel
    | _ => pure before.reverse

/-- Reads the key or the value of an entry of a block mapping behind its mark. -/
def blockPart : Nat → Compose NodeId
  | 0 => fail
  | fuel + 1 => do
    if endsBlockPart (← peek) then nothing else node true true fuel

def blockEntries (before : List (NodeId × NodeId)) : Nat → Compose (List (NodeId × NodeId))
  | 0 => fail
  | fuel + 1 => do
    match ← peek with
    | .blockEnd => do drop; pure before.reverse
    | .key => do
      drop
      let k ← blockPart fuel
      let v ← match ← peek with
        | .value => do drop; blockPart fuel
        | _ => nothing
      blockEntries ((k, v) :: before) fuel
    | _ => fail

def flowValue (close : Token) : Nat → Compose NodeId
  | 0 => fail
  | fuel + 1 => do
    match ← peek with
    | .value => do
      drop
      if endsFlowPart close (← peek) then nothing else node false false fuel
    | _ => nothing

def flowPair (close : Token) : Nat → Compose (NodeId × NodeId)
  | 0 => fail
  | fuel + 1 => do
    let t ← peek
    let k ← if t == .value || endsFlowPart close t then nothing else node false false fuel
    let v ← flowValue close fuel
    pure (k, v)

/-- Reads the items of a flow sequence; a pair among them is a mapping of its own. -/
def flowItems (first : Bool) (before : List NodeId) : Nat → Compose (List NodeId)
  | 0 => fail
  | fuel + 1 => do
    let t ← peek
    if t == .flowSequenceEnd then do drop; pure before.reverse
    else if !first && t != .flowEntry then fail
    else do
      if first then pure () else drop
      match ← peek with
      | .flowSequenceEnd => do drop; pure before.reverse
      | .key => do
        let n ← add ⟨.mapping, .mapping []⟩
        drop
        let n ← fill n (.mapping [← flowPair .flowSequenceEnd fuel])
        flowItems false (n :: before) fuel
      | _ => do
        let n ← node false false fuel
        flowItems false (n :: before) fuel

def flowEntries (first : Bool) (before : List (NodeId × NodeId)) :
    Nat → Compose (List (NodeId × NodeId))
  | 0 => fail
  | fuel + 1 => do
    let t ← peek
    if t == .flowMappingEnd then do drop; pure before.reverse
    else if !first && t != .flowEntry then fail
    else do
      if first then pure () else drop
      match ← peek with
      | .flowMappingEnd => do drop; pure before.reverse
      | .key => do
        drop
        let e ← flowPair .flowMappingEnd fuel
        flowEntries false (e :: before) fuel
      | _ => do
        let k ← node false false fuel
        let v ← nothing
        flowEntries false ((k, v) :: before) fuel

end

def majorVersion : Nat := 1

/-- Reads the directives in front of a document. There is one version at most, and each handle is
given once at most. -/
def directives (versioned : Bool) (hs : Handles) : Nat → Compose Handles
  | 0 => fail
  | fuel + 1 => do
    match ← peek with
    | .directive (.version major) => do
      drop
      if versioned || major != majorVersion then fail else directives true hs fuel
    | .directive (.tagHandle handle expansion) => do
      drop
      if hs.any fun e => e.1 == handle then fail
      else directives versioned (hs ++ [(handle, expansion)]) fuel
    | .directive .unknown => do
      drop
      directives versioned hs fuel
    | _ => pure (hs ++ Handles.default)

def dropDocumentEnds : Nat → Compose Unit
  | 0 => pure ()
  | fuel + 1 => do
    match ← peek with
    | .documentEnd => do drop; dropDocumentEnds fuel
    | _ => pure ()

def explicitDocument (fuel : Nat) : Compose NodeId := do
  let hs ← directives false [] fuel
  modify fun c => { c with handles := hs }
  match ← peek with
  | .documentStart => do
    drop
    match ← peek with
    | .directive _ | .documentStart | .documentEnd | .textEnd => nothing
    | _ => node true false fuel
  | _ => fail

/-- Sees to it that nothing follows a document. Directives are read before what follows is refused,
so a fault among them comes first. -/
def noMore (fuel : Nat) : Compose Unit := do
  dropDocumentEnds fuel
  match ← peek with
  | .textEnd => pure ()
  | _ => do
    let _ ← directives false [] fuel
    fail

/-- Reads the one document of a text, if the text is not empty. -/
def document (fuel : Nat) : Compose (Option NodeId) := do
  match ← peek with
  | .textEnd => pure none
  | .directive _ | .documentStart => do
    let n ← explicitDocument fuel
    noMore fuel
    pure (some n)
  | _ => do
    let n ← node true false fuel
    noMore fuel
    pure (some n)

end Compose

/-- The one document of a text, if the text is not empty: its nodes and the place of the root. No
character has more than four tokens, and no token takes more than four steps. -/
def document (text : String) : YamlResult (Option (NodeId × NodeTable)) :=
  if text.toList.all isAllowed then
    let fuel := 16 * text.length + 16
    let start : Composition :=
      { reading := .start text, nodes := #[], anchors := [], handles := .default }
    match (Compose.document fuel).run start with
    | .error e => .error e
    | .ok (root, c) => .ok (root.map fun n => (n, c.nodes))
  else .error .malformed

end IdentityClaims.Yaml
