import RelayReputation.Yaml.Node
import RelayReputation.Yaml.Tag

/-!
# Documents as graphs

Aliases make a document a graph, which may even have cycles. The nodes are numbered; each has
the kind of value it stands for. Entries that a mapping takes over from others are worked in
by `flatten`.
-/

namespace RelayReputation.Yaml

open RelayReputation.Text

/-! ### Graphs -/

/-- A node whose parts are given by number. -/
inductive GraphNode
  | scalar (tag : Tag) (text : CodePoints)
  | sequence (tag : Tag) (items : List Nat)
  | mapping (tag : Tag) (entries : List (Nat × Nat))
deriving DecidableEq, Repr

def GraphNode.tag : GraphNode → Tag
  | scalar tag _ => tag
  | sequence tag _ => tag
  | mapping tag _ => tag

def GraphNode.isScalar : GraphNode → Bool
  | scalar _ _ => true
  | _ => false

abbrev Graph := Array GraphNode

namespace Graph

def nothing : GraphNode := .scalar .null []

def node (g : Graph) (i : Nat) : GraphNode := g[i]?.getD nothing

def entries (g : Graph) (i : Nat) : List (Nat × Nat) :=
  match g.node i with
  | .mapping _ es => es
  | _ => []

def setEntries (g : Graph) (i : Nat) (es : List (Nat × Nat)) : Graph :=
  match g.node i with
  | .mapping tag _ => g.setIfInBounds i (.mapping tag es)
  | _ => g

/-! ### From trees to graphs -/

/-- The state of numbering nodes: those that are numbered, and those that have anchors. -/
structure Numbering where
  graph : Graph := #[]
  anchors : List (String × Nat) := []

abbrev Composing := StateM Numbering

def add (n : GraphNode) : Composing Nat := do
  let s ← get
  set { s with graph := s.graph.push n }
  return s.graph.size

/-- Notes the anchor of a node. -/
def anchor (h : Heading) (i : Nat) : Composing Unit :=
  match h.anchor with
  | some name => modify fun s => { s with anchors := (name, i) :: s.anchors }
  | none => return ()

def headingTag (h : Heading) (usual : Tag) : Tag :=
  match h.tag with
  | none => usual
  | some "!" => usual
  | some tag => Tag.ofText tag

mutual

/-- Numbers a node and its parts. An alias has the number of its anchor, which comes before
it. -/
def compose : Node → Composing Nat
  | .alias name => do
    let s ← get
    return (s.anchors.lookup name).getD s.graph.size
  | .scalar h text plain => do
    let tag := if plain then impliedTag text else headingTag h .text
    let i ← add (.scalar tag text)
    anchor h i
    return i
  | .sequence h items => do
    let tag := headingTag h .sequence
    let i ← add (.sequence tag [])
    anchor h i
    let items ← composeAll items
    modify fun s => { s with graph := s.graph.setIfInBounds i (.sequence tag items) }
    return i
  | .mapping h entries => do
    let tag := headingTag h .mapping
    let i ← add (.mapping tag [])
    anchor h i
    let entries ← composePairs entries
    modify fun s => { s with graph := s.graph.setIfInBounds i (.mapping tag entries) }
    return i

def composeAll : List Node → Composing (List Nat)
  | [] => return []
  | n :: ns => do
    let i ← compose n
    return i :: (← composeAll ns)

def composePairs : List (Node × Node) → Composing (List (Nat × Nat))
  | [] => return []
  | (k, v) :: rest => do
    let i ← compose k
    let j ← compose v
    return (i, j) :: (← composePairs rest)

end

def ofNode (n : Node) : Graph × Nat :=
  let (root, s) := (compose n).run {}
  (s.graph, root)

/-! ### Entries taken over -/

abbrev Flattening := StateT Graph (Except Error)

/-- The graph with the mark of a default entry read as a text. -/
def readAsText (g : Graph) (i : Nat) : Graph :=
  match g.node i with
  | .scalar _ text => g.setIfInBounds i (.scalar .text text)
  | .sequence _ items => g.setIfInBounds i (.sequence .text items)
  | .mapping _ entries => g.setIfInBounds i (.mapping .text entries)

/-- The first of the given entries that takes over others: its place, if the given entries begin
at `place`, and what it takes over. The marks of default entries before it are read as texts. -/
def nextMerge (place : Nat) : List (Nat × Nat) → Flattening (Option (Nat × Nat))
  | [] => return none
  | (k, v) :: rest => do
    match ((← get).node k).tag with
    | .merge => return some (place, v)
    | .default =>
      modify (readAsText · k)
      nextMerge (place + 1) rest
    | _ => nextMerge (place + 1) rest

/-- The entries that are taken over from a mapping or from several, the last mapping first. `whole`
gives the entries of a mapping. -/
def takenFrom (whole : Nat → Flattening (List (Nat × Nat))) (v : Nat) :
    Flattening (List (Nat × Nat)) := do
  match (← get).node v with
  | .mapping _ _ => whole v
  | .sequence _ items =>
    let parts ← items.mapM fun v => do
      match (← get).node v with
      | .mapping _ _ => whole v
      | _ => throw .malformed
    return parts.reverse.flatten
  | .scalar _ _ => throw .malformed

/-- Puts taken entries before a mapping's own, and gives them all. -/
def putBefore (i : Nat) (taken : List (Nat × Nat)) : Flattening (List (Nat × Nat)) := do
  modify fun g => g.setEntries i (taken ++ g.entries i)
  return (← get).entries i

/-- The most nodes that are gone through one after the other in search of a text, or one within
the other to take over their entries. -/
def chainLimit : Nat := 980

/-- The entries that a mapping takes over, by its entries from a place on; `taken` are those taken
over so far. An entry that takes over others is removed first, so that the mapping may take
over itself. `depth` more mappings may be gone through one within the other. -/
def takenOver (depth i place : Nat) (taken : List (Nat × Nat)) :
    Nat → Flattening (List (Nat × Nat))
  | 0 => return taken
  | fuel + 1 => do
    match ← nextMerge place (((← get).entries i).drop place) with
    | none => return taken
    | some (place, v) =>
      modify fun g => g.setEntries i ((g.entries i).eraseIdx place)
      let whole (v : Nat) : Flattening (List (Nat × Nat)) := do
        if depth = 0 then throw .mergesTooDeep
        putBefore v (← takenOver (depth - 1) v 0 [] fuel)
      takenOver depth i place (taken ++ (← takenFrom whole v)) fuel

/-- The number of entries of a graph that take over others. Each is worked in once, and none is
taken over itself, so there are no more steps than that. -/
def mergeCount (g : Graph) : Nat :=
  g.foldl (fun n node => n + match node with
    | .mapping _ entries => (entries.filter fun e => (g.node e.1).tag = .merge).length
    | _ => 0) 0

/-- The graph with the entries that a mapping takes over before its own. -/
def flatten (g : Graph) (i : Nat) : Except Error Graph := do
  let (_, g) ← (do
    putBefore i (← takenOver chainLimit i 0 [] (g.mergeCount + 1)) : Flattening _).run g
  return g

/-! ### Texts -/

def textWithin (g : Graph) (i : Nat) : Nat → Except Error CodePoints
  | 0 => .error .endless
  | limit + 1 =>
    match g.node i with
    | .scalar _ text => .ok text
    | .sequence _ _ => .error .malformed
    | .mapping _ entries =>
      match entries.find? fun e => (g.node e.1).tag = .default with
      | some (_, v) => textWithin g v limit
      | none => .error .malformed

/-- The text of a scalar; the default entry of a mapping stands for the mapping. A mapping that
stands for itself has none, nor has one at the head of too long a chain. -/
def scalarText (g : Graph) (i : Nat) : Except Error CodePoints := g.textWithin i chainLimit

end Graph

end RelayReputation.Yaml
