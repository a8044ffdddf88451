import RelayReputation.Yaml.Graph
import RelayReputation.Yaml.Members

/-!
# Values of documents

What a document stands for: simple values, lists, mappings, sets, and lists of pairs. A
collection may contain itself; the value then has a loop where the collection comes back.
-/

namespace RelayReputation.Yaml

/-! ### Values -/

inductive Value
  | simple (s : Scalar)
  | list (items : List Value)
  | mapping (entries : List (Scalar × Value))
  | set (items : List Scalar)
  | pairs (entries : List (Value × Value))
  | listLoop
  | mappingLoop
deriving Repr

/-- Whether a value counts as true: nothing, zero and whatever is empty do not. -/
def Value.isTrue : Value → Bool
  | simple s => s.isTrue
  | list items => !items.isEmpty
  | mapping entries => !entries.isEmpty
  | set items => !items.isEmpty
  | pairs entries => !entries.isEmpty
  | listLoop => true
  | mappingLoop => true

def commas (texts : List String) : String := String.intercalate ", " texts

def inBraces (s : String) : String := "\x7b" ++ s ++ "\x7d"

mutual

def Value.shown : Value → String
  | .simple s => s.shown
  | .list items => "[" ++ commas (shownAll items) ++ "]"
  | .mapping entries => inBraces (commas (shownEntries entries))
  | .set items =>
    if items.isEmpty then "set()" else inBraces (commas ((shownOrder items).map Scalar.shown))
  | .pairs entries => "[" ++ commas (shownPairs entries) ++ "]"
  | .listLoop => "[...]"
  | .mappingLoop => inBraces "..."

def shownAll : List Value → List String
  | [] => []
  | v :: vs => v.shown :: shownAll vs

def shownEntries : List (Scalar × Value) → List String
  | [] => []
  | (k, v) :: rest => (k.shown ++ ": " ++ v.shown) :: shownEntries rest

def shownPairs : List (Value × Value) → List String
  | [] => []
  | (a, b) :: rest => ("(" ++ a.shown ++ ", " ++ b.shown ++ ")") :: shownPairs rest

end

mutual

def Value.isShowable : Value → Bool
  | .simple s => s.isShowable
  | .list items => areShowable items
  | .mapping entries => entriesShowable entries
  | .set items => items.all Scalar.isShowable
  | .pairs entries => pairsShowable entries
  | .listLoop => true
  | .mappingLoop => true

def areShowable : List Value → Bool
  | [] => true
  | v :: vs => v.isShowable && areShowable vs

def entriesShowable : List (Scalar × Value) → Bool
  | [] => true
  | (k, v) :: rest => k.isShowable && v.isShowable && entriesShowable rest

def pairsShowable : List (Value × Value) → Bool
  | [] => true
  | (a, b) :: rest => a.isShowable && b.isShowable && pairsShowable rest

end

mutual

def Value.depth : Value → Nat
  | .simple _ => 1
  | .list items => depthAll items + 1
  | .mapping entries => depthEntries entries + 1
  | .set items => if items.isEmpty then 1 else 3
  | .pairs entries => depthPairs entries + 1
  | .listLoop => 1
  | .mappingLoop => 1

def depthAll : List Value → Nat
  | [] => 0
  | v :: vs => max v.depth (depthAll vs)

def depthEntries : List (Scalar × Value) → Nat
  | [] => 0
  | (_, v) :: rest => max v.depth (depthEntries rest)

def depthPairs : List (Value × Value) → Nat
  | [] => 0
  | (a, b) :: rest => max (max a.depth b.depth + 1) (depthPairs rest)

end

def depthLimit : Nat := 990

def Value.showFault? (v : Value) : Option Error :=
  if depthLimit < v.depth then some .tooDeep
  else if v.isShowable then none
  else some .notShowable

/-! ### Building values from a graph -/

/-- What a node has been found to stand for, its parts by number. -/
inductive Content
  | simple (s : Scalar)
  | list (items : List Nat)
  | mapping (entries : List (Scalar × Nat))
  | set (items : List Scalar)
  | pairs (entries : List (Nat × Nat))
deriving Repr

/-- The state of building: the contents found, and the collections still to be filled. -/
structure Building where
  graph : Graph
  found : List (Nat × Content) := []
  pending : List Nat := []

abbrev Build := StateT Building (Except Error)

namespace Build

def fail {α : Type} : Build α := throw .malformed

def emptyContent? : Tag → Option Content
  | .sequence => some (.list [])
  | .mapping => some (.mapping [])
  | .set => some (.set [])
  | .orderedMap => some (.pairs [])
  | .pairs => some (.pairs [])
  | _ => none

def note (i : Nat) (c : Content) : Build Unit :=
  modify fun s => { s with found := (i, c) :: s.found }

/-- Takes up a node: a simple value is found, a collection is to be filled later. -/
def visit (i : Nat) : Build Unit := do
  let s ← get
  if (s.found.lookup i).isSome then return ()
  let tag := (s.graph.node i).tag
  match emptyContent? tag with
  | some c =>
    note i c
    modify fun s => { s with pending := s.pending ++ [i] }
  | none =>
    if [Tag.merge, Tag.default, Tag.unknown].contains tag then fail
    let text ← s.graph.scalarText i
    if tag = .timestamp && !(s.graph.node i).isScalar then throw .timestampMapping
    note i (.simple (← Scalar.read i tag text))

def key (i : Nat) : Build Scalar := do
  visit i
  match (← get).found.lookup i with
  | some (.simple s) => return s
  | _ => fail

/-- Entries with one more; an equal key keeps its place and its form. -/
def insert (entries : List (Scalar × Nat)) (k : Scalar) (v : Nat) : List (Scalar × Nat) :=
  match entries with
  | [] => [(k, v)]
  | (k', v') :: rest => if k'.same k then (k', v) :: rest else (k', v') :: insert rest k v

def entriesOf (built : List (Scalar × Nat)) : List (Nat × Nat) → Build (List (Scalar × Nat))
  | [] => return built
  | (k, v) :: rest => do
    let k ← key k
    visit v
    entriesOf (insert built k v) rest

def visitAll : List Nat → Build Unit
  | [] => return ()
  | i :: rest => do
    visit i
    visitAll rest

def pairsOf : List Nat → Build (List (Nat × Nat))
  | [] => return []
  | i :: rest => do
    match (← get).graph.node i with
    | .mapping _ [(k, v)] =>
      visit k
      visit v
      return (k, v) :: (← pairsOf rest)
    | _ => fail

def flattened (i : Nat) : Build (List (Scalar × Nat)) := do
  let s ← get
  match s.graph.node i with
  | .mapping _ _ =>
    let graph ← s.graph.flatten i
    set { s with graph }
    entriesOf [] (graph.entries i)
  | _ => fail

def fill (i : Nat) : Build Unit := do
  let n := (← get).graph.node i
  match n.tag, n with
  | .sequence, .sequence _ items =>
    visitAll items
    note i (.list items)
  | .mapping, _ => note i (.mapping (← flattened i))
  | .set, _ => note i (.set ((← flattened i).map (·.1)))
  | .orderedMap, .sequence _ items => note i (.pairs (← pairsOf items))
  | .pairs, .sequence _ items => note i (.pairs (← pairsOf items))
  | _, _ => fail

def fillAll : Nat → Build Unit
  | 0 => return ()
  | fuel + 1 => do
    let s ← get
    match s.pending with
    | [] => return ()
    | i :: rest =>
      set { s with pending := rest }
      fill i
      fillAll fuel

def root (i : Nat) : Build Unit := do
  visit i
  fillAll ((← get).graph.size + 1)

end Build

/-! ### Laying values out -/

abbrev Contents := List (Nat × Content)

mutual

/-- The value of a node within the collections in `path`. -/
def layOut (found : Contents) (path : List Nat) (i : Nat) : Nat → Value
  | 0 => .simple .null
  | fuel + 1 =>
    match found.lookup i with
    | none => .simple .null
    | some (.simple s) => .simple s
    | some (.set items) => .set items
    | some (.list items) =>
      if path.contains i then .listLoop
      else .list (layOutAll found (i :: path) items fuel)
    | some (.mapping entries) =>
      if path.contains i then .mappingLoop
      else .mapping (layOutEntries found (i :: path) entries fuel)
    | some (.pairs entries) =>
      if path.contains i then .listLoop
      else .pairs (layOutPairs found (i :: path) entries fuel)

def layOutAll (found : Contents) (path : List Nat) : List Nat → Nat → List Value
  | [], _ => []
  | _, 0 => []
  | i :: rest, fuel + 1 => layOut found path i fuel :: layOutAll found path rest fuel

def layOutEntries (found : Contents) (path : List Nat) :
    List (Scalar × Nat) → Nat → List (Scalar × Value)
  | [], _ => []
  | _, 0 => []
  | (k, i) :: rest, fuel + 1 =>
    (k, layOut found path i fuel) :: layOutEntries found path rest fuel

def layOutPairs (found : Contents) (path : List Nat) :
    List (Nat × Nat) → Nat → List (Value × Value)
  | [], _ => []
  | _, 0 => []
  | (i, j) :: rest, fuel + 1 =>
    (layOut found path i fuel, layOut found path j fuel) :: layOutPairs found path rest fuel

end

def layOutFuel (found : Contents) : Nat :=
  2 * found.foldl (fun n c => n + match c.2 with
    | .simple _ => 1
    | .set _ => 1
    | .list items => items.length + 2
    | .mapping entries => entries.length + 2
    | .pairs entries => entries.length + 2) 0 + 2

/-- The value of a whole document. What the outermost collection holds is laid out each on its
own, so that a loop through the outermost collection goes round once. -/
def layOutRoot (found : Contents) (root : Nat) : Value :=
  let fuel := layOutFuel found
  match found.lookup root with
  | some (.mapping entries) => .mapping (layOutEntries found [] entries fuel)
  | _ => layOut found [] root fuel

def Value.ofNode (n : Node) : Except Error Value := do
  let (graph, root) := Graph.ofNode n
  let ((), s) ← (Build.root root).run { graph }
  return layOutRoot s.found root

end RelayReputation.Yaml
