import RelayReputation.Yaml.Error
import RelayReputation.Yaml.Token

/-!
# Nodes

The tree of a document as it is written: scalars, sequences and mappings, with the anchors and
tags in front of them, and aliases that refer to anchors. `Node.ofTokens` reads the tree of
the one document that a text may hold. In it every anchor is unique and every alias comes after
its anchor. Of the faults in a text, the one counts that is met first when each token is read
only once it is needed.
-/

namespace RelayReputation.Yaml

open RelayReputation.Text

/-! ### Trees -/

/-- What may stand in front of a node: an anchor and a tag, which is written out in full. -/
structure Heading where
  anchor : Option String := none
  tag : Option String := none
deriving DecidableEq, Repr

inductive Node
  | alias (name : String)
  | scalar (heading : Heading) (text : CodePoints) (plain : Bool)
  | sequence (heading : Heading) (items : List Node)
  | mapping (heading : Heading) (entries : List (Node × Node))
deriving Repr

def Node.empty : Node := .scalar {} [] true

/-! ### Reading -/

abbrev Handles := List (String × String)

def coreTag : String := "tag:yaml.org,2002:"

def defaultHandles : Handles := [("!", "!"), ("!!", coreTag)]

/-- The state of reading a tree: the tokens to come, and the anchors met. -/
structure TreeState where
  rest : TokenStream
  anchors : List String := []

abbrev TokenReading := StateT TreeState (Except Error)

namespace TokenReading

def fail {α : Type} : TokenReading α := throw .malformed

def peek : TokenReading (Option Token) := do
  let stream := (← get).rest
  match stream.tokens.head?, stream.fault with
  | some t, _ => return some t
  | none, some fault => throw fault
  | none, none => return none

def advance (f : List Token → List Token) : TokenReading Unit :=
  modify fun s => { s with rest := { s.rest with tokens := f s.rest.tokens } }

def skip : TokenReading Unit := advance List.tail

def declare (anchor : Option String) : TokenReading Unit := do
  match anchor with
  | some name =>
    if (← get).anchors.contains name then fail
    modify fun s => { s with anchors := name :: s.anchors }
  | none => return ()

def refer (name : String) : TokenReading Unit := do
  if !(← get).anchors.contains name then fail

def expect (t : Token) : TokenReading Unit := do
  if (← peek) = some t then skip else fail

def fullTag (handles : Handles) (handle : Option String) (rest : String) :
    TokenReading String :=
  match handle with
  | none => return rest
  | some h =>
    match handles.lookup h with
    | some expansion => return expansion ++ rest
    | none => fail

def anchor? : TokenReading (Option String) := do
  match ← peek with
  | some (.anchor name) =>
    skip
    return some name
  | _ => return none

def tag? : TokenReading (Option (Option String × String)) := do
  match ← peek with
  | some (.tag handle rest) =>
    skip
    return some (handle, rest)
  | _ => return none

/-- An anchor and a tag in either order. The handle of the tag must be known. -/
def heading (handles : Handles) : TokenReading Heading := do
  let before ← anchor?
  let tag ← tag?
  let after ← if before.isNone && tag.isSome then anchor? else pure none
  let tag ←
    match tag with
    | some (handle, rest) => some <$> fullTag handles handle rest
    | none => pure none
  return ⟨before <|> after, tag⟩

def beginsNode (ends : List Token) : TokenReading Bool := do
  match ← peek with
  | some t => return !ends.contains t
  | none => return true

inductive Place
  | flow
  | block
  | unindented
deriving DecidableEq

mutual

def node (handles : Handles) (place : Place) : Nat → TokenReading Node
  | 0 => fail
  | fuel + 1 => do
    match ← peek with
    | some (.alias name) =>
      skip
      refer name
      return .alias name
    | _ =>
      let h ← heading handles
      let inBlock := place ≠ .flow
      match ← peek with
      | some (.scalar text plain) =>
        skip
        declare h.anchor
        return .scalar h text ((plain && h.tag.isNone) || h.tag = some "!")
      | some .flowSequenceStart =>
        skip
        declare h.anchor
        return .sequence h (← flowItems handles true fuel)
      | some .flowMappingStart =>
        skip
        declare h.anchor
        return .mapping h (← flowEntries handles true fuel)
      | some .blockEntry =>
        if place = .unindented then
          declare h.anchor
          return .sequence h (← unindentedItems handles fuel)
        else orEmpty h
      | some .blockSequenceStart =>
        if inBlock then
          skip
          declare h.anchor
          return .sequence h (← blockItems handles fuel)
        else orEmpty h
      | some .blockMappingStart =>
        if inBlock then
          skip
          declare h.anchor
          return .mapping h (← blockEntries handles fuel)
        else orEmpty h
      | _ => orEmpty h

def blockItems (handles : Handles) : Nat → TokenReading (List Node)
  | 0 => fail
  | fuel + 1 => do
    match ← peek with
    | some .blockEntry =>
      skip
      let item ←
        if ← beginsNode [.blockEntry, .blockEnd] then node handles .block fuel
        else pure Node.empty
      return item :: (← blockItems handles fuel)
    | _ =>
      expect .blockEnd
      return []

/-- The items of a block sequence that ends where its mapping goes on. -/
def unindentedItems (handles : Handles) : Nat → TokenReading (List Node)
  | 0 => fail
  | fuel + 1 => do
    match ← peek with
    | some .blockEntry =>
      skip
      let item ←
        if ← beginsNode [.blockEntry, .key, .value, .blockEnd] then node handles .block fuel
        else pure Node.empty
      return item :: (← unindentedItems handles fuel)
    | _ => return []

def blockEntries (handles : Handles) : Nat → TokenReading (List (Node × Node))
  | 0 => fail
  | fuel + 1 => do
    match ← peek with
    | some .key =>
      skip
      let key ←
        if ← beginsNode [.key, .value, .blockEnd] then node handles .unindented fuel
        else pure Node.empty
      let value ← blockValue handles fuel
      return (key, value) :: (← blockEntries handles fuel)
    | _ =>
      expect .blockEnd
      return []

def blockValue (handles : Handles) : Nat → TokenReading Node
  | 0 => fail
  | fuel + 1 => do
    match ← peek with
    | some .value =>
      skip
      if ← beginsNode [.key, .value, .blockEnd] then node handles .unindented fuel
      else return Node.empty
    | _ => return Node.empty

/-- The items between square brackets up to the closing one. An entry of a mapping may stand
for an item. -/
def flowItems (handles : Handles) (first : Bool) : Nat → TokenReading (List Node)
  | 0 => fail
  | fuel + 1 => do
    if (← peek) = some .flowSequenceEnd then
      skip
      return []
    if !first then expect .flowEntry
    match ← peek with
    | some .key =>
      skip
      let key ←
        if ← beginsNode [.value, .flowEntry, .flowSequenceEnd] then node handles .flow fuel
        else pure Node.empty
      let value ← flowValue handles .flowSequenceEnd fuel
      return .mapping {} [(key, value)] :: (← flowItems handles false fuel)
    | some .flowSequenceEnd =>
      skip
      return []
    | _ =>
      let item ← node handles .flow fuel
      return item :: (← flowItems handles false fuel)

/-- The entries between curly brackets up to the closing one. A node without a value is a key
whose value is empty. -/
def flowEntries (handles : Handles) (first : Bool) : Nat → TokenReading (List (Node × Node))
  | 0 => fail
  | fuel + 1 => do
    if (← peek) = some .flowMappingEnd then
      skip
      return []
    if !first then expect .flowEntry
    match ← peek with
    | some .key =>
      skip
      let key ←
        if ← beginsNode [.value, .flowEntry, .flowMappingEnd] then node handles .flow fuel
        else pure Node.empty
      let value ← flowValue handles .flowMappingEnd fuel
      return (key, value) :: (← flowEntries handles false fuel)
    | some .flowMappingEnd =>
      skip
      return []
    | _ =>
      let key ← node handles .flow fuel
      return (key, Node.empty) :: (← flowEntries handles false fuel)

def flowValue (handles : Handles) (closing : Token) : Nat → TokenReading Node
  | 0 => fail
  | fuel + 1 => do
    match ← peek with
    | some .value =>
      skip
      if ← beginsNode [.flowEntry, closing] then node handles .flow fuel
      else return Node.empty
    | _ => return Node.empty

def orEmpty (h : Heading) : TokenReading Node := do
  if h.anchor.isNone && h.tag.isNone then fail
  declare h.anchor
  return .scalar h [] (h.tag.isNone || h.tag = some "!")

end

/-! ### Documents -/

/-- The directives at the head of a document, as the version and the handles they define. -/
def directives (version : Bool) (handles : Handles) : Nat → TokenReading Handles
  | 0 => fail
  | fuel + 1 => do
    match ← peek with
    | some (.directive d) =>
      skip
      match d with
      | .version major _ =>
        if version || major ≠ 1 then fail else directives true handles fuel
      | .tagHandle handle expansion =>
        if (handles.lookup handle).isSome then fail
        else directives version (handles ++ [(handle, expansion)]) fuel
      | .other => directives version handles fuel
    | _ => return handles ++ defaultHandles

def skipEnds : TokenReading Unit := advance (·.dropWhile (· = .documentEnd))

def content (handles : Handles) (fuel : Nat) : TokenReading Node := do
  match ← peek with
  | some (.directive _) => return Node.empty
  | some .documentStart => return Node.empty
  | some .documentEnd => return Node.empty
  | none => return Node.empty
  | _ => node handles .block fuel

def markedDocument (fuel : Nat) : TokenReading (Option Node) := do
  skipEnds
  if (← peek).isNone then return none
  let handles ← directives false [] fuel
  expect .documentStart
  return some (← content handles fuel)

/-- The first document, which need not be set off, if there is one. -/
def firstDocument (fuel : Nat) : TokenReading (Option Node) := do
  match ← peek with
  | some (.directive _) => markedDocument fuel
  | some .documentStart => markedDocument fuel
  | none => return none
  | _ => return some (← node defaultHandles .block fuel)

/-- The end of the text after a document. Before another document is refused, its directives
are read. -/
def noMore (fuel : Nat) : TokenReading Unit := do
  skipEnds
  if (← peek).isSome then
    let _ ← directives false [] fuel
    fail

def onlyDocument (fuel : Nat) : TokenReading (Option Node) := do
  let document ← firstDocument fuel
  if document.isSome then noMore fuel
  return document

end TokenReading

def Node.ofTokens (stream : TokenStream) : Except Error (Option Node) := do
  let fuel := 4 * stream.tokens.length + 8
  let (document, _) ← (TokenReading.onlyDocument fuel).run { rest := stream }
  return document

end RelayReputation.Yaml
