import RelayReputation.Yaml.Token.Mark
import RelayReputation.Yaml.Token.Scalar

/-!
# Reading tokens

A document is read token by token. Whether a token begins a key is only known once the colon
after it is met, so every token has a slot that says what is to go in front of it; a possible
key remembers its slot, and the colon fills it. `tokens` lists the tokens of a document with
those that the slots ask for. A token from which on it is not settled what goes in front is not
listed if a fault comes before the colon could.
-/

namespace RelayReputation.Yaml

/-! ### Slots -/

/-- What goes in front of a token. -/
inductive Lead
  | nothing
  /-- The token begins a key. -/
  | key
  /-- The token begins the first key of a block mapping. -/
  | firstKey
deriving DecidableEq, Repr

/-- A token with what goes in front of it. -/
structure Slot where
  lead : Lead
  token : Token
deriving DecidableEq, Repr

def Slot.tokens (s : Slot) : List Token :=
  match s.lead with
  | .nothing => [s.token]
  | .key => [.key, s.token]
  | .firstKey => [.blockMappingStart, .key, s.token]

/-- A token that may turn out to begin a key. -/
structure PossibleKey where
  slot : Nat
  /-- Whether anything but a key would be a fault here. -/
  required : Bool
  index : Nat
  line : Nat
  column : Nat
deriving Repr

/-- The greatest distance between the beginning of a key and its colon. -/
def keyReach : Nat := 1024

/-- Whether a possible key can no longer be met by a colon: it is on another line or too far
back. -/
def PossibleKey.isStale (k : PossibleKey) (here : Cursor) : Bool :=
  k.line ≠ here.line || keyReach < here.index - k.index

/-! ### The state of reading -/

structure TokenState where
  cursor : Cursor
  slots : Array Slot := #[]
  depth : Nat := 0
  /-- The column of the innermost block, or less than zero outside of blocks. -/
  indent : Int := -1
  /-- The columns of the blocks around it. -/
  outer : List Int := []
  /-- Whether a key may begin here. -/
  keyAllowed : Bool := true
  /-- The possible keys by the number of open brackets. -/
  keys : List (Nat × PossibleKey) := []

/-- The tokens before the first one that may still turn out to begin a key. -/
def TokenState.settled (s : TokenState) : List Token :=
  let waiting := (s.keys.filter (!·.2.isStale s.cursor)).map (·.2.slot)
  (s.slots.toList.take (waiting.foldl min s.slots.size)).flatMap Slot.tokens

abbrev Tokenizing := StateT TokenState (Except Error)

namespace Tokenizing

def fail {α : Type} : Tokenizing α := throw .malformed

def read {α : Type} (r : Reading α) : Tokenizing α := do
  let s ← get
  let (a, cursor) ← r.run s.cursor
  set { s with cursor }
  return a

def emit (t : Token) : Tokenizing Unit :=
  modify fun s => { s with slots := s.slots.push ⟨.nothing, t⟩ }

def allowKey (b : Bool) : Tokenizing Unit := modify fun s => { s with keyAllowed := b }

def inFlow : Tokenizing Bool := return (← get).depth ≠ 0

def unwindTo (column : Int) : Nat → Tokenizing Unit
  | 0 => return ()
  | fuel + 1 => do
    let s ← get
    if s.depth = 0 && column < s.indent then
      set { s with indent := s.outer.head?.getD (-1), outer := s.outer.tail }
      emit .blockEnd
      unwindTo column fuel

def unwind (column : Int) : Tokenizing Unit := do
  unwindTo column ((← get).outer.length + 1)

def openBlock (column : Nat) : Tokenizing Bool := do
  let s ← get
  if s.indent < column then
    set { s with indent := column, outer := s.indent :: s.outer }
    return true
  else return false

/-- Gives up the possible key at the present depth. -/
def dropKey : Tokenizing Unit := do
  let s ← get
  match s.keys.lookup s.depth with
  | some k =>
    if k.required then fail
    else set { s with keys := s.keys.filter (·.1 ≠ s.depth) }
  | none => return ()

/-- Gives up the possible keys that can no longer be met by a colon. -/
def dropStaleKeys : Tokenizing Unit := do
  let s ← get
  if s.keys.any fun k => k.2.isStale s.cursor && k.2.required then fail
  else set { s with keys := s.keys.filter (!·.2.isStale s.cursor) }

def saveKey : Tokenizing Unit := do
  let s ← get
  if s.keyAllowed then
    dropKey
    let c := s.cursor
    let required := s.depth = 0 && s.indent = c.column
    modify fun s =>
      { s with keys := (s.depth, ⟨s.slots.size, required, c.index, c.line, c.column⟩) :: s.keys }

def skipBlanks : Nat → Tokenizing Unit
  | 0 => return ()
  | fuel + 1 => do
    let br ← read do
      modify Cursor.skipComment
      Reading.lineBreak
    if br.isEmpty then return ()
    else
      if !(← inFlow) then allowKey true
      skipBlanks fuel

/-! ### Tokens of each kind -/

def indicator (width : Nat) (t : Token) : Tokenizing Unit := do
  read (Reading.skip width)
  emit t

def topLevel (act : Tokenizing Unit) : Tokenizing Unit := do
  unwind (-1)
  dropKey
  allowKey false
  act

def openBracket (t : Token) : Tokenizing Unit := do
  saveKey
  modify fun s => { s with depth := s.depth + 1 }
  allowKey true
  indicator 1 t

def closeBracket (t : Token) : Tokenizing Unit := do
  dropKey
  modify fun s => { s with depth := s.depth - 1 }
  allowKey false
  indicator 1 t

def flowEntry : Tokenizing Unit := do
  allowKey true
  dropKey
  indicator 1 .flowEntry

/-- Opens a block here if brackets are not open and a key may begin. -/
def openBlockHere (t : Token) : Tokenizing Unit := do
  if !(← inFlow) then
    let s ← get
    if !s.keyAllowed then fail
    if ← openBlock s.cursor.column then emit t

def blockEntry : Tokenizing Unit := do
  openBlockHere .blockSequenceStart
  allowKey true
  dropKey
  indicator 1 .blockEntry

def explicitKey : Tokenizing Unit := do
  openBlockHere .blockMappingStart
  allowKey !(← inFlow)
  dropKey
  indicator 1 .key

/-- The mark of a value. It makes a key of the possible key before it. -/
def value : Tokenizing Unit := do
  let s ← get
  match s.keys.lookup s.depth with
  | some k =>
    set { s with keys := s.keys.filter (·.1 ≠ s.depth) }
    let opened ← if s.depth = 0 then openBlock k.column else pure false
    modify fun s =>
      { s with
        slots := s.slots.modify k.slot fun slot =>
          { slot with lead := if opened then .firstKey else .key } }
    allowKey false
  | none =>
    openBlockHere .blockMappingStart
    allowKey !(← inFlow)
    dropKey
  indicator 1 .value

def node (r : Reading Token) : Tokenizing Unit := do
  saveKey
  allowKey false
  emit (← read r)

def plain : Tokenizing Unit := do
  saveKey
  let s ← get
  let (text, broken) ← read (plainScalar (s.depth ≠ 0) (s.indent + 1))
  allowKey broken
  emit (.scalar (.ofChars text) true)

def quotedToken (double : Bool) : Tokenizing Unit :=
  node do return .scalar (← quotedScalar double) false

def block (folded : Bool) : Tokenizing Unit := do
  allowKey true
  dropKey
  let s ← get
  let text ← read (blockScalar folded s.indent)
  emit (.scalar (.ofChars text) false)

/-- Whether a plain scalar may begin with a character before another. -/
def startsPlain (flow : Bool) (c : Char) (after : Option Char) : Bool :=
  !(endsWord (some c) || c.toNat = 0x60 || "-?:,[]\x7b\x7d#&*!|>'\"%@".toList.contains c) ||
    (!endsWord after && (c = '-' || (!flow && (c = '?' || c = ':'))))

/-- The token at the cursor, which is not at the end of the document. -/
def token (c : Char) : Tokenizing Unit := do
  let s ← get
  let here := s.cursor
  let flow := s.depth ≠ 0
  let apart := endsWord (here.peekAt 1)
  if c = '%' && here.column = 0 then
    topLevel do emit (.directive (← read directive))
  else if here.column = 0 && here.atMark '-' then topLevel (indicator 3 .documentStart)
  else if here.column = 0 && here.atMark '.' then topLevel (indicator 3 .documentEnd)
  else if c = '[' then openBracket .flowSequenceStart
  else if c = '\x7b' then openBracket .flowMappingStart
  else if c = ']' then closeBracket .flowSequenceEnd
  else if c = '\x7d' then closeBracket .flowMappingEnd
  else if c = ',' then flowEntry
  else if c = '-' && apart then blockEntry
  else if c = '?' && (flow || apart) then explicitKey
  else if c = ':' && (flow || apart) then value
  else if c = '*' then node do return .alias (← nodeName)
  else if c = '&' then node do return .anchor (← nodeName)
  else if c = '!' then node tag
  else if c = '|' && !flow then block false
  else if c = '>' && !flow then block true
  else if c = '\'' then quotedToken false
  else if c = '"' then quotedToken true
  else if startsPlain flow c (here.peekAt 1) then plain
  else fail

def finish : Tokenizing Unit := do
  unwind (-1)
  dropKey

/-- Reads the next token, and says whether the document ended instead. -/
def advance : Tokenizing Bool := do
  skipBlanks ((← get).cursor.rest.length + 1)
  dropStaleKeys
  let s ← get
  unwind s.cursor.column
  match s.cursor.peek with
  | none =>
    finish
    return true
  | some c =>
    token c
    return false

end Tokenizing

def TokenState.stream : Nat → TokenState → TokenStream
  | 0, s => ⟨s.settled, some .malformed⟩
  | fuel + 1, s =>
    match Tokenizing.advance.run s with
    | .error fault => ⟨s.settled, some fault⟩
    | .ok (true, s) => ⟨s.slots.toList.flatMap Slot.tokens, none⟩
    | .ok (false, s) => stream fuel s

/-- The tokens of a text, in front of which a byte order mark may stand. `cut` says that the
text goes on where it cannot be read. -/
def tokensOf (cs : List Char) (cut : Bool) : TokenStream :=
  let cs := if cs.head? = some byteOrderMark then cs.tail else cs
  TokenState.stream (cs.length + 1) { cursor := { rest := cs, cut } }

/-! ### Blocks -/

def blockSize : Nat := 4096

/-- The length of the part of a text that can be read: a text is read in blocks, the first two
of them together, and none is read that holds a character which is not allowed. -/
def readableLength (cs : List Char) : Nat :=
  let block := (cs.takeWhile isAllowed).length / blockSize
  if block < 2 then 0 else block * blockSize

/-- The tokens of a document. If it cannot be read to its end, a fault in the part that can be
read comes first. -/
def tokens (cs : List Char) : TokenStream :=
  if cs.all isAllowed then tokensOf cs false
  else
    let readable := tokensOf (cs.take (readableLength cs)) true
    { readable with fault := some (readable.fault.getD .malformed) }

end RelayReputation.Yaml
