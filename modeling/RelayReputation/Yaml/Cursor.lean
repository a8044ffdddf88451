import RelayReputation.Yaml.Error

/-!
# Documents as characters

The characters that a document may hold, the classes of characters that its notation is built
from, and a cursor that goes through a document and knows its line and column.
-/

namespace RelayReputation.Yaml

/-! ### Characters -/

def isAllowed (c : Char) : Bool :=
  let n := c.toNat
  n == 0x09 || n == 0x0A || n == 0x0D || (0x20 ≤ n && n ≤ 0x7E) || n == 0x85 ||
    (0xA0 ≤ n && n ≤ 0xD7FF) || (0xE000 ≤ n && n ≤ 0xFFFD) || 0x10000 ≤ n

def byteOrderMark : Char := '\ufeff'

def isBreak (c : Char) : Bool := c = '\n' || c = '\u0085' || c = '\u2028' || c = '\u2029'

def endsLine (c : Option Char) : Bool := c.all isBreak

def endsField (c : Option Char) : Bool := c.all fun c => c = ' ' || isBreak c

def endsWord (c : Option Char) : Bool := c.all fun c => c = ' ' || c = '\t' || isBreak c

def isNameChar (c : Char) : Bool := c.isAlphanum || c = '-' || c = '_'

def lineFeeds : List Char → List Char
  | [] => []
  | '\r' :: '\n' :: cs => '\n' :: lineFeeds cs
  | '\r' :: cs => '\n' :: lineFeeds cs
  | c :: cs => c :: lineFeeds cs

/-! ### The cursor -/

/-- A place in a document. -/
structure Cursor where
  rest : List Char
  /-- Whether the text goes on after `rest` where it cannot be read. -/
  cut : Bool := false
  index : Nat := 0
  line : Nat := 0
  column : Nat := 0
deriving Repr

namespace Cursor

def peek (c : Cursor) : Option Char := c.rest.head?

/-- Whether the next character cannot be read. -/
def atCut (c : Cursor) : Bool := c.cut && c.rest.isEmpty

def peekAt (c : Cursor) (n : Nat) : Option Char := c.rest[n]?

def next (c : Cursor) : Cursor :=
  match c.rest with
  | [] => c
  | ch :: rest =>
    if isBreak ch then ⟨rest, c.cut, c.index + 1, c.line + 1, 0⟩
    else
      let column := if ch = byteOrderMark then c.column else c.column + 1
      ⟨rest, c.cut, c.index + 1, c.line, column⟩

def skip : Nat → Cursor → Cursor
  | 0, c => c
  | n + 1, c => skip n c.next

/-- The longest run of characters that satisfy `p`. -/
def run (c : Cursor) (p : Char → Bool) : List Char := c.rest.takeWhile p

/-- The place after the longest run of characters that satisfy `p`. -/
def skipRun (c : Cursor) (p : Char → Bool) : Cursor := c.skip (c.run p).length

/-- A line end as it counts in a text, and the place after it; nothing if there is none. -/
def lineBreak (c : Cursor) : List Char × Cursor :=
  match c.peek with
  | some ch =>
    if ch = '\n' || ch = '\u0085' then (['\n'], c.next)
    else if isBreak ch then ([ch], c.next)
    else ([], c)
  | none => ([], c)

/-- Whether three like characters stand here as a word. -/
def atMark (c : Cursor) (ch : Char) : Bool :=
  c.rest.take 3 = [ch, ch, ch] && endsWord (c.peekAt 3)

def atDocumentMark (c : Cursor) : Bool := c.atMark '-' || c.atMark '.'

def skipComment (c : Cursor) : Cursor :=
  let c := c.skipRun (· = ' ')
  if c.peek = some '#' then c.skipRun (!isBreak ·) else c

end Cursor

/-! ### Reading with a cursor -/

abbrev Reading := StateT Cursor (Except Error)

namespace Reading

def fail {α : Type} : Reading α := throw .malformed

def ensure (b : Bool) : Reading Unit := if b then pure () else fail

def peek : Reading (Option Char) := return (← get).peek

def skip (n : Nat) : Reading Unit := modify (·.skip n)

/-- Takes the longest run of characters that satisfy `p`. -/
def take (p : Char → Bool) : Reading (List Char) := do
  let run := (← get).run p
  skip run.length
  return run

def lineBreak : Reading (List Char) := do
  let (br, c) := (← get).lineBreak
  set c
  return br

/-- The most steps that a reading from here can take. -/
def fuel : Reading Nat := return (← get).rest.length + 1

end Reading

end RelayReputation.Yaml
