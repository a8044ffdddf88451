import RelayReputation.Keyed
import RelayReputation.Text.CodePoint
import RelayReputation.Yaml.Cursor
import RelayReputation.Yaml.Tag

/-!
# Writing switches

The document that a map from texts to truth values is written as: a block mapping in ascending
order of its keys, in ASCII; what is not ASCII, and so every surrogate, is escaped between
double quotes. Short keys on one line stand before a colon; other keys have a
mark of their own and are wrapped at spaces beyond a line width. Keys are plain where reading
them back gives the same text, and quoted otherwise.
-/

namespace RelayReputation.Yaml

open RelayReputation.Text

/-! ### How a key is written -/

def isPlainAscii (c : Char) : Bool := ' ' ≤ c && c ≤ '~'

def isSpecial (c : Char) : Bool := !(isPlainAscii c || c = '\n')

/-- Whether two neighbours satisfy a relation somewhere in a text. -/
def hasPair (p : Char → Char → Bool) : List Char → Bool
  | a :: b :: cs => p a b || hasPair p (b :: cs)
  | _ => false

def openers : List Char := "#,[]\x7b\x7d&*!|>'\"%@\x60".toList

def beginsAsMark (cs : List Char) : Bool :=
  ['-', '-', '-'].isPrefixOf cs || ['.', '.', '.'].isPrefixOf cs ||
    match cs with
    | c :: rest => openers.contains c || ((c = '?' || c = ':' || c = '-') && endsWord rest.head?)
    | [] => false

/-- Whether a mark stands within a text: a colon before a blank or at the end, or a number
sign after a blank. -/
def holdsMark (cs : List Char) : Bool :=
  (cs.drop 1).getLast? = some ':' ||
    hasPair (fun a b => a = ':' && endsWord (some b)) (cs.drop 1) ||
    hasPair (fun a b => endsWord (some a) && b = '#') cs

def isPadded (cs : List Char) : Bool :=
  let blank (c : Char) : Bool := c = ' ' || isBreak c
  cs.head?.any blank || cs.getLast?.any blank

def canBePlain (cs : List Char) : Bool :=
  plainTag (String.ofList cs) = .text && cs.all isPlainAscii && !isPadded cs &&
    !beginsAsMark cs && !holdsMark cs

def canBeSingle (cs : List Char) : Bool :=
  !cs.any isSpecial && !hasPair (fun a b => isBreak a && b = ' ') cs &&
    !hasPair (fun a b => a = ' ' && isBreak b) cs

inductive Style
  | plain
  | single
  | double
deriving DecidableEq, Repr

def Style.of (cs : List Char) : Style :=
  if canBePlain cs then .plain else if canBeSingle cs then .single else .double

/-- The greatest number of characters of a key that stands before its colon. -/
def simpleKeyLimit : Nat := 122

def isSimpleKey (cs : List Char) : Bool :=
  !cs.isEmpty && !cs.any isBreak && cs.length ≤ simpleKeyLimit

/-! ### Wrapping -/

def lineWidth : Nat := 80

/-- A new line of a wrapped key, and the column after its indentation. -/
def newLine : List Char := ['\n', ' ', ' ']

def wrapColumn : Nat := 2

/-- A text without escapes, wrapped at lone spaces; quotes are doubled on demand. `column` is
where it goes on, and `last` the character before it. -/
def wrapped (doubling wrap : Bool) (column : Nat) (last : Option Char) :
    List Char → List Char
  | [] => []
  | c :: cs =>
    if c = ' ' then
      let lone := last.any (· ≠ ' ') && cs.head?.any (· ≠ ' ')
      if wrap && lone && lineWidth < column then
        newLine ++ wrapped doubling wrap wrapColumn (some c) cs
      else c :: wrapped doubling wrap (column + 1) (some c) cs
    else if c = '\n' then
      let before := if last = some '\n' then [] else ['\n']
      let after := if cs.head? = some '\n' then [] else [' ', ' ']
      before ++ c :: after ++ wrapped doubling wrap wrapColumn (some c) cs
    else if doubling && c = '\'' then
      c :: c :: wrapped doubling wrap (column + 2) (some c) cs
    else c :: wrapped doubling wrap (column + 1) (some c) cs

def escapeLetters : List (Char × Char) := [
  ('\x00', '0'), ('\x07', 'a'), ('\x08', 'b'), ('\t', 't'), ('\n', 'n'), ('\x0b', 'v'),
  ('\x0c', 'f'), ('\r', 'r'), ('\x1b', 'e'), ('"', '"'), ('\\', '\\'), ('\u0085', 'N'),
  ('\u00a0', '_'), ('\u2028', 'L'), ('\u2029', 'P')]

def upperHex (width n : Nat) : List Char := (hexDigits width n).map Char.toUpper

/-- The escape for a code point between double quotes, if it needs one. -/
def escapeOf? (p : CodePoint) : Option (List Char) :=
  let c := p.toChar
  if isPlainAscii c && c ≠ '"' && c ≠ '\\' then none
  else
    match escapeLetters.lookup c with
    | some l => some ['\\', l]
    | none =>
      let n := p.number
      if n ≤ 0xFF then some ('\\' :: 'x' :: upperHex 2 n)
      else if n ≤ 0xFFFF then some ('\\' :: 'u' :: upperHex 4 n)
      else some ('\\' :: 'U' :: upperHex 8 n)

/-- A line end between double quotes that does not count, before a text that goes on with
`next`, and the column after it. -/
def escapedBreak (next : Option CodePoint) : List Char × Nat :=
  if next = some (.char ' ') then ('\\' :: newLine ++ ['\\'], wrapColumn + 1)
  else ('\\' :: newLine, wrapColumn)

/-- A text between double quotes, wrapped at spaces and around escapes. `column` is where it
goes on; `first` says that nothing came before it, and `fresh` that an escape did. -/
def escaped (wrap : Bool) (column : Nat) (first fresh : Bool) : CodePoints → List Char
  | [] => []
  | p :: ps =>
    let inside := wrap && !first && !ps.isEmpty
    match escapeOf? p with
    | some e =>
      let column := column + e.length
      if inside && lineWidth + 1 < column then
        let (br, column) := escapedBreak ps.head?
        e ++ br ++ escaped wrap column false true ps
      else e ++ escaped wrap column false true ps
    | none =>
      if inside && (p = .char ' ' || fresh) && lineWidth < column then
        let (br, column) := escapedBreak (some p)
        br ++ p.toChar :: escaped wrap (column + 1) false false ps
      else p.toChar :: escaped wrap (column + 1) false false ps

/-! ### Whole documents -/

def keyChars (wrap : Bool) (column : Nat) (key : CodePoints) : List Char :=
  let cs := key.toChars
  match Style.of cs with
  | .plain => wrapped false wrap column none cs
  | .single => '\'' :: wrapped true wrap (column + 1) none cs ++ ['\'']
  | .double => '"' :: escaped wrap (column + 1) true false key ++ ['"']

def switchText (b : Bool) : String := if b then "true" else "false"

def entryText (key : CodePoints) (b : Bool) : String :=
  if isSimpleKey key.toChars then
    String.ofList (keyChars false 0 key) ++ ": " ++ switchText b ++ "\n"
  else "? " ++ String.ofList (keyChars true 2 key) ++ "\n: " ++ switchText b ++ "\n"

def renderSwitches (m : Keyed CodePoints Bool) : String :=
  if m.isEmpty then "\x7b\x7d\n"
  else String.join (m.sorted.map fun e => entryText e.1 e.2)

end RelayReputation.Yaml
