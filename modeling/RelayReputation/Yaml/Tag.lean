import RelayReputation.Numeral.Decimal
import RelayReputation.Yaml.Node
import RelayReputation.Yaml.Timestamp

/-!
# Tags

The kinds of value that a node can stand for, and the kind of a plain scalar, which follows
from its text.
-/

namespace RelayReputation.Yaml

open RelayReputation.Text

/-! ### Kinds -/

inductive Tag
  | null
  | bool
  | int
  | float
  | binary
  | timestamp
  | orderedMap
  | pairs
  | set
  | text
  | sequence
  | mapping
  | merge
  | default
  | unknown
deriving DecidableEq, Repr

def tagNames : List (String × Tag) := [
  ("null", .null), ("bool", .bool), ("int", .int), ("float", .float), ("binary", .binary),
  ("timestamp", .timestamp), ("omap", .orderedMap), ("pairs", .pairs), ("set", .set),
  ("str", .text), ("seq", .sequence), ("map", .mapping), ("merge", .merge),
  ("value", .default)]

def Tag.ofText (tag : String) : Tag :=
  match tagNames.find? fun n => coreTag ++ n.1 = tag with
  | some n => n.2
  | none => .unknown

/-! ### Plain scalars -/

def booleanWords : List (String × Bool) :=
  [("yes", true), ("no", false), ("true", true), ("false", false), ("on", true), ("off", false)]

def casings (word : String) : List String := [word, word.capitalize, word.map Char.toUpper]

def isBoolean (s : String) : Bool := booleanWords.any fun w => (casings w.1).contains s

def isNull (s : String) : Bool := s = "" || s = "~" || (casings "null").contains s

def isGrouped (c : Char) : Bool := isAsciiDigit c || c = '_'

def unsigned (cs : List Char) : List Char := (Numeral.splitSign cs).2

def isSignedExponent : List Char → Bool
  | [] => true
  | e :: s :: ds =>
    (e = 'e' || e = 'E') && (s = '+' || s = '-') && !ds.isEmpty && ds.all isAsciiDigit
  | _ => false

def isSixtieth : List Char → Bool
  | [d] => isAsciiDigit d
  | [t, d] => '0' ≤ t && t ≤ '5' && isAsciiDigit d
  | _ => false

/-- Whether a text is a chain of sixtieths, each after a colon, of which there must be one. -/
def areSixtieths (cs : List Char) : Bool :=
  match pieces (· = ':') cs with
  | [] :: first :: rest => (first :: rest).all isSixtieth
  | _ => false

def isPointed (cs : List Char) : Bool :=
  cs.head?.any isAsciiDigit &&
    match cs.dropWhile isGrouped with
    | '.' :: rest => isSignedExponent (rest.dropWhile isGrouped)
    | _ => false

def isFraction : List Char → Bool
  | '.' :: d :: cs => isAsciiDigit d && isSignedExponent (cs.dropWhile isGrouped)
  | _ => false

/-- Whether an unsigned text is a chain of sixtieths with a fraction. -/
def isSexagesimalReal (cs : List Char) : Bool :=
  cs.head?.any isAsciiDigit &&
    let rest := cs.dropWhile isGrouped
    areSixtieths (rest.takeWhile (· ≠ '.')) &&
      match rest.dropWhile (· ≠ '.') with
      | '.' :: fraction => fraction.all isGrouped
      | _ => false

def isReal (cs : List Char) : Bool :=
  let body := unsigned cs
  isPointed body || isFraction cs || isSexagesimalReal body ||
    [".inf", ".Inf", ".INF"].contains (String.ofList body) ||
    [".nan", ".NaN", ".NAN"].contains (String.ofList cs)

/-- Whether a text is digits of a kind, of which there must be one. -/
def areDigits (p : Char → Bool) (cs : List Char) : Bool :=
  !cs.isEmpty && cs.all fun c => p c || c = '_'

def isNatural : List Char → Bool
  | ['0'] => true
  | '0' :: 'b' :: cs => areDigits (fun c => c = '0' || c = '1') cs
  | '0' :: 'x' :: cs => areDigits isHexDigit cs
  | '0' :: cs => areDigits (fun c => '0' ≤ c && c ≤ '7') cs
  | c :: cs =>
    isAsciiDigit c &&
      let rest := cs.dropWhile isGrouped
      rest.isEmpty || areSixtieths rest
  | [] => false

/-- The kind of a plain scalar. A line feed at the end of the text does not count, unless it is
the whole text. -/
def plainTag (text : String) : Tag :=
  let cs := text.toList
  let cs := if cs.getLast? = some '\n' && cs ≠ ['\n'] then cs.dropLast else cs
  let s := String.ofList cs
  if isBoolean s then .bool
  else if isReal cs then .float
  else if isNatural (unsigned cs) then .int
  else if s = "<<" then .merge
  else if isNull s then .null
  else if isTimestamp cs then .timestamp
  else if s = "=" then .default
  else if s = "!" || s = "&" || s = "*" then .unknown
  else .text

/-- The kind of a plain scalar that may hold surrogates, which no kind but text allows. -/
def impliedTag (t : CodePoints) : Tag := plainTag t.toString

end RelayReputation.Yaml
