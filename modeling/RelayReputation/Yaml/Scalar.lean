import RelayReputation.Numeral.Integer
import RelayReputation.Numeral.Layout
import RelayReputation.Yaml.Tag

/-!
# Simple values

The values of scalars: nothing, truth values, numbers, texts, bytes, dates and times. They are
the values that can be keys of a mapping, where numbers are compared by what they are worth.
What is no number differs from everything but itself, so it is known by the node that writes
it; only the notation's own word for it always writes the same.
-/

namespace RelayReputation.Yaml

open RelayReputation.Text RelayReputation.Numeral

inductive Scalar
  | null
  | bool (b : Bool)
  | int (n : Int)
  | float (x : Float)
  /-- What is no number: what the notation has a word for, or else what the node with a number
  stands for. -/
  | undefined (node : Option Nat)
  | text (t : CodePoints)
  | bytes (bs : List UInt8)
  | date (d : Date)
  | moment (m : Moment)
deriving Repr

/-! ### Reading -/

def withoutGroups (t : CodePoints) : CodePoints := t.filter (· ≠ .char '_')

/-- Whether a minus sign leads a text, and the text after its sign. -/
def leadingSign : CodePoints → Bool × CodePoints
  | .char '+' :: t => (false, t)
  | .char '-' :: t => (true, t)
  | t => (false, t)

def sixtiethParts (t : CodePoints) : List CodePoints := pieces (· = .char ':') t

def hasSixtieths (t : CodePoints) : Bool := t.contains (.char ':')

def readBoolean (t : CodePoints) : Except Error Bool :=
  match booleanWords.lookup t.lower.toString with
  | some b => .ok b
  | none => .error (.notBoolean t.lower.quote)

def readBase (base : Nat) (t : CodePoints) : Except Error Int :=
  match readInteger base t.toString with
  | .ok n => .ok n
  | .error (.malformed base _) => .error (.notInteger (.malformed base t.quote))
  | .error fault => .error (.notInteger fault)

def sixtieths (ns : List Int) : Int := ns.foldl (fun sum n => sum * 60 + n) 0

/-- The integer of a text, with the signs for bases two, eight and sixteen. -/
def readTaggedInteger (t : CodePoints) : Except Error Int := do
  let t := withoutGroups t
  if t.isEmpty then throw .emptyNumber
  let (negative, body) := leadingSign t
  let signed (n : Int) : Int := if negative then -n else n
  match body with
  | [.char '0'] => return 0
  | .char '0' :: .char 'b' :: ds => return signed (← readBase 2 ds)
  | .char '0' :: .char 'x' :: ds => return signed (← readBase 16 ds)
  | .char '0' :: _ => return signed (← readBase 8 body)
  | [] => throw .emptyNumber
  | _ =>
    if hasSixtieths body then return signed (sixtieths (← (sixtiethParts body).mapM (readBase 10)))
    else return signed (← readBase 10 body)

def readPart (t : CodePoints) : Except Error Float :=
  match readFloat t.toString with
  | some x => .ok x
  | none => .error (.notReal t.quote)

/-- A sum of real numbers with what follows it, the next of them in units of `place`, each
after it in units sixty times as large. -/
def addSixtieths (sum : Float) (place : Nat) : List Float → Except Error Float
  | [] => .ok sum
  | x :: xs =>
    let unit := (Decimal.mk false place 0).toFloat
    if unit.isInf then .error .beyondDoubles else addSixtieths (sum + x * unit) (place * 60) xs

/-- The sum of real numbers in sixtieths, the last of them whole; the smallest is added
first. -/
def realSixtieths (xs : List Float) : Except Error Float := addSixtieths 0.0 1 xs.reverse

/-- The real number of a text, or nothing if it is the word for what is no number. -/
def readTaggedReal (t : CodePoints) : Except Error (Option Float) := do
  let t := (withoutGroups t).lower
  if t.isEmpty then throw .emptyNumber
  let (negative, body) := leadingSign t
  let signed (x : Float) : Float := if negative then -x else x
  if body = .ofString ".inf" then return some (infinity negative)
  else if body = .ofString ".nan" then return none
  else if hasSixtieths body then
    return some (signed (← realSixtieths (← (sixtiethParts body).mapM readPart)))
  else return some (signed (← readPart body))

/-- The value that a node with the text of a real number stands for. -/
def readFloatAt (node : Nat) (t : CodePoints) : Except Error Scalar := do
  match ← readTaggedReal t with
  | none => return .undefined none
  | some x => return if x.isNaN then .undefined (some node) else .float x

def sixBits? (c : Char) : Option Nat :=
  if 'A' ≤ c && c ≤ 'Z' then some (c.toNat - 65)
  else if 'a' ≤ c && c ≤ 'z' then some (c.toNat - 71)
  else if isAsciiDigit c then some (c.toNat + 4)
  else if c = '+' then some 62
  else if c = '/' then some 63
  else none

/-- The bytes of a text that writes six bits by each character. `place` characters of a group
of four have been read and `carry` bits are left of them; `pads` equals signs came last. -/
def readSixBits (place carry pads : Nat) : List Char → Option (List UInt8)
  | [] => if place = 0 then some [] else none
  | c :: cs =>
    if c = '=' then
      if 2 ≤ place && 4 ≤ place + pads + 1 then some []
      else readSixBits place carry (if 2 ≤ place then pads + 1 else pads) cs
    else
      match sixBits? c with
      | none => readSixBits place carry pads cs
      | some v =>
        match place with
        | 0 => readSixBits 1 v 0 cs
        | 1 => (readSixBits 2 (v % 16) 0 cs).map (UInt8.ofNat (carry * 4 + v / 16) :: ·)
        | 2 => (readSixBits 3 (v % 4) 0 cs).map (UInt8.ofNat (carry * 16 + v / 4) :: ·)
        | _ => (readSixBits 0 0 0 cs).map (UInt8.ofNat (carry * 64 + v) :: ·)

def readBytes (t : CodePoints) : Except Error (List UInt8) :=
  let cs := t.toChars
  if !cs.all (·.toNat < 128) then .error .malformed
  else
    match readSixBits 0 0 0 cs with
    | some bs => .ok bs
    | none => .error .malformed

def readTimestamp (t : CodePoints) : Except Error Scalar :=
  let cs := t.toChars
  match Timestamp.read? (if cs.getLast? = some '\n' then cs.dropLast else cs) with
  | none => .error .notTimestamp
  | some t =>
    match t.value with
    | .ok (.inl d) => .ok (.date d)
    | .ok (.inr m) => .ok (.moment m)
    | .error f => .error (.noSuchTime f)

def Scalar.read (node : Nat) (tag : Tag) (t : CodePoints) : Except Error Scalar :=
  match tag with
  | .null => .ok .null
  | .bool => (readBoolean t).map .bool
  | .int => (readTaggedInteger t).map .int
  | .float => readFloatAt node t
  | .binary => (readBytes t).map .bytes
  | .timestamp => readTimestamp t
  | .text => .ok (.text t)
  | _ => .error .malformed

/-! ### Texts -/

/-- One byte between two `quote`s. -/
def byteChar (quote : Char) (b : UInt8) : List Char :=
  let c := Char.ofNat b.toNat
  if c = quote || c = '\\' then ['\\', c]
  else if c = '\n' then ['\\', 'n']
  else if c = '\r' then ['\\', 'r']
  else if c = '\t' then ['\\', 't']
  else if 0x20 ≤ b && b < 0x7F then [c]
  else '\\' :: 'x' :: hexDigits 2 b.toNat

def bytesText (bs : List UInt8) : String :=
  let q := quoteFor (bs.map fun b => Char.ofNat b.toNat)
  String.ofList ('b' :: q :: bs.flatMap (byteChar q) ++ [q])

def Scalar.shown : Scalar → String
  | null => "None"
  | bool b => if b then "True" else "False"
  | int n => toString n
  | float x => plainLayout.float x
  | undefined _ => plainLayout.float (0.0 / 0.0)
  | text t => t.quote
  | bytes bs => bytesText bs
  | date d => d.shown
  | moment m => m.shown

def Scalar.keyText : Scalar → CodePoints
  | text t => t
  | date d => .ofString d.keyText
  | moment m => .ofString m.keyText
  | v => .ofString v.shown

/-- Whether a simple value can be shown: an integer has a limit on its digits. -/
def Scalar.isShowable : Scalar → Bool
  | int n => Numeral.isShowable n
  | _ => true

/-! ### Comparison -/

def Scalar.integer? : Scalar → Option Int
  | bool b => some (if b then 1 else 0)
  | int n => some n
  | _ => none

def integerOf? (x : Float) : Option Int :=
  match Parts.ofFloat x with
  | .finite b =>
    let magnitude :=
      if 0 ≤ b.exponent then some (b.mantissa <<< b.exponent.toNat)
      else
        let d := 1 <<< (-b.exponent).toNat
        if b.mantissa % d = 0 then some (b.mantissa / d) else none
    magnitude.map fun m => if b.negative then -(m : Int) else m
  | _ => none

/-- Whether two simple values are the same as keys of a mapping. What is no number is the same
as itself only. -/
def Scalar.same : Scalar → Scalar → Bool
  | null, null => true
  | text a, text b => a = b
  | bytes a, bytes b => a = b
  | date a, date b => a = b
  | moment a, moment b => a.same b
  | undefined m, undefined n => m = n
  | float x, float y => x == y
  | float x, v =>
    match integerOf? x, v.integer? with
    | some m, some n => m = n
    | _, _ => false
  | v, float x =>
    match v.integer?, integerOf? x with
    | some m, some n => m = n
    | _, _ => false
  | a, b =>
    match a.integer?, b.integer? with
    | some m, some n => m = n
    | _, _ => false

/-- Whether a simple value counts as true: nothing, zero and empty texts do not. -/
def Scalar.isTrue : Scalar → Bool
  | null => false
  | bool b => b
  | int n => n ≠ 0
  | float x => !(x == 0.0)
  | undefined _ => true
  | text t => !t.isEmpty
  | bytes bs => !bs.isEmpty
  | date _ => true
  | moment _ => true

end RelayReputation.Yaml
