import RelayReputation.Text.CodePoint
import RelayReputation.Text.Digit
import RelayReputation.Yaml.Cursor

/-!
# Scalars of a document

The texts of plain, quoted and block scalars. In plain and quoted scalars one line end counts
as a space and further ones as they are; in block scalars the indentation is left out.
-/

namespace RelayReputation.Yaml

open RelayReputation.Text

/-! ### Plain scalars -/

def isFlowMark (c : Char) : Bool := c = ',' || c = '[' || c = ']' || c = '{' || c = '}'

def plainPart (flow : Bool) : List Char → List Char
  | [] => []
  | c :: cs =>
    if endsWord (some c) || (flow && (isFlowMark c || c = '?')) then []
    else if c = ':' && (endsWord cs.head? || (flow && cs.head?.any isFlowMark)) then []
    else c :: plainPart flow cs

/-- The empty lines and indentation within a plain scalar; nothing if a document ends. -/
def plainBreaks : Nat → Reading (Option (List Char))
  | 0 => return some []
  | fuel + 1 => do
    let _ ← Reading.take (· = ' ')
    let br ← Reading.lineBreak
    if br.isEmpty then return some []
    else if (← get).atDocumentMark then return none
    else return (← plainBreaks fuel).map (br ++ ·)

/-- What stands between two parts of a plain scalar, and whether a line ended. Nothing is
returned if a document ends. -/
def plainGap : Reading (Option (List Char) × Bool) := do
  let blanks ← Reading.take (· = ' ')
  let br ← Reading.lineBreak
  if br.isEmpty then return (some blanks, false)
  else if (← get).atDocumentMark then return (none, true)
  else
    match ← plainBreaks (← Reading.fuel) with
    | none => return (none, true)
    | some breaks =>
      let first := if br ≠ ['\n'] then br else if breaks.isEmpty then [' '] else []
      return (some (first ++ breaks), true)

/-- A plain scalar of which `gap` has been read after the part before. The column of a
continuation line must not be less than `indent`. It is returned whether a line ended last. -/
def plainFrom (flow : Bool) (indent : Int) :
    Nat → List Char → Bool → Reading (List Char × Bool)
  | 0, _, broken => return ([], broken)
  | fuel + 1, gap, broken => do
    if (← Reading.peek) = some '#' then return ([], broken)
    let part := plainPart flow (← get).rest
    if part.isEmpty then return ([], broken)
    Reading.skip part.length
    match ← plainGap with
    | (none, broken) => return (gap ++ part, broken)
    | (some next, broken) =>
      if next.isEmpty || (!flow && (← get).column < indent) then return (gap ++ part, broken)
      else
        let (text, broken) ← plainFrom flow indent fuel next broken
        return (gap ++ part ++ text, broken)

def plainScalar (flow : Bool) (indent : Int) : Reading (List Char × Bool) := do
  plainFrom flow indent (← Reading.fuel) [] false

/-! ### Quoted scalars -/

def escapedChar? : Char → Option Char
  | '0' => some '\x00'
  | 'a' => some '\x07'
  | 'b' => some '\x08'
  | 't' => some '\t'
  | '\t' => some '\t'
  | 'n' => some '\n'
  | 'v' => some '\x0b'
  | 'f' => some '\x0c'
  | 'r' => some '\r'
  | 'e' => some '\x1b'
  | ' ' => some ' '
  | '"' => some '"'
  | '\\' => some '\\'
  | '/' => some '/'
  | 'N' => some '\u0085'
  | '_' => some '\u00a0'
  | 'L' => some '\u2028'
  | 'P' => some '\u2029'
  | _ => none

def escapeWidth? : Char → Option Nat
  | 'x' => some 2
  | 'u' => some 4
  | 'U' => some 8
  | _ => none

def codePointOf (n : Nat) : Reading CodePoint :=
  if 0x80000000 ≤ n then throw .beyondIntegers
  else
    match CodePoint.ofNat? n with
    | some p => return p
    | none => throw .beyondCharacters

def quotedBreaks : Nat → Reading (List Char)
  | 0 => return []
  | fuel + 1 => do
    Reading.ensure !(← get).atDocumentMark
    let _ ← Reading.take fun c => c = ' ' || c = '\t'
    let br ← Reading.lineBreak
    if br.isEmpty then return [] else return br ++ (← quotedBreaks fuel)

def escape : Reading CodePoints := do
  Reading.skip 1
  match ← Reading.peek with
  | none => Reading.fail
  | some c =>
    match escapedChar? c, escapeWidth? c with
    | some e, _ =>
      Reading.skip 1
      return [.char e]
    | none, some width =>
      Reading.skip 1
      let digits := (← get).rest.take width
      Reading.ensure (digits.length = width && digits.all isHexDigit)
      Reading.skip width
      return [← codePointOf (ofDigits 16 digits)]
    | none, none =>
      Reading.ensure (isBreak c)
      let _ ← Reading.lineBreak
      return .ofChars (← quotedBreaks (← Reading.fuel))

def isQuotedChar (c : Char) : Bool :=
  !(c = '\'' || c = '"' || c = '\\' || endsWord (some c))

def quotedPart (double : Bool) : Nat → Reading CodePoints
  | 0 => return []
  | fuel + 1 => do
    let run ← Reading.take isQuotedChar
    let cursor ← get
    let more (t : CodePoints) : Reading CodePoints :=
      return .ofChars run ++ t ++ (← quotedPart double fuel)
    match cursor.peek, cursor.peekAt 1 with
    | some '\'', some '\'' =>
      if double then
        Reading.skip 1
        more [.char '\'']
      else
        Reading.skip 2
        more [.char '\'']
    | some '\'', _ =>
      if double then
        Reading.skip 1
        more [.char '\'']
      else return .ofChars run
    | some '"', _ =>
      if double then return .ofChars run
      else
        Reading.skip 1
        more [.char '"']
    | some '\\', _ =>
      if double then more (← escape)
      else
        Reading.skip 1
        more [.char '\\']
    | _, _ => return .ofChars run

def quotedGap : Reading (List Char) := do
  let blanks ← Reading.take fun c => c = ' ' || c = '\t'
  Reading.ensure (← Reading.peek).isSome
  let br ← Reading.lineBreak
  if br.isEmpty then return blanks
  else
    let breaks ← quotedBreaks (← Reading.fuel)
    let first := if br ≠ ['\n'] then br else if breaks.isEmpty then [' '] else []
    return first ++ breaks

def quotedRest (double : Bool) (quote : Char) : Nat → Reading CodePoints
  | 0 => Reading.fail
  | fuel + 1 => do
    let part ← quotedPart double (← Reading.fuel)
    if (← Reading.peek) = some quote then
      Reading.skip 1
      return part
    else
      let gap ← quotedGap
      return part ++ .ofChars gap ++ (← quotedRest double quote fuel)

def quotedScalar (double : Bool) : Reading CodePoints := do
  Reading.skip 1
  quotedRest double (if double then '"' else '\'') (← Reading.fuel)

/-! ### Block scalars -/

inductive Chomping
  | strip
  | clip
  | keep
deriving DecidableEq, Repr

def chomping? : Option Char → Option Chomping
  | some '+' => some .keep
  | some '-' => some .strip
  | _ => none

def indentation? (c : Option Char) : Option Nat :=
  match c with
  | some c => if isAsciiDigit c then digitValue? c else none
  | none => none

def blockHead : Reading (Chomping × Option Nat) := do
  let cursor ← get
  let (chomping, width, taken) ←
    match chomping? cursor.peek, indentation? cursor.peek with
    | some ch, _ =>
      match indentation? (cursor.peekAt 1) with
      | some n => pure (ch, some n, 2)
      | none => pure (ch, none, 1)
    | none, some n =>
      match chomping? (cursor.peekAt 1) with
      | some ch => pure (ch, some n, 2)
      | none => pure (Chomping.clip, some n, 1)
    | none, none => pure (Chomping.clip, none, 0)
  Reading.ensure (width ≠ some 0)
  Reading.skip taken
  Reading.ensure (endsField (← Reading.peek))
  return (chomping, width)

/-- The rest of a line that holds nothing but a comment. -/
def restOfLine : Reading Unit := do
  modify Cursor.skipComment
  Reading.ensure (endsLine (← Reading.peek))
  let _ ← Reading.lineBreak

/-- Empty lines, whatever their indentation, and the greatest indentation met. -/
def blockLead : Nat → Nat → Reading (List Char × Nat)
  | 0, widest => return ([], widest)
  | fuel + 1, widest => do
    let _ ← Reading.take (· = ' ')
    let widest := max widest (← get).column
    let br ← Reading.lineBreak
    if br.isEmpty then return ([], widest)
    else
      let (breaks, widest) ← blockLead fuel widest
      return (br ++ breaks, widest)

def indentTo (column : Nat) : Reading Unit := do
  let c ← get
  Reading.skip (min (column - c.column) (c.run (· = ' ')).length)

def blockBreaks (indent : Nat) : Nat → Reading (List Char)
  | 0 => return []
  | fuel + 1 => do
    indentTo indent
    let br ← Reading.lineBreak
    if br.isEmpty then return [] else return br ++ (← blockBreaks indent fuel)

/-- Whether a line of a block scalar begins with a blank. -/
def startsBlank (c : Option Char) : Bool := c = some ' ' || c = some '\t'

/-- The lines of a block scalar, before which `breaks` have been read. -/
def blockLines (folded : Bool) (chomping : Chomping) (indent : Nat) :
    Nat → List Char → List Char → Reading (List Char)
  | 0, _, _ => return []
  | fuel + 1, last, breaks => do
    let here ← get
    if here.column = indent && here.peek.isSome then
      let solid := !startsBlank here.peek
      let line ← Reading.take (!isBreak ·)
      let br ← Reading.lineBreak
      let nextBreaks ← blockBreaks indent (← Reading.fuel)
      let there ← get
      if there.column = indent && there.peek.isSome then
        let fold := folded && br = ['\n'] && solid && !startsBlank there.peek
        let join := if fold then (if nextBreaks.isEmpty then [' '] else []) else br
        return breaks ++ line ++ join ++ (← blockLines folded chomping indent fuel br nextBreaks)
      else return breaks ++ line ++ ending br nextBreaks
    else return ending last breaks
where
  /-- What remains of the last line end and the empty lines after it. -/
  ending (br breaks : List Char) : List Char :=
    match chomping with
    | .strip => []
    | .clip => br
    | .keep => br ++ breaks

def blockScalar (folded : Bool) (indent : Int) : Reading (List Char) := do
  Reading.skip 1
  let (chomping, width) ← blockHead
  restOfLine
  let least := max (indent + 1) 1
  match width with
  | none =>
    let (breaks, widest) ← blockLead (← Reading.fuel) 0
    blockLines folded chomping (max least.toNat widest) (← Reading.fuel) [] breaks
  | some n =>
    let column := (least + n - 1).toNat
    let breaks ← blockBreaks column (← Reading.fuel)
    blockLines folded chomping column (← Reading.fuel) [] breaks

end RelayReputation.Yaml
