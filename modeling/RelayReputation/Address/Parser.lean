import RelayReputation.Address.Basic
import RelayReputation.Text.Blank
import RelayReputation.Text.Digit

/-!
# Reading addresses

Dotted quads and colon-separated groups. Octets have one to three ASCII digits and no leading
zero. A gap of two colons stands for one or more zero groups; the last two groups may be
written as a dotted quad; a scope follows a percent sign.
-/

namespace RelayReputation.Address

open RelayReputation.Text

/-! ### Dotted quads -/

def readOctet (cs : List Char) : Option Nat :=
  if cs.isEmpty || 3 < cs.length || !cs.all isAsciiDigit then none
  else if cs ≠ ['0'] && cs.head? = some '0' then none
  else
    let n := ofDigits 10 cs
    if n ≤ 255 then some n else none

def readQuad (cs : List Char) : Option Nat :=
  match (pieces (· = '.') cs).mapM readOctet with
  | some [a, b, c, d] => some (((a * 256 + b) * 256 + c) * 256 + d)
  | _ => none

/-! ### Groups between colons -/

/-- One group of up to four hexadecimal digits; an empty one marks the gap. -/
def readGroup (cs : List Char) : Option (Option Nat) :=
  if cs.isEmpty then some none
  else if 4 < cs.length || !cs.all isHexDigit then none
  else some (some (ofDigits 16 cs))

/-- The groups that the last field stands for: a dotted quad stands for two. -/
def readLastGroups (cs : List Char) : Option (List (Option Nat)) :=
  if cs.contains '.' then (readQuad cs).map fun n => [some (n / 65536), some (n % 65536)]
  else (readGroup cs).map ([·])

def readGroups (cs : List Char) : Option (List (Option Nat)) := do
  let fields := pieces (· = ':') cs
  let front ← fields.dropLast.mapM readGroup
  let back ← readLastGroups (fields.getLast?.getD [])
  return front ++ back

/-- The groups on one side of the gap; next to a gap at the end of the text stands one empty
group. -/
def sideOfGap (groups : List (Option Nat)) : Option (List Nat) :=
  if groups = [none] then some [] else groups.mapM id

/-- The place of the first empty group that is neither the first nor the last. -/
def gapIndex? (groups : List (Option Nat)) : Option Nat :=
  ((groups.drop 1).dropLast.findIdx? (· = none)).map (· + 1)

def fillGap (groups : List (Option Nat)) : Option (List Nat) :=
  match gapIndex? groups with
  | none => (groups.mapM id).filter (·.length = 8)
  | some i => do
    let high ← sideOfGap (groups.take i)
    let low ← sideOfGap (groups.drop (i + 1))
    if high.length + low.length < 8 then
      some (high ++ List.replicate (8 - high.length - low.length) 0 ++ low)
    else none

def ofGroups (groups : List Nat) : Nat := groups.foldl (fun n g => n * 65536 + g) 0

def readColons (cs : List Char) : Option Nat :=
  ((readGroups cs).bind fillGap).map ofGroups

/-! ### Scopes and whole addresses -/

def beforeScope (cs : List Char) : List Char := cs.takeWhile (· ≠ '%')

def afterScope? (cs : List Char) : Option (List Char) :=
  match cs.dropWhile (· ≠ '%') with
  | [] => none
  | _ :: scope => some scope

def isScope (cs : List Char) : Bool := !cs.isEmpty && !cs.contains '%' && !cs.contains '/'

def ofChars? (cs : List Char) : Option Address :=
  match readQuad cs with
  | some n => some (ofNumber4 n)
  | none =>
    match afterScope? cs with
    | none => (readColons cs).map ofNumber6
    | some scope =>
      if isScope scope then
        (readColons (beforeScope cs)).map fun n =>
          v6 (BitVec.ofNat 128 n) (some (String.ofList scope))
      else none

def parse? (text : String) : Option Address := ofChars? text.toList

end RelayReputation.Address
