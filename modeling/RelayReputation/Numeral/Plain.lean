import RelayReputation.Text.Blank
import RelayReputation.Text.Digit

/-!
# Numerals as written

What every reader of numerals does before it looks at digits: a text with characters beyond
ASCII is brought to its ASCII form, and blanks at its ends are dropped. Digits may be grouped
by underscores, one between two digits.
-/

namespace RelayReputation.Numeral

open RelayReputation.Text

/-! ### ASCII form -/

/-- The ASCII form of one character: a space for a blank, an ASCII digit for a digit of any
script, and a question mark for anything else beyond ASCII. -/
def plainChar (c : Char) : Char :=
  if c.toNat < 127 then c
  else if isBlank c then ' '
  else
    match decimalValue? c with
    | some d => digitChar d
    | none => '?'

def plainForm (cs : List Char) : List Char :=
  if cs.all (·.toNat < 128) then cs else cs.map plainChar

/-- Whether a character is one of the six ASCII blanks that may stand around a numeral. -/
def isPad (c : Char) : Bool := c = ' ' || ('\t' ≤ c && c ≤ '\r')

def trimPad (cs : List Char) : List Char :=
  ((cs.dropWhile isPad).reverse.dropWhile isPad).reverse

/-! ### Signs and digit groups -/

/-- Whether a minus sign leads a text, and the text after its sign. -/
def splitSign : List Char → Bool × List Char
  | '+' :: cs => (false, cs)
  | '-' :: cs => (true, cs)
  | cs => (false, cs)

/-- A text without its underscores, if each stands between two digits; `before` says whether
a digit comes just before the text. -/
def ungroup (before : Bool) : List Char → Option (List Char)
  | [] => some []
  | '_' :: d :: cs =>
    if before && isAsciiDigit d then (ungroup true cs).map (d :: ·) else none
  | '_' :: [] => none
  | c :: cs => (ungroup (isAsciiDigit c) cs).map (c :: ·)

end RelayReputation.Numeral
