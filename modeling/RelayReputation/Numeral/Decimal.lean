import RelayReputation.Numeral.Plain
import RelayReputation.Text.Lower

/-!
# Reading decimal numbers

Decimal numerals with a fraction and an exponent, the words for infinity and for what is no
number, and the nearest double to each.
-/

namespace RelayReputation.Numeral

open RelayReputation.Text

/-! ### Numerals -/

/-- A decimal number `mantissa * 10 ^ exponent` with a sign. -/
structure Decimal where
  negative : Bool
  mantissa : Nat
  exponent : Int
deriving DecidableEq, Repr

inductive Real
  | number (d : Decimal)
  | infinite (negative : Bool)
  | undefined
deriving DecidableEq, Repr

/-! ### Grammar -/

def readExponent : List Char → Option Int
  | [] => some 0
  | e :: cs =>
    if e = 'e' || e = 'E' then
      let (negative, ds) := splitSign cs
      if ds.isEmpty || !ds.all isAsciiDigit then none
      else some (if negative then -(ofDigits 10 ds : Int) else ofDigits 10 ds)
    else none

def splitFraction : List Char → List Char × List Char
  | '.' :: cs => (cs.takeWhile isAsciiDigit, cs.dropWhile isAsciiDigit)
  | cs => ([], cs)

def readUnsigned (negative : Bool) (cs : List Char) : Option Decimal :=
  let whole := cs.takeWhile isAsciiDigit
  let (fraction, rest) := splitFraction (cs.dropWhile isAsciiDigit)
  if whole.isEmpty && fraction.isEmpty then none
  else
    (readExponent rest).map fun e =>
      ⟨negative, ofDigits 10 (whole ++ fraction), e - fraction.length⟩

/-- The words for infinity. -/
def infinityWords : List (List Char) := ["inf".toList, "infinity".toList]

def readSigned (cs : List Char) : Option Real :=
  let (negative, body) := splitSign cs
  let word := lowerChars body
  if infinityWords.contains word then some (.infinite negative)
  else if word = "nan".toList then some .undefined
  else (readUnsigned negative body).map .number

def readReal (text : String) : Option Real :=
  (ungroup false (trimPad (plainForm text.toList))).bind readSigned

/-! ### Doubles -/

def infinity (negative : Bool) : Float := if negative then -(1.0 / 0.0) else 1.0 / 0.0

/-- The number of decimal digits of a natural number; zero has none. -/
def digitCount (n : Nat) : Nat := if n = 0 then 0 else (Nat.toDigits 10 n).length

/-- The double nearest to a decimal number. Beyond every double it is infinite, and below half
of the least one it is zero. -/
def Decimal.toFloat (d : Decimal) : Float :=
  let size := d.exponent + digitCount d.mantissa
  let x :=
    if d.mantissa = 0 || size < -330 then 0.0
    else if 310 < size then infinity false
    else Float.ofScientific d.mantissa (d.exponent < 0) d.exponent.natAbs
  if d.negative then -x else x

def Real.toFloat : Real → Float
  | .number d => d.toFloat
  | .infinite negative => infinity negative
  | .undefined => 0.0 / 0.0

def readFloat (text : String) : Option Float := (readReal text).map Real.toFloat

def notReal (shown : String) : String := "could not convert string to float: " ++ shown

end RelayReputation.Numeral
