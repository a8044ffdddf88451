import RelayReputation.Numeral.Plain
import RelayReputation.Text.Quoted

/-!
# Reading integers

Integers of any size in a given base: blanks, a sign, the base's own mark, and digits that may
be grouped by single underscores. Decimal integers have a limit on the number of their digits.
-/

namespace RelayReputation.Numeral

open RelayReputation.Text

/-! ### Faults -/

inductive IntegerFault
  /-- The text is no numeral of the base. It is given as it is quoted. -/
  | malformed (base : Nat) (quoted : String)
  | tooLong (digits : Nat)
deriving DecidableEq, Repr

/-- The greatest number of digits of an integer that is read from a base that is no power of
two, or shown in decimal digits. -/
def digitLimit : Nat := 4300

def quoteLimit : Nat := 200

/-- The message for an integer with too many digits, with `detail` about it. -/
def beyondDigits (detail : String) : String :=
  "Exceeds the limit (" ++ toString digitLimit ++ " digits) for integer string conversion" ++
    detail ++ "; use sys.set_int_max_str_digits() to increase the limit"

def IntegerFault.message : IntegerFault → String
  | .malformed base quoted =>
    "invalid literal for int() with base " ++ toString base ++ ": " ++
      String.ofList (quoted.toList.take quoteLimit)
  | .tooLong n => beyondDigits (": value has " ++ toString n ++ " digits")

/-! ### Reading -/

def baseMark? : Nat → Option Char
  | 2 => some 'b'
  | 8 => some 'o'
  | 16 => some 'x'
  | _ => none

/-- A text without its base's mark and the underscore that may follow the mark. -/
def dropBaseMark (base : Nat) : List Char → List Char
  | '0' :: m :: cs =>
    if (baseMark? base).any fun b => m = b || m = b.toUpper then
      match cs with
      | '_' :: cs => cs
      | cs => cs
    else '0' :: m :: cs
  | cs => cs

def isDigitOf (base : Nat) (c : Char) : Bool := (digitValue? c).any (· < base)

/-- The digits at the front of a text, which single underscores may part, and what follows
them. Nothing is returned if an underscore leads, ends or follows another one. -/
def splitDigits (base : Nat) : List Char → Option (List Char × List Char)
  | [] => some ([], [])
  | '_' :: _ => none
  | c :: cs =>
    if isDigitOf base c then
      match cs with
      | '_' :: d :: rest =>
        if isDigitOf base d then
          (splitDigits base (d :: rest)).map fun (ds, r) => (c :: ds, r)
        else none
      | cs => (splitDigits base cs).map fun (ds, r) => (c :: ds, r)
    else some ([], c :: cs)

def isLimited (base : Nat) : Bool := base ≠ 2 && base ≠ 8 && base ≠ 16

def readInteger (base : Nat) (text : String) : Except IntegerFault Int :=
  let bad := .error (.malformed base (quote text))
  let (negative, cs) := splitSign ((plainForm text.toList).dropWhile isPad)
  match splitDigits base (dropBaseMark base cs) with
  | none => bad
  | some (ds, rest) =>
    if isLimited base && digitLimit < ds.length then .error (.tooLong ds.length)
    else if ds.isEmpty || !rest.all isPad then bad
    else
      let n : Int := ofDigits base ds
      .ok (if negative then -n else n)

/-! ### Showing -/

def showBound : Nat := Nat.pow 10 digitLimit

def isShowable (n : Int) : Bool := n.natAbs < showBound

def notShowable : String := beyondDigits ""

end RelayReputation.Numeral
