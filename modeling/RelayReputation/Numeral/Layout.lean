import RelayReputation.Numeral.Shortest

/-!
# The text of a double

How the digits of a double are set out: with a point among them while the number is neither
large nor small, and with an exponent otherwise.
-/

namespace RelayReputation.Numeral

/-- The choices in setting out a number. A leading digit at `10 ^ e` is written with a point
for `least ≤ e < beyond`, and with an exponent of at least `exponentDigits` digits otherwise. -/
structure Layout where
  least : Int
  beyond : Int
  exponentDigits : Nat
  infinity : String
  undefined : String

/-- Numbers are written with a point from a ten-thousandth up to below ten quadrillion. -/
def plainLayout : Layout := ⟨-4, 16, 2, "inf", "nan"⟩

def signText (negative : Bool) : String := if negative then "-" else ""

def padZeros (width : Nat) (digits : List Char) : List Char :=
  List.replicate (width - digits.length) '0' ++ digits

/-- The digits of a number whose leading digit stands at `10 ^ lead`, with a point. -/
def pointed (digits : List Char) (lead : Int) : List Char :=
  if lead < 0 then
    '0' :: '.' :: List.replicate (-lead - 1).toNat '0' ++ digits
  else
    let whole := digits.take (lead.toNat + 1)
    let fraction := digits.drop (lead.toNat + 1)
    whole ++ List.replicate (lead.toNat + 1 - whole.length) '0' ++ '.' ::
      (if fraction.isEmpty then ['0'] else fraction)

def Layout.scientific (l : Layout) (digits : List Char) (lead : Int) : List Char :=
  let mark := if lead < 0 then '-' else '+'
  let exponent := padZeros l.exponentDigits (Nat.toDigits 10 lead.natAbs)
  digits.take 1 ++ (if digits.length ≤ 1 then [] else '.' :: digits.drop 1) ++
    'e' :: mark :: exponent

def Layout.decimal (l : Layout) (d : Decimal) : String :=
  let digits := Nat.toDigits 10 d.mantissa
  let lead := d.exponent + digits.length - 1
  signText d.negative ++ String.ofList
    (if l.least ≤ lead && lead < l.beyond then pointed digits lead
     else l.scientific digits lead)

def Layout.float (l : Layout) (x : Float) : String :=
  match Parts.ofFloat x with
  | .finite b => l.decimal b.shortest
  | .infinite negative => signText negative ++ l.infinity
  | .undefined => l.undefined

end RelayReputation.Numeral
