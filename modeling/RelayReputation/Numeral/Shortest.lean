import RelayReputation.Numeral.Decimal

/-!
# The shortest decimal of a double

Every finite double stands for an interval of reals that round to it. Of the decimal numbers in
that interval this module picks one with the fewest digits, and among those the one nearest to
the double. All comparisons are between natural numbers.
-/

namespace RelayReputation.Numeral

/-! ### Doubles taken apart -/

/-- A finite double is `mantissa * 2 ^ exponent` with a sign. -/
structure Binary where
  negative : Bool
  mantissa : Nat
  exponent : Int
deriving DecidableEq, Repr

inductive Parts
  | finite (b : Binary)
  | infinite (negative : Bool)
  | undefined
deriving DecidableEq, Repr

/-- The leading bit of the mantissa of a normal double, which is not stored. -/
def leadingBit : Nat := 1 <<< 52

def Parts.ofBits (bits : Nat) : Parts :=
  let negative := bits.testBit 63
  let e : Nat := (bits >>> 52) % 2048
  let m : Nat := bits % leadingBit
  if e = 2047 then if m = 0 then .infinite negative else .undefined
  else if e = 0 then .finite ⟨negative, m, -1074⟩
  else .finite ⟨negative, m + leadingBit, (e : Int) - 1075⟩

def Parts.ofFloat (x : Float) : Parts := .ofBits x.toBits.toNat

/-! ### The interval of a double -/

/-- `n * base ^ e`, brought to a natural number by the factor `base ^ shift`. -/
def scaled (base n : Nat) (e shift : Int) : Nat := n * base.pow (e + shift).toNat

/-- A double and the ends of its interval as natural numbers on a common scale, with the
length of one decimal step of size `10 ^ k` on that scale. Quarters of the last binary place
are the unit, because the interval is half as wide below a power of two. -/
structure Interval where
  low : Nat
  value : Nat
  high : Nat
  step : Nat
  closed : Bool
deriving Repr

/-- The interval of `m * 2 ^ q` with decimal steps of size `10 ^ k`. -/
def interval (m : Nat) (q k : Int) : Interval :=
  let two := max (2 - q) 0
  let ten := max (-k) 0
  let up (n : Nat) : Nat := scaled 2 n (q - 2) two * Nat.pow 10 ten.toNat
  let below := if m = leadingBit && q ≠ -1074 then 1 else 2
  { low := up (4 * m - below), value := up (4 * m), high := up (4 * m + 2)
    step := scaled 10 (1 <<< two.toNat) k ten, closed := m % 2 = 0 }

/-- Whether the interval holds `n` decimal steps. -/
def Interval.holds (i : Interval) (n : Nat) : Bool :=
  if i.closed then i.low ≤ n * i.step && n * i.step ≤ i.high
  else i.low < n * i.step && n * i.step < i.high

/-- The number of decimal steps that the interval holds next to its double: of the two
neighbours the nearer, and of two equally near the even one. -/
def Interval.nearest? (i : Interval) : Option Nat :=
  let n := i.value / i.step
  let below := i.value - n * i.step
  let above := (n + 1) * i.step - i.value
  match i.holds n, i.holds (n + 1) with
  | true, true => some (if below < above || (below = above && n % 2 = 0) then n else n + 1)
  | true, false => some n
  | false, true => some (n + 1)
  | false, false => none

/-! ### The fewest digits -/

/-- The exponent of the leading decimal digit of `m * 2 ^ q`, for `m` other than zero. -/
def leadingExponent (m : Nat) (q : Int) : Int :=
  if 0 ≤ q then (Nat.toDigits 10 (m <<< q.toNat)).length - 1
  else
    -- `m * 10 ^ s / 2 ^ -q` keeps the leading digit for every `s` that is large enough
    let s := (-q).toNat
    ((Nat.toDigits 10 ((m * Nat.pow 10 s) >>> s)).length : Int) - 1 - s

/-- The decimal with the fewest digits, from `digits` of them on, that lies in the interval. -/
def shortestFrom (m : Nat) (q lead : Int) : Nat → Nat → Nat × Int
  | 0, digits => ((interval m q (lead - digits)).value / (interval m q (lead - digits)).step,
      lead - digits)
  | fuel + 1, digits =>
    let k := lead - digits
    match (interval m q k).nearest? with
    | some n => (n, k)
    | none => shortestFrom m q lead fuel (digits + 1)

def dropZeros : Nat → Nat → Nat × Nat
  | 0, n => (n, 0)
  | fuel + 1, n =>
    if n % 10 = 0 && n ≠ 0 then
      let (r, z) := dropZeros fuel (n / 10)
      (r, z + 1)
    else (n, 0)

/-- The shortest decimal of a finite double. Seventeen digits always suffice. -/
def Binary.shortest (b : Binary) : Decimal :=
  if b.mantissa = 0 then ⟨b.negative, 0, 0⟩
  else
    let (n, k) := shortestFrom b.mantissa b.exponent (leadingExponent b.mantissa b.exponent) 17 0
    let (n, z) := dropZeros 18 n
    ⟨b.negative, n, k + z⟩

end RelayReputation.Numeral
