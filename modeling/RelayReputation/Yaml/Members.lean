import RelayReputation.Yaml.Scalar

/-!
# The order of the members of a set

A set has no order of its own. Its members have places in a table for look-up, and they are
shown in the order of these places. Numbers that are equal have equal keys, and the key of a
number says where it goes, unless that place is taken. Members that are no numbers have no
lasting keys; a set with such a member is shown in the order in which its members came.
-/

namespace RelayReputation.Yaml

open RelayReputation.Numeral

/-! ### Keys -/

/-- Keys are counted modulo this prime, one less than a power of two. -/
def keyModulus : Nat := (1 <<< 61) - 1

/-- The exponent at which powers of two come back to one among keys. -/
def keyPeriod : Int := 61

def infinityKey : Nat := 314159

/-- A key with a sign. There is no key minus one; minus two stands for it. -/
def signedKey (negative : Bool) (n : Nat) : Int :=
  if negative then (if n = 1 then -2 else -n) else n

def Scalar.tableKey? : Scalar → Option Int
  | bool b => some (if b then 1 else 0)
  | int n => some (signedKey (n < 0) (n.natAbs % keyModulus))
  | float x =>
    match Parts.ofFloat x with
    | .finite b =>
      some (signedKey b.negative
        (b.mantissa * (1 <<< (b.exponent % keyPeriod).toNat) % keyModulus))
    | .infinite negative => some (signedKey negative infinityKey)
    | .undefined => none
  | _ => none

/-! ### Places -/

/-- The number of places in the table of a set with so many members: a power of two. -/
def tableSize (members : Nat) : Nat :=
  if members ≤ 4 then 8 else (2 * members + 1).nextPowerOfTwo

/-- How many places after the first are tried at once, if the table goes on so far. -/
def neighbours : Nat := 9

/-- The first free place on a way through a table of `size` places. `place` is tried first, then
its neighbours, then a place that depends on the higher digits of the key, which are in
`rest`. -/
def freePlace (size : Nat) (taken : List Nat) : Nat → Nat → Nat → Nat
  | 0, _, place => place
  | fuel + 1, rest, place =>
    let reach := if place + neighbours < size then neighbours else 0
    match ((List.range (reach + 1)).map (place + ·)).find? (!taken.contains ·) with
    | some free => free
    | none =>
      let rest := rest >>> 5
      freePlace size taken fuel rest ((place * 5 + 1 + rest) % size)

/-- The most places at which a way through a table turns: the key has thirteen groups of digits,
and after them every place is met. -/
def wayLength (size : Nat) : Nat := size + 13

/-- The places of members with the given keys, of which each is put where there is room for
it. -/
def places (size : Nat) (taken : List Nat) : List Int → List Nat
  | [] => []
  | key :: keys =>
    let word := (key % (1 <<< 64 : Nat)).toNat
    let place := freePlace size taken (wayLength size) word (word % size)
    place :: places size (place :: taken) keys

/-! ### The order -/

def byPlace (places : List Nat) (members : List Scalar) : List Scalar :=
  ((places.zip members).mergeSort fun a b => a.1 ≤ b.1).map (·.2)

def shownOrder (members : List Scalar) : List Scalar :=
  let keys := members.filterMap Scalar.tableKey?
  if keys.length = members.length then
    byPlace (places (tableSize members.length) [] keys) members
  else members

end RelayReputation.Yaml
