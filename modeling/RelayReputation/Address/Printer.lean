import RelayReputation.Address.Basic
import RelayReputation.Address.Places
import RelayReputation.Text.Digit

/-!
# Writing addresses

IPv4 addresses are written as dotted quads. IPv6 addresses are written as groups of lower-case
hexadecimal digits without leading zeros, the first of the longest runs of at least two zero
groups as a gap, and the scope after a percent sign.
-/

namespace RelayReputation.Address

def octets (n : Nat) : List Nat := (places 256 4 n).reverse

def groups (n : Nat) : List Nat := (places 65536 8 n).reverse

def quadText (n : Nat) : String := String.intercalate "." ((octets n).map toString)

def groupText (g : Nat) : String := String.ofList (Nat.toDigits 16 g)

def colonText (gs : List Nat) : String := String.intercalate ":" (gs.map groupText)

def zerosFrom (gs : List Nat) (i : Nat) : Nat := ((gs.drop i).takeWhile (· = 0)).length

def longestZeros (gs : List Nat) : Nat × Nat :=
  (List.range gs.length).foldl
    (fun best i => if best.2 < zerosFrom gs i then (i, zerosFrom gs i) else best) (0, 0)

def gappedText (gs : List Nat) : String :=
  let (start, length) := longestZeros gs
  if 1 < length then colonText (gs.take start) ++ "::" ++ colonText (gs.drop (start + length))
  else colonText gs

def text : Address → String
  | v4 bits => quadText bits.toNat
  | v6 bits none => gappedText (groups bits.toNat)
  | v6 bits (some scope) => gappedText (groups bits.toNat) ++ "%" ++ scope

instance : ToString Address := ⟨text⟩

end RelayReputation.Address
