import RelayReputation.Address.Basic
import RelayReputation.Address.Places
import RelayReputation.Text.Digit

/-!
# Reversed names

The labels under which an address is looked up in a zone, least significant first: one for
each octet of an IPv4 address, one for each hexadecimal digit of an IPv6 address.
-/

namespace RelayReputation.Address

open RelayReputation.Text

def hexLabel (d : Nat) : String := String.ofList [digitChar d]

def reverseLabels (a : Address) : List String :=
  match a.unmap with
  | v4 bits => (places 256 4 bits.toNat).map toString
  | v6 bits _ => (places 16 32 bits.toNat).map hexLabel

def reverseName (a : Address) : String := String.intercalate "." a.reverseLabels

theorem length_reverseLabels (a : Address) :
    a.reverseLabels.length = if a.unmap.version = 4 then 4 else 32 := by
  unfold reverseLabels
  cases a.unmap <;> simp [version]

end RelayReputation.Address
