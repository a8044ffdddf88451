import RelayReputation.Address.Basic

/-!
# Exempt addresses

Addresses that mean nothing outside the network they are used in, and so are never sent to a
reputation service: loopback, link-local and multicast addresses, and the private ranges.
Ranges set aside for documentation are not exempt.
-/

namespace RelayReputation.Address

/-- A block of addresses that agree on all but the last `free` bits. -/
structure Block where
  base : Nat
  free : Nat
deriving DecidableEq, Repr

def Block.holds (b : Block) (n : Nat) : Bool := n >>> b.free = b.base >>> b.free

/-- The exempt blocks of IPv4: loopback, link-local, multicast, and three private ranges. -/
def exemptBlocks4 : List Block := [
  ⟨0x7F000000, 24⟩, ⟨0xA9FE0000, 16⟩, ⟨0xE0000000, 28⟩,
  ⟨0x0A000000, 24⟩, ⟨0xAC100000, 20⟩, ⟨0xC0A80000, 16⟩]

/-- The exempt blocks of IPv6: loopback, link-local, multicast, site-local and unique local. -/
def exemptBlocks6 : List Block := [
  ⟨1, 0⟩, ⟨0xFE80 <<< 112, 118⟩, ⟨0xFF00 <<< 112, 120⟩,
  ⟨0xFEC0 <<< 112, 118⟩, ⟨0xFC00 <<< 112, 121⟩]

def isExempt (a : Address) : Bool :=
  match a.unmap with
  | v4 bits => exemptBlocks4.any (·.holds bits.toNat)
  | v6 bits _ => exemptBlocks6.any (·.holds bits.toNat)

end RelayReputation.Address
