/-!
# Addresses

An address is a 32-bit or a 128-bit number; a 128-bit one may carry the name of the scope in
which it is meant. An IPv4 address can be written inside an IPv6 address; `unmap` undoes this.
-/

namespace RelayReputation

inductive Address
  | v4 (bits : BitVec 32)
  | v6 (bits : BitVec 128) (scope : Option String)
deriving DecidableEq, Repr

namespace Address

def version : Address → Nat
  | v4 _ => 4
  | v6 _ _ => 6

def number : Address → Nat
  | v4 bits => bits.toNat
  | v6 bits _ => bits.toNat

def ofNumber4 (n : Nat) : Address := v4 (BitVec.ofNat 32 n)

def ofNumber6 (n : Nat) : Address := v6 (BitVec.ofNat 128 n) none

def scope : Address → Option String
  | v4 _ => none
  | v6 _ scope => scope

/-- The upper 96 bits of an IPv6 address that stands for an IPv4 address. -/
def mappedTop : Nat := 0xFFFF

/-- The IPv4 address that an IPv6 address stands for; any other address is left alone. -/
def unmap : Address → Address
  | v4 bits => v4 bits
  | v6 bits scope =>
    if bits.toNat >>> 32 = mappedTop then ofNumber4 bits.toNat else v6 bits scope

/-- The order of block list answers: by version, then by number. -/
def before (a b : Address) : Bool :=
  a.version < b.version || (a.version = b.version && a.number < b.number)

end Address

end RelayReputation
