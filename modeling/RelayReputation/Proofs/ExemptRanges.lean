import RelayReputation.Address.Exempt
import RelayReputation.Address.Printer
import Mathlib.Algebra.Group.Nat.Defs

/-!
# Exempt ranges

The exempt addresses as closed ranges of numbers. `isExempt_iff` says that an address is exempt
exactly if the address that it stands for lies in one of them, and `isExempt_in_any_form` adds that
neither a scope nor the IPv6 form of an IPv4 address makes a difference.
-/

namespace RelayReputation.Address

/-! ### Ranges -/

/-- The exempt ranges of IPv4, in ascending order: 10.0.0.0 to 10.255.255.255, 127.0.0.0 to
127.255.255.255, 169.254.0.0 to 169.254.255.255, 172.16.0.0 to 172.31.255.255, 192.168.0.0 to
192.168.255.255, and 224.0.0.0 to 239.255.255.255. -/
def exemptRanges4 : List (Nat × Nat) := [
  (0x0A000000, 0x0AFFFFFF), (0x7F000000, 0x7FFFFFFF), (0xA9FE0000, 0xA9FEFFFF),
  (0xAC100000, 0xAC1FFFFF), (0xC0A80000, 0xC0A8FFFF), (0xE0000000, 0xEFFFFFFF)]

/-- The exempt ranges of IPv6, in ascending order: ::1, then all that begins with fc or fd, with
fe80 to feff, or with ff. -/
def exemptRanges6 : List (Nat × Nat) := [
  (1, 1), (0xFC00 <<< 112, (0xFE00 <<< 112) - 1), (0xFE80 <<< 112, (0xFF00 <<< 112) - 1),
  (0xFF00 <<< 112, 2 ^ 128 - 1)]

def InRanges (ranges : List (Nat × Nat)) (n : Nat) : Prop := ∃ r ∈ ranges, r.1 ≤ n ∧ n ≤ r.2

/-- Whether the number of an address, taken as it is, lies in an exempt range of its version. -/
def InExemptRange : Address → Prop
  | v4 bits => InRanges exemptRanges4 bits.toNat
  | v6 bits _ => InRanges exemptRanges6 bits.toNat

/-! ### Blocks are ranges -/

theorem Block.holds_iff (b : Block) (n : Nat) :
    b.holds n = true ↔
      2 ^ b.free * (b.base >>> b.free) ≤ n ∧ n < 2 ^ b.free * (b.base >>> b.free + 1) := by
  have hpos : 0 < 2 ^ b.free := Nat.two_pow_pos b.free
  rw [holds, decide_eq_true_eq, Nat.shiftRight_eq_div_pow]
  generalize b.base >>> b.free = q
  constructor
  · rintro rfl
    exact ⟨Nat.mul_div_le n _, Nat.lt_mul_div_succ n hpos⟩
  · rintro ⟨hlo, hhi⟩
    rw [Nat.mul_comm] at hlo hhi
    exact Nat.div_eq_of_lt_le hlo hhi

theorem any_exemptBlocks4_iff (n : Nat) :
    exemptBlocks4.any (·.holds n) = true ↔ InRanges exemptRanges4 n := by
  simp only [exemptBlocks4, List.any_cons, List.any_nil, Bool.or_eq_true, Block.holds_iff]
  simp [exemptRanges4, InRanges]
  omega

/-- The two blocks of link-local and site-local addresses are one range. -/
theorem any_exemptBlocks6_iff {n : Nat} (h : n < 2 ^ 128) :
    exemptBlocks6.any (·.holds n) = true ↔ InRanges exemptRanges6 n := by
  simp only [exemptBlocks6, List.any_cons, List.any_nil, Bool.or_eq_true, Block.holds_iff]
  simp [exemptRanges6, InRanges]
  omega

theorem isExempt_iff (a : Address) : a.isExempt = true ↔ a.unmap.InExemptRange := by
  unfold isExempt InExemptRange
  cases a.unmap with
  | v4 bits => exact any_exemptBlocks4_iff bits.toNat
  | v6 bits scope => exact any_exemptBlocks6_iff bits.isLt

-- The ends of the ranges, as addresses are written.
example : exemptRanges4.map (fun r => (quadText r.1, quadText r.2)) =
    [("10.0.0.0", "10.255.255.255"), ("127.0.0.0", "127.255.255.255"),
      ("169.254.0.0", "169.254.255.255"), ("172.16.0.0", "172.31.255.255"),
      ("192.168.0.0", "192.168.255.255"), ("224.0.0.0", "239.255.255.255")] := by
  decide +kernel

example : exemptRanges6.map (fun r => (gappedText (groups r.1), gappedText (groups r.2))) =
    [("::1", "::1"), ("fc00::", "fdff:ffff:ffff:ffff:ffff:ffff:ffff:ffff"),
      ("fe80::", "feff:ffff:ffff:ffff:ffff:ffff:ffff:ffff"),
      ("ff00::", "ffff:ffff:ffff:ffff:ffff:ffff:ffff:ffff")] := by
  decide +kernel

/-! ### Other forms of an address -/

/-- The IPv6 address that stands for an IPv4 address. -/
def mapped (bits : BitVec 32) (scope : Option String) : Address := v6 (0xFFFF#96 ++ bits) scope

theorem unmap_mapped (bits : BitVec 32) (scope : Option String) :
    (mapped bits scope).unmap = v4 bits := by
  have hlt := bits.isLt
  have hnumber : (0xFFFF#96 ++ bits).toNat = 0xFFFF * 2 ^ 32 + bits.toNat := by
    rw [BitVec.toNat_append, ← Nat.shiftLeft_add_eq_or_of_lt hlt, Nat.shiftLeft_eq]
    rfl
  have htop : (0xFFFF#96 ++ bits).toNat >>> 32 = mappedTop := by
    rw [hnumber, Nat.shiftRight_eq_div_pow, mappedTop]
    omega
  have hlow : BitVec.ofNat 32 (0xFFFF * 2 ^ 32 + bits.toNat) = bits := by
    refine BitVec.eq_of_toNat_eq ?_
    rw [BitVec.toNat_ofNat]
    omega
  rw [mapped, unmap, if_pos htop, hnumber, ofNumber4, hlow]

theorem isExempt_v6 (bits : BitVec 128) (scope scope' : Option String) :
    (v6 bits scope).isExempt = (v6 bits scope').isExempt := by
  by_cases h : bits.toNat >>> 32 = mappedTop
  · simp only [isExempt, unmap, if_pos h]
  · simp only [isExempt, unmap, if_neg h]

theorem isExempt_mapped (bits : BitVec 32) (scope : Option String) :
    (mapped bits scope).isExempt = (v4 bits).isExempt := by
  rw [isExempt, unmap_mapped]
  rfl

/-- An address is exempt exactly if the one that it stands for lies in an exempt range. It stays so
in any scope, and an IPv4 address also in its IPv6 form. -/
theorem isExempt_in_any_form (a : Address) :
    (a.isExempt = true ↔ a.unmap.InExemptRange) ∧
    (∀ bits scope scope', (v6 bits scope).isExempt = (v6 bits scope').isExempt) ∧
    ∀ bits scope, (mapped bits scope).isExempt = (v4 bits).isExempt :=
  ⟨a.isExempt_iff, isExempt_v6, isExempt_mapped⟩

end RelayReputation.Address
