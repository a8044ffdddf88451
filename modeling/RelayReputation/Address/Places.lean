/-!
# Place values

The digits of a number in a base, least significant first, with a fixed number of places.
-/

namespace RelayReputation.Address

/-- The lowest `width` digits of a number, least significant first. -/
def places (base : Nat) : Nat → Nat → List Nat
  | 0, _ => []
  | width + 1, n => n % base :: places base width (n / base)

def ofPlaces (base : Nat) : List Nat → Nat
  | [] => 0
  | d :: ds => d + base * ofPlaces base ds

@[simp] theorem length_places (base width n : Nat) : (places base width n).length = width := by
  induction width generalizing n with
  | zero => rfl
  | succ w ih => simp [places, ih]

theorem lt_of_mem_places {base width n d : Nat} (hb : 0 < base)
    (h : d ∈ places base width n) : d < base := by
  induction width generalizing n with
  | zero => simp [places] at h
  | succ w ih =>
    rcases List.mem_cons.1 h with rfl | h
    · exact Nat.mod_lt _ hb
    · exact ih h

theorem ofPlaces_places {base width n : Nat} (h : n < base.pow width) :
    ofPlaces base (places base width n) = n := by
  induction width generalizing n with
  | zero =>
    obtain rfl := Nat.lt_one_iff.1 h
    rfl
  | succ w ih =>
    have hq : n / base < base.pow w := Nat.div_lt_of_lt_mul (Nat.mul_comm _ base ▸ h)
    rw [places, ofPlaces, ih hq]
    exact Nat.mod_add_div n base

end RelayReputation.Address
