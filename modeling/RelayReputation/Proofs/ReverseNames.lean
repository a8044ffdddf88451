import RelayReputation.Address.Parser
import RelayReputation.Address.Reverse
import Mathlib.Algebra.Group.Nat.Defs

/-!
# Reading reversed names

A reversed name is read label by label: four octets or thirty-two hexadecimal digits, the least
significant first. `ofReverseName?_reverseName` says that the name of an address is read as the
address that it stands for, without its scope. So two addresses have one name exactly if they
stand for the same address: `reverseName_encodes`, which also says what the labels are.
-/

namespace RelayReputation

open RelayReputation.Text

/-! ### Joined pieces -/

theorem mapM_map_eq_some {α β : Type} {read : α → Option β} {write : β → α} {as : List β}
    (h : ∀ a ∈ as, read (write a) = some a) : (as.map write).mapM read = some as := by
  induction as with
  | nil => rfl
  | cons a as ih =>
    have ha := h a (List.mem_cons_self ..)
    have hrest := ih fun b hb => h b (List.mem_cons_of_mem _ hb)
    simp [ha, hrest]

namespace Address

/-! ### Labels -/

/-- The number that a label of one hexadecimal digit stands for. -/
def readNibble : List Char → Option Nat
  | [c] => if isHexDigit c then digitValue? c else none
  | _ => none

theorem readOctet_toString : ∀ n < 256,
    readOctet (toString n).toList = some n ∧ '.' ∉ (toString n).toList := by
  decide +kernel

theorem readNibble_hexLabel : ∀ n < 16,
    readNibble (hexLabel n).toList = some n ∧ '.' ∉ (hexLabel n).toList := by
  decide +kernel

theorem reverseLabels_ne_nil (a : Address) : a.reverseLabels ≠ [] := by
  have hlength := a.length_reverseLabels
  intro hnil
  rw [hnil] at hlength
  split at hlength <;> simp at hlength

theorem dot_not_mem_label {a : Address} {label : String} (h : label ∈ a.reverseLabels) :
    '.' ∉ label.toList := by
  unfold reverseLabels at h
  cases hu : a.unmap with
  | v4 bits =>
    rw [hu] at h
    obtain ⟨d, hd, rfl⟩ := List.mem_map.mp h
    exact (readOctet_toString d (lt_of_mem_places (by omega) hd)).2
  | v6 bits scope =>
    rw [hu] at h
    obtain ⟨d, hd, rfl⟩ := List.mem_map.mp h
    exact (readNibble_hexLabel d (lt_of_mem_places (by omega) hd)).2

theorem pieces_reverseName (a : Address) :
    pieces (· = '.') a.reverseName.toList = a.reverseLabels.map String.toList := by
  rw [reverseName, String.toList_intercalate]
  refine pieces_intercalate (by decide) (by simpa using a.reverseLabels_ne_nil) ?_
  intro w hw c hc
  obtain ⟨label, hlabel, rfl⟩ := List.mem_map.mp hw
  have hne : c ≠ '.' := by
    rintro rfl
    exact dot_not_mem_label hlabel hc
  simpa using hne

/-! ### Names -/

/-- An address without its scope. -/
def unscoped : Address → Address
  | v4 bits => v4 bits
  | v6 bits _ => v6 bits none

/-- Reads a reversed name: four octets or thirty-two hexadecimal digits. -/
def ofReverseName? (name : String) : Option Address :=
  let labels := pieces (· = '.') name.toList
  if labels.length = 4 then (labels.mapM readOctet).map fun ds => ofNumber4 (ofPlaces 256 ds)
  else if labels.length = 32 then
    (labels.mapM readNibble).map fun ds => ofNumber6 (ofPlaces 16 ds)
  else none

theorem mapM_labels {base : Nat} {read : List Char → Option Nat} {write : Nat → String}
    (hb : 0 < base) (h : ∀ d < base, read (write d).toList = some d) (width n : Nat) :
    (((places base width n).map write).map String.toList).mapM read =
      some (places base width n) := by
  rw [List.map_map]
  exact mapM_map_eq_some fun d hd => h d (lt_of_mem_places hb hd)

theorem ofReverseName?_reverseName (a : Address) :
    ofReverseName? a.reverseName = some a.unmap.unscoped := by
  simp only [ofReverseName?, pieces_reverseName]
  unfold reverseLabels
  cases a.unmap with
  | v4 bits =>
    have hlength : (((places 256 4 bits.toNat).map toString).map String.toList).length = 4 := by
      simp
    have hread := mapM_labels (by omega) (fun d hd => (readOctet_toString d hd).1) 4 bits.toNat
    have hnumber : ofPlaces 256 (places 256 4 bits.toNat) = bits.toNat := ofPlaces_places bits.isLt
    rw [if_pos hlength, hread]
    simp [hnumber, ofNumber4, unscoped]
  | v6 bits scope =>
    have hlength : (((places 16 32 bits.toNat).map hexLabel).map String.toList).length = 32 := by
      simp
    have hread := mapM_labels (by omega) (fun d hd => (readNibble_hexLabel d hd).1) 32 bits.toNat
    have hnumber : ofPlaces 16 (places 16 32 bits.toNat) = bits.toNat := ofPlaces_places bits.isLt
    dsimp only
    rw [if_neg (by omega), if_pos hlength, hread]
    simp [hnumber, ofNumber6, unscoped]

/-! ### Digits, most significant first -/

/-- The digits of a number in a base, most significant first. -/
def digits (base width n : Nat) : List Nat :=
  List.ofFn fun i : Fin width => n / base ^ (width - 1 - i) % base

theorem getElem_places {base width n i : Nat} (h : i < (places base width n).length) :
    (places base width n)[i] = n / base ^ i % base := by
  induction width generalizing n i with
  | zero => simp [places] at h
  | succ width ih =>
    cases i with
    | zero => simp [places]
    | succ i =>
      have hlt : i < (places base width (n / base)).length := by
        simpa [places] using h
      have hpow : n / base / base ^ i = n / base ^ (i + 1) := by
        rw [Nat.div_div_eq_div_mul, Nat.pow_succ']
      show (places base width (n / base))[i] = n / base ^ (i + 1) % base
      rw [ih hlt, hpow]

theorem reverse_places (base width n : Nat) :
    (places base width n).reverse = digits base width n := by
  refine List.ext_getElem (by simp [digits]) fun i hi hi' => ?_
  simp [digits, getElem_places]

/-- The labels of an address, most significant first: its octets in decimal digits, or its
thirty-two hexadecimal digits. -/
def writtenLabels : Address → List (List Char)
  | v4 bits => (digits 256 4 bits.toNat).map (Nat.toDigits 10)
  | v6 bits _ => (digits 16 32 bits.toNat).map fun d => [Nat.digitChar d]

theorem toList_hexLabel : ∀ n < 16, (hexLabel n).toList = [Nat.digitChar n] := by
  decide +kernel

theorem toDigits_of_head_zero : ∀ n < 256,
    (Nat.toDigits 10 n).head? = some '0' → Nat.toDigits 10 n = ['0'] := by
  decide +kernel

theorem eq_zero_of_mem_writtenLabels {a : Address} {label : List Char}
    (h : label ∈ a.writtenLabels) (hzero : label.head? = some '0') : label = ['0'] := by
  cases a with
  | v4 bits =>
    rw [writtenLabels, ← reverse_places] at h
    obtain ⟨d, hd, rfl⟩ := List.mem_map.mp h
    have hlt : d < 256 := lt_of_mem_places (by omega) (List.mem_reverse.mp hd)
    exact toDigits_of_head_zero d hlt hzero
  | v6 bits scope =>
    obtain ⟨d, -, rfl⟩ := List.mem_map.mp h
    have hdigit : Nat.digitChar d = '0' := Option.some.inj hzero
    rw [hdigit]

theorem reverse_pieces_reverseName (a : Address) :
    (pieces (· = '.') a.reverseName.toList).reverse = a.unmap.writtenLabels := by
  rw [pieces_reverseName, reverseLabels]
  cases a.unmap with
  | v4 bits =>
    rw [← List.map_reverse, ← List.map_reverse, reverse_places, List.map_map]
    refine List.map_congr_left fun d _ => ?_
    show (Nat.repr d).toList = Nat.toDigits 10 d
    simp [Nat.repr]
  | v6 bits scope =>
    dsimp only
    rw [List.map_map, ← List.map_reverse, writtenLabels, ← reverse_places]
    refine List.map_congr_left fun d hd => ?_
    have hlt : d < 16 := lt_of_mem_places (by omega) (List.mem_reverse.mp hd)
    exact toList_hexLabel d hlt

/-! ### Addresses with one name -/

/-- Whether two addresses stand for the same one, whatever their scopes. -/
def Alike (a b : Address) : Prop :=
  a.unmap.version = b.unmap.version ∧ a.unmap.number = b.unmap.number

theorem version_unscoped (a : Address) : a.unscoped.version = a.version := by
  cases a <;> rfl

theorem number_unscoped (a : Address) : a.unscoped.number = a.number := by
  cases a <;> rfl

theorem Alike.unmap_cases {a b : Address} (h : a.Alike b) :
    (∃ bits, a.unmap = v4 bits ∧ b.unmap = v4 bits) ∨
      ∃ bits s t, a.unmap = v6 bits s ∧ b.unmap = v6 bits t := by
  obtain ⟨hversion, hnumber⟩ := h
  cases ha : a.unmap with
  | v4 bits =>
    cases hb : b.unmap with
    | v4 bits' =>
      rw [ha, hb] at hnumber
      obtain rfl := BitVec.eq_of_toNat_eq hnumber
      exact Or.inl ⟨bits, rfl, rfl⟩
    | v6 bits' t =>
      rw [ha, hb] at hversion
      cases hversion
  | v6 bits s =>
    cases hb : b.unmap with
    | v4 bits' =>
      rw [ha, hb] at hversion
      cases hversion
    | v6 bits' t =>
      rw [ha, hb] at hnumber
      obtain rfl := BitVec.eq_of_toNat_eq hnumber
      exact Or.inr ⟨bits, s, t, rfl, rfl⟩

theorem Alike.reverseName_eq {a b : Address} (h : a.Alike b) : a.reverseName = b.reverseName := by
  rcases h.unmap_cases with ⟨bits, ha, hb⟩ | ⟨bits, s, t, ha, hb⟩
  · simp only [reverseName, reverseLabels, ha, hb]
  · simp only [reverseName, reverseLabels, ha, hb]

theorem alike_of_reverseName_eq {a b : Address} (h : a.reverseName = b.reverseName) :
    a.Alike b := by
  have hread := congrArg ofReverseName? h
  rw [ofReverseName?_reverseName, ofReverseName?_reverseName] at hread
  have hsame : a.unmap.unscoped = b.unmap.unscoped := Option.some.inj hread
  constructor
  · rw [← version_unscoped a.unmap, hsame, version_unscoped]
  · rw [← number_unscoped a.unmap, hsame, number_unscoped]

/-- The labels of a reversed name, taken from the last to the first, are the octets or the
hexadecimal digits of the address that is stood for, written as short as can be. They are read as
its version and number, so addresses have the same name exactly if they stand for the same one. -/
theorem reverseName_encodes (a : Address) :
    (pieces (· = '.') a.reverseName.toList).reverse = a.unmap.writtenLabels ∧
    (∀ label ∈ a.unmap.writtenLabels, label.head? = some '0' → label = ['0']) ∧
    (∃ read, ofReverseName? a.reverseName = some read ∧
      read.version = a.unmap.version ∧ read.number = a.unmap.number) ∧
    ∀ b : Address, a.reverseName = b.reverseName ↔
      a.unmap.version = b.unmap.version ∧ a.unmap.number = b.unmap.number :=
  ⟨a.reverse_pieces_reverseName, fun _ => eq_zero_of_mem_writtenLabels,
    ⟨a.unmap.unscoped, a.ofReverseName?_reverseName, a.unmap.version_unscoped,
      a.unmap.number_unscoped⟩,
    fun _ => ⟨alike_of_reverseName_eq, Alike.reverseName_eq⟩⟩

end Address

end RelayReputation
