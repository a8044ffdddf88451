import RelayReputation.Address.Parser
import RelayReputation.Proofs.LowerCase
import RelayReputation.RelayHost

/-!
# Address literals

An address in brackets, with or without the tag before it, in any letter case. Putting the whole
in lower case puts the address in lower case, whatever stands around it, and no address begins
with the tag; so the host is read as a literal for that address (`IsAddressLiteral.parse_lower`).
-/

namespace RelayReputation

open RelayReputation.Text

/-! ### Lower case between brackets -/

namespace Text

theorem letterAhead_append_of_break {c : Char} (hc : wordRole c = .break) (cs ds : List Char) :
    letterAhead (cs ++ c :: ds) = letterAhead cs := by
  induction cs with
  | nil => simp [letterAhead, hc]
  | cons b cs ih => rw [List.cons_append, letterAhead, letterAhead, ih]

theorem letterBehind_of_break {c : Char} (hc : wordRole c = .break) (behind : Bool) :
    letterBehind behind c = false := by
  simp [letterBehind, hc]

theorem lowerAfter_cons_of_break {c : Char} (hc : wordRole c = .break) (hfix : IsLowered c)
    (behind : Bool) (cs : List Char) : lowerAfter behind (c :: cs) = c :: lowerAfter false cs := by
  have hlower := hfix (behind && !letterAhead cs)
  rw [lowerAfter, hlower, letterBehind_of_break hc]
  rfl

/-- What stands before a character that breaks words is put in lower case as if it ended there. -/
theorem lowerAfter_append_of_break {c : Char} (hc : wordRole c = .break) (hfix : IsLowered c)
    (behind : Bool) (cs ds : List Char) :
    lowerAfter behind (cs ++ c :: ds) = lowerAfter behind cs ++ c :: lowerAfter false ds := by
  induction cs generalizing behind with
  | nil => exact lowerAfter_cons_of_break hc hfix behind ds
  | cons b cs ih =>
    rw [List.cons_append, lowerAfter, lowerAfter, ih, letterAhead_append_of_break hc,
      List.append_assoc]

/-! ### ASCII letters -/

theorem lowerChar_ofNat_of_ascii : ∀ n < 128, ∀ final,
    lowerChar final (Char.ofNat n) = [(Char.ofNat n).toLower] := by
  decide +kernel

theorem toLower_eq_or_lt (c : Char) : c.toLower = c ∨ c.toNat < 91 ∧ 96 < c.toLower.toNat := by
  unfold Char.toLower
  split
  · next h =>
    have hlast : c.toNat ≤ 90 := h.2
    have hsum : (c.val + ('a'.val - 'A'.val)).toNat = (c.toNat + 32) % 2 ^ 32 := rfl
    have hfirst : 65 ≤ c.toNat := h.1
    have hlower : 96 < (c.val + ('a'.val - 'A'.val)).toNat := by omega
    exact Or.inr ⟨by omega, hlower⟩
  · exact Or.inl rfl

/-- A character that is an ASCII one after a change of ASCII letters has that lower-case form. -/
theorem lowerChar_of_toLower {c d : Char} (h : c.toLower = d) (hd : d.toNat < 128)
    (final : Bool) : lowerChar final c = [d] := by
  have hc : c.toNat < 128 := by
    rcases toLower_eq_or_lt c with hc | ⟨hc, -⟩
    · rw [← hc, h]
      exact hd
    · omega
  have hlower := lowerChar_ofNat_of_ascii c.toNat hc final
  rwa [Char.ofNat_toNat, h] at hlower

theorem eq_of_toLower {c d : Char} (h : c.toLower = d) (hd : d.toNat < 97) : c = d := by
  rcases toLower_eq_or_lt c with hc | ⟨-, hc⟩
  · exact hc.symm.trans h
  · rw [h] at hc
    omega

end Text

/-! ### The tag -/

namespace RelayHost

theorem lowerAfter_tag {tag : List Char} (h : tag.map Char.toLower = RelayHost.tag)
    (behind : Bool) (cs : List Char) :
    lowerAfter behind (tag ++ cs) = RelayHost.tag ++ lowerAfter false cs := by
  have hchars : RelayHost.tag = ['i', 'p', 'v', '6', ':'] := by decide
  rw [hchars] at h ⊢
  obtain ⟨c₁, t₁, rfl, h₁, ht₁⟩ := List.map_eq_cons_iff.mp h
  obtain ⟨c₂, t₂, rfl, h₂, ht₂⟩ := List.map_eq_cons_iff.mp ht₁
  obtain ⟨c₃, t₃, rfl, h₃, ht₃⟩ := List.map_eq_cons_iff.mp ht₂
  obtain ⟨c₄, t₄, rfl, h₄, ht₄⟩ := List.map_eq_cons_iff.mp ht₃
  obtain ⟨c₅, t₅, rfl, h₅, ht₅⟩ := List.map_eq_cons_iff.mp ht₄
  obtain rfl := List.map_eq_nil_iff.mp ht₅
  obtain rfl := eq_of_toLower h₄ (by decide)
  obtain rfl := eq_of_toLower h₅ (by decide)
  -- The digit breaks words, so no letter of the tag counts for what follows it.
  have hsix : wordRole '6' = .break := by decide +kernel
  have hcolon : letterBehind false ':' = false := by decide +kernel
  simp only [List.cons_append, List.nil_append, lowerAfter, letterBehind_of_break hsix, hcolon,
    lowerChar_of_toLower h₁ (by decide), lowerChar_of_toLower h₂ (by decide),
    lowerChar_of_toLower h₃ (by decide), lowerChar_of_toLower h₄ (by decide),
    lowerChar_of_toLower h₅ (by decide)]

end RelayHost

namespace Address

theorem pieces_cons_of_not {p : Char → Bool} {c : Char} (hc : p c = false) (cs : List Char) :
    ∃ w ws, pieces p (c :: cs) = (c :: w) :: ws := by
  cases h : pieces p cs with
  | nil => exact absurd h (pieces_ne_nil p cs)
  | cons w ws => exact ⟨w, ws, by simp [pieces, hc, h]⟩

section FirstCharacter

variable {c : Char} (hhex : isHexDigit c = false)

include hhex

theorem readQuad_cons_of_not_hex (hdot : c ≠ '.') (cs : List Char) : readQuad (c :: cs) = none := by
  obtain ⟨w, ws, hpieces⟩ := pieces_cons_of_not (p := (· = '.')) (by simpa using hdot) cs
  have hdigit : isAsciiDigit c = false := by
    simp only [isHexDigit, Bool.or_eq_false_iff] at hhex
    exact hhex.1.1
  have hoctet : readOctet (c :: w) = none := by simp [readOctet, hdigit]
  simp [readQuad, hpieces, hoctet]

theorem readColons_cons_of_not_hex (hdot : c ≠ '.') (hcolon : c ≠ ':') (cs : List Char) :
    readColons (c :: cs) = none := by
  obtain ⟨w, ws, hpieces⟩ := pieces_cons_of_not (p := (· = ':')) (by simpa using hcolon) cs
  have hgroup : readGroup (c :: w) = none := by simp [readGroup, hhex]
  cases ws with
  | nil =>
    -- The only field may be a dotted quad as well.
    have hquad := readQuad_cons_of_not_hex hhex hdot w
    simp [readColons, readGroups, hpieces, readLastGroups, hgroup, hquad]
  | cons v vs => simp [readColons, readGroups, hpieces, hgroup]

/-- An address begins with a decimal or hexadecimal digit or with a mark of its own. -/
theorem ofChars?_cons_of_not_hex (hdot : c ≠ '.') (hcolon : c ≠ ':') (hpercent : c ≠ '%')
    (cs : List Char) : ofChars? (c :: cs) = none := by
  have hquad := readQuad_cons_of_not_hex hhex hdot cs
  have hcolons := readColons_cons_of_not_hex hhex hdot hcolon
  have hbefore : beforeScope (c :: cs) = c :: beforeScope cs := by simp [beforeScope, hpercent]
  rw [ofChars?, hquad]
  cases afterScope? (c :: cs) with
  | none => simp [hcolons]
  | some scope => simp [hbefore, hcolons]

end FirstCharacter

theorem ofChars?_lowerChars {text : String} {a : Address} (h : parse? (lower text) = some a) :
    ofChars? (lowerChars text.toList) = some a := by
  rwa [parse?, toList_lower] at h

theorem ofChars?_tag (cs : List Char) : ofChars? (RelayHost.tag ++ cs) = none := by
  show ofChars? ('i' :: (['p', 'v', '6', ':'] ++ cs)) = none
  exact ofChars?_cons_of_not_hex (by decide) (by decide) (by decide) (by decide) _

theorem ofChars?_bracket (cs : List Char) : ofChars? ('[' :: cs) = none :=
  ofChars?_cons_of_not_hex (by decide) (by decide) (by decide) (by decide) cs

end Address

/-! ### Literals -/

namespace RelayHost

theorem bracketed?_append (cs : List Char) : bracketed? ('[' :: (cs ++ [']'])) = some cs := by
  simp [bracketed?]

theorem trim_brackets (cs : List Char) : trim ('[' :: (cs ++ [']'])) = '[' :: (cs ++ [']']) := by
  have hopen : isBlank '[' = false := by decide
  have hclose : isBlank ']' = false := by decide
  simp [trim, hopen, hclose]

theorem lowerChars_brackets (cs : List Char) :
    lowerChars ('[' :: (cs ++ [']'])) = '[' :: (lowerChars cs ++ [']']) := by
  have hopen : wordRole '[' = .break := by decide +kernel
  have hclose : wordRole ']' = .break := by decide +kernel
  have hopen' : IsLowered '[' := by intro final; cases final <;> decide +kernel
  have hclose' : IsLowered ']' := by intro final; cases final <;> decide +kernel
  rw [lowerChars, lowerAfter_cons_of_break hopen hopen', lowerAfter_append_of_break hclose hclose']
  rfl

theorem parse_lower_brackets (cs : List Char) :
    parse (lower (String.ofList ('[' :: (cs ++ [']'])))) =
      .literal (String.ofList (dropTag (lowerChars cs))) := by
  rw [parse, toList_lower, String.toList_ofList, lowerChars_brackets, ofChars, trim_brackets]
  simp only [lowerChars_brackets, lowerChars_lowerChars, bracketed?_append]

/-- Whether a host is written as the literal of an address, with or without the tag. -/
inductive IsAddressLiteral : String → Address → Prop
  | bare {text : String} {a : Address} (h : Address.parse? (lower text) = some a) :
    IsAddressLiteral ("[" ++ text ++ "]") a
  | tagged {tag text : String} {a : Address}
    (ht : tag.toList.map Char.toLower = RelayHost.tag)
    (h : Address.parse? (lower text) = some a) : IsAddressLiteral ("[" ++ tag ++ text ++ "]") a

theorem dropTag_tag (cs : List Char) : dropTag (tag ++ cs) = cs := by
  have hprefix : tag.isPrefixOf (tag ++ cs) = true :=
    List.isPrefixOf_iff_prefix.mpr (List.prefix_append tag cs)
  rw [dropTag, if_pos hprefix, List.drop_left]

theorem dropTag_eq_self_iff (cs : List Char) : dropTag cs = cs ↔ ¬tag <+: cs := by
  constructor
  · rintro h ⟨rest, rfl⟩
    rw [dropTag_tag] at h
    have hlength := congrArg List.length h
    have htag : tag.length = 5 := by decide
    rw [List.length_append] at hlength
    omega
  · intro h
    rw [dropTag, if_neg (by rwa [List.isPrefixOf_iff_prefix])]

theorem dropTag_of_address {cs : List Char} {a : Address} (h : Address.ofChars? cs = some a) :
    dropTag cs = cs := by
  rw [dropTag_eq_self_iff]
  rintro ⟨rest, rfl⟩
  rw [Address.ofChars?_tag] at h
  cases h

/-- The literal of an address is read as a literal that holds the address. -/
theorem IsAddressLiteral.parse_lower {host : String} {a : Address} (h : IsAddressLiteral host a) :
    ∃ text, parse (lower host) = .literal text ∧ Address.parse? text = some a := by
  cases h with
  | @bare text _ h =>
    have haddress := Address.ofChars?_lowerChars h
    have hhost : "[" ++ text ++ "]" = String.ofList ('[' :: (text.toList ++ [']'])) := by
      rw [← String.toList_inj]
      simp
    refine ⟨lower text, ?_, h⟩
    rw [hhost, parse_lower_brackets, dropTag_of_address haddress]
    rfl
  | @tagged spelled text _ ht h =>
    have hhost : "[" ++ spelled ++ text ++ "]" =
        String.ofList ('[' :: ((spelled.toList ++ text.toList) ++ [']'])) := by
      rw [← String.toList_inj]
      simp
    have hlower : lowerChars (spelled.toList ++ text.toList) = tag ++ lowerChars text.toList :=
      lowerAfter_tag ht false text.toList
    refine ⟨lower text, ?_, h⟩
    rw [hhost, parse_lower_brackets, hlower, dropTag_tag]
    rfl

end RelayHost

end RelayReputation
