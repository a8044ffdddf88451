import RelayReputation.Proofs.AddressLiterals
import RelayReputation.Proofs.BlankEnds

/-!
# Texts of hosts

The hosts that are read from texts are in lower case, and a name among them has no blank at either
end and does not stand in brackets (`canonical_parse`). The text of such a host is read as the host
again, but for a tag that its literal begins with (`Canonical.parse_text`), and no other such host
has the same text: `hosts_by_text`.
-/

namespace RelayReputation

open RelayReputation.Text

/-! ### Lower case and blanks at the ends -/

namespace Text

/-- Blanks come from blanks only, so none comes to an end that had none. -/
theorem isTrimmed_lowerChars {cs : List Char} (h : IsTrimmed cs) : IsTrimmed (lowerChars cs) where
  head d hd := by
    obtain ⟨c, hc, final, hfrom⟩ := exists_of_head?_lowerAfter hd
    exact not_blank_of_mem_lowerChar hfrom (h.head c hc)
  last d hd := by
    obtain ⟨c, hc, final, hfrom⟩ := exists_of_getLast?_lowerAfter hd
    exact not_blank_of_mem_lowerChar hfrom (h.last c hc)

end Text

namespace RelayHost

/-! ### Hosts as they are read -/

theorem bracketed?_eq_some_iff {cs inner : List Char} :
    bracketed? cs = some inner ↔ cs = '[' :: (inner ++ [']']) := by
  constructor
  · intro h
    unfold bracketed? at h
    split at h
    · next cs =>
      obtain ⟨hlast, hinner⟩ := Option.ite_none_right_eq_some.mp h
      rw [← Option.some.inj hinner, List.dropLast_append_getLast? _ hlast]
    · cases h
  · rintro rfl
    exact bracketed?_append inner

theorem dropTag_suffix (cs : List Char) : dropTag cs <:+ cs := by
  unfold dropTag
  split
  · exact List.drop_suffix _ cs
  · exact List.suffix_refl cs

/-- Whether a host is written in the way in which hosts are read. -/
inductive Canonical : RelayHost → Prop
  | name {text : String} (lowered : ∀ c ∈ text.toList, IsLowered c)
    (trimmed : IsTrimmed text.toList) (unbracketed : bracketed? text.toList = none) :
    Canonical (.name text)
  | literal {text : String} (lowered : ∀ c ∈ text.toList, IsLowered c) : Canonical (.literal text)

theorem canonical_parse (text : String) : (parse text).Canonical := by
  have hlowered : ∀ c ∈ lowerChars (trim text.toList), IsLowered c :=
    fun c hc => isLowered_of_mem_lowerAfter hc
  have htrimmed := isTrimmed_lowerChars (isTrimmed_trim text.toList)
  rw [parse, ofChars]
  generalize lowerChars (trim text.toList) = cs at hlowered htrimmed ⊢
  cases hinner : bracketed? cs with
  | none =>
    refine .name ?_ ?_ ?_
    · rwa [String.toList_ofList]
    · rwa [String.toList_ofList]
    · rwa [String.toList_ofList]
  | some inner =>
    refine .literal ?_
    rw [String.toList_ofList]
    intro c hc
    refine hlowered c ?_
    rw [bracketed?_eq_some_iff.mp hinner]
    exact List.mem_cons_of_mem _ (List.mem_append_left _ ((dropTag_suffix inner).mem hc))

/-! ### Reading the text of a host -/

/-- A host without the tag that its literal may begin with. -/
def withoutTag : RelayHost → RelayHost
  | name text => name text
  | literal text => literal (String.ofList (dropTag text.toList))

theorem withoutTag_eq_self_iff (h : RelayHost) :
    h.withoutTag = h ↔ ¬(h.isLiteral = true ∧ "ipv6:".toList <+: h.bare.toList) := by
  cases h with
  | name text => simp [withoutTag, isLiteral]
  | literal text =>
    have htext : String.ofList (dropTag text.toList) = text ↔
        dropTag text.toList = text.toList := by
      rw [← String.toList_inj, String.toList_ofList]
    simp only [withoutTag, literal.injEq, htext, dropTag_eq_self_iff, isLiteral, true_and]
    rfl

theorem toList_text_literal (text : String) :
    (literal text).text.toList = '[' :: (text.toList ++ [']']) := by
  simp [RelayHost.text]

theorem Canonical.parse_text {h : RelayHost} (hcanonical : h.Canonical) :
    parse h.text = h.withoutTag := by
  cases hcanonical with
  | @name text hlowered htrimmed hunbracketed =>
    have hlower : lowerChars text.toList = text.toList := lowerAfter_of_isLowered hlowered
    show ofChars text.toList = .name text
    rw [ofChars, trim_of_isTrimmed htrimmed, hlower]
    simp only [hunbracketed, String.ofList_toList]
  | @literal text hlowered =>
    have hlower : lowerChars text.toList = text.toList := lowerAfter_of_isLowered hlowered
    rw [parse, toList_text_literal, ofChars, trim_brackets, lowerChars_brackets, hlower]
    simp only [bracketed?_append]
    rfl

/-! ### Hosts by their texts -/

theorem ne_text_literal {text : String} (h : bracketed? text.toList = none) (inner : String) :
    text ≠ (literal inner).text := by
  rintro rfl
  rw [toList_text_literal, bracketed?_append] at h
  cases h

theorem text_literal_inj {text text' : String} (h : (literal text).text = (literal text').text) :
    text = text' := by
  have hlists := congrArg String.toList h
  rw [toList_text_literal, toList_text_literal, List.cons.injEq] at hlists
  exact String.toList_inj.mp (List.append_cancel_right hlists.2)

theorem Canonical.eq_of_text_eq {h h' : RelayHost} (hh : h.Canonical) (hh' : h'.Canonical)
    (htext : h.text = h'.text) : h = h' := by
  cases hh with
  | name _ _ hunbracketed =>
    cases hh' with
    | name => exact congrArg RelayHost.name htext
    | literal => exact absurd htext (ne_text_literal hunbracketed _)
  | literal =>
    cases hh' with
    | name _ _ hunbracketed => exact absurd htext.symm (ne_text_literal hunbracketed _)
    | literal => exact congrArg RelayHost.literal (text_literal_inj htext)

/-- The text of a host that is read is read as the host again, unless the host is a literal that
begins with the tag, and no two of these hosts have one text. -/
theorem hosts_by_text :
    (∀ s, parse (parse s).text = parse s ↔
      ¬((parse s).isLiteral = true ∧ "ipv6:".toList <+: (parse s).bare.toList)) ∧
    ∀ s₁ s₂, (parse s₁).text = (parse s₂).text → parse s₁ = parse s₂ := by
  constructor
  · intro s
    rw [(canonical_parse s).parse_text]
    exact withoutTag_eq_self_iff (parse s)
  · intro s₁ s₂ htext
    exact (canonical_parse s₁).eq_of_text_eq (canonical_parse s₂) htext

/-- A literal with one tag is read again from its text, which is that of the literal without it. One
with two tags is not, as its text still begins with the second. -/
theorem hosts_by_text_tagged :
    let once := "\t[IPv6:2001:DB8::A] "
    let plain := "[2001:db8::a]"
    let twice := "[IPv6:ipV6:2001:DB8::A]"
    (parse once).text = (parse plain).text ∧ parse once = parse plain ∧
      parse (parse once).text = parse once ∧ parse (parse twice).text ≠ parse twice := by
  intro once plain twice
  have htext : (parse once).text = (parse plain).text := by decide +kernel
  have hone : ¬((parse once).isLiteral = true ∧ "ipv6:".toList <+: (parse once).bare.toList) := by
    decide +kernel
  have htwo : (parse twice).isLiteral = true ∧ "ipv6:".toList <+: (parse twice).bare.toList := by
    decide +kernel
  refine ⟨htext, hosts_by_text.2 once plain htext, (hosts_by_text.1 once).mpr hone, ?_⟩
  intro hagain
  exact (hosts_by_text.1 twice).mp hagain htwo

example :
    parse " [" = .name "[" ∧ parse "[]" = .literal "" ∧ parse "[[ΑΣ] ]" = .literal "[ας] " := by
  decide +kernel

end RelayHost

end RelayReputation
