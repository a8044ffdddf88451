import RelayReputation.Received
import Mathlib.Data.List.Basic

/-!
# Unfolding undoes folding

A header value can be unfolded by three replacements, one after the other: of each line end with the
blanks after it, of what is left of returns with their feeds, and of what is left of feeds. One pass
over the text does the work of all three (`unfoldChars_eq_replacements`). A text that was folded at
some of its spaces is had back by it, and it leaves no feed in any text: `unfold_undoes_folding`.
-/

namespace RelayReputation

/-! ### Line ends -/

/-- What comes after a line end at the start of a text. -/
def afterLineEnd? : List Char → Option (List Char)
  | '\n' :: cs => some cs
  | '\r' :: '\n' :: cs => some cs
  | _ => none

theorem afterLineEnd?_eq_some_iff {cs rest : List Char} :
    afterLineEnd? cs = some rest ↔ cs = '\n' :: rest ∨ cs = '\r' :: '\n' :: rest := by
  constructor
  · intro h
    unfold afterLineEnd? at h
    split at h
    · exact Or.inl (Option.some.inj h ▸ rfl)
    · exact Or.inr (Option.some.inj h ▸ rfl)
    · cases h
  · intro h
    rcases h with rfl | rfl
    · rfl
    · rfl

theorem of_afterLineEnd?_eq_none {c : Char} {cs : List Char} (h : afterLineEnd? (c :: cs) = none) :
    c ≠ '\n' ∧ (c = '\r' → cs.head? ≠ some '\n') := by
  constructor
  · rintro rfl
    cases h
  · rintro rfl hhead
    obtain ⟨rest, rfl⟩ := List.head?_eq_some_iff.mp hhead
    cases h

theorem length_of_afterLineEnd? {cs rest : List Char} (h : afterLineEnd? cs = some rest) :
    rest.length < cs.length := by
  rcases afterLineEnd?_eq_some_iff.mp h with rfl | rfl
  · simp
  · simp only [List.length_cons]
    omega

theorem dropWhile_isFoldBlank {cs : List Char} (h : cs.head?.any isFoldBlank = false) :
    cs.dropWhile isFoldBlank = cs := by
  cases cs with
  | nil => rfl
  | cons c cs =>
    have hc : isFoldBlank c = false := h
    simp [hc]

/-! ### Three replacements -/

/-- What comes after a fold at the start of a text: a line end and at least one blank. -/
def afterFold? (cs : List Char) : Option (List Char) :=
  ((afterLineEnd? cs).filter (·.head?.any isFoldBlank)).map (·.dropWhile isFoldBlank)

theorem length_of_afterFold? {cs rest : List Char} (h : afterFold? cs = some rest) :
    rest.length < cs.length := by
  obtain ⟨line, hline, rfl⟩ := Option.map_eq_some_iff.mp h
  have hlt := length_of_afterLineEnd? (Option.filter_eq_some_iff.mp hline).1
  have hle := (List.dropWhile_sublist isFoldBlank (l := line)).length_le
  omega

def replaceFolds : List Char → List Char
  | [] => []
  | c :: cs =>
    match _h : afterFold? (c :: cs) with
    | some rest => ' ' :: replaceFolds rest
    | none => c :: replaceFolds cs
termination_by cs => cs.length
decreasing_by
  · exact length_of_afterFold? _h
  · simp

def replaceReturns : List Char → List Char
  | [] => []
  | '\r' :: '\n' :: cs => ' ' :: replaceReturns cs
  | c :: cs => c :: replaceReturns cs

def replaceFeeds (cs : List Char) : List Char := cs.map fun c => if c = '\n' then ' ' else c

theorem replaceFolds_of_some {c : Char} {cs rest : List Char}
    (h : afterFold? (c :: cs) = some rest) : replaceFolds (c :: cs) = ' ' :: replaceFolds rest := by
  rw [replaceFolds]
  split
  · next h' => rw [Option.some.inj (h.symm.trans h')]
  · next h' => cases h.symm.trans h'

theorem replaceFolds_of_none {c : Char} {cs : List Char} (h : afterFold? (c :: cs) = none) :
    replaceFolds (c :: cs) = c :: replaceFolds cs := by
  rw [replaceFolds]
  split
  · next h' => cases h.symm.trans h'
  · rfl

theorem head?_of_head?_replaceFolds {cs : List Char}
    (h : (replaceFolds cs).head? = some '\n') : cs.head? = some '\n' := by
  cases cs with
  | nil => simp [replaceFolds] at h
  | cons c cs =>
    cases hfold : afterFold? (c :: cs) with
    | some rest =>
      rw [replaceFolds_of_some hfold] at h
      cases h
    | none => rwa [replaceFolds_of_none hfold] at h

theorem replaceReturns_cons {c : Char} {cs : List Char}
    (h : c = '\r' → cs.head? ≠ some '\n') : replaceReturns (c :: cs) = c :: replaceReturns cs := by
  rw [replaceReturns]
  rintro ds rfl rfl
  exact h rfl rfl

theorem feed_not_mem_replaceFeeds (cs : List Char) : '\n' ∉ replaceFeeds cs := by
  intro h
  obtain ⟨c, -, hc⟩ := List.mem_map.mp h
  by_cases hfeed : c = '\n'
  · rw [if_pos hfeed] at hc
    cases hc
  · rw [if_neg hfeed] at hc
    exact hfeed hc

/-! ### One pass -/

theorem unfoldChars_true (cs : List Char) :
    unfoldChars true cs = unfoldChars false (cs.dropWhile isFoldBlank) := by
  induction cs with
  | nil => rfl
  | cons c cs ih =>
    rw [unfoldChars_true_cons]
    cases hblank : isFoldBlank c with
    | true => rw [if_pos rfl, ih, List.dropWhile_cons_of_pos hblank]
    | false => simp [hblank]

theorem unfoldChars_of_afterLineEnd? {cs rest : List Char} (h : afterLineEnd? cs = some rest) :
    unfoldChars false cs = ' ' :: unfoldChars false (rest.dropWhile isFoldBlank) := by
  rcases afterLineEnd?_eq_some_iff.mp h with rfl | rfl
  · rw [unfoldChars_feed, unfoldChars_true]
  · rw [unfoldChars_return, unfoldChars_feed, unfoldChars_true]

/-- A line end without blanks after it, in three replacements. -/
theorem replacements_of_lineEnd {cs rest : List Char} (h : afterLineEnd? cs = some rest)
    (hplain : rest.head?.any isFoldBlank = false) :
    replaceFeeds (replaceReturns (replaceFolds cs)) =
      ' ' :: replaceFeeds (replaceReturns (replaceFolds rest)) := by
  have hfeed : replaceFolds ('\n' :: rest) = '\n' :: replaceFolds rest :=
    replaceFolds_of_none (by simp [afterFold?, afterLineEnd?, hplain])
  rcases afterLineEnd?_eq_some_iff.mp h with rfl | rfl
  · have hreturns : replaceReturns ('\n' :: replaceFolds rest) =
        '\n' :: replaceReturns (replaceFolds rest) :=
      replaceReturns_cons fun he => absurd he (by decide)
    rw [hfeed, hreturns]
    rfl
  · have hreturn : replaceFolds ('\r' :: '\n' :: rest) = '\r' :: replaceFolds ('\n' :: rest) :=
      replaceFolds_of_none (by simp [afterFold?, afterLineEnd?, hplain])
    rw [hreturn, hfeed]
    rfl

/-- The one pass gives what the three replacements give. -/
theorem unfoldChars_eq_replacements (cs : List Char) :
    unfoldChars false cs = replaceFeeds (replaceReturns (replaceFolds cs)) := by
  induction hlength : cs.length using Nat.strongRecOn generalizing cs with
  | ind n ih =>
    subst hlength
    cases cs with
    | nil => simp [unfoldChars, replaceFolds, replaceReturns, replaceFeeds]
    | cons c cs =>
      cases hend : afterLineEnd? (c :: cs) with
      | some rest =>
        have hshort := length_of_afterLineEnd? hend
        rw [unfoldChars_of_afterLineEnd? hend]
        cases hblank : rest.head?.any isFoldBlank with
        | true =>
          have hfold : afterFold? (c :: cs) = some (rest.dropWhile isFoldBlank) := by
            simp [afterFold?, hend, hblank]
          rw [replaceFolds_of_some hfold, ih _ (length_of_afterFold? hfold) _ rfl]
          rfl
        | false =>
          rw [dropWhile_isFoldBlank hblank, ih _ hshort _ rfl,
            replacements_of_lineEnd hend hblank]
      | none =>
        obtain ⟨hfeed, hreturn⟩ := of_afterLineEnd?_eq_none hend
        have hkept : replaceFolds (c :: cs) = c :: replaceFolds cs :=
          replaceFolds_of_none (by simp [afterFold?, hend])
        have hreturns : replaceReturns (c :: replaceFolds cs) =
            c :: replaceReturns (replaceFolds cs) :=
          replaceReturns_cons fun hc hhead => hreturn hc (head?_of_head?_replaceFolds hhead)
        rw [unfoldChars_false_cons hfeed hreturn, hkept, hreturns, ih _ (by simp) _ rfl]
        simp [replaceFeeds, hfeed]

theorem feed_not_mem_unfoldChars (cs : List Char) : '\n' ∉ unfoldChars false cs := by
  rw [unfoldChars_eq_replacements]
  exact feed_not_mem_replaceFeeds _

theorem unfoldChars_of_feed_not_mem {cs : List Char} (h : '\n' ∉ cs) :
    unfoldChars false cs = cs := by
  induction cs with
  | nil => rfl
  | cons c cs ih =>
    have hc : c ≠ '\n' := fun he => h (he ▸ List.mem_cons_self ..)
    have hcs : '\n' ∉ cs := fun hm => h (List.mem_cons_of_mem _ hm)
    have hhead : cs.head? ≠ some '\n' := fun he => hcs (List.mem_of_mem_head? he)
    rw [unfoldChars_false_cons hc fun _ => hhead, ih hcs]

/-! ### Folding -/

/-- What stands in a folded text for a space: a line end, with a return or without, and the blanks
before the next line. -/
structure LineBreak where
  hasReturn : Bool
  blanks : List Char
  blanks_ne_nil : blanks ≠ []
  isFoldBlank_of_mem : ∀ c ∈ blanks, isFoldBlank c = true

def LineBreak.chars (b : LineBreak) : List Char :=
  if b.hasReturn then '\r' :: '\n' :: b.blanks else '\n' :: b.blanks

/-- A text in which breaks stand for the characters at some places, counted from `place`. -/
def foldedFrom (breaks : ℕ → Option LineBreak) (place : ℕ) : List Char → List Char
  | [] => []
  | c :: cs =>
    match breaks place with
    | some b => b.chars ++ foldedFrom breaks (place + 1) cs
    | none => c :: foldedFrom breaks (place + 1) cs

def folded (breaks : ℕ → Option LineBreak) (text : String) : String :=
  String.ofList (foldedFrom breaks 0 text.toList)

/-- Whether a text can be folded at a place: a space is there that no blank follows. -/
def IsFoldPlace (cs : List Char) (i : ℕ) : Prop :=
  cs[i]? = some ' ' ∧ ∀ c, cs[i + 1]? = some c → isFoldBlank c = false

theorem unfoldChars_lineBreak (b : LineBreak) (rest : List Char) :
    unfoldChars false (b.chars ++ rest) =
      ' ' :: unfoldChars false (rest.dropWhile isFoldBlank) := by
  have hend : afterLineEnd? (b.chars ++ rest) = some (b.blanks ++ rest) := by
    unfold LineBreak.chars
    cases b.hasReturn <;> rfl
  rw [unfoldChars_of_afterLineEnd? hend, List.dropWhile_append_of_pos b.isFoldBlank_of_mem]

section

variable {breaks : ℕ → Option LineBreak} {place : ℕ} {cs : List Char}

/-- A line that does not begin with a blank does not begin with one once it is folded. -/
theorem head?_foldedFrom (hplaces : (breaks place).isSome → IsFoldPlace cs 0)
    (h : cs.head?.any isFoldBlank = false) :
    (foldedFrom breaks place cs).head?.any isFoldBlank = false := by
  cases cs with
  | nil => rfl
  | cons c cs =>
    cases hb : breaks place with
    | none => simpa [foldedFrom, hb] using h
    | some b =>
      have hspace := (hplaces (by simp [hb])).1
      obtain rfl : c = ' ' := by simpa using hspace
      cases h

theorem unfoldChars_foldedFrom (hplain : ∀ c ∈ cs, c ≠ '\r' ∧ c ≠ '\n')
    (hplaces : ∀ i, (breaks (place + i)).isSome → IsFoldPlace cs i) :
    unfoldChars false (foldedFrom breaks place cs) = cs := by
  induction cs generalizing place with
  | nil => rfl
  | cons c cs ih =>
    obtain ⟨hreturn, hfeed⟩ := hplain c (List.mem_cons_self ..)
    have hrest : ∀ i, (breaks (place + 1 + i)).isSome → IsFoldPlace cs i := by
      intro i hi
      have hplace := hplaces (i + 1) (by rwa [← Nat.add_assoc, Nat.add_right_comm])
      simpa [IsFoldPlace] using hplace
    have ihRest := ih (fun d hd => hplain d (List.mem_cons_of_mem _ hd)) hrest
    cases hb : breaks place with
    | none =>
      have hkept : foldedFrom breaks place (c :: cs) = c :: foldedFrom breaks (place + 1) cs := by
        simp only [foldedFrom, hb]
      rw [hkept, unfoldChars_false_cons hfeed fun hc => absurd hc hreturn, ihRest]
    | some b =>
      have hbroken : foldedFrom breaks place (c :: cs) =
          b.chars ++ foldedFrom breaks (place + 1) cs := by
        simp only [foldedFrom, hb]
      obtain ⟨hspace, hnext⟩ := hplaces 0 (by simp [hb])
      obtain rfl : c = ' ' := by simpa using hspace
      -- The blanks of the break end where the next line of the text itself begins.
      have hline : cs.head?.any isFoldBlank = false := by
        cases cs with
        | nil => rfl
        | cons d ds => exact hnext d rfl
      have hstart := head?_foldedFrom (hrest 0) hline
      rw [hbroken, unfoldChars_lineBreak, dropWhile_isFoldBlank hstart, ihRest]

end

/-- A text without line ends is had back from what it is folded to, wherever it can be folded and
whichever breaks stand there. What is unfolded has no feed, and there is nothing in it to unfold. -/
theorem unfold_undoes_folding :
    (∀ (text : String) (breaks : ℕ → Option LineBreak),
      (∀ c ∈ text.toList, c ≠ '\r' ∧ c ≠ '\n') →
      (∀ i, (breaks i).isSome → IsFoldPlace text.toList i) →
      unfold (folded breaks text) = text) ∧
    ∀ value : String, '\n' ∉ (unfold value).toList ∧ unfold (unfold value) = unfold value := by
  constructor
  · intro text breaks hplain hplaces
    have hback : unfoldChars false (foldedFrom breaks 0 text.toList) = text.toList :=
      unfoldChars_foldedFrom hplain (by simpa using hplaces)
    rw [unfold, folded, String.toList_ofList, hback, String.ofList_toList]
  · intro value
    have hfeed := feed_not_mem_unfoldChars value.toList
    simp only [unfold, String.toList_ofList]
    exact ⟨hfeed, congrArg String.ofList (unfoldChars_of_feed_not_mem hfeed)⟩

/-- A break at the second of two spaces, and one at the end of the text. -/
def twoBreaks : ℕ → Option LineBreak
  | 5 => some ⟨true, ['\t', ' '], List.cons_ne_nil _ _, List.all_eq_true.mp rfl⟩
  | 23 => some ⟨false, [' '], List.cons_ne_nil _ _, List.all_eq_true.mp rfl⟩
  | _ => none

theorem unfold_undoes_folding_twoBreaks :
    (∀ i, (twoBreaks i).isSome → IsFoldPlace "from  mx.example.net by ".toList i) ∧
    folded twoBreaks "from  mx.example.net by " = "from \r\n\t mx.example.net by\n " ∧
    unfold "from \r\n\t mx.example.net by\n " = "from  mx.example.net by " := by
  have hplain : ∀ c ∈ "from  mx.example.net by ".toList, c ≠ '\r' ∧ c ≠ '\n' := by simp
  have hplaces : ∀ i, (twoBreaks i).isSome → IsFoldPlace "from  mx.example.net by ".toList i := by
    intro i hi
    unfold twoBreaks at hi
    split at hi
    · exact ⟨rfl, fun c hc => Option.some.inj hc ▸ rfl⟩
    · exact ⟨rfl, fun c hc => nomatch hc⟩
    · cases hi
  have hfolded : folded twoBreaks "from  mx.example.net by " =
      "from \r\n\t mx.example.net by\n " := by
    decide
  have hback := unfold_undoes_folding.1 "from  mx.example.net by " twoBreaks hplain hplaces
  rw [hfolded] at hback
  exact ⟨hplaces, hfolded, hback⟩

end RelayReputation
