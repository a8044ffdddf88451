/-!
# Blanks, pieces and words

A text is handled as its list of characters. This module says which characters are blank, cuts
a text into the pieces between separators, and from these two takes the words of a text and
trims blanks from its ends.
-/

namespace RelayReputation.Text

/-! ### Blank characters -/

/-- Whether a character is blank: the line, field and record separators, the spaces of every
width, and the tabulators. -/
def isBlank (c : Char) : Bool :=
  let n := c.toNat
  (0x09 ≤ n && n ≤ 0x0D) || (0x1C ≤ n && n ≤ 0x20) || n == 0x85 || n == 0xA0 || n == 0x1680 ||
    (0x2000 ≤ n && n ≤ 0x200A) || n == 0x2028 || n == 0x2029 || n == 0x202F || n == 0x205F ||
    n == 0x3000

/-! ### Pieces -/

/-- The pieces of a text between the characters that satisfy `p`; there is one more of them
than there are such characters. -/
def pieces {α : Type} (p : α → Bool) : List α → List (List α)
  | [] => [[]]
  | c :: cs =>
    if p c then [] :: pieces p cs
    else
      match pieces p cs with
      | [] => [[c]]
      | w :: ws => (c :: w) :: ws

theorem pieces_ne_nil {α : Type} (p : α → Bool) (cs : List α) : pieces p cs ≠ [] := by
  cases cs with
  | nil => simp [pieces]
  | cons c cs =>
    simp only [pieces]
    split
    · simp
    · split <;> simp

theorem pieces_append_cons {α : Type} {p : α → Bool} {c : α} (hc : p c = true) (a b : List α) :
    pieces p (a ++ c :: b) = pieces p a ++ pieces p b := by
  induction a with
  | nil => simp [pieces, hc]
  | cons d a ih =>
    by_cases hd : p d = true
    · simp [pieces, hd, ih]
    · simp only [List.cons_append, pieces, hd, if_false, Bool.false_eq_true, ih]
      cases h : pieces p a with
      | nil => exact absurd h (pieces_ne_nil p a)
      | cons w ws => simp

theorem pieces_eq_singleton {α : Type} {p : α → Bool} {cs : List α} (h : ∀ c ∈ cs, p c = false) :
    pieces p cs = [cs] := by
  induction cs with
  | nil => rfl
  | cons c cs ih =>
    have hc := h c (by simp)
    simp [pieces, hc, ih fun d hd => h d (by simp [hd])]

theorem not_separator_of_mem_pieces {α : Type} {p : α → Bool} {cs w : List α}
    (hw : w ∈ pieces p cs) : ∀ c ∈ w, p c = false := by
  induction cs generalizing w with
  | nil => simp_all [pieces]
  | cons d cs ih =>
    simp only [pieces] at hw
    split at hw
    · rcases List.mem_cons.1 hw with rfl | hw
      · simp
      · exact ih hw
    · next hd =>
      split at hw
      · simp_all
      · next v vs hv =>
        rcases List.mem_cons.1 hw with rfl | hw
        · intro c hc
          rcases List.mem_cons.1 hc with rfl | hc
          · simpa using hd
          · exact ih (hv ▸ List.mem_cons_self) c hc
        · exact ih (hv ▸ List.mem_cons_of_mem v hw)

theorem pieces_intercalate {α : Type} {p : α → Bool} {c : α} (hc : p c = true)
    {ws : List (List α)} (hne : ws ≠ []) (h : ∀ w ∈ ws, ∀ d ∈ w, p d = false) :
    pieces p ([c].intercalate ws) = ws := by
  induction ws with
  | nil => exact absurd rfl hne
  | cons w ws ih =>
    have hw : pieces p w = [w] := pieces_eq_singleton (h w (List.mem_cons_self ..))
    cases ws with
    | nil => simpa using hw
    | cons v ws =>
      have hrest := ih (List.cons_ne_nil v ws) fun u hu => h u (List.mem_cons_of_mem _ hu)
      rw [List.intercalate_cons_cons, List.append_assoc, List.singleton_append,
        pieces_append_cons hc, hw, hrest]
      rfl

theorem intercalate_pieces {c : Char} (cs : List Char) :
    [c].intercalate (pieces (· = c) cs) = cs := by
  induction cs with
  | nil => rfl
  | cons d cs ih =>
    obtain ⟨w, ws, hw⟩ := List.exists_cons_of_ne_nil (pieces_ne_nil (· = c) cs)
    rw [hw] at ih
    by_cases hd : d = c
    · subst hd
      have hpieces : pieces (· = d) (d :: cs) = [] :: w :: ws := by simp [pieces, hw]
      rw [hpieces, List.intercalate_cons_cons, ih]
      rfl
    · have hpieces : pieces (· = c) (d :: cs) = (d :: w) :: ws := by simp [pieces, hd, hw]
      rw [hpieces, ← ih]
      cases ws with
      | nil => rfl
      | cons v vs => rw [List.intercalate_cons_cons, List.intercalate_cons_cons]; rfl

/-! ### Words and trimming -/

def words (cs : List Char) : List (List Char) :=
  (pieces isBlank cs).filter (!·.isEmpty)

def trim (cs : List Char) : List Char :=
  ((cs.dropWhile isBlank).reverse.dropWhile isBlank).reverse

@[simp] theorem words_nil : words [] = [] := rfl

theorem words_append_cons {c : Char} (hc : isBlank c = true) (a b : List Char) :
    words (a ++ c :: b) = words a ++ words b := by
  simp [words, pieces_append_cons hc]

theorem words_cons_of_blank {c : Char} (hc : isBlank c = true) (cs : List Char) :
    words (c :: cs) = words cs := by
  simpa using words_append_cons hc [] cs

theorem of_mem_words {cs w : List Char} (hw : w ∈ words cs) :
    w ≠ [] ∧ ∀ c ∈ w, isBlank c = false := by
  simp only [words, List.mem_filter, Bool.not_eq_true', List.isEmpty_eq_false_iff] at hw
  exact ⟨hw.2, not_separator_of_mem_pieces hw.1⟩

theorem trim_of_not_blank {cs : List Char} (h : ∀ c ∈ cs, isBlank c = false) : trim cs = cs := by
  have hdrop (ds : List Char) (hds : ∀ c ∈ ds, isBlank c = false) : ds.dropWhile isBlank = ds := by
    cases ds with
    | nil => rfl
    | cons d ds => simp [hds d (List.mem_cons_self ..)]
  have hreverse : ∀ c ∈ cs.reverse, isBlank c = false := fun c hc => h c (List.mem_reverse.mp hc)
  rw [trim, hdrop cs h, hdrop cs.reverse hreverse, List.reverse_reverse]

end RelayReputation.Text
