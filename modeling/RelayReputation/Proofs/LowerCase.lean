import RelayReputation.Text.Blank
import RelayReputation.Text.Lower
import Mathlib.Data.List.Basic
import Mathlib.Tactic.ByContra

/-!
# Lower case is stable

A text in lower case stays as it is when it is put in lower case again. The table is checked run
against run: no run takes up a number that another one gives. Two more letters need care, the
dotted capital I and the capital sigma, which are treated as runs of one. The blanks are runs that
nothing gives either, so the lower-case form of a text without blanks has none. The first and the
last character of such a form come from the first and the last one of the text.
-/

namespace RelayReputation.Text

/-! ### Runs -/

def LetterRun.image (r : LetterRun) (n : Nat) : Nat := (n + r.shift).toNat

/-- Whether a run takes up no number that another one gives: it lies apart, or both go in steps
of two and never meet, or the other gives one number only and that is not taken up. -/
def LetterRun.missedBy (r p : LetterRun) : Bool :=
  Nat.blt (r.image r.last) p.first || (Nat.blt p.last (r.image r.first) ||
    ((r.stride == 2 && (p.stride == 2 && (r.image r.first + p.first) % 2 == 1)) ||
      (r.first == r.last && !p.covers (r.image r.first))))

def LetterRun.staysUp (r : LetterRun) : Bool := 0 ≤ r.first + r.shift

theorem LetterRun.covers_iff (r : LetterRun) (n : Nat) :
    r.covers n = true ↔ r.first ≤ n ∧ n ≤ r.last ∧ (n - r.first) % r.stride = 0 := by
  simp [covers, and_assoc]

theorem LetterRun.not_covers_image {r p : LetterRun} {n : Nat} (hup : r.staysUp = true)
    (h : r.missedBy p = true) (hn : r.covers n = true) : p.covers (r.image n) = false := by
  by_contra hc
  rw [Bool.not_eq_false, covers_iff] at hc
  rw [covers_iff] at hn
  simp only [staysUp, decide_eq_true_eq] at hup
  simp only [missedBy, Bool.or_eq_true, Bool.and_eq_true, Nat.blt_eq, beq_iff_eq,
    Bool.not_eq_true'] at h
  unfold image at *
  rcases h with h | h | ⟨hr, hp, hodd⟩ | ⟨hone, hout⟩
  · omega
  · omega
  -- Both go in steps of two, and the first numbers differ by an odd number.
  · rw [hr] at hn
    rw [hp] at hc
    omega
  · have heq : n = r.first := by omega
    rw [heq] at hc
    rw [(p.covers_iff _).mpr hc] at hout
    cases hout

/-- The two letters that are treated apart, as runs. -/
def apartRuns : List LetterRun := [⟨0x130, 0x130, 1, 0⟩, ⟨0x3A3, 0x3A3, 1, 0⟩]

theorem lowerRuns_staysUp : ∀ r ∈ lowerRuns, r.staysUp = true := by
  decide +kernel

theorem lowerRuns_missedBy : (lowerRuns.all fun r => lowerRuns.all r.missedBy) = true := by
  decide +kernel

theorem apartRuns_missedBy : (lowerRuns.all fun r => apartRuns.all r.missedBy) = true := by
  decide +kernel

theorem missedBy_of_mem {r p : LetterRun} (hr : r ∈ lowerRuns)
    (hp : p ∈ lowerRuns ∨ p ∈ apartRuns) : r.missedBy p = true := by
  rcases hp with hp | hp
  · exact List.all_eq_true.mp (List.all_eq_true.mp lowerRuns_missedBy r hr) p hp
  · exact List.all_eq_true.mp (List.all_eq_true.mp apartRuns_missedBy r hr) p hp

/-! ### Numbers -/

theorem lowerByRuns_of_not_covers {runs : List LetterRun} {n : Nat}
    (h : ∀ r ∈ runs, r.covers n = false) : lowerByRuns runs n = n := by
  induction runs with
  | nil => rfl
  | cons r rest ih =>
    have hr := h r (List.mem_cons_self ..)
    have hrest := ih fun p hp => h p (List.mem_cons_of_mem _ hp)
    simp [lowerByRuns, hr, hrest]

theorem lowerByRuns_cases (runs : List LetterRun) (n : Nat) :
    lowerByRuns runs n = n ∨
      ∃ r ∈ runs, r.covers n = true ∧ lowerByRuns runs n = r.image n := by
  induction runs with
  | nil => exact Or.inl rfl
  | cons r rest ih =>
    by_cases hlt : n < r.first
    · exact Or.inl (by simp [lowerByRuns, hlt])
    · by_cases hc : r.covers n = true
      · exact Or.inr ⟨r, List.mem_cons_self .., hc, by simp [lowerByRuns, hlt, hc, LetterRun.image]⟩
      · have hstep : lowerByRuns (r :: rest) n = lowerByRuns rest n := by
          simp [lowerByRuns, hlt, hc]
        rw [hstep]
        rcases ih with h | ⟨p, hp, hcp, he⟩
        · exact Or.inl h
        · exact Or.inr ⟨p, List.mem_cons_of_mem _ hp, hcp, he⟩

/-- A number that a run gives is neither taken up by a run nor one of the two letters apart. -/
theorem not_covers_lowerByRuns {n : Nat} (hn : lowerByRuns lowerRuns n ≠ n) {p : LetterRun}
    (hp : p ∈ lowerRuns ∨ p ∈ apartRuns) : p.covers (lowerByRuns lowerRuns n) = false := by
  rcases lowerByRuns_cases lowerRuns n with h | ⟨r, hr, hc, he⟩
  · exact absurd h hn
  · rw [he]
    exact LetterRun.not_covers_image (lowerRuns_staysUp r hr) (missedBy_of_mem hr hp) hc

theorem lowerByRuns_lowerByRuns (n : Nat) :
    lowerByRuns lowerRuns (lowerByRuns lowerRuns n) = lowerByRuns lowerRuns n := by
  by_cases hn : lowerByRuns lowerRuns n = n
  · rw [hn, hn]
  · exact lowerByRuns_of_not_covers fun p hp => not_covers_lowerByRuns hn (Or.inl hp)

/-! ### Characters -/

theorem toNat_ofNat_cases (n : Nat) : (Char.ofNat n).toNat = n ∨ Char.ofNat n = '\x00' := by
  by_cases hv : n.isValidChar
  · left
    rw [Char.ofNat, dif_pos hv]
    rfl
  · right
    rw [Char.ofNat, dif_neg hv]
    rfl

/-- Whether a character is its own lower-case form, wherever it stands. -/
def IsLowered (c : Char) : Prop := ∀ final, lowerChar final c = [c]

theorem isLowered_ofNat {n : Nat} (hfix : lowerByRuns lowerRuns n = n)
    (hI : n ≠ 0x130) (hS : n ≠ 0x3A3) : IsLowered (Char.ofNat n) := by
  intro final
  rcases toNat_ofNat_cases n with hto | hz
  · have h1 : Char.ofNat n ≠ 'Σ' := fun h => hS (hto.symm.trans (congrArg Char.toNat h))
    have h2 : Char.ofNat n ≠ 'İ' := fun h => hI (hto.symm.trans (congrArg Char.toNat h))
    rw [lowerChar, if_neg h1, if_neg h2, hto, hfix]
  · rw [hz]
    cases final <;> decide

theorem isLowered_of_mem_lowerChar {final : Bool} {c d : Char} (h : d ∈ lowerChar final c) :
    IsLowered d := by
  unfold lowerChar at h
  split at h
  · have hd : d = 'ς' ∨ d = 'σ' := by
      cases final
      · exact Or.inr (List.mem_singleton.mp h)
      · exact Or.inl (List.mem_singleton.mp h)
    rcases hd with rfl | rfl
    · intro f; cases f <;> decide
    · intro f; cases f <;> decide
  · next hS =>
    split at h
    · simp only [List.mem_cons, List.not_mem_nil, or_false] at h
      rcases h with rfl | rfl
      · intro f; cases f <;> decide
      · intro f; cases f <;> decide
    · next hI =>
      rw [List.mem_singleton.mp h]
      by_cases hn : lowerByRuns lowerRuns c.toNat = c.toNat
      · refine isLowered_ofNat (by rw [hn, hn]) ?_ ?_
        · rw [hn]
          exact fun he => hI (Char.toNat_inj.mp he)
        · rw [hn]
          exact fun he => hS (Char.toNat_inj.mp he)
      · have hout := fun p hp => not_covers_lowerByRuns hn (p := p) (Or.inr hp)
        refine isLowered_ofNat (lowerByRuns_lowerByRuns _) ?_ ?_
        · intro he
          have hI' := hout ⟨0x130, 0x130, 1, 0⟩ (by simp [apartRuns])
          rw [he] at hI'
          exact absurd hI' (by decide)
        · intro he
          have hS' := hout ⟨0x3A3, 0x3A3, 1, 0⟩ (by simp [apartRuns])
          rw [he] at hS'
          exact absurd hS' (by decide)

/-! ### Texts -/

theorem exists_of_mem_lowerAfter {behind : Bool} {cs : List Char} {d : Char}
    (h : d ∈ lowerAfter behind cs) : ∃ c ∈ cs, ∃ final, d ∈ lowerChar final c := by
  induction cs generalizing behind with
  | nil => simp [lowerAfter] at h
  | cons c cs ih =>
    rw [lowerAfter, List.mem_append] at h
    rcases h with h | h
    · exact ⟨c, List.mem_cons_self .., _, h⟩
    · obtain ⟨b, hb, final, hd⟩ := ih h
      exact ⟨b, List.mem_cons_of_mem _ hb, final, hd⟩

theorem isLowered_of_mem_lowerAfter {behind : Bool} {cs : List Char} {d : Char}
    (h : d ∈ lowerAfter behind cs) : IsLowered d := by
  obtain ⟨c, -, final, hd⟩ := exists_of_mem_lowerAfter h
  exact isLowered_of_mem_lowerChar hd

theorem lowerAfter_of_isLowered {behind : Bool} {cs : List Char} (h : ∀ c ∈ cs, IsLowered c) :
    lowerAfter behind cs = cs := by
  induction cs generalizing behind with
  | nil => rfl
  | cons c cs ih =>
    rw [lowerAfter, h c (List.mem_cons_self ..), ih fun d hd => h d (List.mem_cons_of_mem _ hd)]
    rfl

@[simp] theorem lowerChars_lowerChars (cs : List Char) :
    lowerChars (lowerChars cs) = lowerChars cs :=
  lowerAfter_of_isLowered fun _ hc => isLowered_of_mem_lowerAfter hc

@[simp] theorem lower_lower (s : String) : lower (lower s) = lower s := by
  simp [lower]

/-! ### Characters that nothing else becomes -/

def LiesIn (runs : List LetterRun) (c : Char) : Prop := ∃ p ∈ runs, p.covers c.toNat = true

instance (runs : List LetterRun) (c : Char) : Decidable (LiesIn runs c) :=
  inferInstanceAs (Decidable (∃ p ∈ runs, p.covers c.toNat = true))

/-- The lower-case forms of the two letters apart, and the character that stands for a number of
none. -/
def apartForms : List Char := ['ς', 'σ', 'i', '\u0307', '\x00']

/-- Whether no character outside of some runs has a lower-case form in them. -/
structure Unreached (runs : List LetterRun) : Prop where
  missed : ∀ r ∈ lowerRuns, ∀ p ∈ runs, r.missedBy p = true
  apart : ∀ d ∈ apartForms, ¬LiesIn runs d

theorem covers_of_covers_lowerByRuns {p : LetterRun} (hp : ∀ r ∈ lowerRuns, r.missedBy p = true)
    {n : Nat} (h : p.covers (lowerByRuns lowerRuns n) = true) : p.covers n = true := by
  rcases lowerByRuns_cases lowerRuns n with hn | ⟨r, hr, hc, hn⟩
  · rwa [hn] at h
  · have hout := LetterRun.not_covers_image (lowerRuns_staysUp r hr) (hp r hr) hc
    rw [hn, hout] at h
    cases h

theorem Unreached.liesIn_of_mem_lowerChar {runs : List LetterRun} (hruns : Unreached runs)
    {final : Bool} {c d : Char} (h : d ∈ lowerChar final c) (hd : LiesIn runs d) :
    LiesIn runs c := by
  unfold lowerChar at h
  split at h
  · have happart : d ∈ apartForms := by
      cases final <;> simp_all [apartForms]
    exact absurd hd (hruns.apart d happart)
  · split at h
    · have happart : d ∈ apartForms := by
        simp only [List.mem_cons, List.not_mem_nil, or_false] at h
        rcases h with rfl | rfl <;> decide
      exact absurd hd (hruns.apart d happart)
    · rw [List.mem_singleton.mp h] at hd
      rcases toNat_ofNat_cases (lowerByRuns lowerRuns c.toNat) with hto | hz
      · obtain ⟨p, hp, hcovers⟩ := hd
        rw [hto] at hcovers
        exact ⟨p, hp, covers_of_covers_lowerByRuns (fun r hr => hruns.missed r hr p hp) hcovers⟩
      · rw [hz] at hd
        exact absurd hd (hruns.apart _ (by decide))

/-- The blanks as runs, each of which changes nothing. -/
def blankRuns : List LetterRun := [
  ⟨0x09, 0x0D, 1, 0⟩, ⟨0x1C, 0x20, 1, 0⟩, ⟨0x85, 0x85, 1, 0⟩, ⟨0xA0, 0xA0, 1, 0⟩,
  ⟨0x1680, 0x1680, 1, 0⟩, ⟨0x2000, 0x200A, 1, 0⟩, ⟨0x2028, 0x2029, 1, 0⟩, ⟨0x202F, 0x202F, 1, 0⟩,
  ⟨0x205F, 0x205F, 1, 0⟩, ⟨0x3000, 0x3000, 1, 0⟩]

theorem isBlank_iff (c : Char) : isBlank c = true ↔ LiesIn blankRuns c := by
  simp [isBlank, LiesIn, blankRuns, LetterRun.covers_iff]
  omega

theorem unreached_blankRuns : Unreached blankRuns where
  missed := by decide +kernel
  apart := by simp [apartForms, LiesIn, blankRuns, LetterRun.covers_iff]

theorem isBlank_of_mem_lowerChar {final : Bool} {c d : Char} (h : d ∈ lowerChar final c)
    (hd : isBlank d = true) : isBlank c = true := by
  rw [isBlank_iff] at hd ⊢
  exact unreached_blankRuns.liesIn_of_mem_lowerChar h hd

theorem not_blank_of_mem_lowerChar {final : Bool} {c d : Char} (h : d ∈ lowerChar final c)
    (hc : isBlank c = false) : isBlank d = false := by
  cases hd : isBlank d with
  | false => rfl
  | true =>
    have hblank := isBlank_of_mem_lowerChar h hd
    exact hblank.symm.trans hc

theorem not_blank_of_mem_lowerChars {cs : List Char} (h : ∀ c ∈ cs, isBlank c = false) :
    ∀ c ∈ lowerChars cs, isBlank c = false := by
  intro d hd
  obtain ⟨c, hc, final, hfrom⟩ := exists_of_mem_lowerAfter hd
  exact not_blank_of_mem_lowerChar hfrom (h c hc)

theorem lowerChar_ne_nil (final : Bool) (c : Char) : lowerChar final c ≠ [] := by
  unfold lowerChar
  split
  · exact List.cons_ne_nil _ _
  · split
    · exact List.cons_ne_nil _ _
    · exact List.cons_ne_nil _ _

theorem lowerAfter_ne_nil {behind : Bool} {cs : List Char} (h : cs ≠ []) :
    lowerAfter behind cs ≠ [] := by
  cases cs with
  | nil => exact absurd rfl h
  | cons c cs =>
    rw [lowerAfter]
    exact List.append_ne_nil_of_left_ne_nil (lowerChar_ne_nil _ c) _

theorem lowerChars_ne_nil {cs : List Char} (h : cs ≠ []) : lowerChars cs ≠ [] :=
  lowerAfter_ne_nil h

/-! ### The ends of a text -/

theorem exists_of_head?_lowerAfter {behind : Bool} {cs : List Char} {d : Char}
    (h : (lowerAfter behind cs).head? = some d) :
    ∃ c, cs.head? = some c ∧ ∃ final, d ∈ lowerChar final c := by
  cases cs with
  | nil => cases h
  | cons c cs =>
    rw [lowerAfter, List.head?_append_of_ne_nil _ (lowerChar_ne_nil _ c)] at h
    exact ⟨c, rfl, _, List.mem_of_head? h⟩

theorem exists_of_getLast?_lowerAfter {behind : Bool} {cs : List Char} {d : Char}
    (h : (lowerAfter behind cs).getLast? = some d) :
    ∃ c, cs.getLast? = some c ∧ ∃ final, d ∈ lowerChar final c := by
  induction cs generalizing behind with
  | nil => cases h
  | cons c cs ih =>
    rw [lowerAfter] at h
    cases cs with
    | nil =>
      rw [lowerAfter, List.append_nil] at h
      exact ⟨c, rfl, _, List.mem_of_getLast? h⟩
    | cons b cs =>
      rw [List.getLast?_append_of_ne_nil _ (lowerAfter_ne_nil (List.cons_ne_nil b cs))] at h
      rw [List.getLast?_cons_cons]
      exact ih h

end RelayReputation.Text
