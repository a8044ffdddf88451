import Mathlib.Data.List.DropRight
import RelayReputation.Text.Blank

/-!
# Blanks at the ends

A text is what is left of it by trimming with blanks around it, and what is left has no blank at
either end. So trimming takes away blanks that were put around such a text, and changes no text that
is trimmed already.
-/

namespace RelayReputation.Text

def AllBlank (cs : List Char) : Prop := ∀ c ∈ cs, isBlank c = true

/-- Whether a text has no blank at either end. -/
structure IsTrimmed (cs : List Char) : Prop where
  head : ∀ c, cs.head? = some c → isBlank c = false
  last : ∀ c, cs.getLast? = some c → isBlank c = false

variable {before cs after : List Char}

theorem IsTrimmed.reverse (h : IsTrimmed cs) : IsTrimmed cs.reverse where
  head c hc := h.last c (by rwa [List.head?_reverse] at hc)
  last c hc := h.head c (by rwa [List.getLast?_reverse] at hc)

theorem dropWhile_isBlank (hbefore : AllBlank before) (hcs : IsTrimmed cs) (hne : cs ≠ []) :
    (before ++ cs ++ after).dropWhile isBlank = cs ++ after := by
  obtain ⟨c, rest, rfl⟩ := List.exists_cons_of_ne_nil hne
  have hc : isBlank c = false := hcs.head c rfl
  rw [List.append_assoc, List.dropWhile_append_of_pos hbefore, List.cons_append,
    List.dropWhile_cons_of_neg (by simp [hc])]

theorem trim_eq_nil (h : AllBlank cs) : trim cs = [] := by
  have hdrop : cs.dropWhile isBlank = [] := List.dropWhile_eq_nil_iff.mpr h
  rw [trim, hdrop]
  rfl

/-- Blanks around a text that has none at its ends are taken away again. -/
theorem trim_padded (hbefore : AllBlank before) (hcs : IsTrimmed cs) (hne : cs ≠ [])
    (hafter : AllBlank after) : trim (before ++ cs ++ after) = cs := by
  have hback : AllBlank after.reverse := fun c hc => hafter c (List.mem_reverse.mp hc)
  have hdrop : (after.reverse ++ cs.reverse ++ []).dropWhile isBlank = cs.reverse ++ [] :=
    dropWhile_isBlank hback hcs.reverse (by simpa using hne)
  rw [List.append_nil, List.append_nil] at hdrop
  rw [trim, dropWhile_isBlank hbefore hcs hne, List.reverse_append, hdrop, List.reverse_reverse]

theorem trim_of_isTrimmed (h : IsTrimmed cs) : trim cs = cs := by
  by_cases hne : cs = []
  · rw [hne]
    rfl
  · have hnone : AllBlank [] := fun c hc => absurd hc List.not_mem_nil
    simpa using trim_padded hnone h hne hnone

theorem not_blank_of_head?_dropWhile {c : Char} (h : (cs.dropWhile isBlank).head? = some c) :
    isBlank c = false := by
  have hnot := List.head?_dropWhile_not isBlank cs
  rw [h] at hnot
  simpa using hnot

theorem isTrimmed_trim (cs : List Char) : IsTrimmed (trim cs) where
  head c hc := by
    obtain ⟨rest, hrest⟩ : trim cs <+: cs.dropWhile isBlank := List.rdropWhile_prefix ..
    have hhead : (cs.dropWhile isBlank).head? = some c := by
      rw [← hrest, List.head?_append, hc]
      rfl
    exact not_blank_of_head?_dropWhile hhead
  last c hc := by
    rw [trim, List.getLast?_reverse] at hc
    exact not_blank_of_head?_dropWhile hc

/-- A text is what is left of it by trimming, with blanks around it. -/
theorem exists_padding (cs : List Char) :
    ∃ before after, AllBlank before ∧ AllBlank after ∧ cs = before ++ trim cs ++ after := by
  have hfront : cs.takeWhile isBlank ++ cs.dropWhile isBlank = cs := List.takeWhile_append_dropWhile
  have hback : trim cs ++ (cs.dropWhile isBlank).rtakeWhile isBlank = cs.dropWhile isBlank :=
    List.rdropWhile_append_rtakeWhile
  refine ⟨cs.takeWhile isBlank, (cs.dropWhile isBlank).rtakeWhile isBlank, ?_, ?_, ?_⟩
  · exact fun c hc => List.mem_takeWhile_imp hc
  · exact fun c hc => List.mem_rtakeWhile_imp hc
  · rw [List.append_assoc, hback, hfront]

theorem allBlank_of_trim_eq_nil (h : trim cs = []) : AllBlank cs := by
  obtain ⟨before, after, hbefore, hafter, hcs⟩ := exists_padding cs
  rw [h, List.append_nil] at hcs
  rw [hcs]
  exact fun c hc => (List.mem_append.mp hc).elim (hbefore c) (hafter c)

end RelayReputation.Text
