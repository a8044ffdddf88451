import RelayReputation.Checker.Basic
import RelayReputation.Proofs.LowerCase

/-!
# Relay hosts by the words of a header

Unfolding a header value takes away blanks and line ends and puts a space where a line ended, so it
neither joins nor splits nor loses a word (`words_unfold`). The relay host is therefore the word
after the first `from` that has a word after it, in the value as it stands, however its words are
set apart: `relayHost_by_words`.
-/

namespace RelayReputation

open RelayReputation.Text

/-! ### Words of a folded value -/

theorem isBlank_of_isFoldBlank {c : Char} (h : isFoldBlank c = true) : isBlank c = true := by
  simp only [isFoldBlank, Bool.or_eq_true, decide_eq_true_eq] at h
  rcases h with rfl | rfl
  · rfl
  · rfl

/-- Unfolding leaves the words of a text as they are: what stands before it may end in the middle of
a word, unless a line has just ended. -/
theorem words_unfoldChars (cs : List Char) :
    (∀ front, words (front ++ unfoldChars false cs) = words (front ++ cs)) ∧
      words (unfoldChars true cs) = words cs := by
  induction cs with
  | nil => exact ⟨fun _ => rfl, rfl⟩
  | cons c cs ih =>
    obtain ⟨ihFront, ihSkipping⟩ := ih
    have hplain (front : List Char) :
        words (front ++ unfoldChars false (c :: cs)) = words (front ++ c :: cs) := by
      by_cases hfeed : c = '\n'
      · subst hfeed
        rw [unfoldChars_feed, words_append_cons (by decide), words_append_cons (by decide),
          ihSkipping]
      · by_cases hreturn : c = '\r' ∧ cs.head? = some '\n'
        · obtain ⟨rfl, hhead⟩ := hreturn
          obtain ⟨rest, rfl⟩ := List.head?_eq_some_iff.mp hhead
          -- The return goes with the line end behind it, which is blank itself.
          rw [unfoldChars_return, ihFront, words_append_cons (by decide),
            words_append_cons (by decide), words_cons_of_blank (by decide)]
        · have hkeep := unfoldChars_false_cons hfeed fun hc hhead => hreturn ⟨hc, hhead⟩
          have hfront := ihFront (front ++ [c])
          rw [List.append_assoc, List.append_assoc] at hfront
          rw [hkeep]
          exact hfront
    refine ⟨hplain, ?_⟩
    rw [unfoldChars_true_cons]
    cases hblank : isFoldBlank c with
    | true =>
      rw [if_pos rfl, ihSkipping, words_cons_of_blank (isBlank_of_isFoldBlank hblank)]
    | false => exact hplain []

theorem words_unfold (value : String) : words (unfold value).toList = words value.toList := by
  rw [unfold, String.toList_ofList]
  exact (words_unfoldChars value.toList).1 []

/-! ### The first `from` -/

/-- Whether the word at a place is `from`, in any letter case, and a word follows it. -/
def FromAt (ws : List (List Char)) (i : Nat) : Prop :=
  i + 1 < ws.length ∧ ∃ w, ws[i]? = some w ∧ lowerChars w = fromWord

def FirstFrom (ws : List (List Char)) (i : Nat) : Prop := FromAt ws i ∧ ∀ j < i, ¬FromAt ws j

theorem fromAt_cons_zero (w next : List Char) (ws : List (List Char)) :
    FromAt (w :: next :: ws) 0 ↔ lowerChars w = fromWord := by
  simp [FromAt]

theorem fromAt_cons_succ (w : List Char) (ws : List (List Char)) (i : Nat) :
    FromAt (w :: ws) (i + 1) ↔ FromAt ws i := by
  simp [FromAt]

theorem firstFrom_cons_succ (w : List Char) (ws : List (List Char)) (i : Nat) :
    FirstFrom (w :: ws) (i + 1) ↔ ¬FromAt (w :: ws) 0 ∧ FirstFrom ws i := by
  simp only [FirstFrom, fromAt_cons_succ]
  constructor
  · rintro ⟨hhere, hbefore⟩
    refine ⟨hbefore 0 (by omega), hhere, ?_⟩
    intro j hj
    rw [← fromAt_cons_succ w]
    exact hbefore (j + 1) (by omega)
  · rintro ⟨hfirst, hhere, hbefore⟩
    refine ⟨hhere, ?_⟩
    intro j hj
    cases j with
    | zero => exact hfirst
    | succ j =>
      rw [fromAt_cons_succ]
      exact hbefore j (by omega)

theorem afterFrom?_cons_of_from {w : List Char} (hw : lowerChars w = fromWord) (next : List Char)
    (ws : List (List Char)) : afterFrom? (w :: next :: ws) = some (lowerChars next) := by
  rw [afterFrom?, if_pos hw]

theorem afterFrom?_cons_of_not_from {w : List Char} (hw : lowerChars w ≠ fromWord)
    (next : List Char) (ws : List (List Char)) :
    afterFrom? (w :: next :: ws) = afterFrom? (next :: ws) := by
  rw [afterFrom?, if_neg hw]

theorem afterFrom?_eq_none_iff (ws : List (List Char)) :
    afterFrom? ws = none ↔ ∀ i, ¬FromAt ws i := by
  induction ws with
  | nil => simp [afterFrom?, FromAt]
  | cons w ws ih =>
    cases ws with
    | nil => simp [afterFrom?, FromAt]
    | cons next ws =>
      by_cases hw : lowerChars w = fromWord
      · rw [afterFrom?_cons_of_from hw]
        have hfirst := (fromAt_cons_zero w next ws).mpr hw
        exact iff_of_false (Option.some_ne_none _) fun hnone => hnone 0 hfirst
      · rw [afterFrom?_cons_of_not_from hw, ih]
        constructor
        · intro hrest i
          cases i with
          | zero => rwa [fromAt_cons_zero]
          | succ i =>
            rw [fromAt_cons_succ]
            exact hrest i
        · intro hall i
          rw [← fromAt_cons_succ w]
          exact hall (i + 1)

theorem afterFrom?_eq_some_iff (ws : List (List Char)) (host : List Char) :
    afterFrom? ws = some host ↔
      ∃ i next, FirstFrom ws i ∧ ws[i + 1]? = some next ∧ host = lowerChars next := by
  induction ws with
  | nil => simp [afterFrom?]
  | cons w ws ih =>
    cases ws with
    | nil => simp [afterFrom?]
    | cons next ws =>
      by_cases hw : lowerChars w = fromWord
      · rw [afterFrom?_cons_of_from hw, Option.some.injEq]
        have hfirst := (fromAt_cons_zero w next ws).mpr hw
        constructor
        · rintro rfl
          exact ⟨0, next, ⟨hfirst, by omega⟩, rfl, rfl⟩
        · rintro ⟨i, next', hi, hnext, rfl⟩
          cases i with
          | zero => rw [Option.some.inj hnext]
          | succ i => exact absurd hfirst ((firstFrom_cons_succ ..).mp hi).1
      · rw [afterFrom?_cons_of_not_from hw, ih]
        have hnot : ¬FromAt (w :: next :: ws) 0 := by rwa [fromAt_cons_zero]
        constructor
        · rintro ⟨i, next', hi, hnext, rfl⟩
          exact ⟨i + 1, next', (firstFrom_cons_succ ..).mpr ⟨hnot, hi⟩, hnext, rfl⟩
        · rintro ⟨i, next', hi, hnext, rfl⟩
          cases i with
          | zero => exact absurd hi.1 hnot
          | succ i => exact ⟨i, next', ((firstFrom_cons_succ ..).mp hi).2, hnext, rfl⟩

/-! ### Relay hosts -/

theorem relayHostIn_eq_none_iff (value : String) :
    relayHostIn value = none ↔ ∀ i, ¬FromAt (words value.toList) i := by
  rw [relayHostIn, words_unfold, Option.map_eq_none_iff, afterFrom?_eq_none_iff]

theorem relayHostIn_eq_some_iff (value host : String) :
    relayHostIn value = some host ↔
      ∃ i next, FirstFrom (words value.toList) i ∧ (words value.toList)[i + 1]? = some next ∧
        host = String.ofList (lowerChars next) := by
  rw [relayHostIn, words_unfold, Option.map_eq_some_iff]
  simp only [afterFrom?_eq_some_iff]
  constructor
  · rintro ⟨cs, ⟨i, next, hi, hnext, rfl⟩, rfl⟩
    exact ⟨i, next, hi, hnext, rfl⟩
  · rintro ⟨i, next, hi, hnext, rfl⟩
    exact ⟨lowerChars next, ⟨i, next, hi, hnext, rfl⟩, rfl⟩

theorem relayHostIn_congr {value value' : String}
    (h : words value'.toList = words value.toList) : relayHostIn value' = relayHostIn value := by
  rw [relayHostIn, relayHostIn, words_unfold, words_unfold, h]

theorem relayHostOf_append_text (earlier : List HeaderValue) (value : String) :
    relayHostOf (earlier ++ [.text value]) = .ok (relayHostIn value) := by
  simp [relayHostOf]

theorem word_of_relayHostIn {value host : String} (h : relayHostIn value = some host) :
    host.toList ≠ [] ∧ ∀ c ∈ host.toList, isBlank c = false := by
  obtain ⟨i, next, -, hnext, rfl⟩ := (relayHostIn_eq_some_iff value host).mp h
  obtain ⟨hne, hblank⟩ := of_mem_words (List.mem_of_getElem? hnext)
  rw [String.toList_ofList]
  exact ⟨lowerChars_ne_nil hne, not_blank_of_mem_lowerChars hblank⟩

namespace Checker

variable (c : Checker) (r : Resolver) (now : Float) (received : List HeaderValue)

theorem isJunk_eq_none_iff :
    (c.isJunk r now received).2.2 = .ok none ↔ relayHostOf received = .ok none := by
  unfold isJunk
  cases relayHostOf received with
  | error e => simp
  | ok named => cases named <;> simp

theorem isJunk_of_no_host (h : relayHostOf received = .ok none) :
    c.isJunk r now received = (c, [.noticed .noRelayHost], .ok none) := by
  simp only [isJunk, h]

end Checker

/-- The relay host of a message is the lower-case form of the word after the first `from` of its
last header that has a word after it, without regard to line ends; so headers with the same words
name the same host. It is a word without blanks. A message without one gets no verdict: nothing is
asked for it and the cache stays as it is. -/
theorem relayHost_by_words (earlier : List HeaderValue) (value : String) :
    (∀ host, relayHostOf (earlier ++ [.text value]) = .ok (some host) ↔
      ∃ i next, FirstFrom (words value.toList) i ∧ (words value.toList)[i + 1]? = some next ∧
        host = String.ofList (lowerChars next)) ∧
    (relayHostOf (earlier ++ [.text value]) = .ok none ↔ ∀ i, ¬FromAt (words value.toList) i) ∧
    (∀ earlier' value', words value'.toList = words value.toList →
      relayHostOf (earlier' ++ [.text value']) = relayHostOf (earlier ++ [.text value])) ∧
    (∀ host, relayHostOf (earlier ++ [.text value]) = .ok (some host) →
      host.toList ≠ [] ∧ ∀ c ∈ host.toList, isBlank c = false) ∧
    ∀ (c : Checker) (r : Resolver) (now : Float) (received : List HeaderValue),
      ((c.isJunk r now received).2.2 = .ok none ↔ relayHostOf received = .ok none) ∧
      (relayHostOf received = .ok none →
        (c.isJunk r now received).2.1.questions = [] ∧ (c.isJunk r now received).1 = c) := by
  simp only [relayHostOf_append_text, Except.ok.injEq]
  refine ⟨relayHostIn_eq_some_iff value, relayHostIn_eq_none_iff value, ?_, ?_, ?_⟩
  · intro _ value' h
    exact relayHostIn_congr h
  · intro host h
    exact word_of_relayHostIn h
  · intro c r now received
    refine ⟨c.isJunk_eq_none_iff r now received, ?_⟩
    intro h
    rw [c.isJunk_of_no_host r now received h]
    exact ⟨rfl, rfl⟩

def plainTrace : String := "by mx.example.net From [IPv6:2001:DB8::1] id 7 from"

def foldedTrace : String :=
  "by mx.example.net\r\n\tFrom\n \t [IPv6:2001:DB8::1]\r\n\r\n  id 7\nfrom"

theorem relayHost_by_words_foldedTrace :
    words foldedTrace.toList = words plainTrace.toList ∧
    relayHostOf ([.other "int"] ++ [.text foldedTrace]) =
      .ok (some "[ipv6:2001:db8::1]") := by
  have hwords : words foldedTrace.toList = words plainTrace.toList := by decide +kernel
  have hplain : relayHostIn plainTrace = some "[ipv6:2001:db8::1]" := by decide +kernel
  have hsame := (relayHost_by_words [] plainTrace).2.2.1 [.other "int"] foldedTrace hwords
  rw [relayHostOf_append_text [] plainTrace, hplain] at hsame
  exact ⟨hwords, hsame⟩

end RelayReputation
