import RelayReputation.Resolution.Resolver

/-!
# Answers in text form

Answers come as texts and are read one by one. Either every text is an address, and then these are
the addresses in their order, or the first text that is none is what the reading fails with.
-/

namespace RelayReputation

/-- Whether texts are read as certain addresses, one after the other. -/
def ReadAs (texts : List String) (addresses : List Address) : Prop :=
  texts.map Address.parse? = addresses.map some

/-- The first of some texts that is no address. -/
def firstBad? (texts : List String) : Option String :=
  texts.find? fun text => (Address.parse? text).isNone

variable {text : String} {texts : List String} {addresses : List Address}

theorem readAs_nil_iff : ReadAs [] addresses ↔ addresses = [] := by
  cases addresses <;> simp [ReadAs]

theorem readAs_cons_iff : ReadAs (text :: texts) addresses ↔
    ∃ a rest, Address.parse? text = some a ∧ ReadAs texts rest ∧ addresses = a :: rest := by
  cases addresses with
  | nil => simp [ReadAs]
  | cons a rest =>
    simp only [ReadAs, List.map_cons, List.cons.injEq]
    constructor
    · intro h
      exact ⟨a, rest, h.1, h.2, rfl, rfl⟩
    · rintro ⟨a', rest', ha, hrest, rfl, rfl⟩
      exact ⟨ha, hrest⟩

theorem ReadAs.eq_nil_iff (h : ReadAs texts addresses) : addresses = [] ↔ texts = [] := by
  have hlength : texts.length = addresses.length := by
    simpa using congrArg List.length h
  rw [← List.length_eq_zero_iff, ← List.length_eq_zero_iff, hlength]

theorem ReadAs.mem_iff (h : ReadAs texts addresses) {a : Address} :
    a ∈ addresses ↔ ∃ text ∈ texts, Address.parse? text = some a := by
  have hmem : some a ∈ texts.map Address.parse? ↔ some a ∈ addresses.map some := by rw [h]
  simpa using hmem.symm

theorem ReadAs.parse?_ne_none (h : ReadAs texts addresses) (hmem : text ∈ texts) :
    Address.parse? text ≠ none := by
  intro hnone
  have himage : none ∈ texts.map Address.parse? := List.mem_map.mpr ⟨text, hmem, hnone⟩
  rw [h] at himage
  simp at himage

/-! ### Reading -/

theorem readAnswer_of_some {a : Address} (h : Address.parse? text = some a) :
    readAnswer text = .ok a := by
  simp only [readAnswer, h]

theorem readAnswer_of_none (h : Address.parse? text = none) :
    readAnswer text = .error (.unexpected (.notAnAddress text)) := by
  simp only [readAnswer, h]

theorem readAnswers_cons_of_some {a : Address} (h : Address.parse? text = some a) :
    readAnswers (text :: texts) = (readAnswers texts).map (a :: ·) := by
  have hread := readAnswer_of_some h
  simp only [readAnswers, List.mapM_cons, hread]
  cases texts.mapM readAnswer <;> rfl

theorem readAnswers_cons_of_none (h : Address.parse? text = none) :
    readAnswers (text :: texts) = .error (.unexpected (.notAnAddress text)) := by
  have hread := readAnswer_of_none h
  simp only [readAnswers, List.mapM_cons, hread]
  rfl

theorem readAnswers_of_readAs (h : ReadAs texts addresses) : readAnswers texts = .ok addresses := by
  induction texts generalizing addresses with
  | nil =>
    obtain rfl := readAs_nil_iff.mp h
    rfl
  | cons text texts ih =>
    obtain ⟨a, rest, ha, hrest, rfl⟩ := readAs_cons_iff.mp h
    rw [readAnswers_cons_of_some ha, ih hrest]
    rfl

theorem readAnswers_of_firstBad? {bad : String} (h : firstBad? texts = some bad) :
    readAnswers texts = .error (.unexpected (.notAnAddress bad)) := by
  induction texts with
  | nil => cases h
  | cons text texts ih =>
    cases hparse : Address.parse? text with
    | none =>
      obtain rfl : text = bad := by simpa [firstBad?, hparse] using h
      exact readAnswers_cons_of_none hparse
    | some a =>
      have hrest : firstBad? texts = some bad := by simpa [firstBad?, hparse] using h
      rw [readAnswers_cons_of_some hparse, ih hrest]
      rfl

theorem readAs_or_firstBad? (texts : List String) :
    (∃ addresses, ReadAs texts addresses) ∨ ∃ bad, firstBad? texts = some bad := by
  induction texts with
  | nil => exact Or.inl ⟨[], rfl⟩
  | cons text texts ih =>
    cases hparse : Address.parse? text with
    | none => exact Or.inr ⟨text, by simp [firstBad?, hparse]⟩
    | some a =>
      rcases ih with ⟨rest, hrest⟩ | ⟨bad, hbad⟩
      · exact Or.inl ⟨a :: rest, readAs_cons_iff.mpr ⟨a, rest, hparse, hrest, rfl⟩⟩
      · exact Or.inr ⟨bad, by simpa [firstBad?, hparse] using hbad⟩

/-! ### At least one answer -/

theorem someAnswers_eq_ok_iff {name : String} {answers found : List Address} :
    someAnswers name answers = .ok found ↔ found ≠ [] ∧ found = answers := by
  cases answers with
  | nil => simp [someAnswers]
  | cons a rest =>
    simp only [someAnswers, List.isEmpty_cons, Bool.false_eq_true, if_false, Except.ok.injEq]
    constructor
    · rintro rfl
      exact ⟨List.cons_ne_nil a rest, rfl⟩
    · intro h
      exact h.2.symm

theorem someAnswers_eq_error_iff {name : String} {answers : List Address} {e : Failure} :
    someAnswers name answers = .error e ↔ answers = [] ∧ e = .notFound name := by
  cases answers <;> simp [someAnswers, eq_comm]

end RelayReputation
