import Mathlib.Data.List.TakeWhile
import RelayReputation.Preference.Store
import RelayReputation.Proofs.HexadecimalValues
import RelayReputation.Proofs.KeyedEntries

/-!
# Loaded preferences

What a preference file gives, told by the value of its document. Of a mapping, the last entry with
a truth value counts for each text of a key; the other entries give no value and take none away,
and each is warned of once. All of this needs the entries to be such that a warning can name them:
at the first that cannot be told of, opening fails.
-/

namespace RelayReputation

open RelayReputation.Text RelayReputation.Yaml

namespace Yaml

/-! ### The value of a document -/

/-- Whether a value is a mapping, also where the mapping comes back in itself. -/
def Value.isMapping : Value → Bool
  | mapping _ => true
  | mappingLoop => true
  | _ => false

def Value.truth? : Value → Option Bool
  | simple (.bool b) => some b
  | _ => none

theorem layOutRoot_ne_mappingLoop (found : Contents) (root : Nat) :
    layOutRoot found root ≠ .mappingLoop := by
  rw [layOutRoot]
  split
  · exact Value.noConfusion
  · -- Nothing is outside of the outermost collection.
    rw [layOutFuel, layOut]
    split <;> simp

theorem ofNode_ne_mappingLoop (n : Node) : Value.ofNode n ≠ .ok .mappingLoop := by
  rw [Value.ofNode]
  obtain ⟨graph, root⟩ := Graph.ofNode n
  intro h
  dsimp only at h
  cases hrun : (Build.root root).run { graph } with
  | error e =>
    rw [hrun] at h
    cases h
  | ok built =>
    rw [hrun] at h
    exact layOutRoot_ne_mappingLoop _ _ (Except.ok.inj h)

/-- A mapping that a document stands for is laid out with its entries. -/
theorem exists_entries_of_load {text : String} {v : Value} (h : load text = .ok v)
    (hv : v.isMapping = true) : ∃ entries, v = .mapping entries := by
  cases v with
  | mapping entries => exact ⟨entries, rfl⟩
  | mappingLoop =>
    exfalso
    rw [load] at h
    cases hn : Node.ofTokens (tokens (lineFeeds text.toList)) with
    | error e =>
      rw [hn] at h
      cases h
    | ok document =>
      rw [hn] at h
      cases document with
      | none => cases h
      | some n => exact ofNode_ne_mappingLoop n h
  | _ => cases hv

/-- The entries of a document that stands for a mapping. -/
def entriesIn? (text : String) : Option (List (Scalar × Value)) :=
  match load text with
  | .ok (.mapping entries) => some entries
  | _ => none

theorem load_of_entriesIn? {text : String} {entries : List (Scalar × Value)}
    (h : entriesIn? text = some entries) : load text = .ok (.mapping entries) := by
  unfold entriesIn? at h
  split at h
  · next hload => rw [hload, Option.some.inj h]
  · cases h

end Yaml

namespace Switches

/-! ### Entries -/

/-- Whether an entry can be told of: its key has a text, and so has its value. -/
structure Tellable (e : Scalar × Value) : Prop where
  key : e.1.isShowable = true
  value : e.2.isShowable = true
  depth : e.2.depth ≤ depthLimit

theorem fault?_eq_none_iff (e : Scalar × Value) : fault? e = none ↔ Tellable e := by
  have hshow (v : Value) : v.showFault? = none ↔ v.isShowable = true ∧ v.depth ≤ depthLimit := by
    unfold Value.showFault?
    split
    · simp; omega
    · split <;> simp_all
  rw [fault?, Option.or_eq_none_iff, hshow, hshow]
  constructor
  · rintro ⟨⟨hkey, -⟩, hvalue, hdepth⟩
    exact ⟨hkey, hvalue, hdepth⟩
  · rintro ⟨hkey, hvalue, hdepth⟩
    exact ⟨⟨hkey, Nat.le_add_left 1 989⟩, hvalue, hdepth⟩

/-- Whether an entry gives a truth value to a key. -/
def Gives (e : Scalar × Value) (key : CodePoints) (b : Bool) : Prop :=
  e.1.keyText = key ∧ e.2.truth? = some b

def warning (e : Scalar × Value) : Notice := .notBoolean e.1.keyText e.2.shown

/-- What is to be said of entries: a warning for each that gives no truth value. -/
def warnings (entries : List (Scalar × Value)) : List Notice :=
  (entries.filter (·.2.truth?.isNone)).map warning

theorem entry?_eq (e : Scalar × Value) :
    entry? e = e.2.truth?.map fun b => (e.1.keyText, b) := by
  obtain ⟨key, v⟩ := e
  cases v with
  | simple s => cases s <;> rfl
  | _ => rfl

theorem complaint?_eq (e : Scalar × Value) :
    complaint? e = if e.2.truth?.isNone then some (warning e) else none := by
  obtain ⟨key, v⟩ := e
  cases v with
  | simple s => cases s <;> rfl
  | _ => rfl

theorem filterMap_complaint? (entries : List (Scalar × Value)) :
    entries.filterMap complaint? = warnings entries := by
  induction entries with
  | nil => rfl
  | cons e rest ih =>
    rw [warnings] at ih ⊢
    rw [List.filter_cons]
    cases h : e.2.truth?.isNone with
    | true =>
      have he : complaint? e = some (warning e) := by rw [complaint?_eq, if_pos h]
      rw [List.filterMap_cons_some he, ih]
      rfl
    | false =>
      have he : complaint? e = none := by rw [complaint?_eq, if_neg (Bool.not_eq_true _ ▸ h)]
      rw [List.filterMap_cons_none he, ih]
      rfl

theorem entry?_eq_some_iff (e : Scalar × Value) (key : CodePoints) (b : Bool) :
    entry? e = some (key, b) ↔ Gives e key b := by
  rw [entry?_eq, Gives]
  cases e.2.truth? <;> simp

theorem mem_keys_given (entries : List (Scalar × Value)) (key : CodePoints) :
    key ∈ Keyed.keys (entries.filterMap entry?) ↔ ∃ e ∈ entries, ∃ b, Gives e key b := by
  constructor
  · intro hmem
    obtain ⟨⟨name, b⟩, hpair, rfl⟩ := List.mem_map.mp hmem
    obtain ⟨e, he, hentry⟩ := List.mem_filterMap.mp hpair
    exact ⟨e, he, b, (entry?_eq_some_iff e name b).mp hentry⟩
  · rintro ⟨e, he, b, hgives⟩
    have hentry := (entry?_eq_some_iff e key b).mpr hgives
    exact List.mem_map_of_mem (List.mem_filterMap.mpr ⟨e, he, hentry⟩)

/-- What entries give: to every key what the last entry with a truth value for it says. -/
structure Given (entries : List (Scalar × Value)) (get : CodePoints → Option Bool) : Prop where
  some_iff : ∀ key b, get key = some b ↔ ∃ before e after,
    entries = before ++ e :: after ∧ Gives e key b ∧ ∀ d ∈ after, ∀ b', ¬Gives d key b'
  none_iff : ∀ key, get key = none ↔ ∀ e ∈ entries, ∀ b, ¬Gives e key b

theorem given_ofList (entries : List (Scalar × Value)) :
    Given entries (Keyed.get? (Keyed.ofList (entries.filterMap entry?))) where
  some_iff key b := by
    rw [Keyed.get?_ofList_eq_some_iff]
    constructor
    · rintro ⟨before, after, hsplit, hnot⟩
      obtain ⟨first, rest, rfl, -, hrest⟩ := List.filterMap_eq_append_iff.mp hsplit
      obtain ⟨skipped, e, last, rfl, -, he, hlast⟩ := List.filterMap_eq_cons_iff.mp hrest
      rw [← hlast, mem_keys_given] at hnot
      refine ⟨first ++ skipped, e, last, by simp, (entry?_eq_some_iff e key b).mp he, ?_⟩
      exact fun d hd b' hgives => hnot ⟨d, hd, b', hgives⟩
    · rintro ⟨before, e, after, rfl, hgives, hnot⟩
      refine ⟨before.filterMap entry?, after.filterMap entry?, ?_, ?_⟩
      · rw [List.filterMap_append,
          List.filterMap_cons_some ((entry?_eq_some_iff e key b).mpr hgives)]
      · rw [mem_keys_given]
        rintro ⟨d, hd, b', hgives'⟩
        exact hnot d hd b' hgives'
  none_iff key := by
    rw [Keyed.get?_ofList_eq_none_iff, mem_keys_given]
    constructor
    · exact fun hnot e he b hgives => hnot ⟨e, he, b, hgives⟩
    · rintro hnot ⟨e, he, b, hgives⟩
      exact hnot e he b hgives

/-! ### Values -/

theorem ofValue_of_not_true (path : String) {v : Value} (h : v.isTrue = false) :
    ofValue path v = ([], .ok []) := by
  unfold ofValue
  rw [if_neg (Bool.eq_false_iff.mp h)]

theorem ofValue_of_not_mapping (path : String) {v : Value} (htrue : v.isTrue = true)
    (h : v.isMapping = false) : ofValue path v = ([.notMapping path], .ok []) := by
  unfold ofValue
  rw [if_pos htrue]
  cases v with
  | mapping entries => cases h
  | _ => rfl

/-- An empty mapping counts as false, but it would come to the same if it did not. -/
theorem ofValue_mapping (path : String) (entries : List (Scalar × Value)) :
    ofValue path (.mapping entries) =
      ((entries.takeWhile fun e => (fault? e).isNone).filterMap complaint?,
        match entries.findSome? fault? with
        | none => .ok (Keyed.ofList (entries.filterMap entry?))
        | some fault => .error fault) := by
  cases entries with
  | nil => rfl
  | cons e rest => rfl

theorem ofValue_of_tellable (path : String) {entries : List (Scalar × Value)}
    (h : ∀ e ∈ entries, Tellable e) : ofValue path (.mapping entries) =
      (warnings entries, .ok (Keyed.ofList (entries.filterMap entry?))) := by
  have hnone : ∀ e ∈ entries, fault? e = none := fun e he => (fault?_eq_none_iff e).mpr (h e he)
  have hall : (entries.takeWhile fun e => (fault? e).isNone) = entries :=
    List.takeWhile_eq_self_iff.mpr fun e he => Option.isNone_iff_eq_none.mpr (hnone e he)
  rw [ofValue_mapping, hall, filterMap_complaint?, List.findSome?_eq_none_iff.mpr hnone]

theorem ofValue_of_not_tellable (path : String) {before after : List (Scalar × Value)}
    {e : Scalar × Value} {fault : Yaml.Error} (h : ∀ d ∈ before, Tellable d)
    (hfault : fault? e = some fault) :
    ofValue path (.mapping (before ++ e :: after)) = (warnings before, .error fault) := by
  have hnone : ∀ d ∈ before, fault? d = none := fun d hd => (fault?_eq_none_iff d).mpr (h d hd)
  have hbefore : ((before ++ e :: after).takeWhile fun d => (fault? d).isNone) = before := by
    rw [List.takeWhile_append_of_pos fun d hd => Option.isNone_iff_eq_none.mpr (hnone d hd),
      List.takeWhile_cons_of_neg (by simp [hfault]), List.append_nil]
  have hfind : (before ++ e :: after).findSome? fault? = some fault := by
    rw [List.findSome?_append, List.findSome?_eq_none_iff.mpr hnone, List.findSome?_cons, hfault]
    rfl
  rw [ofValue_mapping, hbefore, filterMap_complaint?, hfind]

theorem level_of_mem_ofValue {path : String} {v : Value} :
    ∀ n ∈ (ofValue path v).1, n.level = .warning := by
  intro n hn
  unfold ofValue at hn
  split at hn
  · split at hn
    · obtain ⟨e, -, he⟩ := List.mem_filterMap.mp hn
      rw [complaint?_eq] at he
      obtain ⟨-, he⟩ := Option.ite_none_right_eq_some.mp he
      rw [← Option.some.inj he]
      rfl
    · rw [List.mem_singleton.mp hn]
      rfl
  · cases hn

end Switches

namespace FileStore

open Switches

theorem opening_of_load (path : String) {text : String} {v : Value} (h : Yaml.load text = .ok v) :
    opening path (.file text) = ((ofValue (shownPath path) v).1,
      ((ofValue (shownPath path) v).2.map (⟨path, .file text, ·⟩)).mapError .badDocument) := by
  rw [opening, h]

/-- What opening a store on a file comes to, by the value of its document. What counts as false
gives nothing, and what else is no mapping gives nothing with a warning. Of a mapping whose entries
can all be told of, the last truth value counts for each text of a key, and each entry without one
has its warning. At the first entry that cannot be told of, opening fails. -/
theorem opening_by_document (path text : String) (v : Value) (h : Yaml.load text = .ok v) :
    (v.isTrue = false → opening path (.file text) = ([], .ok ⟨path, .file text, []⟩)) ∧
    (v.isTrue = true → v.isMapping = false →
      opening path (.file text) = ([.notMapping (shownPath path)], .ok ⟨path, .file text, []⟩)) ∧
    (v.isMapping = true → ∃ entries, v = .mapping entries ∧
      ((∀ e ∈ entries, Tellable e) → ∃ s, opening path (.file text) = (warnings entries, .ok s) ∧
        Given entries (Store.file s).get?) ∧
      ∀ before e after fault, entries = before ++ e :: after → (∀ d ∈ before, Tellable d) →
        fault? e = some fault →
          opening path (.file text) = (warnings before, .error (.badDocument fault))) ∧
    ∀ n ∈ (opening path (.file text)).1, n.level = .warning := by
  have hopen := opening_of_load path h
  refine ⟨fun hfalse => ?_, fun htrue hmapping => ?_, fun hmapping => ?_, ?_⟩
  · rw [hopen, ofValue_of_not_true _ hfalse]
    rfl
  · rw [hopen, ofValue_of_not_mapping _ htrue hmapping]
    rfl
  · obtain ⟨entries, rfl⟩ := exists_entries_of_load h hmapping
    refine ⟨entries, rfl, fun htell => ?_, ?_⟩
    · rw [hopen, ofValue_of_tellable _ htell]
      exact ⟨_, rfl, given_ofList entries⟩
    · rintro before e after fault rfl htell hfault
      rw [hopen, ofValue_of_not_tellable _ htell hfault]
      rfl
  · rw [hopen]
    exact level_of_mem_ofValue

/-- A document whose keys are the number one and its text, of which only the number has a truth
value. -/
def numberAndText : String := "1: true\n'1': 0\n"

theorem opening_by_document_numberAndText : ∃ entries s,
    Yaml.load numberAndText = .ok (.mapping entries) ∧ (∀ e ∈ entries, Tellable e) ∧
      opening "prefs.yaml" (.file numberAndText) = ([.notBoolean (.ofString "1") "0"], .ok s) ∧
      Given entries (Store.file s).get? ∧ (Store.file s).get? (.ofString "1") = some true := by
  have hfaults : (entriesIn? numberAndText).map (·.map fault?) = some [none, none] := by
    decide +kernel
  obtain ⟨entries, hentries, hnone⟩ := Option.map_eq_some_iff.mp hfaults
  have hload := load_of_entriesIn? hentries
  have htell : ∀ e ∈ entries, Tellable e := by
    intro e he
    have hmem := List.mem_map_of_mem (f := fault?) he
    rw [hnone] at hmem
    exact (fault?_eq_none_iff e).mp (by simpa using hmem)
  obtain ⟨-, -, hmapping, -⟩ :=
    opening_by_document "prefs.yaml" numberAndText (.mapping entries) hload
  obtain ⟨entries', hsame, hopens, -⟩ := hmapping rfl
  obtain rfl := Value.mapping.inj hsame
  obtain ⟨s, hopen, hgiven⟩ := hopens htell
  have hresult : opening "prefs.yaml" (.file numberAndText) = ([.notBoolean (.ofString "1") "0"],
      .ok ⟨"prefs.yaml", .file numberAndText, [(.ofString "1", true)]⟩) := by
    decide +kernel
  have hs : s = ⟨"prefs.yaml", .file numberAndText, [(.ofString "1", true)]⟩ :=
    Except.ok.inj (congrArg Prod.snd (hopen.symm.trans hresult))
  subst hs
  exact ⟨entries, _, hload, htell, hresult, hgiven, rfl⟩

/-! ### An integer that cannot be told of -/

/-- A document that gives a key the power `16 ^ k`, an integer with more decimal digits than can be
shown once `k` is in the thousands. -/
def powerText (k : Nat) : String :=
  "a: 0x" ++ String.ofList ('1' :: List.replicate k '0') ++ "\n"

def powerEntry (k : Nat) : Scalar × Value := (.text [.char 'a'], .simple (.int (Nat.pow 16 k)))

theorem ofDigits_power (k : Nat) :
    ofDigits 16 ('1' :: List.replicate k '0') = Nat.pow 16 k := by
  induction k with
  | zero => rfl
  | succ k ih =>
    have hsnoc : '1' :: List.replicate (k + 1) '0' = ('1' :: List.replicate k '0') ++ ['0'] := by
      rw [List.replicate_succ', List.cons_append]
    rw [hsnoc, ofDigits, List.foldl_append, ← ofDigits, ih]
    rfl

theorem load_powerText (k : Nat) : Yaml.load (powerText k) = .ok (.mapping [powerEntry k]) := by
  have hdigits : ∀ d ∈ '1' :: List.replicate k '0', isHexDigit d = true := by
    intro d hd
    obtain rfl | hd := List.mem_cons.mp hd
    · rfl
    · rw [List.eq_of_mem_replicate hd]
      rfl
  rw [powerText, powerEntry, load_hexadecimal hdigits (List.cons_ne_nil _ _), ofDigits_power]

/-- Not every mapping is taken up with a warning for each entry without a truth value. -/
theorem not_forall_opening :
    ¬∀ (path text : String) (entries : List (Scalar × Value)),
      Yaml.load text = .ok (.mapping entries) →
        ∃ s, opening path (.file text) = (warnings entries, .ok s) ∧
          Given entries (Store.file s).get? := by
  intro h
  obtain ⟨s, hopen, -⟩ := h "prefs.yaml" (powerText 3600) _ (load_powerText 3600)
  have hfault : fault? (powerEntry 3600) = some .notShowable := by decide +kernel
  have hnone : ∀ e ∈ ([] : List (Scalar × Value)), Tellable e := by simp
  have hfails : ofValue (shownPath "prefs.yaml") (.mapping ([] ++ powerEntry 3600 :: [])) =
      (warnings [], .error .notShowable) := ofValue_of_not_tellable _ hnone hfault
  rw [List.nil_append] at hfails
  rw [opening_of_load _ (load_powerText 3600), hfails] at hopen
  cases hopen

end FileStore

end RelayReputation
