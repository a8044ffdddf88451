import RelayReputation.BlockList.Service
import RelayReputation.Registry
import RelayReputation.Proofs.AnswerTexts
import RelayReputation.Proofs.LowerCase
import Mathlib.Data.List.Nodup
import Mathlib.Data.List.TakeWhile

/-!
# Block lists of services

Services are rejected for the names that more than one of them has, or each becomes a block list
at its own place. What the list takes from its service is told by `Builds`. The names of built
lists differ, and so do their keys in the preferences, so a name finds one list or none.
-/

namespace RelayReputation

open RelayReputation.Text

/-! ### Names used twice -/

theorem nodup_eraseDups (names : List String) : names.eraseDups.Nodup := by
  induction hlength : names.length using Nat.strongRecOn generalizing names with
  | ind n ih =>
    subst hlength
    cases names with
    | nil => exact List.nodup_nil
    | cons name rest =>
      have hshort : (rest.filter fun other => !other == name).length < (name :: rest).length := by
        have hle := List.length_filter_le (fun other => !other == name) rest
        simp only [List.length_cons]
        omega
      have hnot : name ∉ (rest.filter fun other => !other == name).eraseDups := by
        rw [List.mem_eraseDups]
        simp
      rw [List.eraseDups_cons]
      exact List.nodup_cons.mpr ⟨hnot, ih _ hshort _ rfl⟩

theorem mem_repeatedNames {names : List String} {name : String} :
    name ∈ repeatedNames names ↔ 1 < names.count name := by
  have hmem : name ∈ repeatedNames names ↔ name ∈ names.eraseDups.filter (1 < names.count ·) :=
    (List.mergeSort_perm _ _).mem_iff
  rw [hmem, List.mem_filter, List.mem_eraseDups, decide_eq_true_eq, and_iff_right_of_imp]
  intro hcount
  exact List.count_pos_iff.mp (by omega)

/-- The names used twice are in ascending order, and so each is there once. -/
theorem pairwise_repeatedNames (names : List String) : (repeatedNames names).Pairwise (· < ·) := by
  have hnodup : (repeatedNames names).Nodup :=
    (List.mergeSort_perm _ _).nodup_iff.mpr ((nodup_eraseDups names).filter _)
  have hsorted : (repeatedNames names).Pairwise (· ≤ ·) := by
    have htrans (a b c : String) (hab : decide (a ≤ b) = true) (hbc : decide (b ≤ c) = true) :
        decide (a ≤ c) = true := by
      simpa using String.le_trans (of_decide_eq_true hab) (of_decide_eq_true hbc)
    have htotal (a b : String) : (decide (a ≤ b) || decide (b ≤ a)) = true := by
      simpa using String.le_total a b
    have hle := List.pairwise_mergeSort htrans htotal (names.eraseDups.filter (1 < names.count ·))
    simpa [repeatedNames] using hle
  refine (hsorted.and hnodup).imp fun {a b} h => ?_
  have hnot : ¬b ≤ a := fun hba => h.2 (String.le_antisymm h.1 hba)
  exact String.not_le.mp hnot

theorem repeatedNames_eq_nil_iff (names : List String) :
    repeatedNames names = [] ↔ names.Nodup := by
  rw [List.eq_nil_iff_forall_not_mem, List.nodup_iff_count_le_one]
  simp only [mem_repeatedNames, Nat.not_lt]

theorem BlockList.name_eq_of_preferenceKey_eq {b b' : BlockList}
    (h : b.preferenceKey = b'.preferenceKey) : b.name = b'.name := by
  have htext := CodePoints.ofString_inj.mp h
  exact (String.append_right_inj _).mp htext

theorem BlockList.preferenceKey_inj {lists : List BlockList} (h : (lists.map (·.name)).Nodup)
    {b b' : BlockList} (hb : b ∈ lists) (hb' : b' ∈ lists)
    (hkey : b.preferenceKey = b'.preferenceKey) : b = b' :=
  List.inj_on_of_nodup_map h hb hb' (name_eq_of_preferenceKey_eq hkey)

/-! ### Zones -/

/-- The dot as a run. -/
def dotRun : List LetterRun := [⟨0x2E, 0x2E, 1, 0⟩]

theorem liesIn_dotRun_iff (c : Char) : LiesIn dotRun c ↔ c = '.' := by
  have hcovers : LiesIn dotRun c ↔ c.toNat = '.'.toNat := by
    simp [LiesIn, dotRun, LetterRun.covers_iff]
    omega
  rw [hcovers, Char.toNat_inj]

theorem unreached_dotRun : Unreached dotRun where
  missed := by decide +kernel
  apart := by simp [apartForms, LiesIn, dotRun, LetterRun.covers_iff]

theorem eq_dot_of_mem_lowerChar {final : Bool} {c : Char} (h : '.' ∈ lowerChar final c) :
    c = '.' := by
  rw [← liesIn_dotRun_iff]
  exact unreached_dotRun.liesIn_of_mem_lowerChar h ((liesIn_dotRun_iff '.').mpr rfl)

theorem head?_of_lowerAfter {behind : Bool} {cs : List Char}
    (h : (lowerAfter behind cs).head? = some '.') : cs.head? = some '.' := by
  obtain ⟨c, hc, final, hfrom⟩ := exists_of_head?_lowerAfter h
  rwa [eq_dot_of_mem_lowerChar hfrom] at hc

theorem getLast?_of_lowerAfter {behind : Bool} {cs : List Char}
    (h : (lowerAfter behind cs).getLast? = some '.') : cs.getLast? = some '.' := by
  obtain ⟨c, hc, final, hfrom⟩ := exists_of_getLast?_lowerAfter h
  rwa [eq_dot_of_mem_lowerChar hfrom] at hc

theorem head?_dropWhile_dot (cs : List Char) : (cs.dropWhile (· = '.')).head? ≠ some '.' := by
  intro h
  have hnot := List.head?_dropWhile_not (· = '.') cs
  rw [h] at hnot
  cases hnot

theorem takeWhile_dot (cs : List Char) :
    cs.takeWhile (· = '.') = List.replicate (cs.takeWhile (· = '.')).length '.' := by
  refine List.eq_replicate_of_mem fun c hc => ?_
  simpa using List.mem_takeWhile_imp hc

/-- A zone is what is between the dots at the ends of a text, in lower case. -/
theorem exists_between_dots (cs : List Char) : ∃ m n between,
    cs = List.replicate m '.' ++ between ++ List.replicate n '.' ∧
      between.head? ≠ some '.' ∧ between.getLast? ≠ some '.' ∧
      zoneChars cs = lowerChars between := by
  let rest := cs.dropWhile (· = '.')
  let dots := rest.reverse.takeWhile (· = '.')
  let between := (rest.reverse.dropWhile (· = '.')).reverse
  have hfront : cs = List.replicate (cs.takeWhile (· = '.')).length '.' ++ rest := by
    rw [← takeWhile_dot]
    exact List.takeWhile_append_dropWhile.symm
  -- The dots at the end are the first ones of the reversed text.
  have hback : rest = between ++ List.replicate dots.length '.' := by
    have hsplit : rest.reverse = dots ++ rest.reverse.dropWhile (· = '.') :=
      List.takeWhile_append_dropWhile.symm
    have hdots : dots.reverse = List.replicate dots.length '.' := by
      rw [← List.reverse_replicate]
      exact congrArg List.reverse (takeWhile_dot _)
    have hreverse := congrArg List.reverse hsplit
    rwa [List.reverse_reverse, List.reverse_append, hdots] at hreverse
  refine ⟨(cs.takeWhile (· = '.')).length, dots.length, between, ?_, ?_, ?_, rfl⟩
  · rw [List.append_assoc, ← hback]
    exact hfront
  · intro hhead
    have hrest : rest.head? = some '.' := by
      rw [hback, List.head?_append, hhead]
      rfl
    exact head?_dropWhile_dot cs hrest
  · rw [List.getLast?_reverse]
    exact head?_dropWhile_dot rest.reverse

/-! ### One list -/

/-- What a list with a number takes from its service. -/
structure Builds (s : BlockListService) (id : Nat) (b : BlockList) : Prop where
  id_eq : b.id = id
  name_eq : b.name = s.name
  reverseIp_iff : b.kind = .reverseIp ↔ s.numeric = true
  zone_lower : lower b.zone = b.zone
  zone_head : b.zone.toList.head? ≠ some '.'
  zone_last : b.zone.toList.getLast? ≠ some '.'
  zone_between : ∃ m n between, b.zone = lower between ∧
    s.zone.toList = List.replicate m '.' ++ between.toList ++ List.replicate n '.'
  accepts_iff : ∀ answer, b.accepts answer = true ↔
    s.responses = [] ∨ (∃ text ∈ s.responses, Address.parse? text = none) ∨
      ∃ text ∈ s.responses, Address.parse? text = some answer

theorem BlockListService.accepts_blockList_iff (s : BlockListService) (id : Nat)
    (answer : Address) : (s.blockList id).accepts answer = true ↔
      s.responses = [] ∨ (∃ text ∈ s.responses, Address.parse? text = none) ∨
        ∃ text ∈ s.responses, Address.parse? text = some answer := by
  rcases readAs_or_firstBad? s.responses with ⟨addresses, hread⟩ | ⟨bad, hbad⟩
  · have hresponses : (s.blockList id).responses = addresses := by
      simp only [blockList, BlockListService.addresses, readAnswers_of_readAs hread]
    have hgood : ¬∃ text ∈ s.responses, Address.parse? text = none := by
      rintro ⟨text, hmem, hnone⟩
      exact hread.parse?_ne_none hmem hnone
    have haccepts : (s.blockList id).accepts answer = true ↔
        addresses = [] ∨ answer ∈ addresses := by
      simp [BlockList.accepts, hresponses]
    rw [haccepts, hread.eq_nil_iff, hread.mem_iff, or_iff_right hgood]
  · -- One bad response leaves none at all, and a list without responses accepts every answer.
    have hresponses : (s.blockList id).responses = [] := by
      simp only [blockList, BlockListService.addresses, readAnswers_of_firstBad? hbad]
    have hnone : Address.parse? bad = none := by
      simpa using List.find?_some hbad
    have hmem : bad ∈ s.responses := List.mem_of_find?_eq_some hbad
    exact iff_of_true (BlockList.accepts_of_responses_eq_nil hresponses answer)
      (Or.inr (Or.inl ⟨bad, hmem, hnone⟩))

theorem BlockListService.builds_blockList (s : BlockListService) (id : Nat) :
    Builds s id (s.blockList id) := by
  obtain ⟨m, n, between, htext, hhead, hlast, hzone⟩ := exists_between_dots s.zone.toList
  have hchars : (s.blockList id).zone.toList = lowerChars between := by
    simp only [blockList, String.toList_ofList, hzone]
  have hlower : (s.blockList id).zone = lower (String.ofList between) := by
    rw [← String.toList_inj, hchars]
    simp [lower]
  exact {
    id_eq := rfl
    name_eq := rfl
    reverseIp_iff := by cases hnumeric : s.numeric <;> simp [blockList, hnumeric]
    zone_lower := by rw [hlower, lower_lower]
    zone_head := by
      rw [hchars]
      exact fun h => hhead (head?_of_lowerAfter h)
    zone_last := by
      rw [hchars]
      exact fun h => hlast (getLast?_of_lowerAfter h)
    zone_between := ⟨m, n, String.ofList between, hlower, by simpa using htext⟩
    accepts_iff := s.accepts_blockList_iff id }

/-! ### All lists -/

theorem getElem?_numberedBlockLists (first : Nat) (services : List BlockListService) (i : Nat) :
    (numberedBlockLists first services)[i]? = services[i]?.map (·.blockList (first + i)) := by
  induction services generalizing first i with
  | nil => rfl
  | cons s rest ih =>
    cases i with
    | zero => rfl
    | succ i =>
      have hnumber : first + 1 + i = first + (i + 1) := by omega
      simp only [numberedBlockLists, List.getElem?_cons_succ, ih, hnumber]

variable {services : List BlockListService} {lists : List BlockList} {notices : List Notice}

theorem buildBlockLists_eq (services : List BlockListService) : buildBlockLists services =
    if (services.map (·.name)).Nodup then
      .ok (numberedBlockLists 1 services, services.flatMap (·.addresses.2))
    else .error ⟨repeatedNames (services.map (·.name))⟩ := by
  have hempty : (repeatedNames (services.map (·.name))).isEmpty = true ↔
      (services.map (·.name)).Nodup := by
    rw [List.isEmpty_iff, repeatedNames_eq_nil_iff]
  simp only [buildBlockLists, hempty]

theorem buildBlockLists_eq_ok_iff : buildBlockLists services = .ok (lists, notices) ↔
    (services.map (·.name)).Nodup ∧ lists = numberedBlockLists 1 services ∧
      notices = services.flatMap (·.addresses.2) := by
  rw [buildBlockLists_eq]
  by_cases hnodup : (services.map (·.name)).Nodup
  · simp [hnodup, eq_comm]
  · simp [hnodup]

theorem buildBlockLists_eq_error_iff {d : DuplicateNames} : buildBlockLists services = .error d ↔
    ¬(services.map (·.name)).Nodup ∧ d = ⟨repeatedNames (services.map (·.name))⟩ := by
  rw [buildBlockLists_eq]
  by_cases hnodup : (services.map (·.name)).Nodup
  · simp [hnodup]
  · simp [hnodup, eq_comm]

theorem nodup_names_of_built (h : buildBlockLists services = .ok (lists, notices)) :
    (lists.map (·.name)).Nodup := by
  obtain ⟨hnodup, rfl, -⟩ := buildBlockLists_eq_ok_iff.mp h
  rwa [map_name_numberedBlockLists]

/-! ### Names of built lists -/

theorem place_eq_of_name_eq (hnodup : (lists.map (·.name)).Nodup) {i j : Nat} {b b' : BlockList}
    (hb : lists[i]? = some b) (hb' : lists[j]? = some b') (hname : b'.name = b.name) : j = i := by
  have hbound : j < (lists.map (·.name)).length := by
    rw [List.length_map]
    exact (List.getElem?_eq_some_iff.mp hb').1
  have hnames : (lists.map (·.name))[j]? = (lists.map (·.name))[i]? := by
    rw [List.getElem?_map, List.getElem?_map, hb, hb', Option.map_some, Option.map_some, hname]
  exact (List.getElem?_inj hbound hnodup).mp hnames

theorem pairwise_preferenceKey (hnodup : (lists.map (·.name)).Nodup) :
    lists.Pairwise fun b b' => b.preferenceKey ≠ b'.preferenceKey := by
  have hnames : lists.Pairwise fun b b' => b.name ≠ b'.name := List.pairwise_map.mp hnodup
  refine hnames.imp fun {b b'} hname hkey => hname ?_
  exact BlockList.name_eq_of_preferenceKey_eq hkey

namespace Registry

variable {r : Registry} {name : String}

theorem find?_eq_none_iff : r.find? name = none ↔ name ∉ r.lists.map (·.name) := by
  simp [find?]

theorem find?_name_of_mem (hnodup : (r.lists.map (·.name)).Nodup) {b : BlockList}
    (hmem : b ∈ r.lists) : r.find? b.name = some b := by
  cases hfind : r.find? b.name with
  | none => exact absurd (List.mem_map_of_mem hmem) (find?_eq_none_iff.mp hfind)
  | some found =>
    have hfound : found ∈ r.lists := List.mem_of_find?_eq_some hfind
    have hname : found.name = b.name := by
      simpa using List.find?_some hfind
    rw [List.inj_on_of_nodup_map hnodup hfound hmem hname]

end Registry

/-! ### Building -/

/-- Building fails if and only if a name is used twice, and says which ones in ascending order, that
of their code points. Otherwise every service has its list, which its name finds, and no other name
finds one. -/
theorem buildBlockLists_by_services (services : List BlockListService) :
    ((∃ d, buildBlockLists services = .error d) ↔ ¬(services.map (·.name)).Nodup) ∧
    (∀ d, buildBlockLists services = .error d →
      d.message = "Duplicate block list names: " ++ String.intercalate ", " d.names ∧
      d.names.Pairwise (· < ·) ∧
      ∀ name, name ∈ d.names ↔ 1 < (services.map (·.name)).count name) ∧
    ∀ lists notices, buildBlockLists services = .ok (lists, notices) →
      lists.length = services.length ∧
      (∀ i s, services[i]? = some s → ∃ b, lists[i]? = some b ∧ Builds s (i + 1) b ∧
        (∀ j b', lists[j]? = some b' → b'.name = s.name → j = i) ∧
        ∀ r : Registry, r.lists = lists → r.find? s.name = some b) ∧
      (∀ r : Registry, r.lists = lists →
        ∀ name, name ∉ services.map (·.name) → r.find? name = none) ∧
      lists.Pairwise fun b b' => b.preferenceKey ≠ b'.preferenceKey := by
  refine ⟨?_, ?_, ?_⟩
  · simp only [buildBlockLists_eq_error_iff, exists_and_left, exists_eq, and_true]
  · intro d herror
    obtain ⟨-, rfl⟩ := buildBlockLists_eq_error_iff.mp herror
    exact ⟨rfl, pairwise_repeatedNames _, fun name => mem_repeatedNames⟩
  · intro lists notices hbuilt
    have hnodup := nodup_names_of_built hbuilt
    obtain ⟨-, hlists, -⟩ := buildBlockLists_eq_ok_iff.mp hbuilt
    have hnames : lists.map (·.name) = services.map (·.name) := by
      rw [hlists, map_name_numberedBlockLists]
    refine ⟨?_, ?_, ?_, pairwise_preferenceKey hnodup⟩
    · rw [hlists, length_numberedBlockLists]
    · intro i s hs
      have hb : lists[i]? = some (s.blockList (i + 1)) := by
        rw [hlists, getElem?_numberedBlockLists, hs, Nat.add_comm]
        rfl
      refine ⟨_, hb, s.builds_blockList (i + 1), ?_, ?_⟩
      · intro j b' hb' hname
        exact place_eq_of_name_eq hnodup hb hb' hname
      · intro r hr
        subst hr
        exact Registry.find?_name_of_mem hnodup (List.mem_of_getElem? hb)
    · intro r hr name hname
      rw [Registry.find?_eq_none_iff, hr, hnames]
      exact hname

/-- Four services with two names, each given twice. -/
def namedTwice : List BlockListService :=
  ["relays", "dialups", "relays", "dialups"].map fun name => { name, zone := "bl.test" }

/-- A service with a response that is no address, and one with an address in a long form. -/
def mixedServices : List BlockListService := [
  { name := "broken", zone := "..BL.Test.", responses := ["127.0.0.2", "nope"] },
  { name := "sixes", zone := "six.test", numeric := false, responses := ["2001:DB8:0::1"] }]

theorem repeatedNames_namedTwice :
    repeatedNames (namedTwice.map (·.name)) = ["dialups", "relays"] := by
  have hrepeated : (namedTwice.map (·.name)).eraseDups.filter
      (1 < (namedTwice.map (·.name)).count ·) = ["relays", "dialups"] := by decide
  rw [repeatedNames, hrepeated]
  simp [List.mergeSort]

theorem buildBlockLists_by_services_mixed :
    (∃ d, buildBlockLists namedTwice = .error d ∧
      d.message = "Duplicate block list names: dialups, relays") ∧
    ∃ lists notices broken sixes, buildBlockLists mixedServices = .ok (lists, notices) ∧
      lists[0]? = some broken ∧ lists[1]? = some sixes ∧
      (∀ answer, broken.accepts answer = true) ∧
      (∀ answer, sixes.accepts answer = true ↔ answer = .v6 (0x20010DB8 <<< 96 + 1) none) ∧
      ∀ r : Registry, r.lists = lists → r.find? "sixes" = some sixes ∧ r.find? "six" = none := by
  have hbad : Address.parse? "nope" = none := by decide +kernel
  have hsix : Address.parse? "2001:DB8:0::1" = some (.v6 (0x20010DB8 <<< 96 + 1) none) := by
    decide +kernel
  have hnodup : (mixedServices.map (·.name)).Nodup := by decide
  have hbuilt := buildBlockLists_eq_ok_iff.mpr ⟨hnodup, rfl, rfl⟩
  obtain ⟨-, hlists, hothers, -⟩ := (buildBlockLists_by_services mixedServices).2.2 _ _ hbuilt
  obtain ⟨broken, hbroken, hbuilds, -, -⟩ := hlists 0 _ rfl
  obtain ⟨sixes, hsixes, hbuilds', -, hfound⟩ := hlists 1 _ rfl
  refine ⟨?_, _, _, broken, sixes, hbuilt, hbroken, hsixes, ?_, ?_, ?_⟩
  · obtain ⟨d, herror⟩ := (buildBlockLists_by_services namedTwice).1.mpr (by decide)
    obtain ⟨hmessage, -⟩ := (buildBlockLists_by_services namedTwice).2.1 d herror
    have hnames : d.names = ["dialups", "relays"] := by
      rw [(buildBlockLists_eq_error_iff.mp herror).2]
      exact repeatedNames_namedTwice
    rw [hnames] at hmessage
    exact ⟨d, herror, hmessage.trans (by decide +kernel)⟩
  · intro answer
    exact (hbuilds.accepts_iff answer).mpr (Or.inr (Or.inl ⟨"nope", by decide, hbad⟩))
  · intro answer
    rw [hbuilds'.accepts_iff answer]
    simp [hsix, eq_comm]
  · intro r hr
    exact ⟨hfound r hr, hothers r hr "six" (by decide)⟩

end RelayReputation
