import RelayReputation.Keyed
import Mathlib.Data.List.Induction
import Mathlib.Data.List.Nodup

/-!
# Entries of keyed lists

What is found for a key is told by the entries alone, as long as no two of them have one key: the
order does not matter, and a selection by values selects what is found. A map made of such entries
holds them as they are.
-/

namespace RelayReputation.Keyed

variable {κ α : Type} [DecidableEq κ]

theorem get?_eq_some_iff_mem {m : Keyed κ α} (h : (keys m).Nodup) (key : κ) (v : α) :
    m.get? key = some v ↔ (key, v) ∈ m := by
  induction m with
  | nil => simp
  | cons e rest ih =>
    obtain ⟨k, w⟩ := e
    have hd : k ∉ keys rest ∧ (keys rest).Nodup := List.nodup_cons.mp h
    by_cases hk : k = key
    · subst hk
      have hnot : (k, v) ∉ rest := fun hm => hd.1 (List.mem_map_of_mem hm)
      simp [get?, hnot, eq_comm]
    · have hne : key ≠ k := Ne.symm hk
      simp [get?, hk, hne, ih hd.2]

theorem mem_keys_iff {m : Keyed κ α} (h : (keys m).Nodup) (key : κ) :
    key ∈ keys m ↔ ∃ v, m.get? key = some v := by
  simp only [get?_eq_some_iff_mem h, keys, List.mem_map, Prod.exists]
  constructor
  · rintro ⟨k, v, hm, rfl⟩
    exact ⟨v, hm⟩
  · rintro ⟨v, hm⟩
    exact ⟨key, v, hm, rfl⟩

/-- Filtering a map by its values filters what is found for a key. -/
theorem get?_filter_eq_some_iff {m : Keyed κ α} (h : (keys m).Nodup) (p : α → Bool) (key : κ)
    (v : α) : get? (m.filter fun e => p e.2) key = some v ↔ m.get? key = some v ∧ p v = true := by
  have hfiltered : (keys (m.filter fun e => p e.2)).Nodup :=
    h.sublist ((List.filter_sublist (l := m)).map _)
  rw [get?_eq_some_iff_mem hfiltered, get?_eq_some_iff_mem h, List.mem_filter]

theorem get?_eq_of_perm {m m' : Keyed κ α} (h : (keys m).Nodup) (hp : m'.Perm m) (key : κ) :
    m'.get? key = m.get? key := by
  have hkeys : (keys m').Perm (keys m) := hp.map Prod.fst
  have h' : (keys m').Nodup := hkeys.nodup_iff.mpr h
  apply Option.ext
  intro v
  rw [get?_eq_some_iff_mem h', get?_eq_some_iff_mem h, hp.mem_iff]

theorem set_of_not_mem_keys {m : Keyed κ α} {key : κ} (h : key ∉ keys m) (v : α) :
    set m key v = m ++ [(key, v)] := by
  induction m with
  | nil => rfl
  | cons e rest ih =>
    obtain ⟨k, w⟩ := e
    have hboth : key ∉ k :: keys rest := h
    rw [List.mem_cons, not_or] at hboth
    rw [set, if_neg (Ne.symm hboth.1), ih hboth.2, List.cons_append]

/-- Entries with keys of their own are kept as they are. -/
theorem ofList_of_nodup_keys {entries : List (κ × α)} (h : (keys entries).Nodup) :
    ofList entries = entries := by
  -- Entry by entry, after those that are in the map already.
  have hafter (m : Keyed κ α) (hm : (keys (m ++ entries)).Nodup) :
      entries.foldl (fun m e => set m e.1 e.2) m = m ++ entries := by
    clear h
    induction entries generalizing m with
    | nil => exact (List.append_nil m).symm
    | cons e rest ih =>
      have hm' : (keys m ++ e.1 :: keys rest).Nodup := by simpa [keys] using hm
      have hnew : e.1 ∉ keys m := fun hk =>
        (List.nodup_append.mp hm').2.2 e.1 hk e.1 List.mem_cons_self rfl
      rw [List.foldl_cons, set_of_not_mem_keys hnew, ih, List.append_assoc, List.singleton_append]
      rwa [List.append_assoc, List.singleton_append]
  exact hafter [] h

theorem nodup_keys_ofList (entries : List (κ × α)) : (keys (ofList entries)).Nodup := by
  have hafter (m : Keyed κ α) (hm : (keys m).Nodup) :
      (keys (entries.foldl (fun m e => set m e.1 e.2) m)).Nodup := by
    induction entries generalizing m with
    | nil => exact hm
    | cons e rest ih => exact ih _ (nodup_keys_set hm e.1 e.2)
  exact hafter [] List.nodup_nil

theorem get?_eq_none_iff (m : Keyed κ α) (key : κ) : m.get? key = none ↔ key ∉ keys m := by
  induction m with
  | nil => simp [keys]
  | cons e rest ih =>
    have hkeys : key ∉ keys (e :: rest) ↔ key ≠ e.1 ∧ key ∉ keys rest := by simp [keys]
    rw [hkeys, get?]
    by_cases hk : e.1 = key
    · simp [hk]
    · rw [if_neg hk, ih]
      exact (and_iff_right (Ne.symm hk)).symm

/-- What is found for a key is what the first entry with it says. -/
theorem get?_eq_some_iff_split (m : Keyed κ α) (key : κ) (v : α) :
    m.get? key = some v ↔
      ∃ before after, m = before ++ (key, v) :: after ∧ key ∉ keys before := by
  induction m with
  | nil => simp
  | cons e rest ih =>
    obtain ⟨k, w⟩ := e
    rw [get?]
    by_cases hk : k = key
    · subst hk
      rw [if_pos rfl, Option.some.injEq]
      constructor
      · rintro rfl
        exact ⟨[], rest, rfl, List.not_mem_nil⟩
      · rintro ⟨before, after, hsplit, hnot⟩
        obtain ⟨-, hsplit⟩ | ⟨before, rfl, -⟩ := List.cons_eq_append_iff.mp hsplit
        · exact (congrArg Prod.snd (List.cons.inj hsplit).1).symm
        · exact absurd (List.mem_cons_self ..) hnot
    · rw [if_neg hk, ih]
      constructor
      · rintro ⟨before, after, rfl, hnot⟩
        exact ⟨(k, w) :: before, after, rfl, List.not_mem_cons_of_ne_of_not_mem (Ne.symm hk) hnot⟩
      · rintro ⟨before, after, hsplit, hnot⟩
        obtain ⟨-, hsplit⟩ | ⟨before, rfl, hrest⟩ := List.cons_eq_append_iff.mp hsplit
        · exact absurd (congrArg Prod.fst (List.cons.inj hsplit).1).symm hk
        · exact ⟨before, after, hrest, List.not_mem_of_not_mem_cons hnot⟩

/-- In a map made of entries the last one with a key counts. -/
theorem get?_ofList (entries : List (κ × α)) (key : κ) :
    (ofList entries).get? key = get? entries.reverse key := by
  induction entries using List.reverseRecOn with
  | nil => rfl
  | append_singleton entries e ih =>
    have hsnoc : ofList (entries ++ [e]) = set (ofList entries) e.1 e.2 := by
      rw [ofList, List.foldl_append]
      rfl
    rw [hsnoc, get?_set, ih, List.reverse_append]
    rfl

theorem get?_ofList_eq_none_iff (entries : List (κ × α)) (key : κ) :
    (ofList entries).get? key = none ↔ key ∉ keys entries := by
  rw [get?_ofList, get?_eq_none_iff, keys, List.map_reverse, List.mem_reverse]
  rfl

theorem get?_ofList_eq_some_iff (entries : List (κ × α)) (key : κ) (v : α) :
    (ofList entries).get? key = some v ↔
      ∃ before after, entries = before ++ (key, v) :: after ∧ key ∉ keys after := by
  rw [get?_ofList, get?_eq_some_iff_split]
  constructor
  · rintro ⟨before, after, hsplit, hnot⟩
    refine ⟨after.reverse, before.reverse, ?_, ?_⟩
    · rw [← List.reverse_reverse entries, hsplit]
      simp
    · simpa [keys] using hnot
  · rintro ⟨before, after, rfl, hnot⟩
    refine ⟨after.reverse, before.reverse, by simp, ?_⟩
    simpa [keys] using hnot

end RelayReputation.Keyed
