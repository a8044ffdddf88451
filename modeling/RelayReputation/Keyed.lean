/-!
# Keyed lists

A finite map that remembers the order in which its keys came. Setting a key that is
there already keeps its place; a key that was removed and comes back goes to the end.
-/

namespace RelayReputation

abbrev Keyed (κ α : Type) := List (κ × α)

namespace Keyed

variable {κ α : Type} [DecidableEq κ]

def get? (m : Keyed κ α) (key : κ) : Option α :=
  match m with
  | [] => none
  | (k, v) :: rest => if k = key then some v else get? rest key

def set (m : Keyed κ α) (key : κ) (value : α) : Keyed κ α :=
  match m with
  | [] => [(key, value)]
  | (k, v) :: rest => if k = key then (k, value) :: rest else (k, v) :: set rest key value

def erase (m : Keyed κ α) (key : κ) : Keyed κ α := m.filter (·.1 ≠ key)

def keys (m : Keyed κ α) : List κ := m.map (·.1)

def has (m : Keyed κ α) (key : κ) : Bool := (m.get? key).isSome

def ofList (entries : List (κ × α)) : Keyed κ α :=
  entries.foldl (fun m e => set m e.1 e.2) []

def sorted [LE κ] [DecidableLE κ] (m : Keyed κ α) : List (κ × α) :=
  m.mergeSort fun a b => a.1 ≤ b.1

/-! ### Reading after writing -/

@[simp] theorem get?_nil (key : κ) : get? ([] : Keyed κ α) key = none := rfl

theorem get?_set (m : Keyed κ α) (key k : κ) (v : α) :
    (set m key v).get? k = if key = k then some v else m.get? k := by
  induction m with
  | nil => simp [set, get?]
  | cons e rest ih =>
    obtain ⟨k', v'⟩ := e
    by_cases h : k' = key
    · subst h
      by_cases hk : k' = k <;> simp [set, get?, hk]
    · by_cases hk : k' = k
      · subst hk
        simp [set, get?, h, Ne.symm h]
      · simp [set, get?, h, hk, ih]

theorem get?_erase (m : Keyed κ α) (key k : κ) :
    (erase m key).get? k = if key = k then none else m.get? k := by
  induction m with
  | nil => simp [erase, get?]
  | cons e rest ih =>
    obtain ⟨k', v'⟩ := e
    by_cases h : k' = key
    · subst h
      have hr : erase ((k', v') :: rest) k' = erase rest k' := by simp [erase]
      rw [hr, ih]
      by_cases hk : k' = k <;> simp [get?, hk]
    · have hr : erase ((k', v') :: rest) key = (k', v') :: erase rest key := by
        simp [erase, h]
      rw [hr]
      by_cases hk : k' = k
      · subst hk
        simp [get?, Ne.symm h]
      · simp [get?, hk, ih]

theorem erase_of_get?_eq_none {m : Keyed κ α} {key : κ} (h : m.get? key = none) :
    erase m key = m := by
  induction m with
  | nil => rfl
  | cons e rest ih =>
    obtain ⟨k, v⟩ := e
    by_cases hk : k = key
    · simp [get?, hk] at h
    · simp only [get?, hk, if_false] at h
      simpa [erase, hk] using ih h

/-! ### Keys -/

theorem mem_keys_set {m : Keyed κ α} {key k : κ} {v : α} :
    k ∈ keys (set m key v) ↔ k = key ∨ k ∈ keys m := by
  induction m with
  | nil => simp [set, keys]
  | cons e rest ih =>
    obtain ⟨k', v'⟩ := e
    by_cases h : k' = key
    · subst h
      simp [set, keys]
    · have hs : keys (set ((k', v') :: rest) key v) = k' :: keys (set rest key v) := by
        simp [set, h, keys]
      have hm : keys ((k', v') :: rest) = k' :: keys rest := rfl
      rw [hs, hm, List.mem_cons, List.mem_cons, ih]
      exact or_left_comm

theorem nodup_keys_set {m : Keyed κ α} (h : (keys m).Nodup) (key : κ) (v : α) :
    (keys (set m key v)).Nodup := by
  induction m with
  | nil => simp [set, keys]
  | cons e rest ih =>
    obtain ⟨k, v'⟩ := e
    have hm : keys ((k, v') :: rest) = k :: keys rest := rfl
    rw [hm, List.nodup_cons] at h
    by_cases hk : k = key
    · subst hk
      have hs : keys (set ((k, v') :: rest) k v) = k :: keys rest := by simp [set, keys]
      exact hs ▸ List.nodup_cons.2 h
    · have hs : keys (set ((k, v') :: rest) key v) = k :: keys (set rest key v) := by
        simp [set, hk, keys]
      rw [hs, List.nodup_cons, mem_keys_set]
      exact ⟨fun hm => hm.elim hk h.1, ih h.2⟩

theorem nodup_keys_erase {m : Keyed κ α} (h : (keys m).Nodup) (key : κ) :
    (keys (erase m key)).Nodup :=
  h.sublist ((List.filter_sublist (l := m)).map _)

end Keyed

end RelayReputation
