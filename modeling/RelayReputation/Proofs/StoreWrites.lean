import RelayReputation.Preference.Store

/-!
# Writing a store

A store can be written unless something stands where its file or the directory of its file should
be. Then nothing that has to be written gets anywhere: a removal leaves the store as it is, whether
it fails or there was nothing to remove. So the removal of many keys cannot fail half way
(`removeAll_fst_of_error`).
-/

namespace RelayReputation

open RelayReputation.Text

/-! ### Files -/

namespace Disk

/-- Whether a store can put its file there. -/
def isWritable : Disk → Bool
  | directory => false
  | blocked => false
  | _ => true

theorem write_of_isWritable {d : Disk} (h : d.isWritable = true) (text : String) :
    d.write text = .ok (.file text) := by
  cases d with
  | directory => cases h
  | blocked => cases h
  | _ => rfl

theorem write_of_not_isWritable {d : Disk} (h : d.isWritable = false) (text : String) :
    ∃ f, d.write text = .error f := by
  cases d with
  | directory => exact ⟨_, rfl⟩
  | blocked => exact ⟨_, rfl⟩
  | _ => cases h

end Disk

namespace FileStore

theorem save_of_isWritable {s : FileStore} (h : s.disk.isWritable = true) (values : Switches) :
    s.save values = .ok ⟨s.path, .file (Yaml.renderSwitches values), values⟩ := by
  rw [save, Disk.write_of_isWritable h]
  rfl

theorem save_of_not_isWritable {s : FileStore} (h : s.disk.isWritable = false)
    (values : Switches) : ∃ f, s.save values = .error f := by
  obtain ⟨f, hf⟩ := Disk.write_of_not_isWritable h (Yaml.renderSwitches values)
  exact ⟨f, map_eq_error_iff.mpr hf⟩

end FileStore

namespace Store

def isWritable : Store → Bool
  | memory _ => true
  | file store => store.disk.isWritable

/-! ### Removing one key -/

theorem remove_of_isWritable {s : Store} (h : s.isWritable = true) (key : CodePoints) :
    ∃ t, s.remove key = .ok t ∧ t.isWritable = true := by
  cases s with
  | memory values => exact ⟨_, rfl, rfl⟩
  | file store =>
    have hsave := FileStore.save_of_isWritable h (store.values.erase key)
    simp only [remove, FileStore.remove, hsave]
    cases store.values.has key with
    | true => exact ⟨_, rfl, rfl⟩
    | false => exact ⟨_, rfl, h⟩

theorem remove_of_not_isWritable {s : Store} (h : s.isWritable = false) (key : CodePoints) :
    (s.get? key = none ∧ s.remove key = .ok s) ∨
      (s.get? key ≠ none ∧ ∃ f, s.remove key = .error f) := by
  cases s with
  | memory values => cases h
  | file store =>
    cases hk : store.values.has key with
    | true =>
      obtain ⟨f, hsave⟩ := FileStore.save_of_not_isWritable h (store.values.erase key)
      refine .inr ⟨?_, f, ?_⟩
      · intro hn
        simp only [get?, values] at hn
        simp [Keyed.has, hn] at hk
      · simp [remove, FileStore.remove, hk, hsave, Except.map]
    | false =>
      have hn : store.values.get? key = none := by simpa [Keyed.has] using hk
      exact .inl ⟨hn, by simp [remove, FileStore.remove, hk, Except.map]⟩

/-! ### Removing many keys -/

theorem removeAll_of_isWritable {s : Store} (h : s.isWritable = true) (keys : List CodePoints) :
    (s.removeAll keys).2 = .ok () := by
  induction keys generalizing s with
  | nil => rfl
  | cons key rest ih =>
    obtain ⟨t, ht, hwritable⟩ := remove_of_isWritable h key
    rw [removeAll, ht]
    exact ih hwritable

theorem removeAll_of_not_isWritable {s : Store} (h : s.isWritable = false)
    (keys : List CodePoints) :
    (s.removeAll keys).1 = s ∧
      ((s.removeAll keys).2 = .ok () ↔ ∀ key ∈ keys, s.get? key = none) := by
  induction keys with
  | nil => exact ⟨rfl, by simp [removeAll]⟩
  | cons key rest ih =>
    rcases remove_of_not_isWritable h key with ⟨hn, hr⟩ | ⟨hn, f, hr⟩
    · rw [removeAll, hr]
      simpa [hn] using ih
    · rw [removeAll, hr]
      exact ⟨rfl, by simp [hn]⟩

/-- The removal of many keys fails as a whole, since only the first one that is there can fail. -/
theorem removeAll_fst_of_error {s : Store} {keys : List CodePoints} {f : StoreFault}
    (h : (s.removeAll keys).2 = .error f) : (s.removeAll keys).1 = s := by
  cases hw : s.isWritable with
  | true => cases (removeAll_of_isWritable hw keys).symm.trans h
  | false => exact (removeAll_of_not_isWritable hw keys).1

theorem get?_of_removeAll {s : Store} {keys : List CodePoints}
    (h : (s.removeAll keys).2 = .ok ()) (k : CodePoints) :
    (s.removeAll keys).1.get? k = if k ∈ keys then none else s.get? k := by
  induction keys generalizing s with
  | nil => rfl
  | cons key rest ih =>
    cases hr : s.remove key with
    | error f => simp [removeAll, hr] at h
    | ok t =>
      have hrest : (t.removeAll rest).2 = .ok () := by simpa [removeAll, hr] using h
      rw [removeAll, hr, ih hrest, get?_of_remove hr]
      by_cases hk : key = k
      · simp [hk]
      · simp [hk, Ne.symm hk]

end Store

end RelayReputation
