import RelayReputation.Proofs.Enablement

/-!
# Changes that fail

A change of what is enabled fails exactly if it has to write a store that cannot be written. A
removal of what is not there writes nothing, so it cannot fail. Whatever fails has changed no
override and no file, and whether or not a change fails the cache is empty after it.
-/

namespace RelayReputation

open RelayReputation.Text

/-- Whether a fault is one of the files, and not of what a document says. -/
def StoreFault.isOfFiles : StoreFault → Bool
  | badDocument _ => false
  | _ => true

/-! ### Faults of writing -/

theorem Disk.isOfFiles_of_write {d : Disk} {text : String} {f : StoreFault}
    (h : d.write text = .error f) : f.isOfFiles = true := by
  cases d with
  | directory =>
    obtain rfl := Except.error.inj h
    rfl
  | blocked =>
    obtain rfl := Except.error.inj h
    rfl
  | _ => cases h

theorem FileStore.isOfFiles_of_save {s : FileStore} {values : Switches} {f : StoreFault}
    (h : s.save values = .error f) : f.isOfFiles = true := by
  exact Disk.isOfFiles_of_write (map_eq_error_iff.mp h)

namespace Store

variable {s : Store} {f : StoreFault}

theorem isOfFiles_of_set {key : CodePoints} {value : Bool} (h : s.set key value = .error f) :
    f.isOfFiles = true := by
  cases s with
  | memory values => cases h
  | file store => exact FileStore.isOfFiles_of_save (map_eq_error_iff.mp h)

theorem isOfFiles_of_remove {key : CodePoints} (h : s.remove key = .error f) :
    f.isOfFiles = true := by
  cases s with
  | memory values => cases h
  | file store =>
    have hs : store.remove key = .error f := map_eq_error_iff.mp h
    cases hk : store.values.has key with
    | true =>
      rw [FileStore.remove, if_pos hk] at hs
      exact FileStore.isOfFiles_of_save hs
    | false => simp [FileStore.remove, hk] at hs

theorem isOfFiles_of_removeAll {keys : List CodePoints} (h : (s.removeAll keys).2 = .error f) :
    f.isOfFiles = true := by
  induction keys generalizing s with
  | nil => cases h
  | cons key rest ih =>
    cases hr : s.remove key with
    | ok t =>
      rw [removeAll, hr] at h
      exact ih h
    | error g =>
      obtain rfl : g = f := by simpa [removeAll, hr] using h
      exact isOfFiles_of_remove hr

/-! ### When writing fails -/

theorem set_error_iff (s : Store) (key : CodePoints) (value : Bool) :
    (∃ f, s.set key value = .error f) ↔ s.isWritable = false := by
  cases s with
  | memory values => simp [set, isWritable]
  | file store =>
    cases hw : store.disk.isWritable with
    | true =>
      have hsave := FileStore.save_of_isWritable hw (store.values.set key value)
      simp [set, FileStore.set, hsave, Except.map, isWritable, hw]
    | false =>
      obtain ⟨f, hsave⟩ := FileStore.save_of_not_isWritable hw (store.values.set key value)
      simp [set, FileStore.set, hsave, Except.map, isWritable, hw]

theorem remove_error_iff (s : Store) (key : CodePoints) :
    (∃ f, s.remove key = .error f) ↔ s.isWritable = false ∧ s.get? key ≠ none := by
  cases hw : s.isWritable with
  | true =>
    obtain ⟨t, ht, -⟩ := remove_of_isWritable hw key
    simp [ht]
  | false =>
    rcases remove_of_not_isWritable hw key with ⟨hn, hr⟩ | ⟨hn, f, hr⟩
    · simp [hr, hn]
    · simp [hr, hn]

theorem removeAll_error_iff (s : Store) (keys : List CodePoints) :
    (∃ f, (s.removeAll keys).2 = .error f) ↔
      s.isWritable = false ∧ ∃ key ∈ keys, s.get? key ≠ none := by
  have hok : (∃ f, (s.removeAll keys).2 = .error f) ↔ ¬(s.removeAll keys).2 = .ok () := by
    cases (s.removeAll keys).2 <;> simp
  rw [hok]
  cases hw : s.isWritable with
  | true => simp [removeAll_of_isWritable hw keys]
  | false =>
    rw [(removeAll_of_not_isWritable hw keys).2]
    simp

end Store

/-! ### Changes -/

namespace Registry

/-- What becomes of a change that may have to write the store. It fails exactly if it has to and
the store cannot be written, and then with a fault of the files. One that fails leaves every
override, what is enabled and what there is on disk as they were. The cache is empty in any case. -/
structure AllOrNothing (r : Registry) (writes : Prop) (after : Registry)
    (outcome : Except StoreFault Unit) : Prop where
  fails_iff : (∃ f, f.isOfFiles = true ∧ outcome = .error f) ↔
    r.store.isWritable = false ∧ writes
  isOfFiles : ∀ f, outcome = .error f → f.isOfFiles = true
  get?_eq : ∀ f, outcome = .error f → ∀ key, after.store.get? key = r.store.get? key
  isEnabled_eq : ∀ f, outcome = .error f → ∀ b, after.isEnabled b = r.isEnabled b
  disk?_eq : ∀ f, outcome = .error f → after.store.disk? = r.store.disk?
  size_eq : after.cache.size = 0

theorem AllOrNothing.of_store_eq {r after : Registry} {writes : Prop}
    {outcome : Except StoreFault Unit}
    (hfails : (∃ f, outcome = .error f) ↔ r.store.isWritable = false ∧ writes)
    (hfiles : ∀ f, outcome = .error f → f.isOfFiles = true)
    (hstore : ∀ f, outcome = .error f → after.store = r.store)
    (hcache : after.cache = r.cache.clear) : r.AllOrNothing writes after outcome where
  fails_iff := by
    rw [← hfails]
    constructor
    · rintro ⟨f, -, hf⟩
      exact ⟨f, hf⟩
    · intro ⟨f, hf⟩
      exact ⟨f, hfiles f hf, hf⟩
  isOfFiles := hfiles
  get?_eq f hf key := by rw [hstore f hf]
  isEnabled_eq f hf b := by rw [isEnabled, isEnabled, hstore f hf]
  disk?_eq f hf := by rw [hstore f hf]
  size_eq := by rw [hcache, VerdictCache.size_clear]

theorem setEnabled_error_iff (r : Registry) (b : BlockList) (setting : Switch) (f : StoreFault) :
    (r.setEnabled b setting).2.2 = .error f ↔ r.storeAfter b setting.on = .error f := by
  unfold setEnabled
  cases r.storeAfter b setting.on <;> simp

theorem reset_error_iff (r : Registry) (f : StoreFault) :
    r.reset.2.2 = .error f ↔
      (r.store.removeAll (r.lists.map (·.preferenceKey))).2 = .error f := by
  simp only [reset]
  cases (r.store.removeAll (r.lists.map (·.preferenceKey))).2 <;> simp

theorem storeAfter_error_iff (r : Registry) (b : BlockList) (on : Bool) :
    (∃ f, r.storeAfter b on = .error f) ↔
      r.store.isWritable = false ∧
        (on ≠ b.defaultEnabled ∨ r.store.get? b.preferenceKey ≠ none) := by
  unfold storeAfter
  by_cases hdefault : on = b.defaultEnabled
  · rw [if_pos hdefault, Store.remove_error_iff]
    simp [hdefault]
  · rw [if_neg hdefault, Store.set_error_iff]
    simp [hdefault]

theorem isOfFiles_of_storeAfter {r : Registry} {b : BlockList} {on : Bool} {f : StoreFault}
    (h : r.storeAfter b on = .error f) : f.isOfFiles = true := by
  unfold storeAfter at h
  split at h
  · exact Store.isOfFiles_of_remove h
  · exact Store.isOfFiles_of_set h

theorem allOrNothing_setEnabled (r : Registry) (b : BlockList) (setting : Switch) :
    r.AllOrNothing (setting.on ≠ b.defaultEnabled ∨ r.store.get? b.preferenceKey ≠ none)
      (r.setEnabled b setting).1 (r.setEnabled b setting).2.2 := by
  have hfails := r.storeAfter_error_iff b setting.on
  simp only [← r.setEnabled_error_iff b setting] at hfails
  refine .of_store_eq hfails ?_ ?_ (r.cache_setEnabled b setting)
  · intro f hf
    exact isOfFiles_of_storeAfter ((r.setEnabled_error_iff b setting f).mp hf)
  · intro f hf
    have hfailed : (r.change (.switch b setting)).2 = .error f := hf
    exact store_change_of_error hfailed

theorem allOrNothing_reset (r : Registry) :
    r.AllOrNothing (∃ b ∈ r.lists, r.store.get? b.preferenceKey ≠ none)
      r.reset.1 r.reset.2.2 := by
  have hfails := r.store.removeAll_error_iff (r.lists.map (·.preferenceKey))
  simp only [← r.reset_error_iff, List.mem_map, exists_exists_and_eq_and] at hfails
  refine .of_store_eq hfails ?_ ?_ r.cache_reset
  · intro f hf
    exact Store.isOfFiles_of_removeAll ((r.reset_error_iff f).mp hf)
  · intro f hf
    have hfailed : (r.change .reset).2 = .error f := hf
    exact store_change_of_error hfailed

/-- Turning any list on or off, and a reset, change all they have to or nothing, whatever is
stored and on disk. A list that is to be as by default has to be written only if there is an
override of it, and a reset only if there is one of some list. -/
theorem changes_allOrNothing (r : Registry) :
    (∀ b setting,
      r.AllOrNothing (setting.on ≠ b.defaultEnabled ∨ r.store.get? b.preferenceKey ≠ none)
        (r.setEnabled b setting).1 (r.setEnabled b setting).2.2) ∧
    r.AllOrNothing (∃ b ∈ r.lists, r.store.get? b.preferenceKey ≠ none) r.reset.1 r.reset.2.2 :=
  ⟨r.allOrNothing_setEnabled, r.allOrNothing_reset⟩

end Registry

end RelayReputation
