import RelayReputation.Proofs.KeyedEntries
import RelayReputation.Proofs.StoreWrites
import RelayReputation.Session.Step

/-!
# Preferences that last

A file store answers as one in memory that began with what was loaded, as long as its writes
succeed. After every step, also one that failed, a new store on the same file holds what the store
in use holds. Nothing is needed of the reading and writing of documents but that every map written
is read back as it was.
-/

namespace RelayReputation

open RelayReputation.Text

/-! ### Maps as documents -/

namespace Yaml

def switchEntry (e : CodePoints × Bool) : Scalar × Value := (.text e.1, .simple (.bool e.2))

def switch? : Scalar × Value → Option (CodePoints × Bool)
  | (.text key, .simple (.bool on)) => some (key, on)
  | _ => none

/-- The map from texts to truth values that a value is, if it is one. -/
def Value.switches? : Value → Option Switches
  | .mapping entries => entries.mapM switch?
  | _ => none

def loadSwitches? (text : String) : Option Switches :=
  match load text with
  | .ok v => v.switches?
  | .error _ => none

theorem eq_switchEntry_of_switch? {e : Scalar × Value} {s : CodePoints × Bool}
    (h : switch? e = some s) : e = switchEntry s := by
  unfold switch? at h
  split at h
  · obtain rfl := Option.some.inj h
    rfl
  · cases h

theorem eq_map_of_mapM_switch? {entries : List (Scalar × Value)} {m : Switches}
    (h : entries.mapM switch? = some m) : entries = m.map switchEntry := by
  induction entries generalizing m with
  | nil =>
    obtain rfl : [] = m := Option.some.inj h
    rfl
  | cons e rest ih =>
    rw [List.mapM_cons] at h
    obtain ⟨s, hs, hrest⟩ := Option.bind_eq_some_iff.mp h
    obtain ⟨m', hm', hm⟩ := Option.bind_eq_some_iff.mp hrest
    obtain rfl : s :: m' = m := Option.some.inj hm
    rw [eq_switchEntry_of_switch? hs, ih hm', List.map_cons]

theorem load_of_loadSwitches? {text : String} {m : Switches} (h : loadSwitches? text = some m) :
    load text = .ok (.mapping (m.map switchEntry)) := by
  unfold loadSwitches? at h
  cases hload : load text with
  | error e => simp [hload] at h
  | ok v =>
    rw [hload] at h
    cases v with
    | mapping entries => rw [eq_map_of_mapM_switch? h]
    | _ => cases h

end Yaml

/-- Whether a map is read back as it is written. -/
def Switches.ReadsBack (m : Switches) : Prop :=
  ∃ read, Yaml.loadSwitches? (Yaml.renderSwitches m) = some read ∧ read.Perm m

theorem Switches.ofValue_of_entries (path : String) {m : Switches} (h : (Keyed.keys m).Nodup) :
    ofValue path (.mapping (m.map Yaml.switchEntry)) = ([], .ok m) := by
  have hfault (e : Yaml.Scalar × Yaml.Value) (he : e ∈ m.map Yaml.switchEntry) :
      fault? e = none := by
    obtain ⟨s, -, rfl⟩ := List.mem_map.mp he
    rfl
  have hcomplaint (e : Yaml.Scalar × Yaml.Value) (he : e ∈ m.map Yaml.switchEntry) :
      complaint? e = none := by
    obtain ⟨s, -, rfl⟩ := List.mem_map.mp he
    rfl
  have hentries : (m.map Yaml.switchEntry).filterMap entry? = m := by
    rw [List.filterMap_map]
    exact List.filterMap_some
  cases m with
  | nil => rfl
  | cons e rest =>
    have hnone : ((e :: rest).map Yaml.switchEntry).findSome? fault? = none :=
      List.findSome?_eq_none_iff.mpr hfault
    have hsilent : (((e :: rest).map Yaml.switchEntry).takeWhile fun e =>
        (fault? e).isNone).filterMap complaint? = [] :=
      List.filterMap_eq_nil_iff.mpr fun e he =>
        hcomplaint e ((List.takeWhile_sublist _).subset he)
    have htrue : (Yaml.Value.mapping ((e :: rest).map Yaml.switchEntry)).isTrue = true := rfl
    rw [ofValue, if_pos htrue, hnone, hsilent, hentries, Keyed.ofList_of_nodup_keys h]

theorem Switches.nodup_keys_ofValue {path : String} {v : Yaml.Value} {m : Switches}
    (h : (ofValue path v).2 = .ok m) : (Keyed.keys m).Nodup := by
  cases v with
  | mapping entries =>
    unfold ofValue at h
    cases htrue : (Yaml.Value.mapping entries).isTrue with
    | true =>
      cases hfault : entries.findSome? fault? with
      | none =>
        obtain rfl : Keyed.ofList (entries.filterMap entry?) = m := by
          simpa [htrue, hfault] using h
        exact Keyed.nodup_keys_ofList _
      | some fault => simp [htrue, hfault] at h
    | false =>
      obtain rfl : [] = m := by simpa [htrue] using h
      exact List.nodup_nil
  | _ =>
    unfold ofValue at h
    split at h <;> (obtain rfl := Except.ok.inj h; exact List.nodup_nil)

/-! ### Stores that last -/

namespace FileStore

/-- Whether a new store on the file holds what a store holds. -/
structure Lasts (s : FileStore) : Prop where
  nodup : (Keyed.keys s.values).Nodup
  reopens : ∃ notices t, opening s.path s.disk = (notices, .ok t) ∧
    ∀ key, t.values.get? key = s.values.get? key

theorem of_opening {path : String} {disk : Disk} {notices : List Notice} {s : FileStore}
    (h : opening path disk = (notices, .ok s)) :
    s.path = path ∧ s.disk = disk ∧ (Keyed.keys s.values).Nodup := by
  unfold opening at h
  split at h
  · cases h
  · rename_i text
    cases hload : Yaml.load text with
    | error e => simp [hload] at h
    | ok v =>
      cases hvalue : (Switches.ofValue (shownPath path) v).2 with
      | error e => simp [hload, hvalue, Except.map, Except.mapError] at h
      | ok m =>
        have hs : FileStore.mk path (.file text) m = s := by
          simpa [hload, hvalue, Except.map, Except.mapError] using (congrArg Prod.snd h)
        rw [← hs]
        exact ⟨rfl, rfl, Switches.nodup_keys_ofValue hvalue⟩
  · obtain ⟨-, hs⟩ := Prod.mk.inj h
    obtain rfl := Except.ok.inj hs
    exact ⟨rfl, rfl, List.nodup_nil⟩

theorem lasts_of_opening {path : String} {disk : Disk} {notices : List Notice} {s : FileStore}
    (h : opening path disk = (notices, .ok s)) : s.Lasts := by
  obtain ⟨hpath, hdisk, hkeys⟩ := of_opening h
  refine ⟨hkeys, notices, s, ?_, fun key => rfl⟩
  rw [hpath, hdisk]
  exact h

/-- A store lasts that has just written what it holds. -/
theorem lasts_of_readsBack (path : String) {m : Switches} (hkeys : (Keyed.keys m).Nodup)
    (hback : m.ReadsBack) : (FileStore.mk path (.file (Yaml.renderSwitches m)) m).Lasts := by
  obtain ⟨read, hload, hperm⟩ := hback
  have hread : (Keyed.keys read).Nodup := (hperm.map Prod.fst).nodup_iff.mpr hkeys
  refine ⟨hkeys, [], ⟨path, .file (Yaml.renderSwitches m), read⟩, ?_, ?_⟩
  · simp only [opening, Yaml.load_of_loadSwitches? hload, Switches.ofValue_of_entries _ hread]
    rfl
  · exact Keyed.get?_eq_of_perm hkeys hperm

end FileStore

/-! ### Steps -/

/-- A step with a store by the only one who writes its file. Any value can be set, and counts by
whether it is true. Around the file all may change, as long as it stays where it is: while there is
none, its directory may become one that can be made, or one that cannot. -/
inductive PreferenceStep
  | get (key : CodePoints)
  | set (key : CodePoints) (value : Yaml.Value)
  | remove (key : CodePoints)
  | surround (creatable : Bool)

def Disk.surrounded (creatable : Bool) : Disk → Disk
  | file text => file text
  | directory => directory
  | _ => if creatable then bare else blocked

namespace Store

def surrounded (creatable : Bool) : Store → Store
  | memory values => memory values
  | file s => file { s with disk := s.disk.surrounded creatable }

def act (s : Store) : PreferenceStep → Store × Except StoreFault Answer
  | .get key => let r := (StoreStep.get key).apply s; (r.1, r.2.2)
  | .set key value => let r := (StoreStep.set key value.isTrue).apply s; (r.1, r.2.2)
  | .remove key => let r := (StoreStep.remove key).apply s; (r.1, r.2.2)
  | .surround creatable => (s.surrounded creatable, .ok .done)

def used (s : Store) (steps : List PreferenceStep) : Store :=
  steps.foldl (fun s step => (s.act step).1) s

def answers (s : Store) : List PreferenceStep → List (Except StoreFault Answer)
  | [] => []
  | step :: rest => (s.act step).2 :: (s.act step).1.answers rest

/-- The map that a step writes, if it comes to write one. -/
def writing? (s : Store) : PreferenceStep → Option Switches
  | .set key value => if s.isWritable then some (s.values.set key value.isTrue) else none
  | .remove key =>
    if s.isWritable && s.values.has key then some (s.values.erase key) else none
  | _ => none

def written (s : Store) : List PreferenceStep → List Switches
  | [] => []
  | step :: rest => (s.writing? step).toList ++ (s.act step).1.written rest

/-- A file store that writes a map has it and its document afterwards. -/
theorem act_of_writing? {s : FileStore} {step : PreferenceStep} {m : Switches}
    (h : (file s).writing? step = some m) :
    ((file s).act step).1 = .file ⟨s.path, .file (Yaml.renderSwitches m), m⟩ := by
  cases step with
  | set key value =>
    obtain ⟨hw, hm⟩ := Option.ite_none_right_eq_some.mp h
    obtain rfl := Option.some.inj hm
    have hsave := FileStore.save_of_isWritable hw (s.values.set key value.isTrue)
    simp only [act, StoreStep.apply, set, FileStore.set, hsave, Except.map]
    rfl
  | remove key =>
    obtain ⟨hboth, hm⟩ := Option.ite_none_right_eq_some.mp h
    obtain rfl := Option.some.inj hm
    obtain ⟨hw, hk⟩ := (Bool.and_eq_true _ _).mp hboth
    have hsave := FileStore.save_of_isWritable hw (s.values.erase key)
    have hk' : s.values.has key = true := hk
    simp only [act, StoreStep.apply, remove, FileStore.remove, hk', hsave, Except.map]
    rfl
  | _ => cases h

/-- A file store that writes nothing stays as it is, but for what is around its file. -/
theorem act_of_not_writing {s : FileStore} {step : PreferenceStep}
    (h : (file s).writing? step = none) :
    ((file s).act step).1 = .file s ∨
      ∃ creatable, ((file s).act step).1 =
        .file { s with disk := s.disk.surrounded creatable } := by
  cases step with
  | get key => exact .inl rfl
  | set key value =>
    refine .inl ?_
    cases hw : s.disk.isWritable with
    | true => simp [writing?, isWritable, hw] at h
    | false =>
      obtain ⟨f, hsave⟩ := FileStore.save_of_not_isWritable hw (s.values.set key value.isTrue)
      simp [act, StoreStep.apply, set, FileStore.set, hsave, Except.map]
  | remove key =>
    refine .inl ?_
    cases hk : s.values.has key with
    | false => simp [act, StoreStep.apply, remove, FileStore.remove, hk, Except.map]
    | true =>
      have hw : s.disk.isWritable = false := by simpa [writing?, isWritable, values, hk] using h
      obtain ⟨f, hsave⟩ := FileStore.save_of_not_isWritable hw (s.values.erase key)
      simp [act, StoreStep.apply, remove, FileStore.remove, hk, hsave, Except.map]
  | surround creatable => exact .inr ⟨creatable, rfl⟩

theorem nodup_keys_of_writing? {s : Store} {step : PreferenceStep} {m : Switches}
    (h : s.writing? step = some m) (hkeys : (Keyed.keys s.values).Nodup) :
    (Keyed.keys m).Nodup := by
  cases step with
  | set key value =>
    obtain ⟨-, hm⟩ := Option.ite_none_right_eq_some.mp h
    rw [← Option.some.inj hm]
    exact Keyed.nodup_keys_set hkeys key value.isTrue
  | remove key =>
    obtain ⟨-, hm⟩ := Option.ite_none_right_eq_some.mp h
    rw [← Option.some.inj hm]
    exact Keyed.nodup_keys_erase hkeys key
  | _ => cases h

/-- A store in memory with the values of a store. -/
def inMemory (s : Store) : Store := memory s.values

/-- A step that succeeds is answered as in memory, and leaves the values that it leaves there. -/
theorem act_inMemory {s : Store} {step : PreferenceStep} {answer : Answer}
    (h : (s.act step).2 = .ok answer) :
    s.inMemory.act step = ((s.act step).1.inMemory, .ok answer) := by
  cases step with
  | get key =>
    obtain rfl := Except.ok.inj h
    rfl
  | set key value =>
    simp only [act, StoreStep.apply] at h ⊢
    cases hs : s.set key value.isTrue with
    | error f => simp [hs] at h
    | ok t =>
      obtain rfl : Answer.done = answer := by simpa [hs] using h
      simp only [inMemory, set, values_of_set hs]
  | remove key =>
    simp only [act, StoreStep.apply] at h ⊢
    cases hs : s.remove key with
    | error f => simp [hs] at h
    | ok t =>
      obtain rfl : Answer.done = answer := by simpa [hs] using h
      simp only [inMemory, remove, values_of_remove hs]
  | surround creatable =>
    obtain rfl := Except.ok.inj h
    cases s <;> rfl

theorem answers_inMemory (s : Store) (steps : List PreferenceStep) :
    (s.answers steps).takeWhile Except.isOk <+: s.inMemory.answers steps := by
  induction steps generalizing s with
  | nil => exact List.nil_prefix
  | cons step rest ih =>
    cases h : (s.act step).2 with
    | error f => simp [answers, h, Except.isOk, Except.toBool]
    | ok answer =>
      have hmemory := act_inMemory h
      simp only [answers, h, hmemory, List.takeWhile_cons]
      exact List.cons_prefix_cons.mpr ⟨rfl, ih _⟩

end Store

theorem FileStore.Lasts.surrounded {s : FileStore} (h : s.Lasts) (creatable : Bool) :
    { s with disk := s.disk.surrounded creatable : FileStore }.Lasts := by
  refine ⟨h.nodup, ?_⟩
  show ∃ notices t, opening s.path (s.disk.surrounded creatable) = (notices, .ok t) ∧
    ∀ key, t.values.get? key = s.values.get? key
  obtain ⟨notices, t, hopen, hsame⟩ := h.reopens
  cases hdisk : s.disk with
  | file text =>
    rw [hdisk] at hopen
    exact ⟨notices, t, hopen, hsame⟩
  | directory =>
    rw [hdisk] at hopen
    exact ⟨notices, t, hopen, hsame⟩
  | _ =>
    -- Without a file there is nothing to load, whatever is around it.
    rw [hdisk] at hopen
    obtain rfl := Except.ok.inj (Prod.mk.inj hopen).2
    cases creatable <;> exact ⟨[], _, rfl, hsame⟩

theorem FileStore.Lasts.act {s : FileStore} (h : s.Lasts) (step : PreferenceStep)
    (hback : ∀ m, (Store.file s).writing? step = some m → m.ReadsBack) :
    ∃ t, ((Store.file s).act step).1 = .file t ∧ t.Lasts := by
  cases hw : (Store.file s).writing? step with
  | some m =>
    have hkeys : (Keyed.keys m).Nodup := Store.nodup_keys_of_writing? hw h.nodup
    exact ⟨_, Store.act_of_writing? hw, lasts_of_readsBack s.path hkeys (hback m hw)⟩
  | none =>
    rcases Store.act_of_not_writing hw with hsame | ⟨creatable, haround⟩
    · exact ⟨s, hsame, h⟩
    · exact ⟨_, haround, h.surrounded creatable⟩

theorem FileStore.Lasts.used {s : FileStore} (h : s.Lasts) (steps : List PreferenceStep)
    (hback : ∀ m ∈ (Store.file s).written steps, m.ReadsBack) :
    ∃ t, (Store.file s).used steps = .file t ∧ t.Lasts := by
  induction steps generalizing s with
  | nil => exact ⟨s, rfl, h⟩
  | cons step rest ih =>
    have hfirst (m : Switches) (hm : (Store.file s).writing? step = some m) : m.ReadsBack :=
      hback m (by simp [Store.written, hm])
    obtain ⟨t, ht, hlasts⟩ := h.act step hfirst
    have hrest (m : Switches) (hm : m ∈ (Store.file t).written rest) : m.ReadsBack :=
      hback m (by simp [Store.written, ht, hm])
    obtain ⟨u, hu, hulasts⟩ := ih hlasts hrest
    refine ⟨u, ?_, hulasts⟩
    rw [← hu, ← ht]
    rfl

/-- The maps written in the first steps of a run are written in the whole run. -/
theorem Store.written_subset_of_prefix {s : Store} {done steps : List PreferenceStep}
    (h : done <+: steps) : s.written done ⊆ s.written steps := by
  obtain ⟨rest, rfl⟩ := h
  induction done generalizing s with
  | nil => exact List.nil_subset _
  | cons step done ih =>
    intro m hm
    rcases List.mem_append.mp hm with hm | hm
    · exact List.mem_append_left _ hm
    · exact List.mem_append_right _ (ih hm)

/-- A file store answers as one in memory that began with what was loaded, as long as what it is
told to write is written. After any of the steps, also one that failed, a new store on the same
file has the values of the store in use. -/
theorem Store.file_refines_memory (path : String) (disk : Disk) (notices : List Notice)
    (s : FileStore) (steps : List PreferenceStep)
    (hopen : FileStore.opening path disk = (notices, .ok s))
    (hback : ∀ m ∈ (Store.file s).written steps, m.ReadsBack) :
    ((Store.file s).answers steps).takeWhile Except.isOk <+:
        (Store.memory s.values).answers steps ∧
      ∀ done, done <+: steps → ∃ notices' values,
        ((Store.file s).used done).reopened = (notices', .ok values) ∧
          ∀ key, values.get? key = ((Store.file s).used done).get? key := by
  refine ⟨(Store.file s).answers_inMemory steps, ?_⟩
  intro done hdone
  have hlasts := FileStore.lasts_of_opening hopen
  obtain ⟨t, ht, hlasts⟩ := hlasts.used done fun m hm =>
    hback m (Store.written_subset_of_prefix hdone hm)
  obtain ⟨notices', u, hu, hsame⟩ := hlasts.reopens
  refine ⟨notices', u.values, ?_, ?_⟩
  · rw [ht, Store.reopened, hu]
    rfl
  · rw [ht]
    exact hsame

/-- A store whose document has a number for a key, and a key without a truth value. -/
def numberedKey : FileStore :=
  ⟨"prefs.yaml", .file "3: true\ntheme: dark\n", [(.ofString "3", true)]⟩

def numberedKeySteps : List PreferenceStep := [
  .get (.ofString "3"), .set (.ofString "3") (.simple .null), .remove (.ofString "theme"),
  .get (.ofString "3"), .remove (.ofString "3"), .get (.ofString "3")]

theorem Store.file_refines_memory_numberedKey :
    FileStore.opening numberedKey.path numberedKey.disk =
        ([.notBoolean (.ofString "theme") "'dark'"], .ok numberedKey) ∧
      (∀ m ∈ (Store.file numberedKey).written numberedKeySteps, m.ReadsBack) ∧
      (Store.file numberedKey).answers numberedKeySteps =
        [.ok (.verdict true), .ok .done, .ok .done, .ok (.verdict false), .ok .done,
          .ok (.verdict none)] ∧
      ((Store.file numberedKey).answers numberedKeySteps).takeWhile Except.isOk <+:
        (Store.memory numberedKey.values).answers numberedKeySteps := by
  have hopen : FileStore.opening numberedKey.path numberedKey.disk =
      ([.notBoolean (.ofString "theme") "'dark'"], .ok numberedKey) := by decide +kernel
  have hwritten : (Store.file numberedKey).written numberedKeySteps =
      [[(.ofString "3", false)], []] := by decide +kernel
  have hback : ∀ m ∈ (Store.file numberedKey).written numberedKeySteps, m.ReadsBack := by
    rw [hwritten]
    intro m hm
    simp only [List.mem_cons, List.not_mem_nil, or_false] at hm
    rcases hm with rfl | rfl
    · exact ⟨[(.ofString "3", false)], by decide +kernel, .refl _⟩
    · exact ⟨[], by decide +kernel, .refl _⟩
  refine ⟨hopen, hback, by decide +kernel, ?_⟩
  exact (file_refines_memory _ _ _ numberedKey numberedKeySteps hopen hback).1

end RelayReputation
