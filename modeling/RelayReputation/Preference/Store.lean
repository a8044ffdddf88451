import RelayReputation.Preference.Loading
import RelayReputation.Yaml.Document
import RelayReputation.Yaml.Printer

/-!
# Preference stores

Where preferences are kept: in memory, or in a file that is written anew with every change. A
write that fails changes nothing, neither the file nor what the store answers.
-/

namespace RelayReputation

open RelayReputation.Text

/-! ### Outcomes -/

section

variable {ε α β : Type} {f : α → β} {x : Except ε α}

theorem map_eq_ok_iff {b : β} : x.map f = .ok b ↔ ∃ a, x = .ok a ∧ f a = b := by
  cases x <;> simp [Except.map]

theorem map_eq_error_iff {e : ε} : x.map f = .error e ↔ x = .error e := by
  cases x <;> simp [Except.map]

theorem mapError_eq_ok_iff {ε' : Type} {g : ε → ε'} {a : α} :
    x.mapError g = .ok a ↔ x = .ok a := by
  cases x with
  | error e => exact ⟨nofun, nofun⟩
  | ok b =>
    constructor
    · intro h
      exact congrArg Except.ok (Except.ok.inj h)
    · intro h
      exact congrArg Except.ok (Except.ok.inj h)

end

/-! ### Files -/

def pathSteps (path : String) : List String :=
  ((pieces (· = '/') path.toList).filter fun s => s ≠ [] && s ≠ ['.']).map String.ofList

def shownPath (path : String) : String := String.intercalate "/" (pathSteps path)

/-- What there is at the path of a preference file. -/
inductive Disk
  /-- Nothing, but a file can be put there. -/
  | absent
  /-- Nothing, and its directory is still to be made. -/
  | bare
  | file (text : String)
  | directory
  /-- Nothing can be put there, because a file stands where its directory should be. -/
  | blocked
deriving DecidableEq, Repr

inductive StoreFault
  | directoryTaken
  | notDirectory
  | noDirectory
  | isDirectory
  | badDocument (fault : Yaml.Error)
deriving DecidableEq, Repr

namespace Disk

/-- What there is at a path below an empty directory. Steps upwards lead to directories that are
there. -/
def atEmpty (path : String) : Disk :=
  match (pathSteps path).dropWhile (· = "..") with
  | [] => directory
  | [_] => absent
  | _ => bare

/-- What there is after a text is written by a store, which makes the directory. -/
def write (text : String) : Disk → Except StoreFault Disk
  | absent => .ok (.file text)
  | bare => .ok (.file text)
  | file _ => .ok (.file text)
  | directory => .error .isDirectory
  | blocked => .error .directoryTaken

/-- What there is after a text is written by another hand, which makes no directories. -/
def overwrite (text : String) : Disk → Except StoreFault Disk
  | absent => .ok (.file text)
  | bare => .error .noDirectory
  | file _ => .ok (.file text)
  | directory => .error .isDirectory
  | blocked => .error .notDirectory

/-- What there is after the file, if there is one, is taken away and a directory put in its
place, with the directories around it. -/
def toDirectory : Disk → Except StoreFault Disk
  | absent => .ok .directory
  | bare => .ok .directory
  | file _ => .ok .directory
  | directory => .error .isDirectory
  | blocked => .error .notDirectory

def text? : Disk → Option String
  | file text => some text
  | _ => none

/-- The text of the file as it is read, every line end a line feed. -/
def lines? (d : Disk) : Option String :=
  d.text?.map fun text => String.ofList (Yaml.lineFeeds text.toList)

end Disk

/-! ### The file store -/

structure FileStore where
  path : String
  disk : Disk
  values : Switches
deriving DecidableEq, Repr

namespace FileStore

def opening (path : String) (disk : Disk) : List Notice × Except StoreFault FileStore :=
  match disk with
  | .directory => ([], .error .isDirectory)
  | .file text =>
    match Yaml.load text with
    | .ok v =>
      let (notices, values) := Switches.ofValue (shownPath path) v
      (notices, (values.map (⟨path, disk, ·⟩)).mapError .badDocument)
    | .error e => ([], .error (.badDocument e))
  | _ => ([], .ok ⟨path, disk, []⟩)

def save (s : FileStore) (values : Switches) : Except StoreFault FileStore :=
  (s.disk.write (Yaml.renderSwitches values)).map fun disk => ⟨s.path, disk, values⟩

def set (s : FileStore) (key : CodePoints) (value : Bool) : Except StoreFault FileStore :=
  s.save (s.values.set key value)

def remove (s : FileStore) (key : CodePoints) : Except StoreFault FileStore :=
  if s.values.has key then s.save (s.values.erase key) else .ok s

/-- A write that succeeds makes the values current and leaves them in the file. -/
theorem of_save {s t : FileStore} {values : Switches} (h : s.save values = .ok t) :
    t.values = values ∧ t.path = s.path ∧ t.disk.text? = some (Yaml.renderSwitches values) := by
  obtain ⟨path, disk, old⟩ := s
  cases disk with
  | absent =>
    obtain rfl := Except.ok.inj h
    exact ⟨rfl, rfl, rfl⟩
  | bare =>
    obtain rfl := Except.ok.inj h
    exact ⟨rfl, rfl, rfl⟩
  | file text =>
    obtain rfl := Except.ok.inj h
    exact ⟨rfl, rfl, rfl⟩
  | directory => cases h
  | blocked => cases h

end FileStore

/-! ### Stores -/

inductive Store
  | memory (values : Switches)
  | file (store : FileStore)
deriving DecidableEq, Repr

namespace Store

def values : Store → Switches
  | memory values => values
  | file store => store.values

def get? (s : Store) (key : CodePoints) : Option Bool := s.values.get? key

def set (s : Store) (key : CodePoints) (value : Bool) : Except StoreFault Store :=
  match s with
  | memory values => .ok (.memory (values.set key value))
  | file store => (store.set key value).map .file

/-- Takes a key out; it need not be there. -/
def remove (s : Store) (key : CodePoints) : Except StoreFault Store :=
  match s with
  | memory values => .ok (.memory (values.erase key))
  | file store => (store.remove key).map .file

/-- The keys: of a memory store in the order in which they came, of a file store in
ascending order. -/
def keys : Store → List CodePoints
  | memory values => Keyed.keys values
  | file store => Keyed.keys store.values.sorted

def disk? : Store → Option Disk
  | memory _ => none
  | file store => some store.disk

def withDisk (s : Store) (disk : Disk) : Store :=
  match s with
  | memory values => .memory values
  | file store => .file { store with disk }

def removeAll (s : Store) : List CodePoints → Store × Except StoreFault Unit
  | [] => (s, .ok ())
  | key :: rest =>
    match s.remove key with
    | .ok s => removeAll s rest
    | .error e => (s, .error e)

/-! ### Small facts -/

theorem values_of_set {s t : Store} {key : CodePoints} {value : Bool}
    (h : s.set key value = .ok t) : t.values = s.values.set key value := by
  cases s with
  | memory values =>
    obtain rfl := Except.ok.inj h
    rfl
  | file store =>
    obtain ⟨after, hs, rfl⟩ := map_eq_ok_iff.mp h
    exact (FileStore.of_save hs).1

theorem values_of_remove {s t : Store} {key : CodePoints} (h : s.remove key = .ok t) :
    t.values = s.values.erase key := by
  cases s with
  | memory values =>
    obtain rfl := Except.ok.inj h
    rfl
  | file store =>
    obtain ⟨after, hs, rfl⟩ := map_eq_ok_iff.mp h
    show after.values = store.values.erase key
    cases hk : store.values.has key with
    | true =>
      rw [FileStore.remove, if_pos hk] at hs
      exact (FileStore.of_save hs).1
    | false =>
      -- Nothing is written, and there is nothing to take out.
      rw [FileStore.remove, if_neg (by simp [hk])] at hs
      obtain rfl := Except.ok.inj hs
      have hn : store.values.get? key = none := by simpa [Keyed.has] using hk
      exact (Keyed.erase_of_get?_eq_none hn).symm

theorem get?_of_set {s t : Store} {key : CodePoints} {value : Bool}
    (h : s.set key value = .ok t) (k : CodePoints) :
    t.get? k = if key = k then some value else s.get? k := by
  rw [get?, values_of_set h, Keyed.get?_set]
  rfl

/-- A key that was removed has no value, and every other key the one it had. -/
theorem get?_of_remove {s t : Store} {key : CodePoints} (h : s.remove key = .ok t)
    (k : CodePoints) : t.get? k = if key = k then none else s.get? k := by
  rw [get?, values_of_remove h, Keyed.get?_erase]
  rfl

end Store

end RelayReputation
