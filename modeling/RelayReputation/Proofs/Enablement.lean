import RelayReputation.Proofs.BuiltLists
import RelayReputation.Proofs.SessionHistory
import RelayReputation.Proofs.StoreWrites
import Mathlib.Data.List.Nodup

/-!
# Which lists are on

Lists are turned on and off and reset, over a store whose file may be there or not, writable or
not, as other hands see fit. A change that fails leaves the overrides as they are, so what counts
are the changes that happen. Of these the last one that touches a list decides whether it is on,
and an override is stored exactly if this is not the default (`Follows`). Since no two lists share
a name, no list gets in the way of another, nor of any other preference.
-/

namespace RelayReputation

open RelayReputation.Text

/-! ### Overrides -/

namespace BlockList

/-- What is stored of a list that is on or off: nothing if that is so by default. -/
def override (b : BlockList) (on : Bool) : Option Bool :=
  if on = b.defaultEnabled then none else some on

theorem getD_override (b : BlockList) (on : Bool) :
    (b.override on).getD b.defaultEnabled = on := by
  unfold override
  by_cases hdefault : on = b.defaultEnabled <;> simp [hdefault]

theorem isSome_override_iff (b : BlockList) (on : Bool) :
    (b.override on).isSome ↔ on ≠ b.defaultEnabled := by
  unfold override
  by_cases hdefault : on = b.defaultEnabled <;> simp [hdefault]

theorem override_defaultEnabled (b : BlockList) : b.override b.defaultEnabled = none := if_pos rfl

end BlockList

/-! ### Changes -/

/-- A change of the overrides, or one that another hand makes at the path of their file. -/
inductive Change
  | switch (list : BlockList) (setting : Switch)
  | reset
  | disk (disk : Disk)

/-- What a change says of a list: that it is on or off, or nothing. -/
def Change.decides (b : BlockList) : Change → Option Bool
  | switch list setting => if list = b then some setting.on else none
  | reset => some b.defaultEnabled
  | disk _ => none

/-- What the last of some changes that says anything of a list says of it. -/
def lastDecision (b : BlockList) (changes : List Change) : Option Bool :=
  (changes.filterMap (·.decides b)).getLast?

theorem lastDecision_append_singleton (b : BlockList) (changes : List Change) (change : Change) :
    lastDecision b (changes ++ [change]) = (change.decides b).or (lastDecision b changes) := by
  unfold lastDecision
  rw [List.filterMap_append, List.getLast?_append]
  cases h : change.decides b <;> simp [h]

/-- Whether one of some changes switches a list or resets them all. -/
def Touched (b : BlockList) (changes : List Change) : Prop :=
  .reset ∈ changes ∨ ∃ setting, .switch b setting ∈ changes

theorem lastDecision_eq_none_iff (b : BlockList) (changes : List Change) :
    lastDecision b changes = none ↔ ¬Touched b changes := by
  have hsilent (change : Change) :
      change.decides b = none ↔ change ≠ .reset ∧ ∀ setting, change ≠ .switch b setting := by
    cases change <;> simp [Change.decides]
  unfold lastDecision Touched
  rw [List.getLast?_eq_none_iff, List.filterMap_eq_nil_iff, not_or, not_exists]
  constructor
  · intro h
    exact ⟨fun hm => ((hsilent _).mp (h _ hm)).1 rfl,
      fun setting hm => ((hsilent _).mp (h _ hm)).2 setting rfl⟩
  · rintro ⟨hreset, hswitch⟩ change hm
    refine (hsilent change).mpr ⟨?_, ?_⟩
    · rintro rfl
      exact hreset hm
    · rintro setting rfl
      exact hswitch setting hm

namespace Registry

def change (r : Registry) : Change → Registry × Except StoreFault Unit
  | .switch list setting => ((r.setEnabled list setting).1, (r.setEnabled list setting).2.2)
  | .reset => (r.reset.1, r.reset.2.2)
  | .disk disk => ({ r with store := r.store.withDisk disk }, .ok ())

def changed (r : Registry) (changes : List Change) : Registry :=
  changes.foldl (fun r change => (r.change change).1) r

/-- Those of some changes that do not fail. -/
def happened (r : Registry) : List Change → List Change
  | [] => []
  | change :: rest =>
    match (r.change change).2 with
    | .ok () => change :: (r.change change).1.happened rest
    | .error _ => (r.change change).1.happened rest

/-! ### One change -/

theorem lists_change (r : Registry) (change : Change) : (r.change change).1.lists = r.lists := by
  cases change with
  | switch list setting =>
    simp only [Registry.change, setEnabled]
    cases r.storeAfter list setting.on <;> rfl
  | reset =>
    simp only [Registry.change, reset]
    cases (r.store.removeAll (r.lists.map (·.preferenceKey))).2 <;> rfl
  | disk disk => rfl

theorem store_change_of_error {r : Registry} {change : Change} {f : StoreFault}
    (h : (r.change change).2 = .error f) : (r.change change).1.store = r.store := by
  cases change with
  | switch list setting =>
    simp only [Registry.change, setEnabled] at h ⊢
    cases hs : r.storeAfter list setting.on with
    | ok store => simp [hs] at h
    | error e => rfl
  | reset =>
    simp only [Registry.change, reset] at h ⊢
    cases hs : (r.store.removeAll (r.lists.map (·.preferenceKey))).2 with
    | ok done => simp [hs] at h
    | error e => exact Store.removeAll_fst_of_error hs
  | disk disk => cases h

theorem get?_change_switch {r : Registry} {list : BlockList} {setting : Switch}
    (h : (r.change (.switch list setting)).2 = .ok ()) (key : CodePoints) :
    (r.change (.switch list setting)).1.store.get? key =
      if list.preferenceKey = key then list.override setting.on else r.store.get? key := by
  simp only [change, setEnabled] at h ⊢
  cases hs : r.storeAfter list setting.on with
  | error e => simp [hs] at h
  | ok store =>
    unfold storeAfter at hs
    unfold BlockList.override
    by_cases hdefault : setting.on = list.defaultEnabled
    · rw [if_pos hdefault] at hs
      simp only [hdefault, if_true]
      exact Store.get?_of_remove hs key
    · rw [if_neg hdefault] at hs
      simp only [hdefault, if_false]
      exact Store.get?_of_set hs key

theorem get?_change_reset {r : Registry} (h : (r.change .reset).2 = .ok ()) (key : CodePoints) :
    (r.change .reset).1.store.get? key =
      if key ∈ r.lists.map (·.preferenceKey) then none else r.store.get? key := by
  simp only [change, reset] at h ⊢
  cases hs : (r.store.removeAll (r.lists.map (·.preferenceKey))).2 with
  | error e => simp [hs] at h
  | ok done => exact Store.get?_of_removeAll hs key

/-! ### Many changes -/

/-- What holds of the overrides after some changes have happened: the last decision on a list is
stored if it differs from the default, and what no decided list owns is as it was. -/
structure Follows (r : Registry) (changes : List Change) (r' : Registry) : Prop where
  lists : r'.lists = r.lists
  decided : ∀ b ∈ r.lists, ∀ on, lastDecision b changes = some on →
    r'.store.get? b.preferenceKey = b.override on
  kept : ∀ key, (∀ b ∈ r.lists, b.preferenceKey = key → lastDecision b changes = none) →
    r'.store.get? key = r.store.get? key

namespace Follows

variable {r r' : Registry} {changes : List Change}

theorem nil (r : Registry) : r.Follows [] r where
  lists := rfl
  decided := by simp [lastDecision]
  kept _ _ := rfl

theorem of_store_eq {r'' : Registry} (h : r.Follows changes r') (hlists : r''.lists = r'.lists)
    (hstore : ∀ key, r''.store.get? key = r'.store.get? key) : r.Follows changes r'' where
  lists := hlists.trans h.lists
  decided b hb on hon := (hstore _).trans (h.decided b hb on hon)
  kept key hk := (hstore _).trans (h.kept key hk)

theorem switch (h : r.Follows changes r') (hnames : (r.lists.map (·.name)).Nodup)
    {list : BlockList} (hlist : list ∈ r.lists) {setting : Switch}
    (hok : (r'.change (.switch list setting)).2 = .ok ()) :
    r.Follows (changes ++ [.switch list setting]) (r'.change (.switch list setting)).1 := by
  refine ⟨(r'.lists_change _).trans h.lists, ?_, ?_⟩
  · intro b hb on hon
    rw [lastDecision_append_singleton] at hon
    rw [get?_change_switch hok]
    by_cases hsame : list = b
    · subst hsame
      obtain rfl : setting.on = on := by simpa [Change.decides] using hon
      rw [if_pos rfl]
    · have hkey : list.preferenceKey ≠ b.preferenceKey := fun hk =>
        hsame (BlockList.preferenceKey_inj hnames hlist hb hk)
      rw [if_neg hkey]
      exact h.decided b hb on (by simpa [Change.decides, hsame] using hon)
  · intro key hk
    have hkey : list.preferenceKey ≠ key := by
      intro he
      have hn := hk list hlist he
      simp [lastDecision_append_singleton, Change.decides] at hn
    rw [get?_change_switch hok, if_neg hkey]
    refine h.kept key fun b hb he => ?_
    have hn := hk b hb he
    rw [lastDecision_append_singleton, Option.or_eq_none_iff] at hn
    exact hn.2

theorem reset (h : r.Follows changes r') (hok : (r'.change .reset).2 = .ok ()) :
    r.Follows (changes ++ [.reset]) (r'.change .reset).1 := by
  have hget := get?_change_reset hok
  rw [h.lists] at hget
  refine ⟨(r'.lists_change _).trans h.lists, ?_, ?_⟩
  · intro b hb on hon
    obtain rfl : b.defaultEnabled = on := by
      simpa [lastDecision_append_singleton, Change.decides] using hon
    rw [hget, if_pos (List.mem_map_of_mem hb), BlockList.override_defaultEnabled]
  · intro key hk
    -- Of every list a reset says something, so the key belongs to none.
    have hother (b : BlockList) (hb : b ∈ r.lists) : b.preferenceKey ≠ key := by
      intro he
      have hn := hk b hb he
      simp [lastDecision_append_singleton, Change.decides] at hn
    rw [hget, if_neg (by simpa using hother)]
    exact h.kept key fun b hb he => absurd he (hother b hb)

theorem disk (h : r.Follows changes r') (disk : Disk) :
    r.Follows (changes ++ [.disk disk]) (r'.change (.disk disk)).1 := by
  have hsame (b : BlockList) :
      lastDecision b (changes ++ [.disk disk]) = lastDecision b changes := by
    simp [lastDecision_append_singleton, Change.decides]
  have hget (key : CodePoints) :
      (r'.change (.disk disk)).1.store.get? key = r'.store.get? key :=
    Store.get?_withDisk ..
  refine of_store_eq ⟨h.lists, ?_, ?_⟩ (r'.lists_change _) hget
  · simpa only [hsame] using h.decided
  · simpa only [hsame] using h.kept

theorem change (h : r.Follows changes r') (hnames : (r.lists.map (·.name)).Nodup)
    {change : Change} (hlist : ∀ list setting, change = .switch list setting → list ∈ r.lists)
    (hok : (r'.change change).2 = .ok ()) :
    r.Follows (changes ++ [change]) (r'.change change).1 := by
  cases change with
  | switch list setting => exact h.switch hnames (hlist list setting rfl) hok
  | reset => exact h.reset hok
  | disk disk => exact h.disk disk

theorem changed (h : r.Follows changes r') (hnames : (r.lists.map (·.name)).Nodup)
    {more : List Change} (hlists : ∀ list setting, .switch list setting ∈ more → list ∈ r.lists) :
    r.Follows (changes ++ r'.happened more) (r'.changed more) := by
  -- A change that happens is one more to follow, and one that fails leaves nothing to follow.
  induction more generalizing r' changes with
  | nil => simpa [happened, Registry.changed] using h
  | cons change rest ih =>
    have hrest : ∀ list setting, .switch list setting ∈ rest → list ∈ r.lists :=
      fun list setting hm => hlists list setting (List.mem_cons_of_mem _ hm)
    have hthis : ∀ list setting, change = .switch list setting → list ∈ r.lists :=
      fun list setting he => hlists list setting (he ▸ List.mem_cons_self ..)
    rw [happened, Registry.changed, List.foldl_cons]
    cases hdone : (r'.change change).2 with
    | ok done =>
      have hnext := ih (h.change hnames hthis hdone) hrest
      rwa [List.append_assoc] at hnext
    | error f =>
      have hsame := store_change_of_error hdone
      exact ih (h.of_store_eq (r'.lists_change change) fun key => by rw [hsame]) hrest

theorem isEnabled_eq (h : r.Follows changes r') (hnames : (r.lists.map (·.name)).Nodup)
    {b : BlockList} (hb : b ∈ r.lists) :
    r'.isEnabled b = (lastDecision b changes).getD (r.isEnabled b) := by
  unfold isEnabled
  cases hlast : lastDecision b changes with
  | none =>
    have hkept := h.kept b.preferenceKey fun b' hb' he => by
      rw [BlockList.preferenceKey_inj hnames hb' hb he, hlast]
    rw [hkept]
    rfl
  | some on =>
    rw [h.decided b hb on hlast]
    exact b.getD_override on

theorem isSome_iff (h : r.Follows changes r') {b : BlockList} (hb : b ∈ r.lists)
    (htouched : Touched b changes) :
    (r'.store.get? b.preferenceKey).isSome ↔ r'.isEnabled b ≠ b.defaultEnabled := by
  have hsaid : lastDecision b changes ≠ none := fun hn =>
    (lastDecision_eq_none_iff b changes).mp hn htouched
  obtain ⟨on, hon⟩ := Option.ne_none_iff_exists'.mp hsaid
  unfold isEnabled
  rw [h.decided b hb on hon, BlockList.getD_override]
  exact b.isSome_override_iff on

end Follows

/-- After any changes a list is as the last one that touched it and did not fail says, or as it was
before. For a list that was touched an override is stored exactly if it is not as by default, and
every preference of no such list is what it was. -/
theorem enablement_after_changes {services : List BlockListService} {notices : List Notice}
    (r : Registry) (hbuilt : buildBlockLists services = .ok (r.lists, notices))
    (changes : List Change)
    (hlists : ∀ list setting, .switch list setting ∈ changes → list ∈ r.lists) :
    (∀ b ∈ r.lists, (r.changed changes).isEnabled b =
      (lastDecision b (r.happened changes)).getD (r.isEnabled b)) ∧
    (∀ b ∈ r.lists, Touched b (r.happened changes) →
      (((r.changed changes).store.get? b.preferenceKey).isSome ↔
        (r.changed changes).isEnabled b ≠ b.defaultEnabled)) ∧
    (∀ key, (∀ b ∈ r.lists, Touched b (r.happened changes) →
        key ≠ .ofString ("blocklist." ++ b.name)) →
      (r.changed changes).store.get? key = r.store.get? key) ∧
    (r.changed changes).enabledNames =
      (r.lists.filter fun b => (lastDecision b (r.happened changes)).getD (r.isEnabled b)).map
        (·.name) := by
  have hnames := nodup_names_of_built hbuilt
  have h : r.Follows (r.happened changes) (r.changed changes) :=
    (Follows.nil r).changed hnames hlists
  refine ⟨fun b hb => h.isEnabled_eq hnames hb, fun b hb => h.isSome_iff hb, ?_, ?_⟩
  · intro key hother
    refine h.kept key fun b hb hkey => ?_
    rw [lastDecision_eq_none_iff]
    intro htouched
    exact hother b hb htouched hkey.symm
  · have hon : r.lists.filter (r.changed changes).isEnabled =
        r.lists.filter fun b => (lastDecision b (r.happened changes)).getD (r.isEnabled b) :=
      List.filter_congr fun b hb => h.isEnabled_eq hnames hb
    rw [enabledNames, enabled, h.lists, hon]

/-- A registry over the known services whose file is a directory. One override is that of the
default, and one preference is of no list. -/
def overridden : Registry where
  lists := numberedBlockLists 1 knownServices
  store := .file ⟨"junk/switches.yaml", .directory,
    [(.ofString "blocklist.Spamcop", true), (.ofString "blocklist.Barracuda", true),
      (.ofString "theme.dark", false)]⟩
  cache := { expiry := VerdictCache.usualExpiry }

/-- A reset that fails, since the file is a directory, and then, when it is not, three switches. -/
def afterFailedReset : List Change :=
  [.reset, .disk .absent] ++
    (overridden.lists.take 3).map fun b => .switch b { on := b.kind = .domain }

theorem enablement_afterFailedReset :
    overridden.happened afterFailedReset = afterFailedReset.tail ∧
      (overridden.changed afterFailedReset).enabledNames = ["Spamhaus/DBL", "Barracuda"] ∧
      (overridden.changed afterFailedReset).store.get? (.ofString "theme.dark") = some false := by
  have hbuilt : buildBlockLists knownServices =
      .ok (overridden.lists, knownServices.flatMap (·.addresses.2)) := by
    have hrepeated := (repeatedNames_eq_nil_iff (knownServices.map (·.name))).mpr (by decide)
    simp [buildBlockLists, hrepeated, overridden]
  have hlists : ∀ list setting, .switch list setting ∈ afterFailedReset →
      list ∈ overridden.lists := by
    intro list setting hm
    rcases List.mem_append.mp hm with hm | hm
    · simp at hm
    · obtain ⟨b, hb, he⟩ := List.mem_map.mp hm
      obtain ⟨rfl, -⟩ := Change.switch.inj he
      exact List.mem_of_mem_take hb
  have hother : ∀ b ∈ overridden.lists,
      CodePoints.ofString "theme.dark" ≠ .ofString ("blocklist." ++ b.name) := by decide +kernel
  obtain ⟨-, -, hkept, hnames⟩ := enablement_after_changes overridden hbuilt afterFailedReset hlists
  exact ⟨by rfl, hnames.trans (by decide +kernel),
    (hkept _ fun b hb _ => hother b hb).trans (by rfl)⟩

end Registry

end RelayReputation
