import RelayReputation.BlockList.Basic
import RelayReputation.Notice
import RelayReputation.Preference.Store
import RelayReputation.VerdictCache

/-!
# The registry of block lists

The block lists in their order, which of them are enabled, and the cache of verdicts. A list is
enabled by default or by an override in the preferences; only overrides that differ from the
default are stored. Verdicts depend on what is enabled, so every change empties the cache, also
one that fails.
-/

namespace RelayReputation

open RelayReputation.Text

structure Registry where
  lists : List BlockList
  store : Store
  cache : VerdictCache
deriving Repr

/-- A truth value as it was given: as such, or as the number one or zero. -/
structure Switch where
  on : Bool
  asNumber : Bool := false
deriving DecidableEq, Repr

def Switch.text (s : Switch) : String :=
  if s.asNumber then (if s.on then "1" else "0") else truthText s.on

def BlockList.preferenceKey (b : BlockList) : CodePoints := .ofString ("blocklist." ++ b.name)

namespace Registry

def greeting (r : Registry) : Notice := .loaded (r.lists.map (·.name))

def find? (r : Registry) (name : String) : Option BlockList := r.lists.find? (·.name = name)

def isEnabled (r : Registry) (b : BlockList) : Bool :=
  (r.store.get? b.preferenceKey).getD b.defaultEnabled

def enabled (r : Registry) : List BlockList := r.lists.filter r.isEnabled

def enabledNames (r : Registry) : List String := r.enabled.map (·.name)

def storeAfter (r : Registry) (b : BlockList) (on : Bool) : Except StoreFault Store :=
  if on = b.defaultEnabled then r.store.remove b.preferenceKey
  else r.store.set b.preferenceKey on

def setEnabled (r : Registry) (b : BlockList) (s : Switch) :
    Registry × Trace × Except StoreFault Unit :=
  match r.storeAfter b s.on with
  | .ok store =>
    ({ r with store, cache := r.cache.clear },
      [.noticed .cacheCleared, .noticed (.switched b.name s.text)], .ok ())
  | .error e => ({ r with cache := r.cache.clear }, [.noticed .cacheCleared], .error e)

def reset (r : Registry) : Registry × Trace × Except StoreFault Unit :=
  let (store, outcome) := r.store.removeAll (r.lists.map (·.preferenceKey))
  let after := { r with store, cache := r.cache.clear }
  match outcome with
  | .ok () => (after, [.noticed .cacheCleared, .noticed .switchesReset], .ok ())
  | .error e => (after, [.noticed .cacheCleared], .error e)

/-! ### Small facts -/

theorem cache_setEnabled (r : Registry) (b : BlockList) (s : Switch) :
    (r.setEnabled b s).1.cache = r.cache.clear := by
  unfold setEnabled
  cases r.storeAfter b s.on <;> rfl

theorem cache_reset (r : Registry) : r.reset.1.cache = r.cache.clear := by
  simp only [reset]
  cases (r.store.removeAll (r.lists.map (·.preferenceKey))).2 <;> rfl

end Registry

end RelayReputation
