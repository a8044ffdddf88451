import RelayReputation.Keyed
import RelayReputation.Text.Lower

/-!
# The verdict cache

Verdicts by host, each with the reading of the clock at which it was stored. A verdict is
found as long as no more than a given time has passed since; one found too old is taken out.
Hosts are the same if their lower-case forms are.
-/

namespace RelayReputation

open RelayReputation.Text

structure Verdict where
  junk : Bool
  created : Float
deriving Repr

/-- Whether a verdict is too old at a reading of the clock. -/
def Verdict.isExpired (v : Verdict) (now expiry : Float) : Bool := now - v.created > expiry

structure VerdictCache where
  expiry : Float
  entries : Keyed String Verdict := []
deriving Repr

namespace VerdictCache

/-- How long verdicts last unless it is said otherwise, in seconds. -/
def usualExpiry : Float := 3600.0

def size (c : VerdictCache) : Nat := c.entries.length

def get (c : VerdictCache) (now : Float) (host : String) : VerdictCache × Option Bool :=
  let key := lower host
  match c.entries.get? key with
  | none => (c, none)
  | some v =>
    if v.isExpired now c.expiry then ({ c with entries := c.entries.erase key }, none)
    else (c, some v.junk)

def put (c : VerdictCache) (now : Float) (host : String) (junk : Bool) : VerdictCache :=
  { c with entries := c.entries.set (lower host) ⟨junk, now⟩ }

def clear (c : VerdictCache) : VerdictCache := { c with entries := [] }

def purge (c : VerdictCache) (now : Float) : VerdictCache × Nat :=
  let kept := c.entries.filter fun e => !e.2.isExpired now c.expiry
  ({ c with entries := kept }, c.entries.length - kept.length)

def contains (c : VerdictCache) (now : Float) (host : String) : VerdictCache × Bool :=
  let (c, found) := c.get now host
  (c, found.isSome)

/-! ### Small facts -/

@[simp] theorem size_clear (c : VerdictCache) : c.clear.size = 0 := rfl

@[simp] theorem expiry_get (c : VerdictCache) (now : Float) (host : String) :
    (c.get now host).1.expiry = c.expiry := by
  simp only [get]
  cases c.entries.get? (lower host) with
  | none => rfl
  | some v => cases h : v.isExpired now c.expiry <;> simp [h]

@[simp] theorem expiry_put (c : VerdictCache) (now : Float) (host : String) (junk : Bool) :
    (c.put now host junk).expiry = c.expiry := rfl

end VerdictCache

end RelayReputation
