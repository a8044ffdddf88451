import RelayReputation.Checker.Evaluation
import RelayReputation.Received
import RelayReputation.Registry

/-!
# The checker

Decides whether the last relay of a message is listed. Verdicts are kept by host; as long as
one lasts, nothing is evaluated for that host. The clock is read from outside: every operation
is given its reading.
-/

namespace RelayReputation

open RelayReputation.Text

/-- A checker: a registry, and how many messages of a batch are handled at once. -/
structure Checker where
  registry : Registry
  workers : Int
deriving Repr

namespace Checker

/-! ### Making a checker -/

inductive OfferedCache
  | none
  | shared
  | another
deriving DecidableEq, Repr

/-- The only fault in making a checker: its cache is not that of its registry. -/
inductive MakingFault
  | separateCache
deriving DecidableEq, Repr

def MakingFault.message : MakingFault → String
  | separateCache => "Checker and registry must share one result cache"

/-- How many messages of a batch are handled at once unless it is said otherwise. -/
def usualWorkers : Int := 20

def make (registry : Registry) (offered : OfferedCache) (workers : Int) :
    Except MakingFault Checker :=
  match offered with
  | .another => .error .separateCache
  | _ => .ok ⟨registry, workers⟩

/-! ### Parts -/

def cache (c : Checker) : VerdictCache := c.registry.cache

def withCache (c : Checker) (cache : VerdictCache) : Checker :=
  { c with registry := { c.registry with cache } }

def withRegistry (c : Checker) (registry : Registry) : Checker := { c with registry }

@[simp] theorem cache_withCache (c : Checker) (cache : VerdictCache) :
    (c.withCache cache).cache = cache := rfl

/-! ### Checking -/

/-- Evaluates a host, given in lower case, against the enabled ones of some lists. -/
def evaluateHost (c : Checker) (r : Resolver) (host : String) (lists : List BlockList) :
    Trace × Bool :=
  evaluate r host (RelayHost.parse host) (lists.filter c.registry.isEnabled)

/-- Checks a relay host against given lists, or against those of the registry. -/
def checkHost (c : Checker) (r : Resolver) (now : Float) (host : String)
    (lists : Option (List BlockList)) : Checker × Trace × Bool :=
  let host := lower host
  match c.cache.get now host with
  | (cache, some junk) => (c.withCache cache, [.noticed (.cacheHit host junk)], junk)
  | (cache, none) =>
    let (t, junk) := c.evaluateHost r host (lists.getD c.registry.lists)
    (c.withCache (cache.put now host junk), t, junk)

/-- Checks the last relay of a message; there is no verdict if no relay host is named. -/
def isJunk (c : Checker) (r : Resolver) (now : Float) (received : List HeaderValue) :
    Checker × Trace × Except HeaderFault (Option Bool) :=
  match relayHostOf received with
  | .error e => (c, [], .error e)
  | .ok none => (c, [.noticed .noRelayHost], .ok none)
  | .ok (some host) =>
    let (c, t, junk) := c.checkHost r now host none
    (c, t, .ok (some junk))

end Checker

end RelayReputation
