import RelayReputation.Resolution.Backend
import RelayReputation.Session.Step

/-!
# Sessions

A checker with the network that it asks and the clock that it reads, driven step by step. Each
step gives an answer or a fault, together with what happened on the way; a fault ends its step
and nothing else.
-/

namespace RelayReputation

structure Session where
  checker : Checker
  backend : Backend
  network : Network
  now : Float

namespace Session

def resolver (s : Session) : Resolver := s.backend.resolver s.network

def withChecker (s : Session) (checker : Checker) : Session := { s with checker }

def withRegistry (s : Session) (registry : Registry) : Session :=
  s.withChecker (s.checker.withRegistry registry)

/-- The session after a step, what happened in it, and what it gives. -/
def step (s : Session) : Step → Session × Trace × Except StepFault Answer
  | .advance seconds => ({ s with now := s.now + seconds }, [], .ok .done)
  | .answer question reply =>
    ({ s with network := s.network.answering question reply }, [], .ok .done)
  | .cache step =>
    let (cache, notices, a) := step.apply s.checker.cache s.now
    (s.withChecker (s.checker.withCache cache), .ofNotices notices, .ok a)
  | .store step =>
    let registry := s.checker.registry
    let (store, notices, a) := step.apply registry.store
    (s.withRegistry { registry with store }, .ofNotices notices, a.mapError .store)
  | .isJunk received =>
    let (c, t, a) := s.checker.isJunk s.resolver s.now received
    (s.withChecker c, t, (a.map .verdict).mapError .header)
  | .checkHost host lists =>
    let (c, t, junk) := s.checker.checkHost s.resolver s.now host lists
    (s.withChecker c, t, .ok (.truth junk))
  | .checkList host list =>
    let (t, a) := list.check s.resolver (RelayHost.parse host)
    (s, t, (a.map .truth).mapError .network)
  | .lookUp query list =>
    let (t, a) := list.lookUp s.resolver query
    (s, t, (a.map .result).mapError .network)
  | .queries host list limit =>
    let taken := (list.course s.resolver (RelayHost.parse host)).take limit
    (s, taken.trace, .ok (.queries taken.names taken.failure))
  | .checkAll messages =>
    let (c, t, a) := s.checker.checkAll s.resolver s.now messages
    (s.withChecker c, t, (a.map .verdicts).mapError .batch)
  | .setEnabled list switch =>
    let (registry, t, a) := s.checker.registry.setEnabled list switch
    (s.withRegistry registry, t, (a.map fun _ => .done).mapError .store)
  | .isEnabled list => (s, [], .ok (.truth (s.checker.registry.isEnabled list)))
  | .reset =>
    let (registry, t, a) := s.checker.registry.reset
    (s.withRegistry registry, t, (a.map fun _ => .done).mapError .store)
  | .enabledNames => (s, [], .ok (.names s.checker.registry.enabledNames))
  | .find name => (s, [], .ok (.list (s.checker.registry.find? name)))

/-- What one step of a run left behind. -/
structure Record where
  trace : Trace
  outcome : Except StepFault Answer
  cached : Nat

def run (s : Session) : List Step → Session × List Record
  | [] => (s, [])
  | step :: rest =>
    let (s, trace, outcome) := s.step step
    let (last, records) := s.run rest
    (last, ⟨trace, outcome, s.checker.cache.size⟩ :: records)

end Session

end RelayReputation
