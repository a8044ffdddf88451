import RelayReputation.Checker.Basic

/-!
# Checking many messages

A batch is a map from keys to messages. Every key gets the verdict of its message, or none if
the message names no relay host or cannot be checked.
-/

namespace RelayReputation.Checker

inductive BatchFault
  | noWorkers
deriving DecidableEq, Repr

def BatchFault.message : BatchFault → String
  | noWorkers => "max_workers must be greater than 0"

def checkMessage (c : Checker) (r : Resolver) (now : Float) (key : String)
    (received : List HeaderValue) : Checker × Trace × Option Bool :=
  match c.isJunk r now received with
  | (c, t, .ok verdict) => (c, t, verdict)
  | (c, t, .error e) => (c, t ++ [.noticed (.messageFailed key e.message)], none)

def checkEach (c : Checker) (r : Resolver) (now : Float) :
    List (String × List HeaderValue) → Checker × Trace × List (String × Option Bool)
  | [] => (c, [], [])
  | (key, received) :: rest =>
    let (c, t, verdict) := c.checkMessage r now key received
    let (c, t', verdicts) := c.checkEach r now rest
    (c, t ++ t', (key, verdict) :: verdicts)

def checkAll (c : Checker) (r : Resolver) (now : Float)
    (messages : Keyed String (List HeaderValue)) :
    Checker × Trace × Except BatchFault (Keyed String (Option Bool)) :=
  if messages.isEmpty then (c, [], .ok [])
  else if c.workers ≤ 0 then (c, [], .error .noWorkers)
  else
    let (c, t, verdicts) := c.checkEach r now messages
    (c, t, .ok verdicts)

end RelayReputation.Checker
