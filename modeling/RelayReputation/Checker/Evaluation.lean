import RelayReputation.BlockList.Queries
import RelayReputation.Checker.Lookup

/-!
# Evaluating block lists

Whether a relay host is listed: its query names are looked up one after the other, list after
list, until one is a listing. Whatever goes wrong on the way is reported and counts as no
listing.
-/

namespace RelayReputation

/-! ### One list -/

def BlockList.scan (b : BlockList) (r : Resolver) : List QueryStep → Trace × Bool
  | [] => ([], false)
  | .event e :: rest =>
    let (t, junk) := b.scan r rest
    (e :: t, junk)
  | .query name :: rest =>
    match b.lookUp r name with
    | (t, .ok result) =>
      if result.isBlocked then (t, true)
      else
        let (t', junk) := b.scan r rest
        (t ++ t', junk)
    | (t, .error f) =>
      let (t', junk) := b.scan r rest
      (t ++ .noticed (.lookupFailed name f.text) :: t', junk)

/-- Checks a relay host against one list. Only an unexpected fault in producing the query names
is passed on. -/
def BlockList.check (b : BlockList) (r : Resolver) (host : RelayHost) :
    Trace × Except Fault Bool :=
  let course := b.course r host
  let (t, junk) := b.scan r course.steps
  let done : Event := .noticed (.checked host b.name)
  if junk then (t ++ [done], .ok true)
  else
    match course.failure with
    | none => (t ++ [done], .ok false)
    | some (.unexpected f) => (t ++ [done], .error f)
    | some e => (t ++ [.noticed (.unresolved host b.name e.text), done], .ok false)

/-! ### All lists -/

/-- Checks a relay host, which `shown` names in messages, against lists until one lists it. -/
def evaluate (r : Resolver) (shown : String) (host : RelayHost) :
    List BlockList → Trace × Bool
  | [] => ([], false)
  | b :: rest =>
    match b.check r host with
    | (t, .ok true) => (t, true)
    | (t, .ok false) =>
      let (t', junk) := evaluate r shown host rest
      (t ++ t', junk)
    | (t, .error f) =>
      let (t', junk) := evaluate r shown host rest
      (t ++ .noticed (.checkFailed shown b.name f.text) :: t', junk)

end RelayReputation
