import RelayReputation.Address.Exempt
import RelayReputation.Address.Reverse
import RelayReputation.BlockList.Basic
import RelayReputation.Notice
import RelayReputation.Resolution.Resolver

/-!
# Query names

The names under which a block list is asked about a relay host. They are produced one by one,
so that nothing is resolved before a name is wanted and whoever uses them may stop early. The
production is laid out as the list of its steps and the failure, if any, at its end.
-/

namespace RelayReputation

/-! ### The addresses of a host -/

/-- The addresses that a relay host denotes: that of a literal, or those of a name. -/
def RelayHost.addresses (r : Resolver) : RelayHost → Asked (List Address)
  | .literal text =>
    match Address.parse? text with
    | some a => .pure [a]
    | none => .fail (.failed ("Invalid address literal " ++ (RelayHost.literal text).text))
  | .name text => r.resolve text

/-! ### Production of names -/

/-- A step in producing query names. -/
inductive QueryStep
  | event (event : Event)
  | query (name : String)
deriving DecidableEq, Repr

/-- The production of query names: its steps, and why it ends early. -/
structure QueryCourse where
  steps : List QueryStep
  failure : Option Failure
deriving DecidableEq, Repr

namespace BlockList

def addressStep (b : BlockList) (host : RelayHost) (a : Address) : QueryStep :=
  if a.isExempt then .event (.noticed (.skipped a host b.name))
  else .query (b.queryName a.reverseName)

/-- The course of a reverse-IP list: the host is resolved, then each address is taken up. -/
def reverseCourse (b : BlockList) (r : Resolver) (host : RelayHost) : QueryCourse :=
  let found := host.addresses r
  let asked := found.questions.map fun q => .event (.asked q)
  match found.outcome with
  | .ok addresses => ⟨asked ++ addresses.map (b.addressStep host), none⟩
  | .error f => ⟨asked, some f⟩

def domainCourse (b : BlockList) : RelayHost → QueryCourse
  | .literal text => ⟨[.event (.noticed (.literalPassed b.name (.literal text)))], none⟩
  | .name text => ⟨[.query (b.queryName text)], none⟩

def course (b : BlockList) (r : Resolver) (host : RelayHost) : QueryCourse :=
  match b.kind with
  | .reverseIp => b.reverseCourse r host
  | .domain => b.domainCourse host

end BlockList

/-! ### Taking names -/

structure TakenQueries where
  trace : Trace
  names : List String
  failure : Option Failure
deriving DecidableEq, Repr

/-- Takes at most so many names; once they are taken nothing more happens. -/
def takeQueries (failure : Option Failure) : Option Nat → List QueryStep → TakenQueries
  | some 0, _ => ⟨[], [], none⟩
  | _, [] => ⟨[], [], failure⟩
  | limit, .event e :: rest =>
    let t := takeQueries failure limit rest
    { t with trace := e :: t.trace }
  | limit, .query name :: rest =>
    let t := takeQueries failure (limit.map (· - 1)) rest
    { t with names := name :: t.names }

def QueryCourse.take (c : QueryCourse) (limit : Option Nat) : TakenQueries :=
  takeQueries c.failure limit c.steps

end RelayReputation
