import RelayReputation.BlockList.Basic
import RelayReputation.Notice
import RelayReputation.Resolution.Resolver

/-!
# Looking a query name up

What the answer to one query name means for its block list. The first answer that the list
accepts is a listing; a failed look-up is no listing.
-/

namespace RelayReputation

open RelayReputation.Text

/-! ### Results -/

inductive LookupStatus
  | blocked
  | notBlocked
  | lookupFailed
deriving DecidableEq, Repr

def LookupStatus.text : LookupStatus → String
  | blocked => "blocked"
  | notBlocked => "not_blocked"
  | lookupFailed => "lookup_failed"

def LookupStatus.ofText? (s : String) : Option LookupStatus :=
  [blocked, notBlocked, lookupFailed].find? (·.text = s)

def LookupStatus.unknown (shown : String) : String := shown ++ " is not a valid LookupStatus"

structure LookupResult where
  query : String
  list : String
  status : LookupStatus
  returnCode : String := ""
  reason : String := ""
deriving DecidableEq, Repr

namespace LookupResult

def isBlocked (r : LookupResult) : Bool := r.status = .blocked

def ofAnswers (b : BlockList) (query : String) (answers : List Address) : LookupResult :=
  match answers.find? b.accepts with
  | some a => ⟨query, b.name, .blocked, a.text, b.reason a.text⟩
  | none =>
    ⟨query, b.name, .notBlocked, (answers.head?.map Address.text).getD "",
      "Unlisted return code"⟩

/-- What the outcome of a look-up means; unexpected faults are passed on. -/
def ofOutcome (b : BlockList) (query : String) :
    Except Failure (List Address) → Except Fault LookupResult
  | .ok answers => .ok (ofAnswers b query answers)
  | .error (.notFound _) => .ok ⟨query, b.name, .notBlocked, "", ""⟩
  | .error (.failed text) => .ok ⟨query, b.name, .lookupFailed, "", text⟩
  | .error (.unexpected f) => .error f

def notice (r : LookupResult) : Notice :=
  match r.status with
  | .lookupFailed => .lookupFailed r.query r.reason
  | _ => .lookedUp r.query r.returnCode r.isBlocked

end LookupResult

/-! ### Look-ups -/

def BlockList.lookUp (b : BlockList) (r : Resolver) (query : String) :
    Trace × Except Fault LookupResult :=
  let found := r.lookup query
  let asked := Trace.ofQuestions found.questions
  match LookupResult.ofOutcome b query found.outcome with
  | .ok result => (asked ++ [.noticed result.notice], .ok result)
  | .error f => (asked, .error f)

end RelayReputation
