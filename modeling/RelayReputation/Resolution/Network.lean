import RelayReputation.Text.Quoted

/-!
# Questions and replies

What is asked of the network and what may come back. A network answers every question in one
way until it is changed, so it is a function from questions to replies.
-/

namespace RelayReputation

open RelayReputation.Text

/-! ### Questions -/

inductive Service
  /-- The answers for a query name, by a plain resolver. -/
  | listings
  /-- The addresses of a host, by a plain resolver. -/
  | hosts
  /-- The IPv4 address records of a name. -/
  | recordsA
  /-- The IPv6 address records of a name. -/
  | recordsAAAA
  /-- The IPv4 addresses of a name, by the system library. -/
  | libraryNames
  /-- The socket addresses of a host, by the system library. -/
  | libraryHosts
deriving DecidableEq, Repr

structure Question where
  service : Service
  name : String
deriving DecidableEq, Repr

/-! ### Faults -/

/-- The codes with which the system library refuses a name. -/
inductive LibraryCode
  | noName
  | noData
  | tryAgain
  | failure
deriving DecidableEq, Repr

def LibraryCode.number : LibraryCode → Int
  | noName => -2
  | noData => -5
  | tryAgain => -3
  | failure => -4

inductive Fault
  /-- A resolver reports that a name has no answer. -/
  | unknownName (name : String)
  /-- A resolver reports any other failure. -/
  | failedLookup (text : String)
  /-- The name service knows no such name. -/
  | noSuchDomain
  | noRecords (text : String)
  | nameService (text : String)
  | noNameServers (text : String)
  | nameServiceTimeout
  /-- The system library refuses the name. -/
  | library (code : LibraryCode) (text : String)
  /-- The host database of the system fails. -/
  | hostDatabase (text : String)
  | inputOutput (text : String)
  | connectionTimeout (text : String)
  | encoding (text : String)
  /-- The service breaks down. -/
  | breakdown (text : String)
  /-- The service refuses a value. -/
  | refusedValue (text : String)
  | notAnAddress (text : String)
deriving DecidableEq, Repr

def numbered (number : Int) (text : String) : String := "[Errno " ++ toString number ++ "] " ++ text

def Fault.text : Fault → String
  | unknownName name => name
  | failedLookup text => text
  | noSuchDomain => "The DNS query name does not exist."
  | noRecords text => text
  | nameService text => text
  | noNameServers text => text
  | nameServiceTimeout => "The DNS operation timed out."
  | library code text => numbered code.number text
  | hostDatabase text => numbered 1 text
  | inputOutput text => numbered 5 text
  | connectionTimeout text => text
  | encoding text => text
  | breakdown text => text
  | refusedValue text => text
  | notAnAddress text => quote text ++ " does not appear to be an IPv4 or IPv6 address"

/-! ### Replies -/

inductive Reply
  | addresses (texts : List String)
  | absent
  | fault (fault : Fault)
deriving DecidableEq, Repr

/-- A network gives every question its reply. -/
abbrev Network := Question → Reply

def Network.answering (net : Network) (q : Question) (reply : Reply) : Network :=
  fun p => if p = q then reply else net p

def Network.silent : Network := fun _ => .absent

@[simp] theorem Network.answering_self (net : Network) (q : Question) (reply : Reply) :
    net.answering q reply q = reply := if_pos rfl

theorem Network.answering_of_ne {net : Network} {p q : Question} {reply : Reply} (h : p ≠ q) :
    net.answering q reply p = net p := if_neg h

end RelayReputation
