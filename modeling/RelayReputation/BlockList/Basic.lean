import RelayReputation.Address.Printer
import RelayReputation.Keyed

/-!
# Block lists

A block list is a zone that is asked about relay hosts. A reverse-IP list is asked about the
addresses of a host, a domain list about its name. Some answers count as a listing: those the
list names, or all of them if it names none.
-/

namespace RelayReputation

inductive BlockList.Kind
  | reverseIp
  | domain
deriving DecidableEq, Repr

structure BlockList where
  id : Nat
  name : String
  zone : String
  kind : BlockList.Kind
  defaultEnabled : Bool
  /-- The answers that mean a listing; if there are none, every answer does. -/
  responses : List Address
  reasons : Keyed String String
deriving DecidableEq, Repr

namespace BlockList

def accepts (b : BlockList) (answer : Address) : Bool :=
  b.responses.isEmpty || b.responses.contains answer

def reason (b : BlockList) (code : String) : String :=
  (b.reasons.get? code).getD ("Listed (" ++ code ++ ")")

def queryName (b : BlockList) (labels : String) : String := labels ++ "." ++ b.zone

/-- Whether two lists agree in all but the reasons they give. -/
def same (a b : BlockList) : Bool :=
  a.id = b.id && a.name = b.name && a.zone = b.zone && a.kind = b.kind &&
    a.defaultEnabled = b.defaultEnabled && a.responses.all b.responses.contains &&
    b.responses.all a.responses.contains

def sortedResponses (b : BlockList) : List Address :=
  b.responses.eraseDups.mergeSort fun x y =>
    x.before y || (!y.before x && x.text ≤ y.text)

theorem accepts_of_responses_eq_nil {b : BlockList} (h : b.responses = []) (answer : Address) :
    b.accepts answer = true := by
  simp [accepts, h]

end BlockList

end RelayReputation
