import RelayReputation.BlockList.Basic
import RelayReputation.Notice
import RelayReputation.Resolution.Resolver
import RelayReputation.Text.Lower

/-!
# Block list services

The services that block lists are built from, among them four well-known ones. Lists are
numbered from one in the order of their services, and no two may have the same name.
-/

namespace RelayReputation

open RelayReputation.Text

/-! ### Services -/

structure BlockListService where
  name : String
  zone : String
  numeric : Bool := true
  enabled : Bool := true
  responses : List String := []
  reasons : Keyed String String := []
deriving DecidableEq, Repr

def knownServices : List BlockListService := [
  { name := "Spamhaus/zen"
    zone := "zen.spamhaus.org"
    responses := ["127.0.0.2", "127.0.0.3", "127.0.0.4", "127.0.0.9"]
    reasons := [
      ("127.0.0.2", "SBL (direct spam source)"),
      ("127.0.0.3", "SBL CSS (spam operations)"),
      ("127.0.0.4", "XBL (exploits/proxies)"),
      ("127.0.0.9", "SBL (drop list)")] },
  { name := "Spamhaus/DBL"
    zone := "dbl.spamhaus.org"
    numeric := false
    enabled := false
    responses := [
      "127.0.1.2", "127.0.1.4", "127.0.1.5", "127.0.1.6", "127.0.1.102", "127.0.1.103",
      "127.0.1.104", "127.0.1.105", "127.0.1.106"]
    reasons := [
      ("127.0.1.2", "Spam domain"),
      ("127.0.1.4", "Phishing domain"),
      ("127.0.1.5", "Malware domain"),
      ("127.0.1.6", "Botnet C&C"),
      ("127.0.1.102", "Abused legit spam"),
      ("127.0.1.103", "Abused spammed redirector"),
      ("127.0.1.104", "Abused legit phishing"),
      ("127.0.1.105", "Abused legit malware"),
      ("127.0.1.106", "Abused legit botnet")] },
  { name := "Spamcop"
    zone := "bl.spamcop.net"
    responses := ["127.0.0.2"]
    reasons := [("127.0.0.2", "SpamCop reported")] },
  { name := "Barracuda"
    zone := "b.barracudacentral.org"
    enabled := false
    responses := ["127.0.0.2"]
    reasons := [("127.0.0.2", "Barracuda RBL")] }]

/-! ### Building block lists -/

def zoneChars (cs : List Char) : List Char :=
  lowerChars ((cs.dropWhile (· = '.')).reverse.dropWhile (· = '.')).reverse

/-- The responses of a service and what there is to say of them. One that is no address makes
the list accept every answer. -/
def BlockListService.addresses (s : BlockListService) : List Address × List Notice :=
  match readAnswers s.responses with
  | .ok addresses => (addresses, [])
  | .error f => ([], [.badResponse s.name f.text])

def BlockListService.blockList (s : BlockListService) (id : Nat) : BlockList where
  id := id
  name := s.name
  zone := String.ofList (zoneChars s.zone.toList)
  kind := if s.numeric then .reverseIp else .domain
  defaultEnabled := s.enabled
  responses := s.addresses.1
  reasons := s.reasons

def numberedBlockLists (first : Nat) : List BlockListService → List BlockList
  | [] => []
  | s :: rest => s.blockList first :: numberedBlockLists (first + 1) rest

structure DuplicateNames where
  names : List String
deriving DecidableEq, Repr

def DuplicateNames.message (d : DuplicateNames) : String :=
  "Duplicate block list names: " ++ namesText d.names

def repeatedNames (names : List String) : List String :=
  (names.eraseDups.filter (1 < names.count ·)).mergeSort (· ≤ ·)

def buildBlockLists (services : List BlockListService) :
    Except DuplicateNames (List BlockList × List Notice) :=
  let repeated := repeatedNames (services.map (·.name))
  if repeated.isEmpty then
    .ok (numberedBlockLists 1 services, services.flatMap (·.addresses.2))
  else .error ⟨repeated⟩

@[simp] theorem length_numberedBlockLists (first : Nat) (services : List BlockListService) :
    (numberedBlockLists first services).length = services.length := by
  induction services generalizing first with
  | nil => rfl
  | cons s rest ih => simp [numberedBlockLists, ih]

theorem map_name_numberedBlockLists (first : Nat) (services : List BlockListService) :
    (numberedBlockLists first services).map (·.name) = services.map (·.name) := by
  induction services generalizing first with
  | nil => rfl
  | cons s rest ih => simp [numberedBlockLists, BlockListService.blockList, ih]

end RelayReputation
