import RelayReputation.Text.Blank
import RelayReputation.Text.Lower

/-!
# Relay hosts

The host that handed over a message, as a trace header names it: by name, or by an address in
brackets. The text form of a host is the one that messages show.
-/

namespace RelayReputation

open RelayReputation.Text

/-- A relay host: a name, or the text between the brackets of an address literal. -/
inductive RelayHost
  | name (text : String)
  | literal (text : String)
deriving DecidableEq, Repr

namespace RelayHost

def bracketed? : List Char → Option (List Char)
  | '[' :: cs => if cs.getLast? = some ']' then some cs.dropLast else none
  | _ => none

/-- The tag that may stand before an IPv6 address in brackets. -/
def tag : List Char := "ipv6:".toList

def dropTag (cs : List Char) : List Char :=
  if tag.isPrefixOf cs then cs.drop tag.length else cs

def ofChars (cs : List Char) : RelayHost :=
  let cs := lowerChars (trim cs)
  match bracketed? cs with
  | some inner => literal (String.ofList (dropTag inner))
  | none => name (String.ofList cs)

/-- The relay host that a text names. Case and blanks at its ends do not matter. -/
def parse (text : String) : RelayHost := ofChars text.toList

def isLiteral : RelayHost → Bool
  | name _ => false
  | literal _ => true

/-- The name of a host, or the text of its literal without brackets. -/
def bare : RelayHost → String
  | name text => text
  | literal text => text

def text : RelayHost → String
  | name text => text
  | literal text => "[" ++ text ++ "]"

instance : ToString RelayHost := ⟨text⟩

end RelayHost

end RelayReputation
