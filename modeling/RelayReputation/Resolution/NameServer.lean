import RelayReputation.Address.Parser

/-!
# Name servers

What can stand for a name server: an address, or a locator of the secure web with a sound
authority. Anything else is refused when a resolver is set up.
-/

namespace RelayReputation.NameServer

open RelayReputation.Text

/-! ### Addresses -/

/-- A text without a line feed at its end, where a dotted quad may end an IPv6 address. -/
def dropFinalFeed (cs : List Char) : List Char :=
  if cs.contains '.' && cs.getLast? = some '\n' then cs.dropLast else cs

/-- Whether a text is the address of a name server. The scope of an IPv6 address may be any
text without a percent sign. -/
def isAddress (cs : List Char) : Bool :=
  (Address.readQuad cs).isSome ||
    ((cs.filter (· = '%')).length ≤ 1 &&
      (Address.readColons (dropFinalFeed (Address.beforeScope cs))).isSome)

/-! ### Locators -/

/-- The characters beyond ASCII whose compatibility forms hold a mark that ends an authority or
parts it. -/
def disguisedMarks : List Nat := [
  0x2047, 0x2048, 0x2049, 0x2100, 0x2101, 0x2105, 0x2106, 0x2A74, 0xFE13, 0xFE16, 0xFE55, 0xFE56,
  0xFE5F, 0xFE6B, 0xFF03, 0xFF0F, 0xFF1A, 0xFF1F, 0xFF20]

/-- Whether a text between brackets is a host: an IPv6 address, or a later form with its
version. -/
def isBracketedHost (cs : List Char) : Bool :=
  match cs with
  | 'v' :: rest =>
    !(rest.takeWhile isHexDigit).isEmpty &&
      match rest.dropWhile isHexDigit with
      | '.' :: _ :: _ => true
      | _ => false
  | _ =>
    match Address.ofChars? cs with
    | some a => a.version = 6
    | none => false

/-- What follows the last of certain characters in a text, or the text if it holds none. -/
def afterLast (c : Char) (cs : List Char) : List Char := (cs.reverse.takeWhile (· ≠ c)).reverse

/-- Whether a host can go with brackets in its authority: it opens a bracket at once, and where
that closes nothing follows but what a colon sets off; or it has no bracket, and what comes
before a colon could stand between brackets. -/
def isSoundHost (cs : List Char) : Bool :=
  if cs.contains '[' then
    let inside := cs.drop 1
    let after := (inside.dropWhile (· ≠ ']')).drop 1
    cs.head? = some '[' && after.head?.all (· = ':') &&
      isBracketedHost (inside.takeWhile (· ≠ ']'))
  else isBracketedHost (cs.takeWhile (· ≠ ':'))

/-- Whether an authority is sound: there is no bracket without its counterpart, with brackets
its host is sound, and no mark is disguised. -/
def isAuthority (cs : List Char) : Bool :=
  cs.contains '[' = cs.contains ']' && (!cs.contains '[' || isSoundHost (afterLast '@' cs)) &&
    !cs.any fun c => disguisedMarks.contains c.toNat

/-- A locator without the control characters and spaces in front, and without tabulators and
line ends. -/
def tidied (cs : List Char) : List Char :=
  (cs.dropWhile (·.toNat ≤ 0x20)).filter fun c => c ≠ '\t' && c ≠ '\r' && c ≠ '\n'

def isSecureLocator (cs : List Char) : Bool :=
  let cs := tidied cs
  (cs.takeWhile (· ≠ ':')).map Char.toLower = "https".toList &&
    match cs.dropWhile (· ≠ ':') with
    | ':' :: '/' :: '/' :: rest =>
      isAuthority (rest.takeWhile fun c => c ≠ '/' && c ≠ '?' && c ≠ '#')
    | rest => !rest.isEmpty

/-! ### Servers -/

structure BadServer where
  text : String
deriving DecidableEq, Repr

def BadServer.message (bad : BadServer) : String :=
  "nameserver " ++ bad.text ++ " is not a dns.nameserver.Nameserver instance or text form, " ++
    "IP address, nor a valid https URL"

def isServer (text : String) : Bool := isAddress text.toList || isSecureLocator text.toList

/-- The name servers of a list, unless a text in it stands for none; the first such counts. -/
def readAll (texts : List String) : Except BadServer (List String) :=
  match texts.find? (!isServer ·) with
  | some text => .error ⟨text⟩
  | none => .ok texts

end RelayReputation.NameServer
