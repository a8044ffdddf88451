import RelayReputation.Address.Printer
import RelayReputation.RelayHost
import RelayReputation.Resolution.Network
import RelayReputation.Text.CodePoint

/-!
# Notices

What the program reports of its own work. Each kind of notice has a level and a text. A trace
is the list of the questions put to the network and the notices given, in their order.
-/

namespace RelayReputation

open RelayReputation.Text

/-! ### Kinds of notice -/

inductive Level
  | debug
  | info
  | warning
  | error
deriving DecidableEq, Repr

def Level.text : Level → String
  | debug => "DEBUG"
  | info => "INFO"
  | warning => "WARNING"
  | error => "ERROR"

inductive Notice
  | loaded (names : List String)
  /-- A checker is ready for use. -/
  | ready (enabled : List String)
  /-- Name servers were given to a backend that has no use for them. -/
  | serversIgnored
  | unknownBackend (name : String)
  | badResponse (list reason : String)
  | notMapping (path : String)
  | notBoolean (key : CodePoints) (value : String)
  | cacheCleared
  | switched (list enabled : String)
  | switchesReset
  | noRelayHost
  | cacheHit (host : String) (junk : Bool)
  | skipped (address : Address) (host : RelayHost) (list : String)
  | literalPassed (list : String) (host : RelayHost)
  | lookedUp (query code : String) (blocked : Bool)
  | lookupFailed (query reason : String)
  /-- The addresses of a host were not obtained. -/
  | unresolved (host : RelayHost) (list reason : String)
  | checked (host : RelayHost) (list : String)
  | checkFailed (host list reason : String)
  | messageFailed (key reason : String)
deriving DecidableEq, Repr

/-! ### Their texts -/

def truthText (b : Bool) : String := if b then "True" else "False"

def namesText (names : List String) : String := String.intercalate ", " names

/-- What stands for the time taken, which is not measured. -/
def elapsedText : String := " elapsed=N ms"

def Notice.level : Notice → Level
  | loaded _ => .debug
  | ready _ => .info
  | serversIgnored => .warning
  | unknownBackend _ => .warning
  | badResponse _ _ => .error
  | notMapping _ => .warning
  | notBoolean _ _ => .warning
  | cacheCleared => .debug
  | switched _ _ => .info
  | switchesReset => .info
  | noRelayHost => .debug
  | cacheHit _ _ => .debug
  | skipped _ _ _ => .info
  | literalPassed _ _ => .debug
  | lookedUp _ _ _ => .info
  | lookupFailed _ _ => .warning
  | unresolved _ _ _ => .warning
  | checked _ _ => .debug
  | checkFailed _ _ _ => .error
  | messageFailed _ _ => .warning

def Notice.text : Notice → CodePoints
  | loaded names =>
    .ofString ("Loaded " ++ toString names.length ++ " block lists: " ++ namesText names)
  | ready enabled =>
    .ofString ("Junk checker ready, enabled block lists: " ++
      (if enabled.isEmpty then "none" else namesText enabled))
  | serversIgnored => .ofString "JUNKCHECK_DNS_SERVERS is ignored by the system resolver backend"
  | unknownBackend name =>
    .ofString ("Unknown resolver backend '" ++ name ++ "', using dnspython")
  | badResponse list reason =>
    .ofString ("Invalid response address for " ++ list ++ ": " ++ reason)
  | notMapping path => .ofString ("Ignoring " ++ path ++ ": expected a mapping")
  | notBoolean key value =>
    CodePoints.ofString "Ignoring non-boolean preference " ++ key ++
      CodePoints.ofString ("=" ++ value)
  | cacheCleared => .ofString "Result cache cleared"
  | switched list enabled => .ofString ("Block list " ++ list ++ " enabled=" ++ enabled)
  | switchesReset => .ofString "Block lists reset to defaults"
  | noRelayHost => .ofString "No relay host in Received headers"
  | cacheHit host junk => .ofString ("Cache hit " ++ host ++ " junk=" ++ truthText junk)
  | skipped address host list =>
    .ofString ("Skipping local address " ++ address.text ++ " of " ++ host.text ++ " for " ++ list)
  | literalPassed list host =>
    .ofString (list ++ " cannot check address literal " ++ host.text)
  | lookedUp query code blocked =>
    .ofString ("Lookup " ++ query ++ " result=" ++ (if code = "" then "None" else code) ++
      " blocked=" ++ truthText blocked ++ elapsedText)
  | lookupFailed query reason =>
    .ofString ("Lookup " ++ query ++ " failed, treating as not blocked: " ++ reason)
  | unresolved host list reason =>
    .ofString ("Could not resolve " ++ host.text ++ " for " ++ list ++ ": " ++ reason)
  | checked host list => .ofString ("Checked " ++ host.text ++ " @ " ++ list ++ elapsedText)
  | checkFailed host list reason =>
    .ofString ("Checking " ++ host ++ " @ " ++ list ++ " failed: " ++ reason)
  | messageFailed key reason =>
    .ofString ("Failed to check message " ++ key ++ ": " ++ reason)

/-! ### Traces -/

inductive Event
  | asked (question : Question)
  | noticed (notice : Notice)
deriving DecidableEq, Repr

abbrev Trace := List Event

namespace Trace

def questions (t : Trace) : List Question :=
  t.filterMap fun
    | .asked q => some q
    | .noticed _ => none

def notices (t : Trace) : List Notice :=
  t.filterMap fun
    | .asked _ => none
    | .noticed n => some n

def ofQuestions (qs : List Question) : Trace := qs.map .asked

def ofNotices (ns : List Notice) : Trace := ns.map .noticed

@[simp] theorem questions_nil : questions [] = [] := rfl

@[simp] theorem questions_append (s t : Trace) :
    questions (s ++ t) = questions s ++ questions t := List.filterMap_append

@[simp] theorem notices_append (s t : Trace) : notices (s ++ t) = notices s ++ notices t :=
  List.filterMap_append

@[simp] theorem questions_asked (q : Question) (t : Trace) :
    questions (.asked q :: t) = q :: questions t := rfl

@[simp] theorem questions_noticed (n : Notice) (t : Trace) :
    questions (.noticed n :: t) = questions t := rfl

@[simp] theorem notices_asked (q : Question) (t : Trace) :
    notices (.asked q :: t) = notices t := rfl

@[simp] theorem notices_noticed (n : Notice) (t : Trace) :
    notices (.noticed n :: t) = n :: notices t := rfl

@[simp] theorem questions_ofQuestions (qs : List Question) : questions (ofQuestions qs) = qs := by
  induction qs with
  | nil => rfl
  | cons q qs ih => simpa [ofQuestions] using ih

@[simp] theorem notices_ofQuestions (qs : List Question) : notices (ofQuestions qs) = [] := by
  induction qs with
  | nil => rfl
  | cons q qs ih => simpa [ofQuestions] using ih

end Trace

end RelayReputation
