import RelayReputation.Text.Blank
import RelayReputation.Text.Lower

/-!
# Received headers

A message carries one `Received` header for each hop. The last one names the most recent hop,
and the word after its first `from` is the relay host. A header value may be folded over
several lines; `unfold` joins them.
-/

namespace RelayReputation

open RelayReputation.Text

/-! ### Folded values -/

/-- Whether a character may start a continuation line. -/
def isFoldBlank (c : Char) : Bool := c = ' ' || c = '\t'

/-- A header value without its line ends, each of which becomes a space together with the
blanks that follow it; `skipping` says that a line has just ended. -/
def unfoldChars (skipping : Bool) : List Char → List Char
  | [] => []
  | c :: cs =>
    if skipping && isFoldBlank c then unfoldChars true cs
    else if c = '\n' then ' ' :: unfoldChars true cs
    else if c = '\r' && cs.head? = some '\n' then unfoldChars false cs
    else c :: unfoldChars false cs

def unfold (value : String) : String := String.ofList (unfoldChars false value.toList)

theorem unfoldChars_feed (skipping : Bool) (cs : List Char) :
    unfoldChars skipping ('\n' :: cs) = ' ' :: unfoldChars true cs := by
  simp [unfoldChars, isFoldBlank]

theorem unfoldChars_return (skipping : Bool) (cs : List Char) :
    unfoldChars skipping ('\r' :: '\n' :: cs) = unfoldChars false ('\n' :: cs) := by
  simp [unfoldChars, isFoldBlank]

theorem unfoldChars_false_cons {c : Char} {cs : List Char} (hfeed : c ≠ '\n')
    (hreturn : c = '\r' → cs.head? ≠ some '\n') :
    unfoldChars false (c :: cs) = c :: unfoldChars false cs := by
  simpa [unfoldChars, hfeed] using hreturn

theorem unfoldChars_true_cons (c : Char) (cs : List Char) :
    unfoldChars true (c :: cs) =
      if isFoldBlank c then unfoldChars true cs else unfoldChars false (c :: cs) := by
  cases h : isFoldBlank c <;> simp [unfoldChars, h]

/-! ### The relay host -/

inductive HeaderValue
  | text (value : String)
  | other (kind : String)
deriving DecidableEq, Repr

structure HeaderFault where
  kind : String
deriving DecidableEq, Repr

def HeaderFault.message (f : HeaderFault) : String :=
  "expected string or bytes-like object, got '" ++ f.kind ++ "'"

def fromWord : List Char := "from".toList

/-- The word after the first `from`, in lower case. -/
def afterFrom? : List (List Char) → Option (List Char)
  | word :: next :: rest =>
    if lowerChars word = fromWord then some (lowerChars next) else afterFrom? (next :: rest)
  | _ => none

def relayHostIn (value : String) : Option String :=
  (afterFrom? (words (unfold value).toList)).map String.ofList

/-- The relay host of a message with the given headers, the most recent hop last. -/
def relayHostOf (received : List HeaderValue) : Except HeaderFault (Option String) :=
  match received.getLast? with
  | none => .ok none
  | some (.text value) => .ok (relayHostIn value)
  | some (.other kind) => .error ⟨kind⟩

end RelayReputation
