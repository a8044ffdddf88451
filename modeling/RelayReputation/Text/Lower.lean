import RelayReputation.Text.LetterTable
import RelayReputation.Text.Span

/-!
# Lower case

The full lower-case form of a text. Two letters need more than a table: a capital I with a dot
becomes an i and a combining dot, and a capital sigma takes its final form at the end of a
word, which depends on the letters before and after it.
-/

namespace RelayReputation.Text

/-! ### One character -/

/-- Whether a run holds a code point. -/
def LetterRun.covers (r : LetterRun) (n : Nat) : Bool :=
  r.first ≤ n && n ≤ r.last && (n - r.first) % r.stride == 0

/-- The lower-case form of a code point by runs in ascending order. -/
def lowerByRuns : List LetterRun → Nat → Nat
  | [], n => n
  | r :: rest, n =>
    if n < r.first then n
    else if r.covers n then (n + r.shift).toNat
    else lowerByRuns rest n

/-- The lower-case form of a character, where `final` says that it ends a word. -/
def lowerChar (final : Bool) (c : Char) : List Char :=
  if c = 'Σ' then [if final then 'ς' else 'σ']
  else if c = 'İ' then ['i', '\u0307']
  else [Char.ofNat (lowerByRuns lowerRuns c.toNat)]

/-! ### Where a word ends -/

/-- What a character does for the end of a word. -/
inductive WordRole
  | letter
  | passed
  | break
deriving DecidableEq, Repr

def wordRole (c : Char) : WordRole :=
  if inSpans casedSpans c.toNat then .letter
  else if inSpans ignorableSpans c.toNat then .passed
  else .break

/-- Whether the first character that is not passed over is a letter. -/
def letterAhead : List Char → Bool
  | [] => false
  | c :: cs =>
    match wordRole c with
    | .letter => true
    | .passed => letterAhead cs
    | .break => false

/-- Whether the last character so far that is not passed over is a letter, after one more. -/
def letterBehind (behind : Bool) (c : Char) : Bool :=
  match wordRole c with
  | .letter => true
  | .passed => behind
  | .break => false

/-! ### Texts -/

/-- The lower-case form of a text that follows a letter or not. -/
def lowerAfter (behind : Bool) : List Char → List Char
  | [] => []
  | c :: cs =>
    lowerChar (behind && !letterAhead cs) c ++ lowerAfter (letterBehind behind c) cs

def lowerChars (cs : List Char) : List Char := lowerAfter false cs

def lower (s : String) : String := String.ofList (lowerChars s.toList)

@[simp] theorem toList_lower (s : String) : (lower s).toList = lowerChars s.toList := by
  simp [lower]

end RelayReputation.Text
