/-!
# Spans of code points

Membership in a list of closed spans. The spans are kept in ascending order, so that a look-up
stops at the first span that begins beyond the number asked for.
-/

namespace RelayReputation.Text

/-- Whether a number lies in one of the spans, which are in ascending order. -/
def inSpans : List (Nat × Nat) → Nat → Bool
  | [], _ => false
  | (lo, hi) :: rest, n => if n < lo then false else n ≤ hi || inSpans rest n

end RelayReputation.Text
