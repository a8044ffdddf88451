import RelayReputation.Text.Digit
import RelayReputation.Text.PrintTable
import RelayReputation.Text.Span

/-!
# Quoted texts

A text as it is shown in messages: between quotes, with backslashes before what would end or
change it and numeric escapes for characters without a printed form.
-/

namespace RelayReputation.Text

def isPrintable (c : Char) : Bool := !inSpans unprintableSpans c.toNat

/-- The last `width` hexadecimal digits of a number. -/
def hexDigits : Nat → Nat → List Char
  | 0, _ => []
  | width + 1, n => hexDigits width (n / 16) ++ [digitChar (n % 16)]

/-- A numeric escape: two, four or eight hexadecimal digits, as few as hold the number. -/
def numericEscape (n : Nat) : List Char :=
  if n < 0x100 then '\\' :: 'x' :: hexDigits 2 n
  else if n < 0x10000 then '\\' :: 'u' :: hexDigits 4 n
  else '\\' :: 'U' :: hexDigits 8 n

/-- One character between two `quote`s. -/
def quotedChar (quote c : Char) : List Char :=
  if c = quote || c = '\\' then ['\\', c]
  else if c = '\n' then ['\\', 'n']
  else if c = '\r' then ['\\', 'r']
  else if c = '\t' then ['\\', 't']
  else if isPrintable c then [c]
  else numericEscape c.toNat

/-- The quote for a text: a double one only if the text holds single ones and no double one. -/
def quoteFor (cs : List Char) : Char :=
  if cs.contains '\'' && !cs.contains '"' then '"' else '\''

def quoted (cs : List Char) : List Char :=
  let q := quoteFor cs
  q :: cs.flatMap (quotedChar q) ++ [q]

def quote (s : String) : String := String.ofList (quoted s.toList)

end RelayReputation.Text
