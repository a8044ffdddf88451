import RelayReputation.Text.Digit
import RelayReputation.Yaml.Cursor
import RelayReputation.Yaml.Token

/-!
# Names, tags and directives

The tokens of a document that are neither indicators nor scalars.
-/

namespace RelayReputation.Yaml

open RelayReputation.Text

/-! ### Names -/

def endsName (c : Option Char) : Bool :=
  endsWord c || c.any fun c => c = '?' || c = ':' || c = ',' || c = ']' || c = '}' ||
    c = '%' || c = '@' || c.toNat = 0x60

def nodeName : Reading String := do
  Reading.skip 1
  let name ← Reading.take isNameChar
  Reading.ensure (!name.isEmpty && endsName (← Reading.peek))
  return String.ofList name

/-! ### Tags -/

/-- A handle that abbreviates the beginning of tags: one mark, or a name between two. -/
def tagHandle : Reading String := do
  Reading.ensure ((← Reading.peek) = some '!')
  Reading.skip 1
  if (← Reading.peek) = some ' ' then return "!"
  let name ← Reading.take isNameChar
  if (← Reading.peek) = some '!' then
    Reading.skip 1
    return String.ofList ('!' :: name ++ ['!'])
  else
    Reading.ensure name.isEmpty
    Reading.fail

def isTagChar (c : Char) : Bool := c.isAlphanum || "-;/?:@&=+$,_.!~*'()[]".toList.contains c

def percentBytes : Nat → Reading (List UInt8)
  | 0 => return []
  | fuel + 1 => do
    if (← Reading.peek) = some '%' then
      Reading.skip 1
      let digits := (← get).rest.take 2
      Reading.ensure (digits.length = 2 && digits.all isHexDigit)
      Reading.skip 2
      return UInt8.ofNat (ofDigits 16 digits) :: (← percentBytes fuel)
    else return []

def tagRest : Nat → Reading (List Char)
  | 0 => return []
  | fuel + 1 => do
    let run ← Reading.take isTagChar
    if (← Reading.peek) = some '%' then
      let bytes ← percentBytes (← Reading.fuel)
      match String.fromUTF8? ⟨bytes.toArray⟩ with
      | none => Reading.fail
      | some s => return run ++ s.toList ++ (← tagRest fuel)
    else return run

def someTagRest : Reading String := do
  let rest ← tagRest (← Reading.fuel)
  Reading.ensure !rest.isEmpty
  return String.ofList rest

/-- Whether a second mark stands in a word, so that its beginning is a handle. -/
def hasHandle (cs : List Char) : Bool :=
  (cs.takeWhile fun c => !(c = ' ' || isBreak c)).contains '!'

def tag : Reading Token := do
  let here ← get
  let token ←
    if here.peekAt 1 = some '<' then do
      Reading.skip 2
      let rest ← someTagRest
      Reading.ensure ((← Reading.peek) = some '>')
      Reading.skip 1
      pure (Token.tag none rest)
    else if endsWord (here.peekAt 1) then do
      Reading.skip 1
      pure (Token.tag none "!")
    else if hasHandle (here.rest.drop 1) then do
      let handle ← tagHandle
      pure (Token.tag (some handle) (← someTagRest))
    else do
      Reading.skip 1
      pure (Token.tag (some "!") (← someTagRest))
  Reading.ensure (endsField (← Reading.peek))
  return token

/-! ### Directives -/

/-- A number in a directive. That it has too many digits is seen once the character after them
has been read. -/
def directiveNumber : Reading Nat := do
  let digits ← Reading.take isAsciiDigit
  Reading.ensure (!digits.isEmpty && !(← get).atCut)
  if Numeral.digitLimit < digits.length then throw (.notInteger (.tooLong digits.length))
  return ofDigits 10 digits

def directiveBody (name : String) : Reading Directive := do
  if name = "YAML" then
    let _ ← Reading.take (· = ' ')
    let major ← directiveNumber
    Reading.ensure ((← Reading.peek) = some '.')
    Reading.skip 1
    let minor ← directiveNumber
    Reading.ensure (endsField (← Reading.peek))
    return .version major minor
  else if name = "TAG" then
    let _ ← Reading.take (· = ' ')
    let handle ← tagHandle
    Reading.ensure ((← Reading.peek) = some ' ')
    let _ ← Reading.take (· = ' ')
    let expansion ← someTagRest
    Reading.ensure (endsField (← Reading.peek))
    return .tagHandle handle expansion
  else
    let _ ← Reading.take (!isBreak ·)
    return .other

def directive : Reading Directive := do
  Reading.skip 1
  let name ← Reading.take isNameChar
  Reading.ensure (!name.isEmpty && endsField (← Reading.peek))
  let d ← directiveBody (String.ofList name)
  modify Cursor.skipComment
  Reading.ensure (endsLine (← Reading.peek))
  let _ ← Reading.lineBreak
  return d

end RelayReputation.Yaml
