import RelayReputation.Numeral.Decimal
import RelayReputation.Numeral.Integer

/-!
# Faults of a document

Why a document cannot be loaded. Most faults are of form: the text does not follow the rules
of the notation, or describes no value. The others are values that a tag asks for and the
text does not give.
-/

namespace RelayReputation.Yaml

open RelayReputation.Text RelayReputation.Numeral

inductive CalendarFault
  | year (year : Nat)
  | month
  | day
  | hour
  | minute
  | second
  /-- The distance from universal time is a day or more. -/
  | offset (shown : String)
deriving DecidableEq, Repr

/-- Why a document cannot be loaded. -/
inductive Error
  /-- The text breaks the rules of the notation or describes no value. -/
  | malformed
  /-- An escape writes a number beyond all characters. -/
  | beyondCharacters
  /-- An escape writes a number beyond all machine integers. -/
  | beyondIntegers
  /-- A text tagged as a truth value is none. It is given as it is quoted. -/
  | notBoolean (quoted : String)
  /-- A text tagged as an integer, or a number in a directive, is none that is read. -/
  | notInteger (fault : IntegerFault)
  /-- A text tagged as a real number is none. It is given as it is quoted. -/
  | notReal (quoted : String)
  /-- A text tagged as a number is empty, its sign apart. -/
  | emptyNumber
  /-- A real number in sixtieths has a place beyond all doubles. -/
  | beyondDoubles
  /-- The text that a mapping stands for is not found, since the mapping stands for itself or
  for too long a chain of others. -/
  | endless
  /-- Too many mappings take over entries one within the other. -/
  | mergesTooDeep
  /-- A text tagged as a time has not the form of one. -/
  | notTimestamp
  /-- A mapping is tagged as a time, which only a text can be. -/
  | timestampMapping
  /-- A date or a time does not exist. -/
  | noSuchTime (fault : CalendarFault)
  /-- An integer that has to be shown has too many digits for that. -/
  | notShowable
  /-- A value that has to be shown is nested too deeply for that. -/
  | tooDeep
deriving DecidableEq, Repr

def CalendarFault.message : CalendarFault → String
  | year y => "year " ++ toString y ++ " is out of range"
  | month => "month must be in 1..12"
  | day => "day is out of range for month"
  | hour => "hour must be in 0..23"
  | minute => "minute must be in 0..59"
  | second => "second must be in 0..59"
  | offset shown =>
    "offset must be a timedelta strictly between -timedelta(hours=24) and " ++
      "timedelta(hours=24), not " ++ shown ++ "."

def Error.message? : Error → Option String
  | malformed => none
  | beyondCharacters => some "chr() arg not in range(0x110000)"
  | beyondIntegers => some "Python int too large to convert to C int"
  | notBoolean quoted => some quoted
  | notInteger fault => some fault.message
  | notReal quoted => some (Numeral.notReal quoted)
  | emptyNumber => some "string index out of range"
  | beyondDoubles => some "int too large to convert to float"
  | endless => some "maximum recursion depth exceeded"
  | mergesTooDeep => some "maximum recursion depth exceeded in comparison"
  | notTimestamp => none
  | timestampMapping => none
  | noSuchTime fault => some fault.message
  | notShowable => some Numeral.notShowable
  | tooDeep => some "maximum recursion depth exceeded while getting the repr of an object"

end RelayReputation.Yaml
