import RelayReputation.Numeral.Layout
import RelayReputation.Text.Digit
import RelayReputation.Yaml.Error

/-!
# Dates and times

The calendar values that a document can hold, how they are written in a document, and their two
texts: the one that shows a value in a message and the one that stands for it as a key.
-/

namespace RelayReputation.Yaml

open RelayReputation.Text RelayReputation.Numeral

/-! ### Values -/

structure Date where
  year : Nat
  month : Nat
  day : Nat
deriving DecidableEq, Repr

/-- A point in time, with the distance of its zone from universal time in minutes if it is
given. -/
structure Moment where
  date : Date
  hour : Nat
  minute : Nat
  second : Nat
  micro : Nat
  offset : Option Int
deriving DecidableEq, Repr

def isLeap (year : Nat) : Bool := year % 4 = 0 && (year % 100 ≠ 0 || year % 400 = 0)

def daysIn (year month : Nat) : Nat :=
  if month = 2 then (if isLeap year then 29 else 28)
  else if month = 4 || month = 6 || month = 9 || month = 11 then 30
  else 31

/-- The number of days before a date, from the beginning of the year one. -/
def Date.ordinal (d : Date) : Nat :=
  let y := d.year - 1
  365 * y + y / 4 - y / 100 + y / 400 +
    (List.range (d.month - 1)).foldl (fun n m => n + daysIn d.year (m + 1)) 0 + (d.day - 1)

/-- The number of microseconds before a moment by the clock of its zone. -/
def Moment.reading (m : Moment) : Int :=
  (((m.date.ordinal * 24 + m.hour) * 60 + m.minute) * 60 + m.second) * 1000000 + m.micro

/-- Whether two moments are the same: at the same universal time if both have a zone, and by
the same clock reading if neither has one. -/
def Moment.same (a b : Moment) : Bool :=
  match a.offset, b.offset with
  | none, none => a.reading = b.reading
  | some x, some y => a.reading - x * 60000000 = b.reading - y * 60000000
  | _, _ => false

/-! ### Reading -/

structure Timestamp where
  year : List Char
  month : List Char
  day : List Char
  time : Option (List Char × List Char × List Char × List Char × List Char)
deriving DecidableEq, Repr

/-- A run of digits with one of the given lengths at the front of a text. -/
def digitRun (lengths : List Nat) (cs : List Char) : Option (List Char × List Char) :=
  let run := cs.takeWhile isAsciiDigit
  if lengths.contains run.length then some (run, cs.dropWhile isAsciiDigit) else none

def after (c : Char) : List Char → Option (List Char)
  | d :: cs => if d = c then some cs else none
  | [] => none

def isSpacing (c : Char) : Bool := c = ' ' || c = '\t'

def afterDate (cs : List Char) : Option (List Char) :=
  match cs with
  | 'T' :: rest => some rest
  | 't' :: rest => some rest
  | _ => if cs.head?.any isSpacing then some (cs.dropWhile isSpacing) else none

/-- Whether a text is a zone: nothing, a Z, or a sign with hours and maybe minutes. -/
def isZone (cs : List Char) : Bool :=
  match cs with
  | [] => true
  | ['Z'] => true
  | s :: rest =>
    (s = '+' || s = '-') &&
      match digitRun [1, 2] rest with
      | some (_, []) => true
      | some (_, ':' :: minutes) => minutes.length = 2 && minutes.all isAsciiDigit
      | _ => false

def readTime (cs : List Char) :
    Option (List Char × List Char × List Char × List Char × List Char) := do
  let (hour, cs) ← digitRun [1, 2] (← afterDate cs)
  let (minute, cs) ← digitRun [2] (← after ':' cs)
  let (second, cs) ← digitRun [2] (← after ':' cs)
  let (fraction, cs) :=
    match cs with
    | '.' :: rest => (rest.takeWhile isAsciiDigit, rest.dropWhile isAsciiDigit)
    | cs => ([], cs)
  let zone := cs.dropWhile isSpacing
  -- blanks after a time need a zone after them, unless there are none
  if isZone zone && (zone ≠ [] || cs = []) then some (hour, minute, second, fraction, zone)
  else none

def Timestamp.read? (cs : List Char) : Option Timestamp := do
  let (year, cs) ← digitRun [4] cs
  let (month, cs) ← digitRun [1, 2] (← after '-' cs)
  let (day, cs) ← digitRun [1, 2] (← after '-' cs)
  if cs = [] then return ⟨year, month, day, none⟩
  else return ⟨year, month, day, some (← readTime cs)⟩

/-- Whether a text is taken for a timestamp without a tag: a date alone needs two digits for
month and day. -/
def isTimestamp (cs : List Char) : Bool :=
  match Timestamp.read? cs with
  | none => false
  | some t => t.time.isSome || (t.month.length = 2 && t.day.length = 2)

/-! ### From parts to values -/

/-- A number followed by a name for each part of a duration that is not zero. -/
def durationParts (parts : List (String × Int)) : String :=
  String.intercalate ", "
    ((parts.filter (·.2 ≠ 0)).map fun p => p.1 ++ "=" ++ toString p.2)

/-- A whole number of minutes as it is shown: days, which may be less than zero, and seconds,
which may not. -/
def durationText (minutes : Int) : String :=
  let parts := durationParts [("days", minutes / 1440), ("seconds", minutes % 1440 * 60)]
  "datetime.timedelta(" ++ (if parts = "" then "0" else parts) ++ ")"

def zoneOffset (cs : List Char) : Option Int :=
  match cs with
  | [] => none
  | ['Z'] => some 0
  | s :: rest =>
    let hours := rest.takeWhile isAsciiDigit
    let minutes := (rest.dropWhile isAsciiDigit).drop 1
    let n : Int := ofDigits 10 hours * 60 + ofDigits 10 minutes
    some (if s = '-' then -n else n)

def Date.make (year month day : Nat) : Except CalendarFault Date :=
  if year = 0 then .error (.year year)
  else if month = 0 || 12 < month then .error .month
  else if day = 0 || daysIn year month < day then .error .day
  else .ok ⟨year, month, day⟩

/-- The value of a timestamp: a date, or a moment if a time is written. -/
def Timestamp.value (t : Timestamp) : Except CalendarFault (Date ⊕ Moment) := do
  let date := Date.make (ofDigits 10 t.year) (ofDigits 10 t.month) (ofDigits 10 t.day)
  match t.time with
  | none => return .inl (← date)
  | some (hour, minute, second, fraction, zone) =>
    let offset := zoneOffset zone
    match offset with
    | some n => if 1440 ≤ n.natAbs then throw (.offset (durationText n))
    | none => pure ()
    let date ← date
    let hour := ofDigits 10 hour
    let minute := ofDigits 10 minute
    let second := ofDigits 10 second
    if 23 < hour then throw .hour
    if 59 < minute then throw .minute
    if 59 < second then throw .second
    let micro := ofDigits 10 ((fraction ++ List.replicate 6 '0').take 6)
    return .inr ⟨date, hour, minute, second, micro, offset⟩

/-! ### Texts -/

def padded (width n : Nat) : String := String.ofList (padZeros width (Nat.toDigits 10 n))

def commaText (ns : List Nat) : String := String.intercalate ", " (ns.map toString)

def Date.shown (d : Date) : String :=
  "datetime.date(" ++ commaText [d.year, d.month, d.day] ++ ")"

def offsetShown : Option Int → String
  | none => ""
  | some n =>
    ", tzinfo=" ++
      (if n = 0 then "datetime.timezone.utc" else "datetime.timezone(" ++ durationText n ++ ")")

/-- A moment as it is shown: seconds are left out if they are zero. -/
def Moment.shown (m : Moment) : String :=
  let seconds :=
    if m.micro ≠ 0 then [m.second, m.micro] else if m.second ≠ 0 then [m.second] else []
  "datetime.datetime(" ++
    commaText ([m.date.year, m.date.month, m.date.day, m.hour, m.minute] ++ seconds) ++
    offsetShown m.offset ++ ")"

def Date.keyText (d : Date) : String :=
  padded 4 d.year ++ "-" ++ padded 2 d.month ++ "-" ++ padded 2 d.day

def offsetText : Option Int → String
  | none => ""
  | some n =>
    (if n < 0 then "-" else "+") ++ padded 2 (n.natAbs / 60) ++ ":" ++ padded 2 (n.natAbs % 60)

def Moment.keyText (m : Moment) : String :=
  m.date.keyText ++ " " ++ padded 2 m.hour ++ ":" ++ padded 2 m.minute ++ ":" ++
    padded 2 m.second ++ (if m.micro = 0 then "" else "." ++ padded 6 m.micro) ++
    offsetText m.offset

end RelayReputation.Yaml
