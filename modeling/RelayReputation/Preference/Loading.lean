import RelayReputation.Keyed
import RelayReputation.Notice
import RelayReputation.Yaml.Value

/-!
# Preferences in a document

The truth values that a document gives to keys. A document that counts as false gives none;
one that is no mapping is reported and gives none; and an entry whose value is no truth value
is reported and left out. A document cannot be used if a key, or a value to be reported, holds
an integer that has too many digits to be shown, or a value to be reported is nested too deeply.
-/

namespace RelayReputation

open RelayReputation.Text RelayReputation.Yaml

/-- Truth values by their keys. A key may hold surrogates, since a document can write them. -/
abbrev Switches := Keyed CodePoints Bool

namespace Switches

def entry? (e : Scalar × Value) : Option (CodePoints × Bool) :=
  match e.2 with
  | .simple (.bool b) => some (e.1.keyText, b)
  | _ => none

def complaint? (e : Scalar × Value) : Option Notice :=
  match e.2 with
  | .simple (.bool _) => none
  | v => some (.notBoolean e.1.keyText v.shown)

/-- Why an entry cannot be told of, if it cannot: its key must have a text, and its value one as
well unless it is a truth value. -/
def fault? (e : Scalar × Value) : Option Yaml.Error :=
  (Value.simple e.1).showFault?.or e.2.showFault?

/-- The switches that the value of a document holds, and what there is to say of it. The
entries are gone through in order, up to one that cannot be told of. -/
def ofValue (path : String) (v : Value) : List Notice × Except Yaml.Error Switches :=
  if v.isTrue then
    match v with
    | .mapping entries =>
      ((entries.takeWhile fun e => (fault? e).isNone).filterMap complaint?,
        match entries.findSome? fault? with
        | none => .ok (Keyed.ofList (entries.filterMap entry?))
        | some fault => .error fault)
    | _ => ([.notMapping path], .ok [])
  else ([], .ok [])

end Switches

end RelayReputation
