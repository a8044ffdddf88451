import RelayReputation.Text.CodePoint
import RelayReputation.Yaml.Error

/-!
# Tokens

The marks and scalars that a document consists of. Where blocks begin and end follows from
indentation and has tokens of its own. A text that breaks the rules of tokens still has those
before the fault, and whether they make up a document is decided first.
-/

namespace RelayReputation.Yaml

open RelayReputation.Text

inductive Directive
  | version (major minor : Nat)
  | tagHandle (handle expansion : String)
  | other
deriving DecidableEq, Repr

inductive Token
  | directive (directive : Directive)
  | documentStart
  | documentEnd
  | blockSequenceStart
  | blockMappingStart
  | blockEnd
  | flowSequenceStart
  | flowSequenceEnd
  | flowMappingStart
  | flowMappingEnd
  | flowEntry
  | blockEntry
  | key
  | value
  | alias (name : String)
  | anchor (name : String)
  /-- A tag, by the handle that abbreviates its beginning and what follows it. -/
  | tag (handle : Option String) (rest : String)
  /-- A scalar, which is plain if no quotes or block marks set it off. -/
  | scalar (text : CodePoints) (plain : Bool)
deriving DecidableEq, Repr

/-- Tokens as far as they can be read, and the fault that ends them, if it is not the end of the
text. -/
structure TokenStream where
  tokens : List Token
  fault : Option Error := none
deriving DecidableEq, Repr

end RelayReputation.Yaml
