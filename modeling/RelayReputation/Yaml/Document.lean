import RelayReputation.Yaml.Token.Reader
import RelayReputation.Yaml.Value

/-!
# Loading documents

From the text of a document to the value it stands for. A text without a document stands for
nothing, and a text with more than one is refused.
-/

namespace RelayReputation.Yaml

def load (text : String) : Except Error Value := do
  match ← Node.ofTokens (tokens (lineFeeds text.toList)) with
  | none => return .simple .null
  | some n => Value.ofNode n

end RelayReputation.Yaml
