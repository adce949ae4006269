import Autoscaler.Yaml.Content
import Autoscaler.Yaml.Node.Reader

/-!
# Reading YAML

`Yaml.read` gives the value of the one document that a source holds, in YAML 1.1 with the standard
tags. A source without a document has the value null.
-/

namespace Autoscaler.Yaml

/-- The value that a source denotes. -/
def read (s : Source) : Except Error Value :=
  match Document.ofTokens (Token.scan s) with
  | .error e => .error e
  | .ok none => .ok .null
  | .ok (some d) => d.value

end Autoscaler.Yaml
