import Autoscaler.Text.Portions
import Autoscaler.Yaml.Error

/-!
# Sources of YAML documents

A source is read portion by portion, the first two at once, so that a fault in a later portion shows
only if all that stands before it is in order. `Source.ofFile` says how far the text of a file can
be read.
-/

namespace Autoscaler.Yaml

/-- Whether a code point may stand in a YAML text. -/
def isAllowed (c : CodePoint) : Bool :=
  c.val = 0x09 || c.val = 0x0a || c.val = 0x0d || (0x20 ≤ c.val && c.val ≤ 0x7e) || c.val = 0x85 ||
  (0xa0 ≤ c.val && c.val ≤ 0xd7ff) || (0xe000 ≤ c.val && c.val ≤ 0xfffd) || 0x10000 ≤ c.val

/-- A text that can be read, and the fault behind it, if there is one. -/
structure Source where
  text : Text
  fault : Option Error

namespace Source

/-- The source of portions after a text that can be read, with a fault behind them. -/
def extend (fault : Option Error) (text : Text) : List Text → Source
  | [] => ⟨text, fault⟩
  | p :: ps => if p.all isAllowed then extend fault (text ++ p) ps else ⟨text, some .malformed⟩

/-- The source that is the text of a file. -/
def ofFile (file : FileText) : Source :=
  let fault := file.fault.map Error.encoding
  match file.portions with
  | p :: q :: ps => extend fault [] ((p ++ q) :: ps)
  | ps => if fault.isSome then ⟨[], fault⟩ else extend none [] ps

end Source

end Autoscaler.Yaml
