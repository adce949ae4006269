import Autoscaler.Yaml.Cursor

/-!
# Tokens of YAML

The parts that a YAML text is made of. Block structure shows as tokens of its own, which stand where
the indentation changes, and a key that is not marked by `?` has a `key` token before it.
-/

namespace Autoscaler.Yaml

/-- A directive, which stands before a document. -/
inductive Directive where
  | version (major : Nat)
  | tag (handle target : Text)
  | other

/-- A part of a YAML text. -/
inductive Token where
  | directive (d : Directive)
  | documentStart
  | documentEnd
  | blockSequenceStart
  | blockMappingStart
  | blockEnd
  | flowSequenceStart
  | flowSequenceEnd
  | flowMappingStart
  | flowMappingEnd
  | flowEntry
  | blockEntry
  | key
  | value
  | alias (name : Text)
  | anchor (name : Text)
  /-- A tag, whose handle is missing if it is given in full. -/
  | tag (handle : Option Text) (suffix : Text)
  /-- A scalar, which is plain if it is neither quoted nor a block. -/
  | scalar (plain : Bool) (s : Text)
  | streamEnd

end Autoscaler.Yaml
