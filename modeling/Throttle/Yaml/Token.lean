import Throttle.Yaml.Scalar

/-!
# Tokens

A text is cut into tokens, in which the indentation has become opening and closing marks.
-/

namespace Throttle.Yaml

inductive Token where
  /-- The version of the language that a document is in. -/
  | version (major minor : Nat)
  /-- What the handle of a tag stands for. -/
  | shorthand (handle expansion : String)
  | documentStart
  | documentEnd
  | blockSequenceStart
  | blockMappingStart
  | blockEnd
  | flowSequenceStart
  | flowSequenceEnd
  | flowMappingStart
  | flowMappingEnd
  /-- Before an item of a block. -/
  | item
  | comma
  | key
  | value
  | reference (anchor : String)
  | anchor (name : String)
  | tag (handle suffix : String)
  | scalar (s : Scalar)
  deriving DecidableEq, Repr

namespace Token

/-- Whether a document is over before a token. -/
def endsDocument : Token → Bool
  | version .. => true
  | shorthand .. => true
  | documentStart => true
  | documentEnd => true
  | _ => false

end Token

end Throttle.Yaml
