import FormWidgets.Data

/-!
# Tokens

The parts that a text is cut into.  Blocks are marked by their starts and ends,
which the text shows by indentation alone.
-/

namespace FormWidgets.Yaml

/-- A part of a text. -/
inductive Token where
  | versionDirective (major minor : Nat)
  | tagDirective (handle : String) (start : List UInt8)
  | documentStart
  | documentEnd
  | blockSequenceStart
  | blockMappingStart
  | blockEnd
  | flowSequenceStart
  | flowSequenceEnd
  | flowMappingStart
  | flowMappingEnd
  | blockEntry
  | flowEntry
  | key
  | value
  | alias (name : String)
  | anchor (name : String)
  | tag (handle : String) (suffix : List UInt8)
  | scalar (text : String) (style : ScalarStyle)
deriving DecidableEq, Repr

end FormWidgets.Yaml
