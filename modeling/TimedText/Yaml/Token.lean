import TimedText.Yaml.Cursor

/-!
# Tokens of a YAML text

The words, marks and indentations of a text.  Indentation shows as tokens that start and end block
collections.  A scalar carries its text, whether it was written without quotes, and whether an
escape in it stands for no character.
-/

namespace TimedText.Yaml

/-- A scalar as it was written. -/
structure Scalar where
  text : List Char
  plain : Bool := false
  garbled : Bool := false
deriving DecidableEq, Repr

/-- A token of a text. -/
inductive Token where
  | versionDirective (major : Nat)
  | handleDirective (handle stem : String)
  | unknownDirective
  | documentStart
  | documentEnd
  | streamEnd
  | blockSequenceStart
  | blockMappingStart
  | blockEnd
  | flowSequenceStart
  | flowSequenceEnd
  | flowMappingStart
  | flowMappingEnd
  | blockEntry
  | flowEntry
  | key
  | value
  | alias (name : String)
  | anchor (name : String)
  | tag (handle : Option String) (suffix : String)
  | scalar (scalar : Scalar)
deriving DecidableEq, Repr

end TimedText.Yaml
