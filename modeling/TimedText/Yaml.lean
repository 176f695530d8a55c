import TimedText.Yaml.Meaning
import TimedText.Yaml.Tree

/-!
# YAML files

The value that the bytes of a YAML file stand for.  A file without a document stands for nothing, as
does a file whose document is empty; a file that breaks the rules stands for no value.
-/

namespace TimedText.Yaml

/-- The value that a text stands for. -/
def valueOfText? (text : List Char) : Option Value :=
  match Tree.ofText? text with
  | some (some root) => root.value?
  | some none => some .null
  | none => none

/-- The value that the bytes of a file stand for. -/
def read? (bytes : List UInt8) : Option Value :=
  (sourceText? bytes).bind valueOfText?

end TimedText.Yaml
