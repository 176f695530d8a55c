import TimedText.Yaml.Moment
import TimedText.Yaml.Number
import TimedText.Yaml.Token

/-!
# The tree of a YAML text

A node is a scalar, a sequence or a mapping, with a tag that says what it is.  A scalar without
quotes and without a tag is what its text looks like; quotes make it a text.  Sequences and mappings
keep the name that an anchor gives them, since they may stand in several places.  So may the mappings
inside them, which get names by their places.  An alias inside the node that it refers to is a loop.
-/

namespace TimedText.Yaml

/-- What a node is. -/
inductive Tag where
  | null
  | bool
  | int
  | float
  | binary
  | timestamp
  | orderedMap
  | pairs
  | set
  | str
  | seq
  | map
  | merge
  | default
  | unknown
deriving DecidableEq, Repr

namespace Tag

/-- The beginning of the names of the tags that are known. -/
def stem : String := "tag:yaml.org,2002:"

/-- The tags that are known, by the ends of their names. -/
def known : List (String × Tag) :=
  [ ("null", null), ("bool", bool), ("int", int), ("float", float), ("binary", binary),
    ("timestamp", timestamp), ("omap", orderedMap), ("pairs", pairs), ("set", set), ("str", str),
    ("seq", seq), ("map", map), ("merge", merge), ("value", default) ]

/-- The tag of a full name. -/
def ofName (name : String) : Tag :=
  ((known.find? fun entry => stem ++ entry.1 == name).map (·.2)).getD unknown

/-- The words for a switch that is on. -/
def onWords : List String := ["yes", "Yes", "YES", "true", "True", "TRUE", "on", "On", "ON"]

/-- The words for a switch that is off. -/
def offWords : List String := ["no", "No", "NO", "false", "False", "FALSE", "off", "Off", "OFF"]

/-- The words for nothing. -/
def nullWords : List String := ["~", "null", "Null", "NULL", ""]

/-- The marks that are no text. -/
def markWords : List String := ["!", "&", "*"]

/-- What a scalar without quotes and tag is. -/
def ofPlain (text : List Char) : Tag :=
  let text := if text.getLast? = some '\n' then text.dropLast else text
  let word := String.ofList text
  if onWords.contains word || offWords.contains word then bool
  else if nullWords.contains word then null
  else if word = "<<" then merge
  else if word = "=" then default
  else if markWords.contains word then unknown
  else if Number.isReal text then float
  else if Number.isInteger text then int
  else if Moment.isPlain text then timestamp
  else str

end Tag

/-- A node of the tree. -/
inductive Node where
  | scalar (tag : Tag) (scalar : Scalar)
  | sequence (tag : Tag) (name : Option String) (items : List Node)
  | mapping (tag : Tag) (name : Option String) (entries : List (Node × Node))
  | loop (name : String)
deriving Repr, Inhabited

namespace Node

/-- A scalar that is not there. -/
def missing : Node :=
  .scalar .null { text := [] }

/-! ## Names of inner nodes -/

mutual

/-- The node of a place, with a name if it is a mapping without one. -/
def namedAt (place : String) : Node → Node
  | mapping tag none entries => mapping tag (some place) (namedEntries place 0 entries)
  | sequence tag name items => sequence tag name (namedItems place 0 items)
  | node => node

/-- Nodes of a sequence at a place, from a number on. -/
def namedItems (place : String) : (number : Nat) → List Node → List Node
  | _, [] => []
  | number, item :: rest =>
      namedAt (place ++ "/" ++ toString number) item :: namedItems place (number + 1) rest

/-- Entries of a mapping at a place, from a number on. -/
def namedEntries (place : String) : (number : Nat) → List (Node × Node) → List (Node × Node)
  | _, [] => []
  | number, (key, value) :: rest =>
      (key, namedAt (place ++ "/" ++ toString number) value)
        :: namedEntries place (number + 1) rest

end

/--
The node of an anchor with names for the mappings inside it.  Such a mapping may come to stand in
several places, too, if another mapping takes it over.  No anchor has a slash in its name.
-/
def spread (anchor : String) : Node → Node
  | mapping tag name entries => mapping tag name (namedEntries anchor 0 entries)
  | sequence tag name items => sequence tag name (namedItems anchor 0 items)
  | node => node

end Node

end TimedText.Yaml
