import TimedText.Text.LetterCase
import TimedText.Value
import TimedText.Yaml.Binary
import TimedText.Yaml.Node

/-!
# Values of YAML nodes

The tag of a node says what value it stands for.  A node whose tag does not suit it, or whose text
is none of its kind, stands for nothing at all, and neither does a tree with such a node in it.

A mapping takes over the entries of other mappings that are named under a merge key; its own entries
win over those.  A key has to be something that can be told apart from other keys, which collections
cannot.
-/

namespace TimedText.Yaml

namespace Node

/-- The tag of a node. -/
def tag : Node → Tag
  | scalar tag _ => tag
  | sequence tag _ _ => tag
  | mapping tag _ _ => tag
  | loop _ => .map

/-- The name of a node that may stand in several places. -/
def name? : Node → Option String
  | sequence _ name _ => name
  | mapping _ name _ => name
  | scalar _ _ => none
  | loop _ => none

mutual

/-- The number of nodes on the longest way down from a node. -/
def depth : Node → Nat
  | scalar _ _ => 1
  | sequence _ _ items => itemsDepth items + 1
  | mapping _ _ entries => entriesDepth entries + 1
  | loop _ => 1

/-- The greatest depth of some nodes. -/
def itemsDepth : List Node → Nat
  | [] => 0
  | item :: rest => max (depth item) (itemsDepth rest)

/-- The greatest depth of the nodes of some entries. -/
def entriesDepth : List (Node × Node) → Nat
  | [] => 0
  | (key, value) :: rest => max (max (depth key) (depth value)) (entriesDepth rest)

end

mutual

/-- The scalar that a node stands for: itself, or the default entry of a mapping. -/
def scalar? : Node → Option Scalar
  | scalar _ written => some written
  | mapping _ _ entries => default? entries
  | sequence _ _ _ => none
  | loop _ => none

/-- The scalar of the first default entry. -/
def default? : List (Node × Node) → Option Scalar
  | [] => none
  | (key, value) :: rest => if key.tag = .default then scalar? value else default? rest

end

/-! ## Merging -/

/-- A loop back to a node is that node where it no longer stands inside it. -/
def unloop (node : Node) : Node → Node
  | loop name => if node.name? = some name then node else loop name
  | other => other

/-- Entries that leave a node, in which loops back to the node are no loops any more. -/
def leaving (node : Node) (entries : List (Node × Node)) : List (Node × Node) :=
  entries.map fun entry => (entry.1, node.unloop entry.2)

mutual

/-- The entries taken over from a mapping. -/
def takenMapping? : Node → Option (List (Node × Node))
  | mapping tag name entries =>
      (mergedEntries? [] [] entries).map (leaving (mapping tag name entries))
  | loop _ => some []
  | scalar _ _ => none
  | sequence _ _ _ => none

/--
The entries taken over from a mapping, or from the mappings of a sequence, the last one first.
-/
def taken? : Node → Option (List (Node × Node))
  | mapping tag name entries =>
      (mergedEntries? [] [] entries).map (leaving (mapping tag name entries))
  | sequence tag name items => (takenItems? items).map (leaving (sequence tag name items))
  | loop _ => some []
  | scalar _ _ => none

/-- The entries taken over from mappings, those of the last mapping first. -/
def takenItems? : List Node → Option (List (Node × Node))
  | [] => some []
  | item :: rest =>
      match takenMapping? item, takenItems? rest with
      | some entries, some others => some (others ++ entries)
      | _, _ => none

/-- The entries taken over so far and the own entries so far, with those of the rest. -/
def mergedEntries? (taken own : List (Node × Node)) :
    List (Node × Node) → Option (List (Node × Node))
  | [] => some (taken ++ own)
  | (key, value) :: rest =>
      if key.tag = .merge then
        match taken? value with
        | some more => mergedEntries? (taken ++ more) own rest
        | none => none
      else
        mergedEntries? taken (own ++ [(key, value)]) rest

end

/-- The entries of a mapping after merging. -/
def merged? : Node → Option (List (Node × Node))
  | mapping _ _ entries => mergedEntries? [] [] entries
  | loop _ => none
  | scalar _ _ => none
  | sequence _ _ _ => none

end Node

namespace Meaning

/-! ## Scalars -/

/-- The switch of a word, in any letter case. -/
def switch? (text : List Char) : Option Bool :=
  let word := String.ofList (Text.lower text)
  if ["yes", "true", "on"].contains word then some true
  else if ["no", "false", "off"].contains word then some false
  else none

/-- The text of a scalar. -/
def textOf (scalar : Scalar) : Value :=
  if scalar.garbled then .garbledText else .text (String.ofList scalar.text)

/-- The date or the time of a text, which the calendar has to have. -/
def moment? (text : List Char) : Option Value :=
  let text := if text.getLast? = some '\n' then text.dropLast else text
  (Moment.ofText? text).bind fun moment =>
    if moment.isProper then
      some (if moment.time.isNone && moment.full then .date else .moment)
    else
      none

/-! ## Collections -/

/-- The key that a value is. -/
def key? : Value → Option Key
  | .text name => some (.name name)
  | .garbledText => some (.name "\uFFFD")
  | .list _ => none
  | .set => none
  | .mapping _ => none
  | .shared _ _ => none
  | .loop _ => none
  | _ => some .other

/-- The entries with one more; a name that is there already gets the new value. -/
def insert (entries : Entries) (key : Key) (value : Value) : Entries :=
  match key with
  | .name name => entries.put name value
  | .other => entries ++ [(.other, value)]

/-- The entries of the keys and values of nodes; a default key is a text here. -/
def entries?
    (value? : Node → Option Value)
    (entries : Entries) :
    List (Node × Node) → Option Entries
  | [] => some entries
  | (key, value) :: rest =>
      let plainKey :=
        match key with
        | .scalar .default scalar => .scalar .str scalar
        | key => key
      match (value? plainKey).bind key?, value? value with
      | some key, some value => entries? value? (insert entries key value) rest
      | _, _ => none

/-- The value of an item of an ordered mapping, a mapping with one entry. -/
def single? (value? : Node → Option Value) : Node → Option Value
  | .mapping _ _ [(key, value)] =>
      match value? key, value? value with
      | some key, some value => some (.list [key, value])
      | _, _ => none
  | _ => none

/-- The entries of a mapping. -/
def mapping? (value? : Node → Option Value) (node : Node) : Option Entries :=
  node.merged?.bind (entries? value? [])

/-- The mapping of entries, which is shared if its node has a name. -/
def mappingOf (node : Node) (entries : Entries) : Value :=
  match node.name? with
  | some anchor => .shared anchor entries
  | none => .mapping entries

/-- The items of a sequence by a rule for each. -/
def items? (rule : Node → Option Value) : Node → Option Value
  | .sequence _ _ items => (items.mapM rule).map .list
  | _ => none

/-- The value of a node; `fuel` bounds the depth. -/
def value? : (fuel : Nat) → Node → Option Value
  | 0, _ => none
  | _ + 1, .loop anchor => some (.loop anchor)
  | fuel + 1, node =>
      match node.tag with
      | .null => node.scalar?.map fun _ => .null
      | .bool => node.scalar?.bind fun scalar => (switch? scalar.text).map .bool
      | .int => node.scalar?.bind fun scalar => (Number.integer? scalar.text).map .int
      | .float => node.scalar?.bind fun scalar => (Number.real? scalar.text).map .real
      | .binary => node.scalar?.bind fun scalar => (Binary.ofText? scalar.text).map .bytes
      | .str => node.scalar?.map textOf
      | .timestamp =>
          match node with
          | .scalar _ scalar => moment? scalar.text
          | _ => none
      | .seq => items? (value? fuel) node
      | .orderedMap => items? (single? (value? fuel)) node
      | .pairs => items? (single? (value? fuel)) node
      | .map => (mapping? (value? fuel) node).map (mappingOf node)
      | .set => (mapping? (value? fuel) node).map fun _ => .set
      | .merge => none
      | .default => none
      | .unknown => none

end Meaning

/-- The value that a node stands for. -/
def Node.value? (node : Node) : Option Value :=
  Meaning.value? (node.depth + 1) node

end TimedText.Yaml
