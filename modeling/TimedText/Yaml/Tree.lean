import TimedText.Yaml.Layout
import TimedText.Yaml.Node

/-!
# Trees from tokens

The tokens of a text make a tree, or no tree at all if they do not fit together.  A text holds at
most one document; one without a document has no tree.

An anchor gives a name to the node after it, and an alias stands for the node of a name.  While a
node is being read its name is open, and an alias for an open name is a loop.
-/

namespace TimedText.Yaml.Tree

/-- What is known while a tree is read: the tokens left, the names given, and the tag handles. -/
structure State where
  tokens : List Token
  anchors : List (String × Option Node) := []
  handles : List (String × String) := []

/-- A step of reading, which can fail. -/
abbrev Reading := StateT State Option

/-- The next token. -/
def peek : Reading Token := do
  return (← get).tokens.headD .streamEnd

/-- The step over the next token. -/
def advance : Reading Unit :=
  modify fun state => { state with tokens := state.tokens.tail }

/-- The step over the next token, if it is the given one. -/
def accept (token : Token) : Reading Bool := do
  if (← peek) = token then
    advance
    return true
  else
    return false

/-- The step over the next token, which has to be the given one. -/
def expect (token : Token) : Reading Unit := do
  if !(← accept token) then failure

/-- The next token is one of those given. -/
def follows (tokens : List Token) : Reading Bool := do
  return tokens.contains (← peek)

/-! ## Names and tags -/

/-- The anchor of a node, if one is written. -/
def anchor? : Reading (Option String) := do
  match ← peek with
  | .anchor name =>
      advance
      return some name
  | _ => return none

/-- The full name of a tag. -/
def fullTag (handle : Option String) (suffix : String) : Reading String := do
  match handle with
  | none => return suffix
  | some handle =>
      match (← get).handles.lookup handle with
      | some stem => return stem ++ suffix
      | none => failure

/-- The tag of a node, if one is written. -/
def tag? : Reading (Option String) := do
  match ← peek with
  | .tag handle suffix =>
      advance
      return some (← fullTag handle suffix)
  | _ => return none

/-- The anchor and the tag of a node, in either order. -/
def properties : Reading (Option String × Option String) := do
  match ← anchor? with
  | some name => return (some name, ← tag?)
  | none =>
      match ← tag? with
      | some tag => return (← anchor?, some tag)
      | none => return (none, none)

/-- The node of an alias. -/
def aliased (name : String) : Reading Node := do
  match (← get).anchors.lookup name with
  | none => failure
  | some none => return .loop name
  | some (some node) => return node

/-- The name of a node is given for the first time and open from here on. -/
def openName : Option String → Reading Unit
  | none => return ()
  | some name => do
      if ((← get).anchors.lookup name).isSome then failure
      modify fun state => { state with anchors := (name, none) :: state.anchors }

/-- The name of a node stands for it from here on. -/
def closeName (name : Option String) (node : Node) : Reading Node := do
  match name with
  | none => return node
  | some name =>
      let node := node.spread name
      modify fun state => { state with anchors := (name, some node) :: state.anchors }
      return node

/-- A tag that says nothing, or no tag. -/
def isSilent (tag : Option String) : Bool :=
  tag == none || tag == some "!"

/-- The tag of a collection. -/
def collectionTag (tag : Option String) (usual : Tag) : Tag :=
  match tag with
  | none => usual
  | some "!" => usual
  | some name => Tag.ofName name

/-- The tag of a scalar. -/
def scalarTag (tag : Option String) (scalar : Scalar) : Tag :=
  match tag with
  | none => if scalar.plain then Tag.ofPlain scalar.text else .str
  | some "!" => Tag.ofPlain scalar.text
  | some name => Tag.ofName name

/-! ## Nodes -/

/--
Where a node stands: among brackets, in a block, or in a block where dashes need no indentation.
-/
inductive Setting where
  | flow
  | block
  | blockOrDashes
deriving DecidableEq, Repr

/-- Nothing is written where a node could stand: one of the given tokens follows. -/
def absent (tokens : List Token) : Reading Bool :=
  follows tokens

mutual

/-- A node; `fuel` bounds the number of steps down the tree and along it. -/
def node : (fuel : Nat) → Setting → Reading Node
  | 0, _ => failure
  | fuel + 1, setting => do
      match ← peek with
      | .alias name =>
          advance
          aliased name
      | _ =>
          let (name, tag) ← properties
          openName name
          closeName name (← content fuel setting name tag)

/-- What follows the name and the tag of a node. -/
def content : (fuel : Nat) → Setting → Option String → Option String → Reading Node
  | 0, _, _, _ => failure
  | fuel + 1, setting, name, tag => do
      match ← peek with
      | .scalar scalar =>
          advance
          return .scalar (scalarTag tag scalar) scalar
      | .flowSequenceStart =>
          advance
          return .sequence (collectionTag tag .seq) name (← flowItems fuel true)
      | .flowMappingStart =>
          advance
          return .mapping (collectionTag tag .map) name (← flowEntries fuel true)
      | .blockEntry =>
          if setting = .blockOrDashes then
            return .sequence (collectionTag tag .seq) name (← dashes fuel)
          else
            empty name tag
      | .blockSequenceStart =>
          if setting = .flow then
            empty name tag
          else
            advance
            return .sequence (collectionTag tag .seq) name (← blockItems fuel)
      | .blockMappingStart =>
          if setting = .flow then
            empty name tag
          else
            advance
            return .mapping (collectionTag tag .map) name (← blockEntries fuel)
      | _ => empty name tag

/-- Nothing follows the name and the tag of a node, of which there has to be one. -/
def empty (name tag : Option String) : Reading Node := do
  if name.isNone && tag.isNone then failure
  let scalar : Scalar := { text := [], plain := isSilent tag }
  return .scalar (scalarTag tag scalar) scalar

/-- The items of a sequence with dashes that are indented. -/
def blockItems : (fuel : Nat) → Reading (List Node)
  | 0 => failure
  | fuel + 1 => do
      if ← accept .blockEntry then
        let item ←
          if ← absent [.blockEntry, .blockEnd] then pure Node.missing else node fuel .block
        return item :: (← blockItems fuel)
      else
        expect .blockEnd
        return []

/-- The items of a sequence with dashes that are not indented. -/
def dashes : (fuel : Nat) → Reading (List Node)
  | 0 => failure
  | fuel + 1 => do
      if ← accept .blockEntry then
        let item ←
          if ← absent [.blockEntry, .key, .value, .blockEnd] then pure Node.missing
          else node fuel .block
        return item :: (← dashes fuel)
      else
        return []

/-- The entries of a mapping in a block. -/
def blockEntries : (fuel : Nat) → Reading (List (Node × Node))
  | 0 => failure
  | fuel + 1 => do
      if ← accept .key then
        let key ←
          if ← absent [.key, .value, .blockEnd] then pure Node.missing
          else node fuel .blockOrDashes
        let value ← blockValue fuel
        return (key, value) :: (← blockEntries fuel)
      else
        expect .blockEnd
        return []

/-- The value after a key in a block. -/
def blockValue : (fuel : Nat) → Reading Node
  | 0 => failure
  | fuel + 1 => do
      if ← accept .value then
        if ← absent [.key, .value, .blockEnd] then return Node.missing
        else node fuel .blockOrDashes
      else
        return Node.missing

/-- The items of a sequence in brackets; a comma is due before all but the first. -/
def flowItems : (fuel : Nat) → (first : Bool) → Reading (List Node)
  | 0, _ => failure
  | fuel + 1, first => do
      if ← accept .flowSequenceEnd then return []
      if !first then expect .flowEntry
      if ← accept .key then
        let key ←
          if ← absent [.value, .flowEntry, .flowSequenceEnd] then pure Node.missing
          else node fuel .flow
        let value ← flowValue fuel .flowSequenceEnd
        return .mapping .map none [(key, value)] :: (← flowItems fuel false)
      else if ← accept .flowSequenceEnd then
        return []
      else
        let item ← node fuel .flow
        return item :: (← flowItems fuel false)

/-- The entries of a mapping in braces; a comma is due before all but the first. -/
def flowEntries : (fuel : Nat) → (first : Bool) → Reading (List (Node × Node))
  | 0, _ => failure
  | fuel + 1, first => do
      if ← accept .flowMappingEnd then return []
      if !first then expect .flowEntry
      if ← accept .key then
        let key ←
          if ← absent [.value, .flowEntry, .flowMappingEnd] then pure Node.missing
          else node fuel .flow
        let value ← flowValue fuel .flowMappingEnd
        return (key, value) :: (← flowEntries fuel false)
      else if ← accept .flowMappingEnd then
        return []
      else
        let key ← node fuel .flow
        return (key, Node.missing) :: (← flowEntries fuel false)

/-- The value after a key among brackets that the given token closes. -/
def flowValue : (fuel : Nat) → (closing : Token) → Reading Node
  | 0, _ => failure
  | fuel + 1, closing => do
      if ← accept .value then
        if ← absent [.flowEntry, closing] then return Node.missing
        else node fuel .flow
      else
        return Node.missing

end

/-! ## Documents -/

/-- The handles that every document knows. -/
def commonHandles : List (String × String) := [("!", "!"), ("!!", Tag.stem)]

/-- The directives before a document, with the handles that they set. -/
def directives : (fuel : Nat) → (versioned : Bool) → List (String × String) →
    Reading (List (String × String))
  | 0, _, _ => failure
  | fuel + 1, versioned, handles => do
      match ← peek with
      | .versionDirective major =>
          if versioned || major != 1 then failure
          advance
          directives fuel true handles
      | .handleDirective handle stem =>
          if (handles.lookup handle).isSome then failure
          advance
          directives fuel versioned ((handle, stem) :: handles)
      | .unknownDirective =>
          advance
          directives fuel versioned handles
      | _ => return handles

/-- The step over marks for the end of a document. -/
def documentEnds : (fuel : Nat) → Reading Unit
  | 0 => return ()
  | fuel + 1 => do
      if ← accept .documentEnd then documentEnds fuel

/-- A directive follows. -/
def directiveFollows : Reading Bool := do
  match ← peek with
  | .versionDirective _ => return true
  | .handleDirective _ _ => return true
  | .unknownDirective => return true
  | _ => return false

/-- A document after its mark, or without one. -/
def documentContent (fuel : Nat) : Reading Node := do
  if (← directiveFollows) || (← follows [.documentStart, .documentEnd, .streamEnd]) then
    return Node.missing
  else
    node fuel .block

/-- The document of a text, if it holds one. -/
def document (fuel : Nat) : Reading (Option Node) := do
  if (← directiveFollows) || (← follows [.documentStart, .streamEnd]) then
    if ← follows [.streamEnd] then
      return none
    else
      let handles ← directives fuel false []
      modify fun state => { state with handles := handles ++ commonHandles }
      expect .documentStart
      return some (← documentContent fuel)
  else
    modify fun state => { state with handles := commonHandles }
    return some (← node fuel .block)

/-- The document of a text, after which nothing may follow. -/
def onlyDocument (fuel : Nat) : Reading (Option Node) := do
  let root ← document fuel
  documentEnds fuel
  expect .streamEnd
  return root

/-- The steps that suffice for so many tokens. -/
def fuelFor (tokens : List Token) : Nat :=
  4 * tokens.length + 8

/-- The tree of a text, if it holds a document; nothing if its tokens do not fit together. -/
def ofText? (text : List Char) : Option (Option Node) :=
  (tokens? text).bind fun tokens =>
    ((onlyDocument (fuelFor tokens)).run { tokens }).map (·.1)

end TimedText.Yaml.Tree
