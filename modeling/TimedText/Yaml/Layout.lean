import TimedText.Yaml.Block
import TimedText.Yaml.Plain
import TimedText.Yaml.Property

/-!
# Tokens from a text

Walking a text yields its tokens.  Outside brackets, indentation starts and ends block
collections.  A key needs no mark of its own: where a colon follows a token on the same line, the
token turns out to have been a key, and the mark is put before it afterwards.  Until then the
token is a possible key, one for each level of brackets.  A possible key that stands where only a
key can stand has to become one.
-/

namespace TimedText.Yaml

/-- A token that may turn out to be a key. -/
structure PossibleKey where
  tokenIndex : Nat
  required : Bool
  index : Nat
  line : Nat
  column : Nat
deriving DecidableEq, Repr

/-- What is known on the way through a text. -/
structure Layout where
  cursor : Cursor
  tokens : List Token := []
  indent : Int := -1
  outer : List Int := []
  depth : Nat := 0
  keyAllowed : Bool := true
  keys : List (Nat × PossibleKey) := []
deriving DecidableEq, Repr

namespace Layout

/-- Inside brackets. -/
def inFlow (layout : Layout) : Bool :=
  layout.depth != 0

/-- The layout with a token at its end. -/
def emit (layout : Layout) (token : Token) : Layout :=
  { layout with tokens := layout.tokens ++ [token] }

/-- The layout with a token before one that was there already. -/
def insert (layout : Layout) (index : Nat) (token : Token) : Layout :=
  { layout with tokens := layout.tokens.take index ++ token :: layout.tokens.drop index }

/-- The layout at another place. -/
def moveTo (layout : Layout) (cursor : Cursor) : Layout :=
  { layout with cursor }

/-- The layout after so many characters. -/
def skip (layout : Layout) (count : Nat) : Layout :=
  layout.moveTo (layout.cursor.skip count)

/-- The layout in which a key may follow, or not. -/
def allowKey (layout : Layout) (allowed : Bool) : Layout :=
  { layout with keyAllowed := allowed }

/-! ## Possible keys -/

/-- The most characters that a key without a mark may take. -/
def keyLimit : Nat := 1024

/-- A possible key that the colon can no longer follow. -/
def isStale (cursor : Cursor) (key : PossibleKey) : Bool :=
  key.line != cursor.line || keyLimit < cursor.index - key.index

/-- The layout without the possible keys that are too old; a required one must not be. -/
def dropStale? (layout : Layout) : Option Layout :=
  if layout.keys.any fun entry => isStale layout.cursor entry.2 && entry.2.required then none
  else
    some
      { layout with keys := layout.keys.filter fun entry => !isStale layout.cursor entry.2 }

/-- The possible key of this level of brackets. -/
def key? (layout : Layout) : Option PossibleKey :=
  layout.keys.lookup layout.depth

/-- The layout without the possible key of this level, whatever it is. -/
def forgetKey (layout : Layout) : Layout :=
  { layout with keys := layout.keys.filter fun entry => entry.1 != layout.depth }

/-- The layout without the possible key of this level, which must not be required. -/
def dropKey? (layout : Layout) : Option Layout :=
  match layout.key? with
  | some key => if key.required then none else some layout.forgetKey
  | none => some layout

/-- The layout in which the next token is a possible key, where a key may follow. -/
def markKey? (layout : Layout) : Option Layout :=
  if layout.keyAllowed then
    layout.dropKey?.map fun layout =>
      let key : PossibleKey :=
        { tokenIndex := layout.tokens.length,
          required := !layout.inFlow && layout.indent == layout.cursor.column,
          index := layout.cursor.index,
          line := layout.cursor.line,
          column := layout.cursor.column }
      { layout with keys := (layout.depth, key) :: layout.keys }
  else
    some layout

/-! ## Indentation -/

/-- The outer indentations after block collections end down to a column, and how many end. -/
def unwindTo (column : Int) : (indent : Int) → List Int → Nat × Int × List Int
  | indent, [] => (0, indent, [])
  | indent, next :: outer =>
      if column < indent then
        let (count, indent, outer) := unwindTo column next outer
        (count + 1, indent, outer)
      else
        (0, indent, next :: outer)

/-- The layout after block collections end that are indented beyond a column. -/
def unwind (layout : Layout) (column : Int) : Layout :=
  if layout.inFlow then
    layout
  else
    let (count, indent, outer) := unwindTo column layout.indent layout.outer
    { layout with
      tokens := layout.tokens ++ List.replicate count .blockEnd,
      indent,
      outer }

/-- The layout with a new indentation, and whether it is deeper than the one before. -/
def indentTo (layout : Layout) (column : Nat) : Layout × Bool :=
  if layout.indent < column then
    ({ layout with indent := column, outer := layout.indent :: layout.outer }, true)
  else
    (layout, false)

/-- The layout with a block collection that starts here, if it is indented deeper. -/
def openBlock (layout : Layout) (token : Token) : Layout :=
  let (deeper, changed) := layout.indentTo layout.cursor.column
  if changed then deeper.emit token else layout

/-! ## White space -/

/-- The place of the next token, and whether a line ended on the way to it. -/
def toToken : (fuel : Nat) → Cursor → Cursor × Bool
  | 0, cursor => (cursor, false)
  | fuel + 1, cursor =>
      let cursor := cursor.skipComment
      if isBreak cursor.head then ((toToken fuel cursor.next).1, true) else (cursor, false)

/-- The layout before the next token.  After a line break a key may follow. -/
def advance (layout : Layout) : Layout :=
  let start :=
    if layout.cursor.index = 0 ∧ layout.cursor.head = byteOrderMark then layout.cursor.next
    else layout.cursor
  let (cursor, broken) := toToken (start.rest.length + 1) start
  { layout with cursor, keyAllowed := layout.keyAllowed || (broken && !layout.inFlow) }

/-! ## Tokens -/

/-- The end of the text. -/
def finish? (layout : Layout) : Option Layout :=
  (layout.unwind (-1)).dropKey?.map fun layout => layout.emit .streamEnd

/-- A directive. -/
def directive? (layout : Layout) : Option Layout :=
  (layout.unwind (-1)).dropKey?.bind fun layout =>
    (Property.directive? layout.cursor).map fun (token, after) =>
      ((layout.allowKey false).moveTo after).emit token

/-- Three characters that part documents. -/
def separator? (layout : Layout) (token : Token) : Option Layout :=
  (layout.unwind (-1)).dropKey?.map fun layout =>
    ((layout.allowKey false).skip 3).emit token

/-- An opening bracket. -/
def openFlow? (layout : Layout) (token : Token) : Option Layout :=
  layout.markKey?.map fun layout =>
    (({ layout with depth := layout.depth + 1 }.allowKey true).skip 1).emit token

/-- A closing bracket. -/
def closeFlow? (layout : Layout) (token : Token) : Option Layout :=
  layout.dropKey?.map fun layout =>
    (({ layout with depth := layout.depth - 1 }.allowKey false).skip 1).emit token

/-- A comma. -/
def flowEntry? (layout : Layout) : Option Layout :=
  (layout.allowKey true).dropKey?.map fun layout => (layout.skip 1).emit .flowEntry

/-- The layout before a mark that may start a block collection, where such a mark is allowed. -/
def blockMark? (layout : Layout) (opening : Token) : Option Layout :=
  if layout.inFlow then some layout
  else if layout.keyAllowed then some (layout.openBlock opening)
  else none

/-- The dash of a sequence. -/
def blockEntry? (layout : Layout) : Option Layout :=
  (layout.blockMark? .blockSequenceStart).bind fun layout =>
    (layout.allowKey true).dropKey?.map fun layout => (layout.skip 1).emit .blockEntry

/-- The question mark of a key. -/
def keyMark? (layout : Layout) : Option Layout :=
  (layout.blockMark? .blockMappingStart).bind fun layout =>
    (layout.allowKey !layout.inFlow).dropKey?.map fun layout => (layout.skip 1).emit .key

/-- The layout in which a possible key has become one. -/
def acceptKey (layout : Layout) (key : PossibleKey) : Layout :=
  let marked := layout.forgetKey.insert key.tokenIndex .key
  let (deeper, changed) := marked.indentTo key.column
  let opened :=
    if !layout.inFlow && changed then deeper.insert key.tokenIndex .blockMappingStart else marked
  opened.allowKey false

/-- The colon of a value. -/
def valueMark? (layout : Layout) : Option Layout :=
  let ready :=
    match layout.key? with
    | some key => some (layout.acceptKey key)
    | none =>
        (layout.blockMark? .blockMappingStart).bind fun layout =>
          (layout.allowKey !layout.inFlow).dropKey?
  ready.map fun layout => (layout.skip 1).emit .value

/-- An alias or an anchor. -/
def anchor? (layout : Layout) (token : String → Token) : Option Layout :=
  layout.markKey?.bind fun layout =>
    (Property.anchor? layout.cursor).map fun (name, after) =>
      ((layout.allowKey false).moveTo after).emit (token name)

/-- A tag. -/
def tag? (layout : Layout) : Option Layout :=
  layout.markKey?.bind fun layout =>
    (Property.tag? layout.cursor).map fun (token, after) =>
      ((layout.allowKey false).moveTo after).emit token

/-- A block scalar. -/
def blockScalar? (layout : Layout) : Option Layout :=
  (layout.allowKey true).dropKey?.bind fun layout =>
    (Block.scan? layout.indent layout.cursor).map fun (text, after) =>
      (layout.moveTo after).emit (.scalar { text })

/-- A quoted scalar. -/
def quotedScalar? (layout : Layout) : Option Layout :=
  layout.markKey?.bind fun layout =>
    (Quoted.scan? layout.cursor).map fun part =>
      ((layout.allowKey false).moveTo part.cursor).emit
        (.scalar { text := part.text, garbled := part.garbled })

/-- A plain scalar.  A key may follow it if it ended with a line. -/
def plainScalar? (layout : Layout) : Option Layout :=
  layout.markKey?.map fun layout =>
    let scalar := Plain.scan layout.inFlow (layout.indent + 1) layout.cursor
    ((layout.allowKey scalar.broken).moveTo scalar.cursor).emit
      (.scalar { text := scalar.text, plain := true })

/-- A mark that a word may not continue, except inside brackets. -/
def isMark (layout : Layout) : Bool :=
  layout.inFlow || endsWord (layout.cursor.peek 1)

/-- The layout after the next token, the cursor standing at it. -/
def token? (layout : Layout) : Option Layout :=
  let cursor := layout.cursor
  let atStart := cursor.column == 0
  match cursor.head with
  | '\x00' => layout.finish?
  | '%' => if atStart then layout.directive? else none
  | '[' => layout.openFlow? .flowSequenceStart
  | '{' => layout.openFlow? .flowMappingStart
  | ']' => layout.closeFlow? .flowSequenceEnd
  | '}' => layout.closeFlow? .flowMappingEnd
  | ',' => layout.flowEntry?
  | '*' => layout.anchor? .alias
  | '&' => layout.anchor? .anchor
  | '!' => layout.tag?
  | '\'' => layout.quotedScalar?
  | '"' => layout.quotedScalar?
  | char =>
      if atStart ∧ cursor.atSeparator then
        layout.separator? (if char = '-' then .documentStart else .documentEnd)
      else if char = '-' ∧ endsWord (cursor.peek 1) then
        layout.blockEntry?
      else if char = '?' ∧ layout.isMark then
        layout.keyMark?
      else if char = ':' ∧ layout.isMark then
        layout.valueMark?
      else if (char = '|' ∨ char = '>') ∧ !layout.inFlow then
        layout.blockScalar?
      else if Plain.starts layout.inFlow cursor then
        layout.plainScalar?
      else
        none

/-- The tokens from here on, together with those before. -/
def run? : (fuel : Nat) → Layout → Option (List Token)
  | 0, _ => none
  | fuel + 1, layout =>
      layout.advance.dropStale?.bind fun layout =>
        let layout := layout.unwind layout.cursor.column
        if layout.cursor.head = '\x00' then layout.finish?.map (·.tokens)
        else layout.token?.bind (run? fuel)

end Layout

/-- The tokens of a text. -/
def tokens? (text : List Char) : Option (List Token) :=
  Layout.run? (text.length + 1) { cursor := { rest := text } }

end TimedText.Yaml
