import TimedText.Yaml.Token

/-!
# Plain scalars

A scalar without quotes.  It ends at a colon that a space follows, at a comment, at a line that is
indented too little, and inside brackets also at a comma or a bracket.  A line break inside it is a
space, and empty lines are line breaks.
-/

namespace TimedText.Yaml.Plain

/-- A character that ends a plain scalar inside brackets. -/
def isFlowMark (char : Char) : Bool :=
  char == ',' || char == '?' || char == '[' || char == ']' || char == '{' || char == '}'

/-- A character that makes the colon before it a mark, inside brackets. -/
def isAfterColon (char : Char) : Bool :=
  char == ',' || char == '[' || char == ']' || char == '{' || char == '}'

/-- The length of the word at the start of a text, inside brackets or not. -/
def wordLength (flow : Bool) : List Char → Nat
  | [] => 0
  | char :: rest =>
      let following := rest.headD '\x00'
      if endsWord char
          || (char == ':' && (endsWord following || (flow && isAfterColon following)))
          || (flow && isFlowMark char) then
        0
      else
        1 + wordLength flow rest

/-- A plain scalar can start here, inside brackets or not. -/
def starts (flow : Bool) (cursor : Cursor) : Bool :=
  let char := cursor.head
  !(endsWord char || "-?:,[]\x7b\x7d#&*!|>'\"%@\x60".toList.contains char)
    || (!endsWord (cursor.peek 1)
      && (char == '-' || (!flow && (char == '?' || char == ':'))))

/-- White space between words: what it stands for, and whether a line ended in it. -/
structure Gap where
  text : List Char
  cursor : Cursor
  broken : Bool

/-- The empty lines after a line break and the start of the next line, until documents part. -/
def emptyLines : (fuel : Nat) → List Char → Cursor → Option (List Char) × Cursor
  | 0, breaks, cursor => (some breaks, cursor)
  | fuel + 1, breaks, cursor =>
      if cursor.head = ' ' then
        emptyLines fuel breaks cursor.next
      else if isBreak cursor.head then
        let after := cursor.next
        if after.atSeparator then (none, after)
        else emptyLines fuel (breaks ++ breakText cursor.head) after
      else
        (some breaks, cursor)

/-- The white space after a word.  It stands for nothing where the scalar is over. -/
def gap (cursor : Cursor) : Gap :=
  let spaces := cursor.span (· == ' ')
  let cursor := cursor.skip spaces.length
  let char := cursor.head
  if isBreak char then
    let after := cursor.next
    if after.atSeparator then
      { text := [], cursor := after, broken := true }
    else
      match emptyLines (after.rest.length + 1) [] after with
      | (none, cursor) => { text := [], cursor, broken := true }
      | (some breaks, cursor) =>
          let first := breakText char
          let text :=
            if first != ['\n'] then first ++ breaks
            else if breaks.isEmpty then [' ']
            else breaks
          { text, cursor, broken := true }
  else
    { text := spaces, cursor, broken := false }

/-- What was read of a scalar: its text, the place after it, and whether a line ended last. -/
structure Progress where
  text : List Char
  cursor : Cursor
  broken : Bool

/-- The words of a scalar from here on, after the white space before them. -/
def words
    (flow : Bool)
    (indent : Int) :
    (fuel : Nat) → (before : List Char) → (broken : Bool) → Cursor → Progress
  | 0, _, broken, cursor => { text := [], cursor, broken }
  | fuel + 1, before, broken, cursor =>
      let length := if cursor.head = '#' then 0 else wordLength flow cursor.rest
      if length = 0 then
        { text := [], cursor, broken }
      else
        let written := before ++ cursor.rest.take length
        let gap := gap (cursor.skip length)
        if gap.text.isEmpty || gap.cursor.head == '#'
            || (!flow && (gap.cursor.column : Int) < indent) then
          { text := written, cursor := gap.cursor, broken := gap.broken }
        else
          let others := words flow indent fuel gap.text gap.broken gap.cursor
          { others with text := written ++ others.text }

/-- A plain scalar, which has to be indented by so many columns. -/
def scan (flow : Bool) (indent : Int) (cursor : Cursor) : Progress :=
  words flow indent (cursor.rest.length + 1) [] false cursor

end TimedText.Yaml.Plain
