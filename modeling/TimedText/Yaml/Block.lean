import TimedText.Yaml.Token

/-!
# Block scalars

A scalar of whole lines below its header.  The header tells whether lines are kept or folded into
each other, what becomes of the line breaks at the end, and how far the lines are indented;
without a number the first line that is not empty tells the indentation.
-/

namespace TimedText.Yaml.Block

/-- What becomes of the line breaks at the end. -/
inductive Chomping where
  | clip
  | strip
  | keep
deriving DecidableEq, Repr

/-- What the header of a block scalar says. -/
structure Header where
  chomping : Chomping := .clip
  increment : Option Nat := none
deriving DecidableEq, Repr

/-- The chomping that a character asks for. -/
def chomping? : Char → Option Chomping
  | '+' => some .keep
  | '-' => some .strip
  | _ => none

/-- The indentation at the start of a text; zero is refused. -/
def increment? (cursor : Cursor) : Option (Option Nat × Cursor) :=
  if cursor.head.isDigit then
    let number := cursor.head.toNat - 48
    if number = 0 then none else some (some number, cursor.next)
  else
    some (none, cursor)

/-- The indicators of a header, in either order. -/
def indicators? (cursor : Cursor) : Option (Header × Cursor) :=
  match chomping? cursor.head with
  | some chomping =>
      (increment? cursor.next).map fun (increment, after) => ({ chomping, increment }, after)
  | none =>
      match increment? cursor with
      | none => none
      | some (none, after) => some ({}, after)
      | some (increment, after) =>
          match chomping? after.head with
          | some chomping => some ({ chomping, increment }, after.next)
          | none => some ({ increment }, after)

/-- The header of a block scalar and the place after its line. -/
def header? (cursor : Cursor) : Option (Header × Cursor) :=
  match indicators? cursor with
  | none => none
  | some (header, after) =>
      if after.head = ' ' ∨ endsLine after.head then
        after.skipRestOfLine?.map fun start => (header, start)
      else
        none

/-- The place after spaces up to a column. -/
def skipIndent (indent : Nat) (cursor : Cursor) : Cursor :=
  cursor.skip (min (indent - cursor.column) (cursor.span (· == ' ')).length)

/-- The empty lines before a line that is indented up to a column. -/
def emptyLines (indent : Nat) : (fuel : Nat) → Cursor → List Char × Cursor
  | 0, cursor => ([], cursor)
  | fuel + 1, cursor =>
      let cursor := skipIndent indent cursor
      if isBreak cursor.head then
        let (breaks, after) := emptyLines indent fuel cursor.next
        (breakText cursor.head ++ breaks, after)
      else
        ([], cursor)

/-- The empty lines at the start, the greatest column among them, and the place after them. -/
def leadingLines : (fuel : Nat) → (widest : Nat) → Cursor → List Char × Nat × Cursor
  | 0, widest, cursor => ([], widest, cursor)
  | fuel + 1, widest, cursor =>
      if cursor.head = ' ' then
        leadingLines fuel (max widest cursor.next.column) cursor.next
      else if isBreak cursor.head then
        let (breaks, widest, after) := leadingLines fuel widest cursor.next
        (breakText cursor.head ++ breaks, widest, after)
      else
        ([], widest, cursor)

/-- The lines of a scalar, without the breaks at its end, and those breaks. -/
structure Lines where
  text : List Char
  lastBreak : List Char
  breaks : List Char
  cursor : Cursor

/-- What stands between two lines: the break of the first and the empty lines after it. -/
def between
    (folding leadingText : Bool)
    (lineBreak breaks : List Char)
    (following : Char) :
    List Char :=
  if folding && lineBreak == ['\n'] && leadingText && !isBlank following then
    (if breaks.isEmpty then [' '] else breaks)
  else
    lineBreak ++ breaks

/-- The lines of a scalar that are indented by so many columns. -/
def lines (folding : Bool) (indent : Nat) : (fuel : Nat) → Cursor → Lines
  | 0, cursor => { text := [], lastBreak := [], breaks := [], cursor }
  | fuel + 1, cursor =>
      let line := cursor.span (!endsLine ·)
      let ending := cursor.skip line.length
      let lineBreak := if isBreak ending.head then breakText ending.head else []
      let (breaks, after) := emptyLines indent (ending.rest.length + 1) ending.skipBreak
      if after.column = indent ∧ after.head ≠ '\x00' then
        let others := lines folding indent fuel after
        { others with
          text :=
            line ++ between folding (!isBlank cursor.head) lineBreak breaks after.head
              ++ others.text }
      else
        { text := line, lastBreak := lineBreak, breaks, cursor := after }

/-- The end of a scalar as its header asks for it. -/
def ending (chomping : Chomping) (lastBreak breaks : List Char) : List Char :=
  match chomping with
  | .clip => lastBreak
  | .strip => []
  | .keep => lastBreak ++ breaks

/-- A block scalar, the cursor standing at its indicator, below lines indented so far. -/
def scan? (indent : Int) (cursor : Cursor) : Option (List Char × Cursor) :=
  let folding := cursor.head == '>'
  match header? cursor.next with
  | none => none
  | some (header, start) =>
      let least := max (indent + 1) 1 |>.toNat
      let fuel := start.rest.length + 1
      let (breaks, column, first) := match header.increment with
        | none =>
            let (breaks, widest, first) := leadingLines fuel 0 start
            (breaks, max least widest, first)
        | some increment =>
            let column := least + increment - 1
            let (breaks, first) := emptyLines column fuel start
            (breaks, column, first)
      if first.column = column ∧ first.head ≠ '\x00' then
        let lines := lines folding column (first.rest.length + 1) first
        some
          ( breaks ++ lines.text ++ ending header.chomping lines.lastBreak lines.breaks,
            lines.cursor )
      else
        some (ending header.chomping [] breaks, first)

end TimedText.Yaml.Block
