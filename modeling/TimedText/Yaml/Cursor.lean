import TimedText.Encoding.Utf8

/-!
# Places in a YAML text

A YAML text is walked from its start to its end.  A cursor is a place in it: the characters that
follow, and the place counted in characters, in lines and in columns.  At the end a cursor sees NUL
characters, which a text itself cannot hold.
-/

namespace TimedText.Yaml

/-! ## Characters -/

/-- A character that ends a line. -/
def isBreak (char : Char) : Bool :=
  char == '\n' || char == '\x85' || char == '\u2028' || char == '\u2029'

/-- What a line break stands for in a text. -/
def breakText (char : Char) : List Char :=
  if char = '\u2028' ∨ char = '\u2029' then [char] else ['\n']

/-- The end of a line or of the text. -/
def endsLine (char : Char) : Bool :=
  char == '\x00' || isBreak char

/-- The end of a word: white space, or the end of a line or of the text. -/
def endsWord (char : Char) : Bool :=
  char == ' ' || char == '\t' || endsLine char

/-- A space or a tab. -/
def isBlank (char : Char) : Bool :=
  char == ' ' || char == '\t'

/-- A character of the names of anchors, directives and tag handles. -/
def isNameChar (char : Char) : Bool :=
  char.isAlphanum || char == '-' || char == '_'

/-- The mark that may stand before a text. -/
def byteOrderMark : Char := '\uFEFF'

/-- A character that may stand in a text. -/
def isPrintable (char : Char) : Bool :=
  let code := char.toNat
  code == 0x09 || code == 0x0A || code == 0x0D || (0x20 ≤ code && code ≤ 0x7E) || code == 0x85
    || (0xA0 ≤ code && code ≤ 0xFFFD) || 0x10000 ≤ code

/-! ## Texts -/

/-- The text with one line feed for every carriage return, with or without a line feed after it. -/
def unifyBreaks : List Char → List Char
  | '\r' :: '\n' :: rest => '\n' :: unifyBreaks rest
  | '\r' :: rest => '\n' :: unifyBreaks rest
  | char :: rest => char :: unifyBreaks rest
  | [] => []

/-- The text of a file, if it is UTF-8 and every character of it may stand in a text. -/
def sourceText? (bytes : List UInt8) : Option (List Char) :=
  match Encoding.Utf8.decode? bytes with
  | .ok text => if text.all isPrintable then some (unifyBreaks text) else none
  | .error _ => none

/-! ## Cursors -/

/-- A place in a text and the characters that follow it. -/
structure Cursor where
  rest : List Char
  index : Nat := 0
  line : Nat := 0
  column : Nat := 0
deriving DecidableEq, Repr

namespace Cursor

/-- The character that follows after so many others, NUL beyond the end. -/
def peek (cursor : Cursor) (ahead : Nat) : Char :=
  cursor.rest.getD ahead '\x00'

/-- The character that follows, NUL at the end. -/
def head (cursor : Cursor) : Char :=
  cursor.peek 0

/-- The place after the next character.  A byte order mark takes up no column. -/
def next (cursor : Cursor) : Cursor :=
  match cursor.rest with
  | [] => cursor
  | char :: rest =>
      if isBreak char then
        { rest, index := cursor.index + 1, line := cursor.line + 1, column := 0 }
      else
        { rest,
          index := cursor.index + 1,
          line := cursor.line,
          column := if char = byteOrderMark then cursor.column else cursor.column + 1 }

/-- The place after so many characters. -/
def skip (cursor : Cursor) : Nat → Cursor
  | 0 => cursor
  | count + 1 => cursor.next.skip count

/-- The characters up to the first one that a test refuses. -/
def span (cursor : Cursor) (test : Char → Bool) : List Char :=
  cursor.rest.takeWhile test

/-- The place before the first character that a test refuses. -/
def skipWhile (cursor : Cursor) (test : Char → Bool) : Cursor :=
  cursor.skip (cursor.span test).length

/-- The place after a line break, if one follows. -/
def skipBreak (cursor : Cursor) : Cursor :=
  if isBreak cursor.head then cursor.next else cursor

/-- The place after spaces and a comment, before the end of the line. -/
def skipComment (cursor : Cursor) : Cursor :=
  let cursor := cursor.skipWhile (· == ' ')
  if cursor.head = '#' then cursor.skipWhile (!endsLine ·) else cursor

/-- The place after spaces, a comment and the end of the line, with nothing else before it. -/
def skipRestOfLine? (cursor : Cursor) : Option Cursor :=
  let cursor := cursor.skipComment
  if endsLine cursor.head then some cursor.skipBreak else none

/-- Three characters that part documents follow. -/
def atSeparator (cursor : Cursor) : Bool :=
  (['-', '-', '-'].isPrefixOf cursor.rest || ['.', '.', '.'].isPrefixOf cursor.rest)
    && endsWord (cursor.peek 3)

end Cursor

end TimedText.Yaml
