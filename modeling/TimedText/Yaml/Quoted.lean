import TimedText.Yaml.Token

/-!
# Quoted scalars

A scalar in single quotes holds every character as it stands, a single quote being written twice.
One in double quotes knows escapes.  In both a line break is a space, and empty lines are line
breaks; the white space around a line break is dropped.
-/

namespace TimedText.Yaml.Quoted

/-- The character of a short escape. -/
def shortEscape? : Char → Option Char
  | '0' => some '\x00'
  | 'a' => some '\x07'
  | 'b' => some '\x08'
  | 't' => some '\t'
  | '\t' => some '\t'
  | 'n' => some '\n'
  | 'v' => some '\x0b'
  | 'f' => some '\x0c'
  | 'r' => some '\r'
  | 'e' => some '\x1b'
  | ' ' => some ' '
  | '"' => some '"'
  | '\\' => some '\\'
  | '/' => some '/'
  | 'N' => some '\x85'
  | '_' => some '\u00a0'
  | 'L' => some '\u2028'
  | 'P' => some '\u2029'
  | _ => none

/-- The number of digits of a numeric escape. -/
def escapeWidth? : Char → Option Nat
  | 'x' => some 2
  | 'u' => some 4
  | 'U' => some 8
  | _ => none

/-- The value of a hexadecimal digit. -/
def hexDigit? (char : Char) : Option Nat :=
  if '0' ≤ char ∧ char ≤ '9' then some (char.toNat - 48)
  else if 'a' ≤ char ∧ char ≤ 'f' then some (char.toNat - 87)
  else if 'A' ≤ char ∧ char ≤ 'F' then some (char.toNat - 55)
  else none

/-- The number of so many hexadecimal digits. -/
def hexValue? (width : Nat) (text : List Char) : Option Nat :=
  let digits := (text.take width).filterMap hexDigit?
  if digits.length = width then some (digits.foldl (fun value digit => 16 * value + digit) 0)
  else none

/-- The text of a number in an escape, and whether the number is that of no character. -/
def numbered? (code : Nat) : Option (List Char × Bool) :=
  if 0xD800 ≤ code ∧ code < 0xE000 then some (['\uFFFD'], true)
  else if code < 0x110000 then some ([Char.ofNat code], false)
  else none

/-- The empty lines after a line break, up to the next character; documents may not part here. -/
def emptyLines? : (fuel : Nat) → Cursor → Option (List Char × Cursor)
  | 0, _ => none
  | fuel + 1, cursor =>
      if cursor.atSeparator then
        none
      else
        let cursor := cursor.skipWhile isBlank
        if isBreak cursor.head then
          (emptyLines? fuel cursor.next).map fun (breaks, after) =>
            (breakText cursor.head ++ breaks, after)
        else
          some ([], cursor)

/-- What a line break and the empty lines after it stand for. -/
def folded (first breaks : List Char) : List Char :=
  if first != ['\n'] then first ++ breaks
  else if breaks.isEmpty then [' ']
  else breaks

/-- A part of a scalar: its text, whether it is garbled, and the place after it. -/
structure Part where
  text : List Char
  garbled : Bool := false
  cursor : Cursor

/-- White space inside a scalar. -/
def space? (cursor : Cursor) : Option Part :=
  let spaces := cursor.span isBlank
  let after := cursor.skip spaces.length
  if after.head = '\x00' then
    none
  else if isBreak after.head then
    (emptyLines? (after.rest.length + 1) after.next).map fun (breaks, cursor) =>
      { text := folded (breakText after.head) breaks, cursor }
  else
    some { text := spaces, cursor := after }

/-- An escape, the cursor standing after the backslash. -/
def escape? (cursor : Cursor) : Option Part :=
  let char := cursor.head
  match shortEscape? char, escapeWidth? char with
  | some plain, _ => some { text := [plain], cursor := cursor.next }
  | none, some width =>
      ((hexValue? width cursor.next.rest).bind numbered?).map fun (text, garbled) =>
        { text, garbled, cursor := cursor.next.skip width }
  | none, none =>
      if isBreak char then
        (emptyLines? (cursor.rest.length + 1) cursor.next).map fun (text, cursor) =>
          { text, cursor }
      else
        none

/-- The next part of a scalar, none where its closing quote stands. -/
def part? (double : Bool) (cursor : Cursor) : Option (Option Part) :=
  let char := cursor.head
  if double ∧ char = '\\' then
    (escape? cursor.next).map some
  else if !double ∧ char = '\'' ∧ cursor.peek 1 = '\'' then
    some (some { text := ['\''], cursor := cursor.skip 2 })
  else if char = (if double then '"' else '\'') then
    some none
  else if endsWord char then
    (space? cursor).map some
  else
    some (some { text := [char], cursor := cursor.next })

/-- The parts of a scalar up to its closing quote. -/
def parts? (double : Bool) : (fuel : Nat) → Cursor → Option Part
  | 0, _ => none
  | fuel + 1, cursor =>
      match part? double cursor with
      | none => none
      | some none => some { text := [], cursor := cursor.next }
      | some (some first) =>
          (parts? double fuel first.cursor).map fun others =>
            { text := first.text ++ others.text,
              garbled := first.garbled || others.garbled,
              cursor := others.cursor }

/-- A quoted scalar, the cursor standing at its opening quote. -/
def scan? (cursor : Cursor) : Option Part :=
  parts? (cursor.head == '"') (cursor.rest.length + 1) cursor.next

end TimedText.Yaml.Quoted
