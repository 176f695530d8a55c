import TimedText.Yaml.Quoted

/-!
# Names, tags and directives

The parts of a YAML text that name things: anchors and aliases, tags with their handles, and the
directives before a document.
-/

namespace TimedText.Yaml.Property

/-- The characters that may follow an anchor or an alias. -/
def endsAnchor (char : Char) : Bool :=
  endsWord char || "?:,]\x7d%@\x60".toList.contains char

/-- The name of an anchor or an alias, the cursor standing before its mark. -/
def anchor? (cursor : Cursor) : Option (String × Cursor) :=
  let start := cursor.next
  let name := start.span isNameChar
  let after := start.skip name.length
  if name.isEmpty || !endsAnchor after.head then none else some (String.ofList name, after)

/-! ## Tags -/

/-- A character of a tag. -/
def isTagChar (char : Char) : Bool :=
  char.isAlphanum || "-;/?:@&=+$,_.!~*'()[]%".toList.contains char

/-- The bytes of escapes at the start of a text, and the number of characters that they take. -/
def escapedBytes? : List Char → Option (List UInt8 × Nat)
  | '%' :: first :: second :: rest =>
      match Quoted.hexValue? 2 [first, second] with
      | none => none
      | some value =>
          (escapedBytes? rest).map fun (bytes, length) => (UInt8.ofNat value :: bytes, length + 3)
  | '%' :: _ => none
  | _ => some ([], 0)

/-- The characters of a tag up to the first one that belongs to no tag. -/
def tagChars? : (fuel : Nat) → Cursor → Option (List Char × Cursor)
  | 0, _ => none
  | fuel + 1, cursor =>
      if cursor.head = '%' then
        match escapedBytes? cursor.rest with
        | none => none
        | some (bytes, length) =>
            match Encoding.Utf8.decode? bytes with
            | .error _ => none
            | .ok text =>
                (tagChars? fuel (cursor.skip length)).map fun (others, after) =>
                  (text ++ others, after)
      else if isTagChar cursor.head then
        (tagChars? fuel cursor.next).map fun (others, after) => (cursor.head :: others, after)
      else
        some ([], cursor)

/-- A tag that has at least one character. -/
def tagText? (cursor : Cursor) : Option (String × Cursor) :=
  match tagChars? (cursor.rest.length + 1) cursor with
  | none => none
  | some (text, after) =>
      if after.index = cursor.index then none else some (String.ofList text, after)

/-- A handle: an exclamation mark, or a name between two of them. -/
def handle? (cursor : Cursor) : Option (String × Cursor) :=
  if cursor.head ≠ '!' then
    none
  else if cursor.peek 1 = ' ' then
    some ("!", cursor.next)
  else
    let name := cursor.next.span isNameChar
    let after := cursor.next.skip name.length
    if after.head = '!' then some (String.ofList ('!' :: name ++ ['!']), after.next) else none

/-- The tag has a handle with a second exclamation mark. -/
def hasHandle (cursor : Cursor) : Bool :=
  (cursor.next.span fun char => !(char == ' ' || endsLine char)).contains '!'

/-- The handle and the rest of a tag, the cursor standing before it. -/
def tagParts? (cursor : Cursor) : Option ((Option String × String) × Cursor) :=
  if cursor.peek 1 = '<' then
    (tagText? (cursor.skip 2)).bind fun (text, after) =>
      if after.head = '>' then some ((none, text), after.next) else none
  else if endsWord (cursor.peek 1) then
    some ((none, "!"), cursor.next)
  else if hasHandle cursor then
    (handle? cursor).bind fun (handle, after) =>
      (tagText? after).map fun (text, after) => ((some handle, text), after)
  else
    (tagText? cursor.next).map fun (text, after) => ((some "!", text), after)

/-- A tag, which a space or the end of the line has to follow. -/
def tag? (cursor : Cursor) : Option (Token × Cursor) :=
  (tagParts? cursor).bind fun ((handle, suffix), after) =>
    if after.head = ' ' ∨ endsLine after.head then some (.tag handle suffix, after) else none

/-! ## Directives -/

/-- A number of a version. -/
def versionPart? (cursor : Cursor) : Option (Nat × Cursor) :=
  let digits := cursor.span Char.isDigit
  if digits.isEmpty then none
  else
    some
      ( digits.foldl (fun value digit => 10 * value + (digit.toNat - 48)) 0,
        cursor.skip digits.length )

/-- The version that a directive asks for. -/
def version? (cursor : Cursor) : Option (Token × Cursor) :=
  (versionPart? (cursor.skipWhile (· == ' '))).bind fun (major, after) =>
    if after.head = '.' then
      (versionPart? after.next).bind fun (_, after) =>
        if after.head = ' ' ∨ endsLine after.head then some (.versionDirective major, after)
        else none
    else
      none

/-- The handle that a directive sets, and what it stands for. -/
def handleSetting? (cursor : Cursor) : Option (Token × Cursor) :=
  (handle? (cursor.skipWhile (· == ' '))).bind fun (handle, after) =>
    if after.head = ' ' then
      (tagText? (after.skipWhile (· == ' '))).bind fun (stem, after) =>
        if after.head = ' ' ∨ endsLine after.head then some (.handleDirective handle stem, after)
        else none
    else
      none

/-- A directive with its line, the cursor standing before it. -/
def directive? (cursor : Cursor) : Option (Token × Cursor) :=
  let name := cursor.next.span isNameChar
  let after := cursor.next.skip name.length
  if name.isEmpty || !(after.head == ' ' || endsLine after.head) then
    none
  else
    let content :=
      if name = "YAML".toList then version? after
      else if name = "TAG".toList then handleSetting? after
      else some (.unknownDirective, after.skipWhile (!endsLine ·))
    content.bind fun (token, after) => after.skipRestOfLine?.map fun next => (token, next)

end TimedText.Yaml.Property
