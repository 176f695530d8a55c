import TimedText.Text.Numeral

/-!
# JSON

Values, their written form and the reading of any JSON text.

The written form is one line: a comma and a space between items, a colon and a space after a name,
and every character as it stands, apart from quotes, backslashes and the controls below U+0020.
It can be asked for in ASCII, where all that is not visible ASCII is escaped.  Members keep their
order.  Reading accepts every spelling that JSON allows, and reading what was written gives the
value back.
-/

namespace TimedText

/-- A JSON value.  A number written with a fraction or an exponent is `digits · 10 ^ exponent`. -/
inductive Json where
  | null
  | bool (value : Bool)
  | int (value : Int)
  | real (digits : Int) (exponent : Int)
  | str (value : String)
  | arr (items : List Json)
  | obj (members : List (String × Json))
deriving Repr, Inhabited

namespace Json

/-! ## Writing -/

/-- A hexadecimal digit as escapes write it. -/
def escapeDigit (digit : Nat) : Char :=
  if digit < 10 then Char.ofNat (digit + 48) else Char.ofNat (digit + 87)

/-- The escape of sixteen bits: four hexadecimal digits. -/
def escapeUnit (unit : Nat) : List Char :=
  ['\\', 'u', escapeDigit (unit / 4096), escapeDigit (unit / 256 % 16),
    escapeDigit (unit / 16 % 16), escapeDigit (unit % 16)]

/-- The escape of a character by its code: a pair of surrogates above U+FFFF. -/
def escapeCode (code : Nat) : List Char :=
  if code < 0x10000 then
    escapeUnit code
  else
    escapeUnit (0xD800 + (code - 0x10000) / 1024) ++ escapeUnit (0xDC00 + (code - 0x10000) % 1024)

/-- A character inside a written string, which may have to be in ASCII. -/
def escape (ascii : Bool) (char : Char) : List Char :=
  if char = '"' then ['\\', '"']
  else if char = '\\' then ['\\', '\\']
  else if char = '\n' then ['\\', 'n']
  else if char = '\r' then ['\\', 'r']
  else if char = '\t' then ['\\', 't']
  else if char = '\x08' then ['\\', 'b']
  else if char = '\x0c' then ['\\', 'f']
  else if char.toNat < 0x20 ∨ (ascii = true ∧ 0x7E < char.toNat) then escapeCode char.toNat
  else [char]

/-- A written string with its quotes. -/
def quoted (ascii : Bool) (text : List Char) : List Char :=
  '"' :: text.flatMap (escape ascii) ++ ['"']

mutual

/-- The written form of a value. -/
def render (ascii : Bool) : Json → List Char
  | null => ['n', 'u', 'l', 'l']
  | bool true => ['t', 'r', 'u', 'e']
  | bool false => ['f', 'a', 'l', 's', 'e']
  | int value => Text.signedDecimal value
  | real digits exponent => Text.signedDecimal digits ++ 'e' :: Text.signedDecimal exponent
  | str value => quoted ascii value.toList
  | arr items => '[' :: renderItems ascii items ++ [']']
  | obj members => '{' :: renderMembers ascii members ++ ['}']

/-- The written form of the items of an array. -/
def renderItems (ascii : Bool) : List Json → List Char
  | [] => []
  | [item] => render ascii item
  | item :: next :: rest => render ascii item ++ ',' :: ' ' :: renderItems ascii (next :: rest)

/-- The written form of the members of an object. -/
def renderMembers (ascii : Bool) : List (String × Json) → List Char
  | [] => []
  | [(name, value)] => quoted ascii name.toList ++ ':' :: ' ' :: render ascii value
  | (name, value) :: next :: rest =>
      quoted ascii name.toList ++ ':' :: ' ' :: render ascii value
        ++ ',' :: ' ' :: renderMembers ascii (next :: rest)

end

/-- The written form of a value as a string. -/
def text (value : Json) : String :=
  String.ofList (value.render false)

/-! ## Reading -/

/-- The white space of JSON. -/
def isSpace (char : Char) : Bool :=
  char == ' ' || char == '\t' || char == '\n' || char == '\r'

/-- The text without the white space at its start. -/
def skipSpace (text : List Char) : List Char :=
  text.dropWhile isSpace

/-- The value of a hexadecimal digit. -/
def hexDigit? (char : Char) : Option Nat :=
  if '0' ≤ char ∧ char ≤ '9' then some (char.toNat - 48)
  else if 'a' ≤ char ∧ char ≤ 'f' then some (char.toNat - 87)
  else if 'A' ≤ char ∧ char ≤ 'F' then some (char.toNat - 55)
  else none

/-- The number of four hexadecimal digits at the start of a text, and what follows them. -/
def hexUnit? : List Char → Option (Nat × List Char)
  | a :: b :: c :: d :: rest =>
      match hexDigit? a, hexDigit? b, hexDigit? c, hexDigit? d with
      | some a, some b, some c, some d => some (a * 4096 + b * 256 + c * 16 + d, rest)
      | _, _, _, _ => none
  | _ => none

/-- The character of an escape after its backslash, and what follows it. -/
def unescape? : List Char → Option (Char × List Char)
  | '"' :: rest => some ('"', rest)
  | '\\' :: rest => some ('\\', rest)
  | '/' :: rest => some ('/', rest)
  | 'n' :: rest => some ('\n', rest)
  | 'r' :: rest => some ('\r', rest)
  | 't' :: rest => some ('\t', rest)
  | 'b' :: rest => some ('\x08', rest)
  | 'f' :: rest => some ('\x0c', rest)
  | 'u' :: rest =>
      match hexUnit? rest with
      | none => none
      | some (unit, rest) =>
          if unit < 0xD800 ∨ 0xE000 ≤ unit then
            some (Char.ofNat unit, rest)
          else if unit < 0xDC00 then
            match rest with
            | '\\' :: 'u' :: rest =>
                match hexUnit? rest with
                | some (low, rest) =>
                    if 0xDC00 ≤ low ∧ low < 0xE000 then
                      some (Char.ofNat (0x10000 + (unit - 0xD800) * 1024 + (low - 0xDC00)), rest)
                    else
                      none
                | none => none
            | _ => none
          else
            none
  | _ => none

/-- The rest of a string after its opening quote; `fuel` bounds the number of its characters. -/
def readString : (fuel : Nat) → List Char → Option (List Char × List Char)
  | 0, _ => none
  | fuel + 1, text =>
      match text with
      | [] => none
      | '"' :: rest => some ([], rest)
      | '\\' :: rest =>
          match unescape? rest with
          | some (char, rest) =>
              (readString fuel rest).map fun (others, rest) => (char :: others, rest)
          | none => none
      | char :: rest =>
          if char.toNat < 0x20 then none
          else (readString fuel rest).map fun (others, rest) => (char :: others, rest)

/-- The digits of an exponent with its sign, after the letter. -/
def readExponent (text : List Char) : Option (Int × List Char) :=
  let (negative, rest) := Text.splitSign text
  let digits := rest.takeWhile Char.isDigit
  if digits.isEmpty then none
  else some (Text.signed negative (Text.numeralValue digits), rest.dropWhile Char.isDigit)

/-- A number at the start of a text. -/
def readNumber (text : List Char) : Option (Json × List Char) :=
  let negative := text.head? == some '-'
  let unsigned := if negative then text.drop 1 else text
  let whole := unsigned.takeWhile Char.isDigit
  let rest := unsigned.dropWhile Char.isDigit
  if whole.isEmpty || (whole.length != 1 && whole.head? == some '0') then
    none
  else
    let fraction? : Option (List Char × List Char) :=
      match rest with
      | '.' :: rest =>
          let digits := rest.takeWhile Char.isDigit
          if digits.isEmpty then none else some (digits, rest.dropWhile Char.isDigit)
      | _ => some ([], rest)
    match fraction? with
    | none => none
    | some (fraction, rest) =>
        let digits := Text.signed negative (Text.numeralValue (whole ++ fraction))
        match rest with
        | 'e' :: rest =>
            (readExponent rest).map fun (exponent, rest) =>
              (real digits (exponent - fraction.length), rest)
        | 'E' :: rest =>
            (readExponent rest).map fun (exponent, rest) =>
              (real digits (exponent - fraction.length), rest)
        | rest =>
            if fraction.isEmpty then some (int digits, rest)
            else some (real digits (-fraction.length), rest)

/-- What follows a word at the start of a text. -/
def dropWord? : (word text : List Char) → Option (List Char)
  | [], text => some text
  | _ :: _, [] => none
  | letter :: word, char :: text => if char = letter then dropWord? word text else none

mutual

/-- A value at the start of a text; `fuel` bounds the depth and the number of its parts. -/
def readValue : (fuel : Nat) → List Char → Option (Json × List Char)
  | 0, _ => none
  | fuel + 1, text =>
      match skipSpace text with
      | 'n' :: rest => (dropWord? ['u', 'l', 'l'] rest).map fun rest => (null, rest)
      | 't' :: rest => (dropWord? ['r', 'u', 'e'] rest).map fun rest => (bool true, rest)
      | 'f' :: rest => (dropWord? ['a', 'l', 's', 'e'] rest).map fun rest => (bool false, rest)
      | '"' :: rest =>
          (readString (rest.length + 1) rest).map fun (value, rest) =>
            (str (String.ofList value), rest)
      | '[' :: rest =>
          match skipSpace rest with
          | ']' :: rest => some (arr [], rest)
          | rest => (readItems fuel rest).map fun (items, rest) => (arr items, rest)
      | '{' :: rest =>
          match skipSpace rest with
          | '}' :: rest => some (obj [], rest)
          | rest => (readMembers fuel rest).map fun (members, rest) => (obj members, rest)
      | rest => readNumber rest

/-- The items of an array up to its closing bracket. -/
def readItems : (fuel : Nat) → List Char → Option (List Json × List Char)
  | 0, _ => none
  | fuel + 1, text =>
      match readValue fuel text with
      | none => none
      | some (item, rest) =>
          match skipSpace rest with
          | ',' :: rest =>
              (readItems fuel rest).map fun (items, rest) => (item :: items, rest)
          | ']' :: rest => some ([item], rest)
          | _ => none

/-- The members of an object up to its closing brace. -/
def readMembers : (fuel : Nat) → List Char → Option (List (String × Json) × List Char)
  | 0, _ => none
  | fuel + 1, text =>
      match skipSpace text with
      | '"' :: rest =>
          match readString (rest.length + 1) rest with
          | none => none
          | some (name, rest) =>
              match skipSpace rest with
              | ':' :: rest =>
                  match readValue fuel rest with
                  | none => none
                  | some (value, rest) =>
                      match skipSpace rest with
                      | ',' :: rest =>
                          (readMembers fuel rest).map fun (members, rest) =>
                            ((String.ofList name, value) :: members, rest)
                      | '}' :: rest => some ([(String.ofList name, value)], rest)
                      | _ => none
              | _ => none
      | _ => none

end

/-- The value that a whole text stands for. -/
def parse? (text : List Char) : Option Json :=
  match readValue (2 * text.length + 2) text with
  | some (value, rest) => if (skipSpace rest).isEmpty then some value else none
  | none => none

/-- The value of a member of an object. -/
def member? (name : String) : Json → Option Json
  | obj members => members.lookup name
  | _ => none

end Json

end TimedText
