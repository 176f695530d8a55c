import TimedText.Text.Numeral

/-!
# Templates of log lines

A template is a text with directives, each of which starts with a percent sign.  A directive names
a field in brackets, and may give a width and a greatest length before the letter at its end; two
percent signs stand for one.  A template with a directive of any other form, or with the name of a
field that is not there, cannot be filled in.
-/

namespace TimedText.Log.Template

/-- A directive after its percent sign. -/
structure Directive where
  key : Option String := none
  left : Bool := false
  width : Nat := 0
  limit : Option Nat := none
  letter : Char
deriving DecidableEq, Repr

/--
The name of a field up to its closing bracket, with so many further brackets open, and the rest.
-/
def key? : (depth : Nat) → List Char → Option (List Char × List Char)
  | _, [] => none
  | 0, ')' :: rest => some ([], rest)
  | depth + 1, ')' :: rest => (key? depth rest).map fun (key, rest) => (')' :: key, rest)
  | depth, '(' :: rest => (key? (depth + 1) rest).map fun (key, rest) => ('(' :: key, rest)
  | depth, char :: rest => (key? depth rest).map fun (key, rest) => (char :: key, rest)

/-- The name of a field, if a directive has one, and the rest. -/
def readKey? : List Char → Option (Option String × List Char)
  | '(' :: rest => (key? 0 rest).map fun (key, rest) => (some (String.ofList key), rest)
  | rest => some (none, rest)

/-- A sign that says how a field is to be shown. -/
def isFlag (char : Char) : Bool :=
  char == '-' || char == '+' || char == ' ' || char == '#' || char == '0'

/-- The greatest length in a directive, if it has one, and the rest. -/
def readLimit : List Char → Option Nat × List Char
  | '.' :: rest =>
      (some (Text.numeralValue (rest.takeWhile Char.isDigit)), rest.dropWhile Char.isDigit)
  | rest => (none, rest)

/-- The letter of a directive, before which the letter of a size may stand, and the rest. -/
def readLetter? : List Char → Option (Char × List Char)
  | [] => none
  | char :: rest =>
      if char = 'h' ∨ char = 'l' ∨ char = 'L' then
        match rest with
        | [] => none
        | letter :: rest => some (letter, rest)
      else
        some (char, rest)

/-- The directive after a percent sign, and what follows it. -/
def read? (text : List Char) : Option (Directive × List Char) :=
  (readKey? text).bind fun (key, rest) =>
    let flags := rest.takeWhile isFlag
    let sized := rest.dropWhile isFlag
    let width := Text.numeralValue (sized.takeWhile Char.isDigit)
    let (limit, rest) := readLimit (sized.dropWhile Char.isDigit)
    (readLetter? rest).map fun (letter, rest) =>
      ({ key, left := flags.contains '-', width, limit, letter }, rest)

/-- A text with spaces up to a width, after it or before it. -/
def justified (left : Bool) (width : Nat) (text : List Char) : List Char :=
  let spaces := List.replicate (width - text.length) ' '
  if left then text ++ spaces else spaces ++ text

/-- What a directive shows of the fields. -/
def Directive.shown?
    (field? : String → Option String)
    (directive : Directive) :
    Option (List Char) :=
  match directive.key with
  | none => if directive.letter = '%' then some ['%'] else none
  | some key =>
      match field? key with
      | none => none
      | some value =>
          if directive.letter = '%' then some ['%']
          else if directive.letter = 's' then
            let text := value.toList
            let cut := text.take (directive.limit.getD text.length)
            some (justified directive.left directive.width cut)
          else none

/-- A template with its fields filled in; `fuel` bounds the number of steps along it. -/
def filledWithin?
    (field? : String → Option String) :
    (fuel : Nat) → List Char → Option (List Char)
  | _, [] => some []
  | 0, _ :: _ => none
  | fuel + 1, '%' :: rest =>
      match read? rest with
      | none => none
      | some (directive, rest) =>
          match directive.shown? field?, filledWithin? field? fuel rest with
          | some shown, some others => some (shown ++ others)
          | _, _ => none
  | fuel + 1, char :: rest => (filledWithin? field? fuel rest).map (char :: ·)

/-- A template with its fields filled in. -/
def filled? (field? : String → Option String) (template : List Char) : Option (List Char) :=
  filledWithin? field? template.length template

end TimedText.Log.Template
