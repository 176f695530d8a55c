import TimedText.Text.Digit

/-!
# Words of a command line

A command line is a list of words.  A word that starts with a dash is an option, unless it looks
like a negative number or holds a space; the name of an option may be cut short as long as no
other option starts like that, and a value may be attached to it after an equals sign.  All other
words are arguments.  Two dashes alone end the options: every word after them is an argument.
-/

namespace TimedText.CommandLine

/-- What an option is about. -/
inductive Key where
  | help
  | config
  | encoding
  | codec
  | align
  | noDetection
  | plain
  | lines
  | duration
  | output
  | exportTo
  | watch
  | listEncodings
deriving DecidableEq, Repr

namespace Key

/-- The names of options. -/
def names : List (String × Key) :=
  [ ("-h", help), ("--help", help), ("--config", config), ("--encoding", encoding),
    ("--codec", codec), ("--align", align), ("--no-autodetect-utf8", noDetection),
    ("--plain", plain), ("--lines", lines), ("--duration-ms", duration), ("--output", output),
    ("--export", exportTo), ("--watch", watch), ("--list-encodings", listEncodings) ]

/-- An option with a value, as against a switch. -/
def hasValue : Key → Bool
  | config => true
  | encoding => true
  | codec => true
  | align => true
  | duration => true
  | output => true
  | exportTo => true
  | _ => false

end Key

/--
A word: an option, perhaps with a value attached; the short option for help with further letters
after it; an option that there is not; an argument; or the end of the options.
-/
inductive Word where
  | option (key : Key) (attached : Option String)
  | shortHelp (letters : List Char)
  | unknown
  | argument (text : String)
  | separator
deriving DecidableEq, Repr

namespace Word

/-- The two dashes that end the options. -/
def separatorText : String := "--"

/--
The text of a negative number: a dash, and digits with at most one full stop before the last of
them.
-/
def isNegativeNumber (text : List Char) : Bool :=
  match if text.getLast? = some '\n' then text.dropLast else text with
  | '-' :: rest =>
      match rest.dropWhile Text.isDigit with
      | [] => !rest.isEmpty
      | '.' :: digits => !digits.isEmpty && digits.all Text.isDigit
      | _ => false
  | _ => false

/-- The text before the first equals sign, and the text after it if there is one. -/
def splitAttached (text : List Char) : List Char × Option (List Char) :=
  match text.dropWhile (· != '=') with
  | [] => (text, none)
  | _ :: attached => (text.takeWhile (· != '='), some attached)

/-- The option of exactly this name. -/
def ofName? (name : List Char) (attached : Option (List Char)) : Option Word :=
  (Key.names.lookup (String.ofList name)).map fun key => option key (attached.map String.ofList)

/-- The options whose names start like this. -/
def matching (start : List Char) (attached : Option (List Char)) : List Word :=
  (Key.names.filter fun entry => start.isPrefixOf entry.1.toList).map fun entry =>
    option entry.2 (attached.map String.ofList)

/-- The options that a text can be if it is no full name. -/
def candidates (text : List Char) : List Word :=
  match text with
  | '-' :: '-' :: _ => matching (splitAttached text).1 (splitAttached text).2
  | '-' :: 'h' :: letters => [shortHelp letters]
  | _ => []

/-- The option of a text that is its full name, perhaps with a value attached. -/
def fullName? (text : List Char) : Option Word :=
  match ofName? text none with
  | some word => some word
  | none =>
      match splitAttached text with
      | (name, some attached) => ofName? name (some attached)
      | (_, none) => none

/-- The word of a text that starts with a dash; nothing if it could be several options. -/
def ofDashed? (text : List Char) : Option Word :=
  match fullName? text with
  | some word => some word
  | none =>
      match candidates text with
      | [word] => some word
      | [] =>
          if isNegativeNumber text || text.contains ' ' then some (argument (String.ofList text))
          else some unknown
      | _ => none

/-- The word of a text before the end of the options; nothing if it could be several options. -/
def ofText? (text : String) : Option Word :=
  match text.toList with
  | '-' :: second :: rest => ofDashed? ('-' :: second :: rest)
  | _ => some (argument text)

/-- The words of a command line; nothing if one could be several options. -/
def ofTexts? : List String → Option (List Word)
  | [] => some []
  | text :: rest =>
      if text = separatorText then
        some (separator :: rest.map argument)
      else
        match ofText? text, ofTexts? rest with
        | some word, some words => some (word :: words)
        | _, _ => none

end Word

end TimedText.CommandLine
