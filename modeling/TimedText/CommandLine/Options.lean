import TimedText.Alignment
import TimedText.CommandLine.Word
import TimedText.FileTree.Path
import TimedText.Session
import TimedText.Text.Numeral

/-!
# Options of a command line

What a command line asks for: the files to read, and how to read and show them.  Of an option that
is given several times the last one counts.  The files stand together; arguments after a further
option are not taken for files, and a command line that has them is refused.

Words are taken in their order, and the first one that is wrong or asks for help ends the reading.
-/

namespace TimedText.CommandLine

/-- The form in which subtitles are shown. -/
inductive Form where
  | json
  | text
deriving DecidableEq, Repr

/-- What a command line asks for. -/
structure Options where
  files : List Path := []
  config : Option Path := none
  encoding : Option String := none
  codec : Codec := .subt
  align : Option Horizontal := none
  noDetection : Bool := false
  plain : Bool := false
  lines : Bool := false
  duration : Int := 2000
  output : Form := .json
  exportTo : Option Path := none
  watch : Bool := false
  listEncodings : Bool := false
deriving DecidableEq, Repr

/-- Why a command line asks for nothing: it is wrong, or it asks for help. -/
inductive Refusal where
  | usage
  | help
deriving DecidableEq, Repr

namespace Options

/-! ## Values and switches -/

/-- The form of a word. -/
def formOf? (text : String) : Option Form :=
  if text = "json" then some .json else if text = "text" then some .text else none

/-- The options with the value of one set, if it is a proper one. -/
def assign? (options : Options) (key : Key) (value : String) : Option Options :=
  match key with
  | .config => some { options with config := some (Path.ofString value) }
  | .encoding => some { options with encoding := some value }
  | .codec => (Codec.ofName? value).map fun codec => { options with codec }
  | .align =>
      ((Text.integer? value.toList).bind Horizontal.ofBits?).map fun part =>
        { options with align := some part }
  | .duration => (Text.integer? value.toList).map fun duration => { options with duration }
  | .output => (formOf? value).map fun output => { options with output }
  | .exportTo => some { options with exportTo := some (Path.ofString value) }
  | _ => none

/-- The options with a switch turned on. -/
def turnOn (options : Options) (key : Key) : Options :=
  match key with
  | .noDetection => { options with noDetection := true }
  | .plain => { options with plain := true }
  | .lines => { options with lines := true }
  | .watch => { options with watch := true }
  | .listEncodings => { options with listEncodings := true }
  | _ => options

/-! ## Reading -/

/-- How far the files are read: not yet, just now, or altogether. -/
inductive Files where
  | before
  | among
  | after
deriving DecidableEq, Repr

/--
What is read so far: the options, how far the files are read, and whether something is left over.
-/
structure Progress where
  options : Options := {}
  files : Files := .before
  leftOver : Bool := false
deriving DecidableEq, Repr

namespace Progress

/-- The files end where an option stands after them. -/
def endFiles (progress : Progress) : Progress :=
  if progress.files = .among then { progress with files := .after } else progress

/-- Something is left over. -/
def leave (progress : Progress) : Progress :=
  { progress with leftOver := true }

/-- An argument is a file, or left over after the files. -/
def argument (progress : Progress) (text : String) : Progress :=
  if progress.files = .after then
    progress.leave
  else
    { progress with
      options :=
        { progress.options with files := progress.options.files ++ [Path.ofString text] },
      files := .among }

/-- The end of the options belongs to the files, or is left over after them. -/
def separator (progress : Progress) : Progress :=
  if progress.files = .after then progress.leave else { progress with files := .among }

/-- The value of an option is set. -/
def assign (progress : Progress) (key : Key) (value : String) : Except Refusal Progress :=
  match progress.options.assign? key value with
  | some options => .ok { progress with options }
  | none => .error .usage

/-- A switch is turned on; that for help ends the reading. -/
def switch (progress : Progress) (key : Key) : Except Refusal Progress :=
  if key = .help then .error .help
  else .ok { progress with options := progress.options.turnOn key }

/--
What comes of the letters after the short option for help.  Each of them is a short option of its
own, and only that for help is one; letters that are none do no harm, but nothing can be attached
and a dash is out of place.
-/
def refusalOfLetters : List Char → Refusal
  | '-' :: _ => .usage
  | 'h' :: '=' :: _ => .usage
  | 'h' :: rest => refusalOfLetters rest
  | _ => .help

end Progress

/-- What is read after further words. -/
def readFrom : List Word → Progress → Except Refusal Progress
  | [], progress => .ok progress
  | .argument text :: rest, progress => readFrom rest (progress.argument text)
  | .separator :: rest, progress => readFrom rest progress.separator
  | .unknown :: rest, progress => readFrom rest progress.endFiles.leave
  | .shortHelp letters :: _, _ => .error (Progress.refusalOfLetters letters)
  | .option key (some value) :: rest, progress =>
      if key.hasValue then (progress.endFiles.assign key value).bind (readFrom rest)
      else .error .usage
  | .option key none :: rest, progress =>
      if key.hasValue then
        match rest with
        | .argument value :: rest => (progress.endFiles.assign key value).bind (readFrom rest)
        | _ => .error .usage
      else
        (progress.endFiles.switch key).bind (readFrom rest)

/-- The options of a command line. -/
def read (texts : List String) : Except Refusal Options :=
  match Word.ofTexts? texts with
  | none => .error .usage
  | some words =>
      match readFrom words {} with
      | .ok progress => if progress.leftOver then .error .usage else .ok progress.options
      | .error refusal => .error refusal

end Options

end TimedText.CommandLine
