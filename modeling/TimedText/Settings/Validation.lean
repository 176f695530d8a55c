import TimedText.Settings
import TimedText.Text.LetterCase
import TimedText.Text.Numeral

/-!
# Validation of settings

Raw values are turned into settings.  A value is first brought to the kind of its setting, where
some other kinds are let pass: numbers given as texts, switches given as words or numbers.  Then
the setting's own rule is applied.  A setting that is not given has its default, and names that no
setting has are ignored.

All settings are looked at, so that every complaint is found, in the order of the settings.
-/

namespace TimedText.Settings

/-! ## Kinds of values -/

/-- The text that a value is. -/
def textOf? : Value → Option String
  | .text value => some value
  | .bytes bytes => (Encoding.Utf8.decode? bytes).toOption.map String.ofList
  | _ => none

/-- The greatest magnitude up to which a number with a fraction may stand for a whole one. -/
def wholeLimit : Nat := 0x8000000000000000

/-- The whole number that a value stands for. -/
def integerOf? : Value → Option Int
  | .int value => some value
  | .bool value => some (if value then 1 else 0)
  | .real value =>
      match value.integer? with
      | some number => if number.natAbs < wholeLimit then some number else none
      | none => none
  | value => (textOf? value).bind fun text => Text.basicInteger? text.toList

/-- The words for a switch that is on. -/
def onWords : List String := ["true", "t", "yes", "y", "on", "1"]

/-- The words for a switch that is off. -/
def offWords : List String := ["false", "f", "no", "n", "off", "0"]

/-- The switch that a word stands for, in any letter case. -/
def switchOfWord? (word : String) : Option Bool :=
  let plain := String.ofList (word.toList.map Char.toLower)
  if onWords.contains plain then some true
  else if offWords.contains plain then some false
  else none

/-- The switch that a number stands for. -/
def switchOfInteger? (number : Int) : Option Bool :=
  if number = 1 then some true else if number = 0 then some false else none

/-- The switch that a value stands for. -/
def switchOf? : Value → Option Bool
  | .bool value => some value
  | .int value => switchOfInteger? value
  | .real value => value.integer?.bind switchOfInteger?
  | value => (textOf? value).bind switchOfWord?

/-! ## Complaints -/

/-- What is wrong with a value. -/
inductive Problem where
  | kind
  | level (given : String)
  | format (given : String)
  | align (given : Int)
  | blank
deriving DecidableEq, Repr

namespace Problem

/-- The report on a value of the right kind that breaks the rule of its setting. -/
def message? : Problem → Option String
  | kind => none
  | level given =>
      some
        ("log_level은 ('DEBUG', 'INFO', 'WARNING', 'ERROR', 'CRITICAL') 중 하나여야 합니다. 입력값: '"
          ++ given ++ "'")
  | format given =>
      some ("log_format은 ('json', 'text') 중 하나여야 합니다. 입력값: '" ++ given ++ "'")
  | align given =>
      some
        ("align은 0(center), 1(left), 2(right) 중 하나여야 합니다. 입력값: " ++ Text.written given)
  | blank => some "locale_encoding은 비어 있을 수 없습니다"

end Problem

/-- Something wrong with a setting or a section, given by its dotted path. -/
structure Complaint where
  path : String
  problem : Problem
deriving DecidableEq, Repr

/-- The report on complaints. -/
def complaintMessage (complaints : List Complaint) : String :=
  "설정 스키마 검증 실패: " ++ Text.written complaints.length ++ "개 에러 발생"

/-! ## Rules of single settings -/

/-- A level from its word, in any letter case. -/
def levelOf (value : Value) : Except Problem Log.Level :=
  match textOf? value with
  | none => .error .kind
  | some text =>
      match Log.Level.ofName? (String.ofList (text.toList.map Text.latinCapital)) with
      | some level => .ok level
      | none => .error (.level text)

/-- A format from its word. -/
def formatOf (value : Value) : Except Problem Log.Format :=
  match textOf? value with
  | none => .error .kind
  | some text =>
      match Log.Format.ofName? text with
      | some format => .ok format
      | none => .error (.format text)

/-- Any text. -/
def anyText (value : Value) : Except Problem String :=
  match textOf? value with
  | some text => .ok text
  | none => .error .kind

/-- A text without the white space around it. -/
def trimmedText (value : Value) : Except Problem String :=
  (anyText value).map Text.trimmed

/-- A text without the white space around it, which leaves something. -/
def visibleText (value : Value) : Except Problem String :=
  match trimmedText value with
  | .ok text => if text.isEmpty then .error .blank else .ok text
  | .error problem => .error problem

/-- A part of the screen from its number. -/
def alignOf (value : Value) : Except Problem Horizontal :=
  match integerOf? value with
  | none => .error .kind
  | some number =>
      match Horizontal.ofBits? number with
      | some part => .ok part
      | none => .error (.align number)

/-- A switch. -/
def switchOf (value : Value) : Except Problem Bool :=
  match switchOf? value with
  | some switch => .ok switch
  | none => .error .kind

/-! ## Sections -/

/-- A setting and the complaints found on the way to it. -/
abbrev Checked (α : Type) := List Complaint × α

/-- The setting of a name in a section, the default where the section does not give it. -/
def check
    {α : Type}
    (path name : String)
    (entries : Entries)
    (default : α)
    (rule : Value → Except Problem α) :
    Checked α :=
  match entries.get? name with
  | none => ([], default)
  | some value =>
      match rule value with
      | .ok setting => ([], setting)
      | .error problem => ([{ path := path ++ "." ++ name, problem }], default)

/-- The system section. -/
def checkSystem (entries : Entries) : Checked SystemSettings :=
  let default : SystemSettings := {}
  let level := check "system" "log_level" entries default.logLevel levelOf
  let format := check "system" "log_format" entries default.logFormat formatOf
  let dir := check "system" "log_dir" entries default.logDir anyText
  let session := check "system" "session_id" entries default.sessionId anyText
  ( level.1 ++ format.1 ++ dir.1 ++ session.1,
    { logLevel := level.2, logFormat := format.2, logDir := dir.2, sessionId := session.2 } )

/-- The decoder section. -/
def checkDecoder (entries : Entries) : Checked DecoderSettings :=
  let default : DecoderSettings := {}
  let encoding := check "decoder" "encoding" entries default.encoding trimmedText
  let locale := check "decoder" "locale_encoding" entries default.localeEncoding visibleText
  let detect := check "decoder" "autodetect_utf8" entries default.detectUtf8 switchOf
  let align := check "decoder" "align" entries default.align alignOf
  let formatted := check "decoder" "formatted" entries default.formatted switchOf
  ( encoding.1 ++ locale.1 ++ detect.1 ++ align.1 ++ formatted.1,
    { encoding := encoding.2,
      localeEncoding := locale.2,
      detectUtf8 := detect.2,
      align := align.2,
      formatted := formatted.2 } )

/--
A section of settings, which has to be a mapping if it is given.  A loop is the mapping of all
sections.
-/
def checkSection
    {α : Type}
    (name : String)
    (entries : Entries)
    (default : α)
    (rule : Entries → Checked α) :
    Checked α :=
  match entries.get? name with
  | none => ([], default)
  | some (.mapping inner) => rule inner
  | some (.shared _ inner) => rule inner
  | some (.loop _) => rule entries
  | some _ => ([{ path := name, problem := .kind }], default)

/-- The settings that entries stand for, or every complaint about them. -/
def validate (entries : Entries) : Except (List Complaint) Settings :=
  let system := checkSection "system" entries {} checkSystem
  let decoder := checkSection "decoder" entries {} checkDecoder
  match system.1 ++ decoder.1 with
  | [] => .ok { system := system.2, decoder := decoder.2 }
  | complaints => .error complaints

end TimedText.Settings
