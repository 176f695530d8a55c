import TimedText.Encoding.Utf8
import TimedText.FileTree
import TimedText.Log.Format
import TimedText.Log.Record
import TimedText.Settings

/-!
# Journals

A journal takes the records of all loggers and writes those at or above its level to its outlets:
the console, and a file in the directory of the settings if it can be opened.  Setting a journal
up replaces its outlets, whatever they were, and leaves what has been written where it is.  A file
that is taken away is not written to any more.

The identity of the session is the one given, or that of the settings, or a fresh one.
-/

namespace TimedText

open Log (Level Format Moment Record)

/-- A place that records are written to. -/
inductive Outlet where
  | console
  | file (path : Path)
deriving DecidableEq, Repr

/-- A journal, what its console has shown, and the files. -/
structure Journal where
  session : String := ""
  level : Level := .warning
  format : Format := .text
  outlets : List Outlet := []
  console : List Char := []
  files : FileTree := {}
deriving Repr

namespace Journal

/-- The name of the file in the directory of the settings. -/
def fileName : String := "subsdec.log"

/-- The name of the logger that reports on the journal itself. -/
def ownName : String := "subsdec.logging.structured_logger"

/-! ## Writing -/

/-- What is written for a record: a line, if one can be made of it. -/
def entry? (journal : Journal) (record : Record) : Option (List Char) :=
  match journal.format with
  | .text => (record.line? journal.session).map (· ++ ['\n'])
  | .json =>
      if record.isWritable then some ((record.json journal.session).render true ++ ['\n']) else none

/-- The journal after something is written to an outlet. -/
def writeTo (entry : List Char) (journal : Journal) (outlet : Outlet) : Journal :=
  match outlet with
  | .console => { journal with console := journal.console ++ entry }
  | .file path =>
      match journal.files.read path, journal.files.append path (Encoding.Utf8.encode entry) with
      | .ok _, .ok files => { journal with files }
      | _, _ => journal

/-- The journal after a record. -/
def take (journal : Journal) (record : Record) : Journal :=
  if journal.level.number ≤ record.level.number then
    match journal.entry? record with
    | some entry => journal.outlets.foldl (writeTo entry) journal
    | none => journal
  else
    journal

/-! ## Setting up -/

/-- The identity of the session. -/
def identity (settings : SystemSettings) (given : Option String) (fresh : String) : String :=
  let configured := if settings.sessionId.isEmpty then fresh else settings.sessionId
  match given with
  | some name => if name.isEmpty then configured else name
  | none => configured

/-- The path of the file that settings ask for. -/
def filePath (settings : SystemSettings) : Path :=
  (Path.ofString settings.logDir).child fileName

/--
The files with the one that settings ask for, made if it is missing; or the path at fault, and
why.
-/
def openFile
    (files : FileTree)
    (settings : SystemSettings) :
    Except (Path × FileTree.Fault) FileTree :=
  match files.ensureDirectory (Path.ofString settings.logDir) with
  | .error fault => .error (Path.ofString settings.logDir, fault)
  | .ok ready =>
      match ready.append (filePath settings) [] with
      | .error fault => .error (filePath settings, fault)
      | .ok opened => .ok opened

/-- The record that the file cannot be opened. -/
def unopened (path : Path) (fault : FileTree.Fault) (moment : Moment) : Record :=
  { name := ownName,
    level := .warning,
    message := "로그 파일을 열 수 없어 콘솔에만 기록합니다: " ++ fault.message path,
    moment }

/-- The record that a journal has been set up. -/
def begun (settings : SystemSettings) (session : String) (moment : Moment) : Record :=
  { name := ownName,
    level := .info,
    message :=
      "로깅 초기화: level=" ++ settings.logLevel.name ++ ", format=" ++ settings.logFormat.name
        ++ ", session=" ++ session,
    moment }

/--
The journal after it is set up, with the clock of its first records.  A file that cannot be opened
is left out and reported, unless its name can be that of no file at all.
-/
def setUp
    (journal : Journal)
    (settings : SystemSettings)
    (given : Option String)
    (fresh : String)
    (clock : Nat → Moment := fun _ => {}) :
    Except FileTree.Fault Journal :=
  let session := identity settings given fresh
  let bare : Journal :=
    { journal with session, level := settings.logLevel, format := settings.logFormat }
  match openFile journal.files settings with
  | .ok files =>
      .ok
        ({ bare with outlets := [.console, .file (filePath settings)], files }.take
          (begun settings session (clock 0)))
  | .error (_, .holdsNul) => .error .holdsNul
  | .error (path, fault) =>
      .ok
        (({ bare with outlets := [.console] }.take (unopened path fault (clock 0))).take
          (begun settings session (clock 1)))

end Journal

end TimedText
