import TimedText.FileTree
import TimedText.Settings.Environment
import TimedText.Settings.Validation
import TimedText.Yaml

/-!
# Where settings come from

Settings come from a file and from the environment, which wins over the file, or from the
environment alone.  The file has to be there, to be readable, to hold a mapping whose keys are
texts, and to be valid.
-/

namespace TimedText.Settings

/-- Why settings cannot be loaded. -/
inductive LoadError where
  | missing (path : Path)
  | inaccessible (fault : FileTree.Fault)
  | unreadable
  | notMapping (kind : String)
  | invalid (complaints : List Complaint)
deriving DecidableEq, Repr

namespace LoadError

/-- The report on settings that cannot be loaded, where there is one of fixed words. -/
def message? : LoadError → Option String
  | missing path => some ("설정 파일을 찾을 수 없습니다: " ++ path.text)
  | inaccessible _ => none
  | unreadable => none
  | notMapping kind =>
      some ("설정 파일의 최상위 구조가 딕셔너리가 아닙니다: <class '" ++ kind ++ "'>")
  | invalid complaints => some (complaintMessage complaints)

end LoadError

/-- The settings of entries, with the environment over them. -/
def ofEntries (environment : Environment) (entries : Entries) : Except LoadError Settings :=
  if entries.allNamed then
    (validate (environment.override entries)).mapError .invalid
  else
    .error .unreadable

/-- The entries that the value of a file stands for. -/
def entriesOf : Value → Except LoadError Entries
  | .null => .ok []
  | .mapping entries => .ok entries
  | .shared _ entries => .ok entries
  | value => .error (.notMapping value.kindName)

/-- The settings of the bytes of a file. -/
def ofBytes (environment : Environment) (bytes : List UInt8) : Except LoadError Settings :=
  match Yaml.read? bytes with
  | none => .error .unreadable
  | some value =>
      (entriesOf value).bind (ofEntries environment)

/-- The settings of a file that should be there. -/
def reread
    (tree : FileTree)
    (environment : Environment)
    (path : Path) :
    Except LoadError Settings :=
  match tree.read path with
  | .ok bytes => ofBytes environment bytes
  | .error _ => .error .unreadable

/-- The settings of a file, which may be missing. -/
def load (tree : FileTree) (environment : Environment) (path : Path) : Except LoadError Settings :=
  match tree.locate path with
  | .error .nameTooLong => .error (.inaccessible .nameTooLong)
  | .error _ => .error (.missing path)
  | .ok (_, none) => .error (.missing path)
  | .ok (_, some _) => reread tree environment path

/-- The settings of the environment alone. -/
def ofEnvironment (environment : Environment) : Except LoadError Settings :=
  ofEntries environment []

end TimedText.Settings
