import TimedText.CommandLine.Run

/-!
# The program

Gathers what surrounds a run, runs the command line, and carries out what comes of it: the output,
the reports, and the two files that a run can write.
-/

namespace TimedText.Program

/-- The variables in a block of them, each ended by a zero byte. -/
def variablesOf (block : List UInt8) : List (String × String) :=
  let texts := (String.ofList (Encoding.Utf8.decodeReplacing block)).splitOn "\x00"
  texts.filterMap fun text =>
    match text.splitOn "=" with
    | name :: value => if name.isEmpty then none else some (name, String.intercalate "=" value)
    | [] => none

/-- The content of a file, if it can be read. -/
def contentOf? (path : String) : IO (Option (List UInt8)) := do
  try
    let content ← IO.FS.readBinFile path
    return some content.toList
  catch _ =>
    return none

/-- The environment of the program. -/
def environment : IO Environment := do
  let block ← contentOf? "/proc/self/environ"
  return Environment.ofList (variablesOf (block.getD []))

/--
The files with what stands at the end of a path: a file that can be read, or else a directory.
-/
def withPath (files : FileTree) (path : Path) : IO FileTree := do
  let placed (content : List UInt8) : Except FileTree.Fault FileTree :=
    (files.ensureDirectory path.parent).bind fun ready => ready.write path content
  try
    let content ← IO.FS.readBinFile path.text
    return (placed content.toList).toOption.getD files
  catch
    | .noFileOrDirectory _ _ _ => return files
    | _ => return (files.ensureDirectory path).toOption.getD files

/-- The files at the ends of some paths. -/
def snapshot (paths : List Path) : IO FileTree :=
  paths.foldlM withPath {}

/-- An identity that no other session has. -/
def freshIdentity : IO String := do
  let number ← IO.rand 0 0xFFFFFFFFFFFF
  let time ← IO.monoNanosNow
  return String.ofList (Text.hexadecimal 12 number ++ '-' :: Text.hexadecimal 16 time)

/-- The number after a name at the start of a line. -/
def numberAfter? (name : String) (content : List UInt8) : Option Nat :=
  let lines := (String.ofList (Encoding.Utf8.decodeReplacing content)).splitOn "\n"
  lines.findSome? fun line =>
    match line.splitOn " " with
    | first :: rest => if first = name then rest.head?.bind String.toNat? else none
    | [] => none

/-- The whole seconds before the full stop at the start of a text. -/
def leadingSeconds (content : List UInt8) : Nat :=
  Text.numeralValue ((content.takeWhile (· != 0x2E)).map fun byte => Char.ofNat byte.toNat)

/-- The moment, from when the machine was started and how long it has been running. -/
def moment : IO Log.Moment := do
  let started := (← contentOf? "/proc/stat").bind (numberAfter? "btime")
  let running := (← contentOf? "/proc/uptime").map leadingSeconds
  return .ofSeconds (started.getD 0 + running.getD 0)

/-- What is found around the program. -/
structure Found where
  input : List UInt8 := []
  files : FileTree
  environment : Environment
  identity : String
  now : Log.Moment

/-- What surrounds a run where this is found. -/
def Found.surroundings (found : Found) : CommandLine.Surroundings :=
  { input := found.input,
    files := found.files,
    environment := found.environment,
    freshIdentity := found.identity,
    clock := fun _ => found.now }

/-- The path of the log, if settings can be loaded. -/
def logPath? (options : CommandLine.Options) (found : Found) : Option Path :=
  (options.load found.surroundings).1.toOption.map fun settings => Journal.filePath settings.system

/-- What is found around a run with options, and the path of its log. -/
def find (options : CommandLine.Options) : IO (Found × Option Path) := do
  let paths := options.files ++ options.config.toList ++ options.exportTo.toList
  let bare : Found :=
    { files := ← snapshot paths,
      environment := ← environment,
      identity := ← freshIdentity,
      now := ← moment }
  let log := logPath? options bare
  let files ← log.toList.foldlM withPath bare.files
  let reads := options.files.isEmpty && !options.listEncodings
  let input ← if reads then contentOf? "/dev/stdin" else pure none
  return ({ bare with files, input := input.getD [] }, log)

/-- Writes the file at the end of a path, if a run has changed it. -/
def store (before after : FileTree) (path : Path) : IO Unit := do
  match after.read path with
  | .error _ => return
  | .ok content =>
      if (before.read path).toOption ≠ some content then
        IO.FS.createDirAll path.parent.text
        IO.FS.writeBinFile path.text ⟨content.toArray⟩

/-- The exit code for what stops a run. -/
def stopCode : CommandLine.Stop → UInt32
  | .refused .help => 0
  | .refused .usage => 2
  | _ => 1

/-- The names of the options. -/
def usage : String :=
  "options: " ++ String.intercalate " " (CommandLine.Key.names.map (·.1)) ++ "\n"

/-- Runs a command line with options and carries out what comes of it. -/
def perform (texts : List String) (options : CommandLine.Options) : IO UInt32 := do
  let (found, log) ← find options
  let report := CommandLine.run texts found.surroundings
  for path in options.exportTo.toList ++ log.toList do
    store found.files report.files path
  IO.eprint (String.ofList report.console)
  IO.print (String.ofList report.output)
  match report.exit with
  | .ok code => return code.toUInt32
  | .error stop => return stopCode stop

end TimedText.Program

/-- The program. -/
def main (texts : List String) : IO UInt32 := do
  match TimedText.CommandLine.Options.read texts with
  | .ok options => TimedText.Program.perform texts options
  | .error .help =>
      IO.print TimedText.Program.usage
      return 0
  | .error .usage =>
      IO.eprint TimedText.Program.usage
      return 2
