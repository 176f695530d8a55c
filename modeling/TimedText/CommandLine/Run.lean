import TimedText.Charset.Choices
import TimedText.CommandLine.Chronicle
import TimedText.CommandLine.Options
import TimedText.CommandLine.Packets
import TimedText.Log.Logbook
import TimedText.Subtitle.RecordFile

/-!
# Runs of a command line

A run loads the settings, puts what the command line asks for over them, opens a session, and
decodes one packet after the other.  Each subtitle is shown, and added to a file of records if one
is asked for, before the next packet is read.

While packets are decoded the file of settings may change.  If the run watches it the new settings
go to the session, as they are in the file.

All the while the run keeps a log.  What is noted there is written to a file among the others, so a
run that reads or writes this very file meets its own records.

What stops a run before its end leaves what was shown before.
-/

namespace TimedText.CommandLine

/--
What surrounds a run: standard input, files, environment, names that the platform gives, the clock,
the decoders that names stand for, and who watches files.
-/
structure Surroundings where
  input : List UInt8 := []
  files : FileTree := {}
  environment : Environment := {}
  platform : String := "UTF-8"
  freshIdentity : String := ""
  clock : Nat → Log.Moment := fun _ => {}
  catalogue : Encoding.Catalogue := Encoding.catalogue
  watcher : Settings.Watcher := fun _ => .ok ()

/-- What stops a run before its end. -/
inductive Stop where
  | refused (refusal : Refusal)
  | inaccessible (fault : FileTree.Fault)
  | invalid (complaints : List Settings.Complaint)
  | name (fault : Encoding.NameFault)
  | watch (reason : String)
  | file (fault : FileTree.Fault)
  | packet (error : Session.Error)
  | numeralTooLong
deriving DecidableEq, Repr

/--
What comes of a run: its exit code or what stopped it, what it has put out, the subtitles among that,
what it has reported, what its log has shown on the console since it was set up, and what it leaves.
-/
structure Report where
  exit : Except Stop Nat
  output : List Char := []
  shown : List Subtitle := []
  notices : List Notice := []
  console : List Char := []
  files : FileTree
  store : Settings.Store := {}
  session : Option Session := none

/-! ## Settings -/

/-- The settings of the decoder that the command line asks for. -/
def Options.overrides (options : Options) : Entries :=
  (options.align.toList.map fun part => (.name "align", .int part.bits))
    ++ (if options.noDetection then [(.name "autodetect_utf8", .bool false)] else [])
    ++ (if options.plain then [(.name "formatted", .bool false)] else [])

/-- The entries with the values of named entries put over them. -/
def putAll (entries : Entries) : Entries → Entries
  | [] => entries
  | (.name name, value) :: rest => putAll (entries.put name value) rest
  | (.other, _) :: rest => putAll entries rest

/-- The settings with what the command line asks for put over them. -/
def Options.applyTo
    (options : Options)
    (settings : Settings) :
    Except (List Settings.Complaint) Settings :=
  if options.overrides.isEmpty then
    .ok settings
  else
    Settings.validate
      [ (.name "system", .mapping settings.system.entries),
        (.name "decoder", .mapping (putAll settings.decoder.entries options.overrides)) ]

/-- The store after the settings of a run are loaded, or why they are not. -/
def Options.load
    (options : Options)
    (surroundings : Surroundings) :
    Except Settings.LoadError Settings × Settings.Store :=
  let store : Settings.Store := {}
  match options.config with
  | some path => store.load surroundings.files surroundings.environment path
  | none => store.loadDefaults surroundings.environment

/-! ## Showing -/

/-- What is shown of a subtitle. -/
def Form.shown (form : Form) (subtitle : Subtitle) : List Char :=
  match form with
  | .json => subtitle.recordLine
  | .text => subtitle.caption.toList ++ ['\n', '\n']

/-- A subtitle with a number that has too many digits to be written in a form. -/
def Form.isTooLong (form : Form) (subtitle : Subtitle) : Bool :=
  match form with
  | .json => Text.isTooLong subtitle.start || Text.isTooLong subtitle.stop
  | .text =>
      Text.isTooLong (Timestamp.ofMicros subtitle.start).hours
        || (!subtitle.ephemeral && Text.isTooLong (Timestamp.ofMicros subtitle.stop).hours)

/-! ## Decoding -/

/--
A run that is decoding: what it works with, the subtitles that it has shown, what it has reported, and
how many packets it has read.
-/
structure Run where
  options : Options
  environment : Environment
  store : Settings.Store
  session : Session
  logbook : Logbook
  shown : List Subtitle := []
  notices : List Notice := []
  count : Nat := 0

namespace Run

/-- The files that the run works with. -/
def files (run : Run) : FileTree :=
  run.logbook.files

/-- The run where the files are others. -/
def withFiles (run : Run) (files : FileTree) : Run :=
  { run with logbook := run.logbook.withFiles files }

/-- The run after records are noted in its log. -/
def noteAll (run : Run) (records : List Log.Record) : Run :=
  { run with logbook := run.logbook.noteAll records }

/--
The run after subtitles are added to the file of records.  The file is opened first, and only then
it may turn out that a number has too many digits.
-/
def extend (run : Run) (path : Path) (subtitle : Subtitle) : Run × Option Stop :=
  let long := Form.json.isTooLong subtitle
  match RecordFile.extend run.files path (if long then [] else [subtitle]) with
  | .error fault => (run.noteAll (RecordFile.unsavedRecords run.files path fault), some (.file fault))
  | .ok files =>
      if long then
        (run.withFiles files, some .numeralTooLong)
      else
        ((run.withFiles files).noteAll [RecordFile.savedRecord path 1], none)

/-- The run after a subtitle is added to the file of records, if one is asked for. -/
def keep (run : Run) (subtitle : Subtitle) : Run × Option Stop :=
  match run.options.exportTo with
  | none => (run, none)
  | some path => run.extend path subtitle

/-- The run after a subtitle is shown and kept. -/
def present (run : Run) (subtitle : Subtitle) : Run × Option Stop :=
  if run.options.output.isTooLong subtitle then
    (run, some .numeralTooLong)
  else
    { run with shown := run.shown ++ [subtitle] }.keep subtitle

/-- The run after a step of its session, before it is seen what has come of the packet. -/
def stepped (run : Run) (packet : Packet) (step : Session.Step) : Run :=
  { run with
    session := step.after,
    notices := run.notices ++ step.notices,
    logbook := run.logbook.noteAll (run.session.packetRecords packet step.notices),
    count := run.count + 1 }

/-- The run after a packet. -/
def packet (run : Run) (data : List UInt8) : Run × Option Stop :=
  let packet := packetAt run.options.duration run.count data
  let step := run.session.decode packet
  match step.result with
  | .error error => (run.stepped packet step, some (.packet error))
  | .ok none => (run.stepped packet step, none)
  | .ok (some subtitle) => (run.stepped packet step).present subtitle

/-- The name under which a session is told about new settings. -/
def subscriber : Settings.Subscriber :=
  { name := "session" }

/-- The run after its session is told about new settings. -/
def deliver (run : Run) (delivery : Settings.Delivery) : Run :=
  let (session, notices) := run.session.configure delivery.new.decoder
  { run with
    session,
    notices := run.notices ++ notices,
    logbook := run.logbook.noteAll (Session.configureRecords delivery.new.decoder notices) }

/--
The run after files have changed, with the one that it watches among them, and with an account of
how that is read again.
-/
def filesChanged (run : Run) (files : FileTree) (account : List Log.Record) : Run :=
  match run.store.watch with
  | none => run.withFiles files
  | some watch =>
      let event : Settings.Modification := { path := watch.directory.child watch.name }
      let (store, deliveries) := run.store.notice files run.environment watch.name event
      let records := run.store.changeRecords files run.environment watch account
      deliveries.foldl deliver ({ run.withFiles files with store }.noteAll records)

/--
Something that happens to a run while it decodes: a packet comes, or files change, with an account
that the reading of settings puts into the log.
-/
inductive Happening where
  | packet (data : List UInt8)
  | filesChanged (files : FileTree) (account : List Log.Record := [])

/-- The run after things have happened, up to the first that stops it. -/
def follow (run : Run) : List Happening → Run × Option Stop
  | [] => (run, none)
  | .filesChanged files account :: rest => (run.filesChanged files account).follow rest
  | .packet data :: rest =>
      match run.packet data with
      | (run, none) => run.follow rest
      | stopped => stopped

/-- The run after packets. -/
def packets (run : Run) (packets : List (List UInt8)) : Run × Option Stop :=
  run.follow (packets.map .packet)

/-- The run after the packets of files, each read when its turn comes. -/
def readFiles (run : Run) : List Path → Run × Option Stop
  | [] => (run, none)
  | path :: rest =>
      match run.files.read path with
      | .error fault => (run, some (.file fault))
      | .ok content =>
          match run.packets (filePackets run.options.lines content) with
          | (run, none) => run.readFiles rest
          | stopped => stopped

/-- The run after all its packets. -/
def readAll (run : Run) (input : List UInt8) : Run × Option Stop :=
  if run.options.files.isEmpty then run.packets (streamPackets input)
  else run.readFiles run.options.files

/-- The run after its session is closed and its watch is over. -/
def finish (run : Run) : Run :=
  { run with
    session := run.session.close,
    store := run.store.stopWatch,
    logbook := run.logbook.noteAll (run.session.closeRecords ++ run.store.stopRecords) }

/-- The exit code of a run that was not stopped: one if a packet could not be read. -/
def exitCode (run : Run) : Nat :=
  let tally := run.session.tally
  if tally.conversionFailures ≠ 0 ∨ tally.parseFailures ≠ 0 then 1 else 0

/-- What a run has put out: the subtitles that it has shown, in their form. -/
def output (run : Run) : List Char :=
  run.shown.flatMap run.options.output.shown

/-- The report on a run. -/
def report (run : Run) (exit : Except Stop Nat) : Report :=
  { exit,
    output := run.output,
    shown := run.shown,
    notices := run.notices,
    console := run.logbook.journal.console,
    files := run.files,
    store := run.store,
    session := some run.session }

/-- The run with the watch that is asked for, and what stops it if it cannot be had. -/
def watched (run : Run) (watcher : Settings.Watcher) : Run × Option Stop :=
  if run.options.watch then
    if run.options.config.isSome then
      let subscribed := run.store.subscribe subscriber
      let (store, answer) := subscribed.startWatch none watcher
      ( { run with store }.noteAll (subscribed.subscribeRecord :: store.watchRecords answer),
        match answer with
        | .ok _ => none
        | .error reason => some (.watch reason) )
    else
      (run.noteAll [watchIgnored], none)
  else
    (run, none)

/-- The run with an empty file of records, if one is asked for. -/
def exporting (run : Run) : Run × Option Stop :=
  match run.options.exportTo with
  | none => (run, none)
  | some path =>
      match RecordFile.save run.files path [] with
      | .ok files => ((run.withFiles files).noteAll [RecordFile.savedRecord path 0], none)
      | .error fault =>
          (run.noteAll (RecordFile.unsavedRecords run.files path fault), some (.file fault))

/-- The run that is ready to read packets, or the report on one that is stopped before. -/
def ready (run : Run) (watcher : Settings.Watcher) : Except Report Run :=
  match run.watched watcher with
  | (run, some stop) => .error (run.report (.error stop))
  | (run, none) =>
      match run.exporting with
      | (run, some stop) => .error (run.report (.error stop))
      | (run, none) => .ok run

/-- The report on a run that is ready and reads all its packets. -/
def conclude (run : Run) (input : List UInt8) : Report :=
  match run.readAll input with
  | (run, none) => (run.finish.noteAll [endRecord run.session.tally]).report (.ok run.exitCode)
  | (run, some stop) => run.finish.report (.error stop)

/-- The report on a run from its session on. -/
def toEnd (run : Run) (input : List UInt8) (watcher : Settings.Watcher) : Report :=
  match run.ready watcher with
  | .error report => report
  | .ok run => run.conclude input

end Run

/-! ## The whole of it -/

/-- The exit code where settings cannot be loaded. -/
def settingsCode : Nat := 2

/-- The report on a run whose settings are not loaded. -/
def unloaded
    (surroundings : Surroundings)
    (store : Settings.Store)
    (cause : Settings.LoadError) :
    Report :=
  { exit :=
      match cause with
      | .inaccessible fault => .error (.inaccessible fault)
      | _ => .ok settingsCode,
    files := surroundings.files,
    store }

/-- The run that settings and options start, with its log set up, or what stops it. -/
def begin
    (options : Options)
    (surroundings : Surroundings)
    (store : Settings.Store)
    (settings : Settings) :
    Logbook × Except Stop Run :=
  match
    Logbook.begin? surroundings.files surroundings.clock settings.system
      surroundings.freshIdentity with
  | .error fault => ({ journal := { files := surroundings.files } }, .error (.file fault))
  | .ok logbook =>
      let always := options.codec.isUtf8
      let preferences := settings.decoder.preferences
      let charset := Charset.choose preferences surroundings.platform options.encoding always
      let logbook := logbook.noteAll (Session.choiceRecords preferences options.encoding always)
      ( logbook,
        match
          Session.open? settings.decoder options.codec options.encoding Color.byName
            surroundings.platform surroundings.catalogue with
        | .error fault => .error (.name fault)
        | .ok (session, notices) =>
            .ok
              { options,
                environment := surroundings.environment,
                store,
                session,
                notices,
                logbook := logbook.noteAll (session.openRecords charset notices) } )

/-- The report on a run with options. -/
def runWith (options : Options) (surroundings : Surroundings) : Report :=
  if options.listEncodings then
    { exit := .ok 0, output := Charset.listing, files := surroundings.files }
  else
    match options.load surroundings with
    | (.error cause, store) => unloaded surroundings store cause
    | (.ok loaded, store) =>
        match options.applyTo loaded with
        | .error complaints =>
            { exit := .error (.invalid complaints), files := surroundings.files, store }
        | .ok settings =>
            match begin options surroundings store settings with
            | (logbook, .error stop) =>
                { exit := .error stop,
                  console := logbook.journal.console,
                  files := logbook.files,
                  store }
            | (_, .ok run) => run.toEnd surroundings.input surroundings.watcher

/-- The report on a run of a command line. -/
def run (texts : List String) (surroundings : Surroundings) : Report :=
  match Options.read texts with
  | .ok options => runWith options surroundings
  | .error refusal => { exit := .error (.refused refusal), files := surroundings.files }

end TimedText.CommandLine
