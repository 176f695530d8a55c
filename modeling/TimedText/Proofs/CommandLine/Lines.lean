import TimedText.Proofs.CommandLine.Log
import TimedText.Proofs.CommandLine.Packets
import TimedText.Proofs.CommandLine.Preparation

/-!
# One input on two ways

Bytes can come from standard input, or from a file that is read line by line.  Nothing that a run
does before its first packet, and nothing that it does with a packet, looks at which of the two it
is.  The packets are the same on both ways, so the whole report is.

A run writes to files of its own before it reads: to its journal and to the file of records.  The
file that is read has to be another one.
-/

namespace TimedText

/-! ## Files that are set up -/

/-- Saving to another file leaves a file alone. -/
theorem RecordFile.read_of_save_other
    {tree after : FileTree}
    {path other : Path}
    {subtitles : List Subtitle}
    {content : List UInt8}
    (saved : save tree other subtitles = .ok after)
    (apart : path.place ≠ other.place)
    (held : tree.read path = .ok content) :
    after.read path = .ok content := by
  unfold save at saved
  split at saved
  next => cases saved
  next ready ensured =>
    exact FileTree.read_of_update_other apart saved (FileTree.read_of_ensureDirectory ensured held)

namespace CommandLine

/-- The paths of the files that a run sets up before it reads: its log and its records. -/
def Options.outputs (options : Options) (surroundings : Surroundings) : List Path :=
  options.logs surroundings ++ options.exportTo.toList

/-- A run that begins has left every file alone but the log of its settings. -/
theorem read_of_begin
    {options : Options}
    {surroundings : Surroundings}
    {store : Settings.Store}
    {settings : Settings}
    {logbook : Logbook}
    {run : Run}
    {path : Path}
    {content : List UInt8}
    (begun : begin options surroundings store settings = (logbook, .ok run))
    (apart : path.place ≠ (Journal.filePath settings.system).place)
    (held : surroundings.files.read path = .ok content) :
    run.files.read path = .ok content := by
  rcases begin_eq_ok options surroundings store settings logbook run begun with
    ⟨fresh, records, session, notices, up, -, rfl⟩
  have journal := Logbook.setUp_of_begin? up
  have only : fresh.LogsTo (Journal.filePath settings.system).place :=
    (Journal.setUp_cases journal).1
  exact (Logbook.read_noteAll only apart records).trans (Journal.read_of_setUp journal apart held)

/-- A prepared run has left every file alone but those that it sets up. -/
theorem read_of_prepare
    {options : Options}
    {surroundings : Surroundings}
    {ready : Run}
    {path : Path}
    {content : List UInt8}
    (prepared : prepare options surroundings = .ok ready)
    (apart : ∀ target ∈ options.outputs surroundings, path.place ≠ target.place)
    (held : surroundings.files.read path = .ok content) :
    ready.files.read path = .ok content := by
  have asked : ready.options = options := (fresh_of_prepare options surroundings ready prepared).1
  rcases stages_of_prepare options surroundings ready prepared with
    ⟨loaded, store, settings, logbook, run, loading, applied, begun, readied⟩
  have unlogged : path.place ≠ (Journal.filePath settings.system).place := by
    refine apart _ ?_
    simp [Options.outputs, Options.logs, Options.settled?, loading, applied, Except.toOption]
  have only := logsTo_of_begin begun
  have here := read_of_begin begun unlogged held
  rcases Run.stages_of_ready readied with ⟨watching, watched, exported⟩
  rcases run.logbook_watched surroundings.watcher with ⟨records, noted⟩
  rw [watched] at noted
  have watches : watching.logbook.LogsTo (Journal.filePath settings.system).place :=
    noted ▸ (only.noteAll records).1
  have kept : watching.files.read path = .ok content := by
    rw [Run.files, noted, Logbook.read_noteAll only unlogged]
    exact here
  rcases Run.exporting_eq_none exported with ⟨-, rfl⟩ | ⟨target, files, exports, saved, rfl⟩
  · exact kept
  · have asking : options.exportTo = some target := asked ▸ exports
    have unexported : path.place ≠ target.place := apart _ (by simp [Options.outputs, asking])
    exact (Logbook.read_noteAll (watches.withFiles files) unlogged _).trans
      (RecordFile.read_of_save_other saved unexported kept)

/-! ## What a run reads from -/

/-- The options with other files to read. -/
def Options.reading (options : Options) (files : List Path) (lines : Bool) : Options :=
  { options with files, lines }

namespace Run

/-- The run with other files to read. -/
def reading (run : Run) (files : List Path) (lines : Bool) : Run :=
  { run with options := run.options.reading files lines }

variable (run : Run) (files : List Path) (lines : Bool)

theorem keep_reading (subtitle : Subtitle) :
    (run.reading files lines).keep subtitle =
      ((run.keep subtitle).1.reading files lines, (run.keep subtitle).2) := by
  have asked : (run.keep subtitle).1.options = run.options := by rw [keep_eq]
  show (run.under (run.options.reading files lines)).keep subtitle = _
  rw [run.keep_under (run.options.reading files lines) rfl, reading, asked]
  rfl

theorem present_reading (subtitle : Subtitle) :
    (run.reading files lines).present subtitle =
      ((run.present subtitle).1.reading files lines, (run.present subtitle).2) := by
  have same : (run.reading files lines).options.output = run.options.output := rfl
  unfold present
  rw [same]
  split
  next => rfl
  next => exact keep_reading { run with shown := run.shown ++ [subtitle] } files lines subtitle

theorem packet_reading (data : List UInt8) :
    (run.reading files lines).packet data =
      ((run.packet data).1.reading files lines, (run.packet data).2) := by
  rw [packet_eq_taking, packet_eq_taking]
  have same : Take.step ⟨run.reading files lines, data⟩ = Take.step ⟨run, data⟩ := rfl
  rw [same]
  rcases (Take.step ⟨run, data⟩).result with error | _ | subtitle
  · rfl
  · rfl
  · exact (run.taking data).present_reading files lines subtitle

/-- What a run does with packets does not depend on where they come from. -/
theorem packets_reading (packets : List (List UInt8)) :
    (run.reading files lines).packets packets =
        ((run.packets packets).1.reading files lines, (run.packets packets).2) ∧
      (run.reading files lines).decodes packets = run.decodes packets := by
  induction packets generalizing run with
  | nil => exact ⟨rfl, rfl⟩
  | cons data rest hypothesis =>
      rw [packets_cons, packets_cons, decodes, decodes, packet_reading]
      rcases run.packet data with ⟨after, none | stop⟩
      · rcases hypothesis after with ⟨followed, decoded⟩
        exact ⟨followed, congrArg _ decoded⟩
      · exact ⟨rfl, rfl⟩

/-- A run without files takes the pieces of standard input. -/
theorem readAll_of_streams (input : List UInt8) (streams : run.options.files = []) :
    run.readAll input = run.packets (pieces input) ∧
      run.decodesAll input = run.decodes (pieces input) := by
  rw [readAll, decodesAll, streams, streamPackets_eq_pieces]
  exact ⟨rfl, rfl⟩

/-- A prepared run reads an input, or a file that holds it line by line, with the same report. -/
theorem conclude_reading
    (path : Path)
    (input given : List UInt8)
    (streams : run.options.files = [])
    (held : run.files.read path = .ok input) :
    (run.reading [path] true).conclude given = run.conclude input ∧
      (run.reading [path] true).decodesAll given = run.decodesAll input := by
  rcases packets_reading run [path] true (pieces input) with ⟨followed, decoded⟩
  rcases readAll_of_streams run input streams with ⟨stream, streamed⟩
  have lineByLine : filePackets (run.reading [path] true).options.lines input = pieces input :=
    filePackets_eq_pieces input
  have found : (run.reading [path] true).files.read path = .ok input := held
  have asked : (run.reading [path] true).options.files = [path] := rfl
  have file : (run.reading [path] true).readAll given =
      ((run.packets (pieces input)).1.reading [path] true, (run.packets (pieces input)).2) := by
    rw [readAll, asked, if_neg (by simp), readFiles, found]
    dsimp only
    rw [lineByLine, followed]
    rcases run.packets (pieces input) with ⟨after, none | stop⟩ <;> rfl
  constructor
  · rw [conclude, conclude, file, stream]
    rcases run.packets (pieces input) with ⟨after, none | stop⟩ <;> rfl
  · rw [streamed, decodesAll, asked, if_neg (by simp), decodesFiles, found]
    dsimp only
    rw [lineByLine, followed, decoded]
    rcases run.packets (pieces input) with ⟨after, none | stop⟩ <;> simp [decodesFiles]

end Run

/-! ## What a run is prepared for -/

/-- A run is prepared without regard to what it reads. -/
theorem prepare_reading
    (options : Options)
    (surroundings : Surroundings)
    (files : List Path)
    (lines : Bool) :
    prepare (options.reading files lines) surroundings =
      (prepare options surroundings).map fun ready => ready.reading files lines := by
  have same : (options.reading files lines).preparing = options.preparing := rfl
  rw [prepare_under same]
  cases prepared : prepare options surroundings with
  | error report => rfl
  | ok ready =>
      rw [Except.map, Except.map, Run.reading, (fresh_of_prepare _ _ ready prepared).1]
      rfl

/-- A run is prepared without regard to standard input. -/
theorem prepare_input (options : Options) (surroundings : Surroundings) (input : List UInt8) :
    prepare options { surroundings with input } = prepare options surroundings := by
  unfold prepare Options.load begin unloaded
  dsimp only

/-! ## The whole of it -/

/-- A prepared run decodes the pieces of its input in their order, up to one that stops it. -/
theorem decodedPackets_of_streams
    {options : Options}
    {surroundings : Surroundings}
    {ready : Run}
    (streams : options.files = [])
    (prepared : prepare options surroundings = .ok ready) :
    decodedPackets options surroundings <+:
        (pieces surroundings.input).mapIdx (packetAt options.duration) ∧
      ((ready.readAll surroundings.input).2 = none →
        decodedPackets options surroundings =
          (pieces surroundings.input).mapIdx (packetAt options.duration)) := by
  rcases fresh_of_prepare options surroundings ready prepared with ⟨asked, unread, -⟩
  rcases ready.readAll_of_streams surroundings.input (asked ▸ streams) with ⟨followed, streamed⟩
  rcases ready.decodes_prefix (pieces surroundings.input) with ⟨first, whole⟩
  simp only [unread, asked, Nat.zero_add] at first whole
  rw [decodedPackets, prepared]
  dsimp only
  rw [followed, streamed]
  exact ⟨first, whole⟩

/-- At the same time, an input and a file that holds it come to the same report. -/
theorem run_eq_of_lines
    {streamTexts fileTexts : List String}
    {options : Options}
    {path : Path}
    {input : List UInt8}
    {surroundings : Surroundings}
    (streams : options.files = [])
    (ofStream : Options.read streamTexts = .ok options)
    (ofFile : Options.read fileTexts = .ok (options.reading [path] true))
    (held : surroundings.files.read path = .ok input)
    (apart : ∀ target ∈ options.outputs surroundings, path.place ≠ target.place) :
    run streamTexts { surroundings with input } = run fileTexts surroundings ∧
      decodedPackets options { surroundings with input } =
        decodedPackets (options.reading [path] true) surroundings := by
  rw [run, run, ofStream, ofFile]
  dsimp only
  rw [runWith_eq_prepare, runWith_eq_prepare, decodedPackets, decodedPackets, prepare_input,
    prepare_reading]
  cases outcome : prepare options surroundings with
  | error report => exact ⟨rfl, rfl⟩
  | ok ready =>
      have asked : ready.options = options := (fresh_of_prepare _ _ ready outcome).1
      have kept := read_of_prepare outcome apart held
      rcases ready.conclude_reading path input surroundings.input (asked ▸ streams) kept with
        ⟨reports, packets⟩
      exact ⟨reports.symm, packets.symm⟩

/--
An input on standard input and a file that holds it and is read line by line come to the same packets,
the same report and the same exported file, at any two times and with any identities of the sessions,
where the log is not the file that is read.  Only the log may differ, and at the same time it does
not.  The packets are the pieces of the input in their order, up to one that stops the run.
-/
theorem lines_agree
    (streamTexts fileTexts : List String)
    (options : Options)
    (path : Path)
    (input : List UInt8)
    (surroundings : Surroundings)
    (clock : Nat → Log.Moment)
    (identity : String)
    (streams : options.files = [])
    (ofStream : Options.read streamTexts = .ok options)
    (ofFile : Options.read fileTexts = .ok (options.reading [path] true))
    (held : surroundings.files.read path = .ok input)
    (apart : ∀ target ∈ options.outputs surroundings, path.place ≠ target.place) :
    let streamed := { surroundings with input, clock, freshIdentity := identity }
    (run fileTexts surroundings).Agree (options.logs surroundings) (run streamTexts streamed) ∧
      (∀ target ∈ options.exportTo,
        (∀ log ∈ options.logs surroundings, target.place ≠ log.place) →
          (run streamTexts streamed).files.read target =
            (run fileTexts surroundings).files.read target) ∧
      run streamTexts { surroundings with input } = run fileTexts surroundings ∧
      decodedPackets options streamed =
        decodedPackets (options.reading [path] true) surroundings ∧
      ∀ ready,
        prepare options streamed = .ok ready →
          decodedPackets options streamed <+: (pieces input).mapIdx (packetAt options.duration) ∧
            ((ready.readAll input).2 = none →
              decodedPackets options streamed =
                (pieces input).mapIdx (packetAt options.duration)) := by
  intro streamed
  rcases run_eq_of_lines streams ofStream ofFile held apart with ⟨reports, packets⟩
  have unread : ∀ path ∈ options.files, ∀ log ∈ options.logs surroundings,
      path.place ≠ log.place := by
    rw [streams]
    exact List.forall_mem_nil _
  rcases agree_at_any_time options { surroundings with input } clock identity unread with
    ⟨agree, decoded⟩
  have agrees : (run fileTexts surroundings).Agree (options.logs surroundings)
      (run streamTexts streamed) := by
    rw [← reports, run, run, ofStream]
    exact agree
  refine ⟨agrees, ?_, reports, decoded.symm.trans packets, ?_⟩
  · intro target _ unlogged
    exact agrees.kept target unlogged
  · intro ready prepared
    exact decodedPackets_of_streams streams prepared

/-- A file with a blank line, with carriage returns at the end of one line, and without a last end. -/
def roughLines : List UInt8 :=
  [0x61, 0x0D, 0x0D, 0x0A, 0x0A, 0x62]

/-- A directory with the file. -/
def roughFiles : FileTree :=
  ⟨[(["in.txt"], .file roughLines)]⟩

theorem lines_agree_of_roughLines :
    let options : Options := { align := some .left, exportTo := some (.ofString "out.jsonl") }
    let streamed : Surroundings :=
      { input := roughLines, files := roughFiles, clock := fun _ => .ofSeconds 1,
        freshIdentity := "second" }
    (run ["--align", "1", "--export", "out.jsonl", "--lines", "in.txt"]
            { files := roughFiles }).Agree
        (options.logs { files := roughFiles })
        (run ["--align", "1", "--export", "out.jsonl"] streamed) ∧
      (∀ target ∈ options.exportTo,
        (∀ log ∈ options.logs { files := roughFiles }, target.place ≠ log.place) →
          (run ["--align", "1", "--export", "out.jsonl"] streamed).files.read target =
            (run ["--align", "1", "--export", "out.jsonl", "--lines", "in.txt"]
              { files := roughFiles }).files.read target) ∧
      run ["--align", "1", "--export", "out.jsonl"] { input := roughLines, files := roughFiles } =
        run ["--align", "1", "--export", "out.jsonl", "--lines", "in.txt"]
          { files := roughFiles } ∧
      decodedPackets options streamed =
        decodedPackets (options.reading [.ofString "in.txt"] true) { files := roughFiles } ∧
      ∀ ready,
        prepare options streamed = .ok ready →
          decodedPackets options streamed <+:
              [packetAt 2000 0 [0x61], packetAt 2000 1 [0x62]] ∧
            ((ready.readAll roughLines).2 = none →
              decodedPackets options streamed =
                [packetAt 2000 0 [0x61], packetAt 2000 1 [0x62]]) :=
  lines_agree ["--align", "1", "--export", "out.jsonl"]
    ["--align", "1", "--export", "out.jsonl", "--lines", "in.txt"]
    { align := some .left, exportTo := some (.ofString "out.jsonl") }
    (.ofString "in.txt") roughLines { files := roughFiles } (fun _ => .ofSeconds 1) "second" rfl
    (by decide +kernel) (by decide +kernel) (by decide +kernel) (by decide +kernel)

/--
A journal that is read itself differs from an empty input: the run has written to it before.  No
option names it, and all that is written holds letters that are not ASCII.
-/
theorem journal_is_no_input :
    Options.read ["--encoding", "ASCII"] = .ok { encoding := some "ASCII" } ∧
      Options.read ["--encoding", "ASCII", "--lines", "output/logs/subsdec.log"] =
        .ok
          { encoding := some "ASCII", files := [.ofString "output/logs/subsdec.log"],
            lines := true } ∧
      ∃ files : FileTree,
        files.read (.ofString "output/logs/subsdec.log") = .ok [] ∧
          (run ["--encoding", "ASCII"] { files }).exit = .ok 0 ∧
          (run ["--encoding", "ASCII", "--lines", "output/logs/subsdec.log"] { files }).exit =
            .ok 1 := by
  refine ⟨by decide +kernel, by decide +kernel, ?_⟩
  refine
    ⟨⟨[(["output"], .directory), (["output", "logs"], .directory),
        (["output", "logs", "subsdec.log"], .file [])]⟩, ?_⟩
  decide +kernel

end CommandLine

end TimedText
