import TimedText.Proofs.CommandLine.Log
import TimedText.Proofs.CommandLine.Preparation
import TimedText.Proofs.Session.Run
import TimedText.Proofs.Subtitle.RecordFile

/-!
# What a run shows and what it keeps

A run can keep its subtitles in a file of records while it shows them.  The file is emptied before
the first packet, and each subtitle that is shown is added to it before the next packet is read.  So
after every packet that does not stop the run the file holds the records of what was shown, whatever
it held before and in whichever form the subtitles are shown.  The log has to be another file.

A subtitle that is kept is written as a record in any case, and a record has its times in full.  So a
time that is too long for the form in which a subtitle is shown is too long for its record, and
runs that differ in the form alone take all packets alike.
-/

namespace TimedText

/-! ## Subtitles of packets -/

namespace Session

/-- The subtitle that a call comes to. -/
def Call.subtitle? (call : Call) : Option Subtitle :=
  match call.answer with
  | some (.ok subtitle) => subtitle
  | _ => none

/-- The subtitles that a session makes of packets, in their order. -/
def subtitles (session : Session) (packets : List Packet) : List Subtitle :=
  (session.calls (packets.map .decode)).filterMap Call.subtitle?

theorem subtitles_cons (session : Session) (packet : Packet) (rest : List Packet) :
    session.subtitles (packet :: rest) =
      (session.call (.decode packet)).subtitle?.toList ++
        (session.decode packet).after.subtitles rest := by
  rw [subtitles, List.map_cons, calls_cons, List.filterMap_cons]
  cases (session.call (.decode packet)).subtitle? <;> rfl

end Session

/-- What is added to a file of records stands behind what it held. -/
theorem RecordFile.read_of_extend
    {tree after : FileTree}
    {path : Path}
    {subtitles : List Subtitle}
    {held : List UInt8}
    (extended : extend tree path subtitles = .ok after)
    (found : tree.read path = .ok held) :
    after.read path = .ok (held ++ content subtitles) := by
  unfold extend at extended
  split at extended
  next => cases extended
  next ready ensured =>
    have still := FileTree.read_of_ensureDirectory ensured found
    have behind := FileTree.read_of_update extended still
    exact behind

namespace CommandLine

/-! ## Forms -/

/-- The hours of a time are not longer than the time. -/
theorem isTooLong_of_hours
    (time : Int)
    (long : Text.isTooLong (Timestamp.ofMicros time).hours = true) :
    Text.isTooLong time = true := by
  unfold Text.isTooLong at long ⊢
  have bound : (Timestamp.ofMicros time).hours ≤ time.natAbs := by
    simp only [Timestamp.ofMicros, Timestamp.ofThousandths, Timestamp.elapsed]
    omega
  rw [decide_eq_true_eq, Int.natAbs_natCast] at long
  exact decide_eq_true (long.trans bound)

/-- A subtitle that is too long for some form is too long for a record. -/
theorem Form.isTooLong_json
    (form : Form)
    (subtitle : Subtitle)
    (long : form.isTooLong subtitle = true) :
    Form.json.isTooLong subtitle = true := by
  cases form with
  | json => exact long
  | text =>
      simp only [Form.isTooLong, Bool.or_eq_true, Bool.and_eq_true] at long ⊢
      rcases long with start | ⟨-, stop⟩
      · exact .inl (isTooLong_of_hours _ start)
      · exact .inr (isTooLong_of_hours _ stop)

/-- The options with another form to show subtitles in. -/
def Options.inForm (options : Options) (form : Form) : Options :=
  { options with output := form }

namespace Run

/-! ## One packet -/

/-- The run with another form to show subtitles in. -/
def inForm (run : Run) (form : Form) : Run :=
  run.under (run.options.inForm form)

/-- How a run that keeps its subtitles at a path goes on after a packet. -/
inductive Advance (run : Run) (path : Path) (data : List UInt8) : (after : Run) → Prop where
  | dropped
      (nothing : (Take.step ⟨run, data⟩).result = .ok none) :
      Advance run path data (run.taking data)
  | kept
      (subtitle : Subtitle)
      (files : FileTree)
      (decoded : (Take.step ⟨run, data⟩).result = .ok (some subtitle))
      (short : Form.json.isTooLong subtitle = false)
      (extended : RecordFile.extend (run.taking data).files path [subtitle] = .ok files) :
      Advance run path data
        ((Run.withFiles { run.taking data with shown := run.shown ++ [subtitle] } files).noteAll
          [RecordFile.savedRecord path 1])

/-- The form in which subtitles are shown does not matter to a run that keeps them. -/
theorem Advance.inForm
    {run after : Run}
    {path : Path}
    {data : List UInt8}
    (advance : run.Advance path data after)
    (form : Form) :
    (run.inForm form).Advance path data (after.inForm form) := by
  cases advance with
  | dropped nothing => exact .dropped nothing
  | kept subtitle files decoded short extended => exact .kept subtitle files decoded short extended

/-- A packet shows the subtitle that the session makes of it, if it makes one. -/
theorem Advance.shows
    {run after : Run}
    {path : Path}
    {data : List UInt8}
    (advance : run.Advance path data after) :
    after.session = (run.session.decode (Take.packet ⟨run, data⟩)).after ∧
      after.shown =
        run.shown ++ (run.session.call (.decode (Take.packet ⟨run, data⟩))).subtitle?.toList := by
  have answer :
      (run.session.call (.decode (Take.packet ⟨run, data⟩))).answer =
        some (Take.step ⟨run, data⟩).result := rfl
  unfold Session.Call.subtitle?
  rw [answer]
  cases advance with
  | dropped nothing =>
      rw [nothing]
      exact ⟨rfl, (List.append_nil _).symm⟩
  | kept subtitle files decoded short extended =>
      rw [decoded]
      exact ⟨rfl, rfl⟩

/-- A subtitle is added to the file of records if a record can be made of it and the file be opened. -/
theorem extend_eq_iff (run after : Run) (path : Path) (subtitle : Subtitle) :
    run.extend path subtitle = (after, none) ↔
      Form.json.isTooLong subtitle = false ∧
        ∃ files,
          RecordFile.extend run.files path [subtitle] = .ok files ∧
            after = (run.withFiles files).noteAll [RecordFile.savedRecord path 1] := by
  unfold extend
  dsimp only
  cases Form.json.isTooLong subtitle with
  | true =>
      rw [if_pos rfl]
      cases RecordFile.extend run.files path [] <;> simp
  | false =>
      rw [if_neg Bool.false_ne_true]
      cases RecordFile.extend run.files path [subtitle] with
      | error fault => simp
      | ok files => simp [eq_comm]

section Exporting

variable {run after : Run} {path : Path} (exports : run.options.exportTo = some path)

include exports

/--
A run that keeps its subtitles goes on after a subtitle if a record can be made of it and added to
the file.  A record that can be made is short enough for every form.
-/
theorem present_eq_iff (subtitle : Subtitle) :
    run.present subtitle = (after, none) ↔
      Form.json.isTooLong subtitle = false ∧
        ∃ files,
          RecordFile.extend run.files path [subtitle] = .ok files ∧
            after =
              (Run.withFiles { run with shown := run.shown ++ [subtitle] } files).noteAll
                [RecordFile.savedRecord path 1] := by
  unfold present keep
  dsimp only
  rw [exports]
  by_cases long : run.options.output.isTooLong subtitle = true
  · have record := run.options.output.isTooLong_json subtitle long
    simp [long, record]
  · rw [if_neg long]
    exact extend_eq_iff { run with shown := run.shown ++ [subtitle] } after path subtitle

theorem packet_eq_iff (data : List UInt8) :
    run.packet data = (after, none) ↔ run.Advance path data after := by
  have still : (run.taking data).options.exportTo = some path := exports
  rw [packet_eq_taking]
  constructor
  · intro read
    rcases result : (Take.step ⟨run, data⟩).result with error | _ | subtitle <;>
      rw [result] at read
    · cases read
    · cases read
      exact .dropped result
    · rcases (present_eq_iff still subtitle).1 read with ⟨short, files, extended, rfl⟩
      exact .kept subtitle files result short extended
  · intro advance
    cases advance with
    | dropped nothing => rw [nothing]
    | kept subtitle files decoded short extended =>
        rw [decoded]
        exact (present_eq_iff still subtitle).2 ⟨short, files, extended, rfl⟩

end Exporting

/-! ## Other forms -/

section OtherForms

variable {run after : Run} {path : Path} (exports : run.options.exportTo = some path)
variable (form : Form)

include exports

theorem packet_inForm
    {data : List UInt8}
    (read : run.packet data = (after, none)) :
    (run.inForm form).packet data = (after.inForm form, none) := by
  have still : (run.inForm form).options.exportTo = some path := exports
  have advance := (packet_eq_iff exports data).1 read
  exact (packet_eq_iff still data).2 (advance.inForm form)

/-- Runs that keep their subtitles take everything alike, in whichever form they show it. -/
theorem follow_inForm
    {happenings : List Happening}
    (followed : run.follow happenings = (after, none)) :
    (run.inForm form).follow happenings = (after.inForm form, none) := by
  induction happenings generalizing run with
  | nil =>
      cases followed
      rfl
  | cons happening rest hypothesis =>
      cases happening with
      | filesChanged files account =>
          have asked : (run.filesChanged files account).options = run.options := by
            rw [filesChanged_eq]
          have changed :
              (run.inForm form).filesChanged files account =
                (run.filesChanged files account).inForm form := by
            rw [inForm, filesChanged_under, inForm, asked]
          rw [follow, changed]
          exact hypothesis (asked ▸ exports) followed
      | packet data =>
          rcases follow_packet_eq followed with ⟨next, read, others⟩
          rw [follow, packet_inForm exports form read]
          exact hypothesis (options_packet read ▸ exports) others

theorem readFiles_inForm
    {files : List Path}
    (followed : run.readFiles files = (after, none)) :
    (run.inForm form).readFiles files = (after.inForm form, none) := by
  induction files generalizing run with
  | nil =>
      cases followed
      rfl
  | cons file rest hypothesis =>
      have held : (run.inForm form).files = run.files := rfl
      have parted : (run.inForm form).options.lines = run.options.lines := rfl
      rcases readFiles_cons_eq followed with ⟨content, next, found, read, others⟩
      have packets := follow_inForm exports form read
      rw [readFiles, held, found]
      dsimp only
      rw [parted, Run.packets, packets]
      exact hypothesis (options_follow read ▸ exports) others

theorem readAll_inForm
    {input : List UInt8}
    (followed : run.readAll input = (after, none)) :
    (run.inForm form).readAll input = (after.inForm form, none) := by
  have files : (run.inForm form).options.files = run.options.files := rfl
  unfold readAll at followed ⊢
  rw [files]
  split at followed
  next streams =>
    rw [if_pos streams]
    exact follow_inForm exports form followed
  next given =>
    rw [if_neg given]
    exact readFiles_inForm exports form followed

end OtherForms

/-! ## What the file holds -/

/--
A run whose file of records holds the records of what it has shown, while its log is written at
another place.
-/
structure Exported (run : Run) (path : Path) (log : List String) : Prop where
  asked : run.options.exportTo = some path
  held : run.files.read path = .ok (RecordFile.content run.shown)
  logged : run.logbook.LogsTo log
  apart : path.place ≠ log

section Exported

variable {run after : Run} {path : Path} {log : List String}

/-- Whatever is noted in the log, the file holds the same. -/
theorem Exported.noteAll (exported : run.Exported path log) (records : List Log.Record) :
    (run.noteAll records).Exported path log where
  asked := exported.asked
  held := (Logbook.read_noteAll exported.logged exported.apart records).trans exported.held
  logged := (exported.logged.noteAll records).1
  apart := exported.apart

/-- The end of a run is told in the log alone. -/
theorem Exported.finish (exported : run.Exported path log) : run.finish.Exported path log := by
  rcases exported.noteAll (run.session.closeRecords ++ run.store.stopRecords) with
    ⟨asked, held, logged, apart⟩
  exact ⟨asked, held, logged, apart⟩

theorem Exported.packet
    {data : List UInt8}
    (exported : run.Exported path log)
    (read : run.packet data = (after, none)) :
    after.Exported path log := by
  let records := run.session.packetRecords (Take.packet ⟨run, data⟩) (Take.step ⟨run, data⟩).notices
  have taken : (run.taking data).Exported path log := by
    rcases exported.noteAll records with ⟨asked, held, logged, apart⟩
    exact ⟨asked, held, logged, apart⟩
  cases (packet_eq_iff exported.asked data).1 read with
  | dropped nothing => exact taken
  | kept subtitle files decoded short extended =>
      have behind := RecordFile.read_of_extend extended taken.held
      let showing : Run := { run.taking data with shown := run.shown ++ [subtitle] }
      have kept : (showing.withFiles files).Exported path log := by
        refine ⟨taken.asked, behind.trans ?_, taken.logged.withFiles files, taken.apart⟩
        exact congrArg Except.ok (RecordFile.content_append run.shown [subtitle]).symm
      exact kept.noteAll _

/-- The file of records is left as it is whenever other files change. -/
def Undisturbed (run : Run) (path : Path) : List Happening → Prop
  | [] => True
  | .filesChanged files account :: rest =>
      files.read path = run.files.read path ∧
        (run.filesChanged files account).Undisturbed path rest
  | .packet data :: rest =>
      ∀ after, run.packet data = (after, none) → after.Undisturbed path rest

/-- Packets disturb no file of records. -/
theorem undisturbed_packets (run : Run) (path : Path) (packets : List (List UInt8)) :
    run.Undisturbed path (packets.map .packet) := by
  induction packets generalizing run with
  | nil => exact trivial
  | cons data rest hypothesis => exact fun after _ => hypothesis after

theorem Exported.filesChanged
    {files : FileTree}
    (exported : run.Exported path log)
    (same : files.read path = run.files.read path)
    (account : List Log.Record) :
    (run.filesChanged files account).Exported path log := by
  rcases exported with ⟨asked, held, logged, apart⟩
  rcases run.logbook_filesChanged files account with ⟨records, noted⟩
  have changed : (run.withFiles files).Exported path log :=
    ⟨asked, same.trans held, logged.withFiles files, apart⟩
  rcases changed.noteAll records with ⟨_, holds, logs, _⟩
  rw [filesChanged_eq]
  exact ⟨asked, noted ▸ holds, noted ▸ logs, apart⟩

/-- The file holds the records of what is shown for as long as nothing stops the run. -/
theorem Exported.follow
    {happenings : List Happening}
    (exported : run.Exported path log)
    (undisturbed : run.Undisturbed path happenings)
    (followed : run.follow happenings = (after, none)) :
    after.Exported path log := by
  induction happenings generalizing run with
  | nil =>
      cases followed
      exact exported
  | cons happening rest hypothesis =>
      cases happening with
      | filesChanged files account =>
          rcases undisturbed with ⟨same, others⟩
          exact hypothesis (exported.filesChanged same account) others followed
      | packet data =>
          rcases follow_packet_eq followed with ⟨next, read, others⟩
          exact hypothesis (exported.packet read) (undisturbed next read) others

end Exported

/-! ## Subtitles of packets in a row -/

/-- What is shown is what the session makes of the packets. -/
theorem shown_packets
    {run after : Run}
    {path : Path}
    {packets : List (List UInt8)}
    (exports : run.options.exportTo = some path)
    (followed : run.packets packets = (after, none)) :
    after.shown = run.shown ++ run.session.subtitles (run.decodes packets) := by
  induction packets generalizing run with
  | nil =>
      cases followed
      exact (List.append_nil _).symm
  | cons data rest hypothesis =>
      rcases follow_packet_eq followed with ⟨next, read, others⟩
      rcases ((packet_eq_iff exports data).1 read).shows with ⟨session, shown⟩
      rw [hypothesis (options_packet read ▸ exports) others, shown, session, decodes, read,
        Session.subtitles_cons, List.append_assoc]
      rfl

end Run

/-! ## Whole runs -/

/-- A prepared run that keeps its subtitles begins with an empty file of records. -/
theorem exported_of_prepare
    {options : Options}
    {surroundings : Surroundings}
    {ready : Run}
    {path : Path}
    (prepared : prepare options surroundings = .ok ready)
    (exports : options.exportTo = some path)
    (unlogged : ∀ log ∈ options.logs surroundings, path.place ≠ log.place) :
    ∃ log, ready.Exported path log := by
  rcases fresh_of_prepare options surroundings ready prepared with ⟨asked, -, unshown⟩
  rcases exporting_of_prepare prepared with ⟨log, watching, logs, only, exported⟩
  rcases Run.exporting_eq_none exported with ⟨nowhere, rfl⟩ | ⟨target, files, given, saved, rfl⟩
  · rw [asked, exports] at nowhere
    cases nowhere
  · have here : some target = some path := given.symm.trans (asked ▸ exports)
    cases here
    have emptied : (watching.withFiles files).Exported path log.place := by
      refine ⟨given, ?_, only.withFiles files, unlogged log (by simp [logs])⟩
      rw [show (watching.withFiles files).shown = [] from unshown]
      exact RecordFile.read_of_save saved
    exact ⟨log.place, emptied.noteAll _⟩

/-- A run is prepared without regard to the form in which it shows subtitles. -/
theorem prepare_inForm
    {options : Options}
    {surroundings : Surroundings}
    {ready : Run}
    (prepared : prepare options surroundings = .ok ready)
    (form : Form) :
    prepare (options.inForm form) surroundings = .ok (ready.inForm form) := by
  have same : (options.inForm form).preparing = options.preparing := rfl
  rw [prepare_under same, prepared, Run.inForm, (fresh_of_prepare _ _ ready prepared).1]
  rfl

/--
A run that keeps its subtitles in a file and ends with an exit code leaves there exactly what the
same run puts out if it shows them as records: those of the subtitles that the session makes of its
packets, in their order.  What the file held before and the form in which subtitles are shown do not
matter, and the exit code and all files are the same in every form.  The file holds what was shown
at any time before the end, too, also while other files change.
-/
theorem kept_is_shown_as_records
    (texts others : List String)
    (options : Options)
    (form : Form)
    (path : Path)
    (surroundings : Surroundings)
    (ready : Run)
    (asked : Options.read texts = .ok options)
    (otherwise : Options.read others = .ok (options.inForm form))
    (exports : options.exportTo = some path)
    (unlogged : ∀ log ∈ options.logs surroundings, path.place ≠ log.place)
    (prepared : prepare options surroundings = .ok ready) :
    (∀ code,
      (run texts surroundings).exit = .ok code →
        (run others surroundings).exit = .ok code ∧
          (run others surroundings).files = (run texts surroundings).files ∧
          (run texts surroundings).files.read path =
            .ok
              (RecordFile.content
                (ready.session.subtitles (decodedPackets options surroundings))) ∧
          (form = .json →
            (run texts surroundings).files.read path =
              .ok (Encoding.Utf8.encode (run others surroundings).output))) ∧
      prepare (options.inForm form) surroundings = .ok (ready.inForm form) ∧
      ∀ happenings after,
        ready.follow happenings = (after, none) →
          ready.Undisturbed path happenings →
            (ready.inForm form).follow happenings = (after.inForm form, none) ∧
              after.files.read path =
                .ok (RecordFile.content ((ready.takes happenings).filterMap Take.shown?)) ∧
              (form = .json →
                after.files.read path =
                  .ok (Encoding.Utf8.encode (after.inForm form).output)) := by
  rcases exported_of_prepare prepared exports unlogged with ⟨log, exported⟩
  have unshown := (fresh_of_prepare options surroundings ready prepared).2.2
  have again := prepare_inForm prepared form
  refine ⟨?_, again, ?_⟩
  · intro code ended
    rw [run_eq_conclude asked prepared] at ended ⊢
    rw [run_eq_conclude otherwise again]
    rcases Run.conclude_eq_ok ended with ⟨after, followed, rfl, report⟩
    have alike :
        (ready.inForm form).conclude surroundings.input =
          ((after.inForm form).finish.noteAll [endRecord after.session.tally]).report
            (.ok after.exitCode) := by
      rw [Run.conclude, Run.readAll_inForm exported.asked form followed]
      rfl
    rcases Run.packets_of_readAll followed with ⟨packets, taken, decoded⟩
    have last := exported.follow (ready.undisturbed_packets path packets) taken
    have held := (last.finish.noteAll [endRecord after.session.tally]).held
    have shown := Run.shown_packets exported.asked taken
    rw [unshown, List.nil_append, ← decoded] at shown
    rw [alike, report, decodedPackets, prepared]
    refine ⟨rfl, rfl, shown ▸ held, ?_⟩
    rintro rfl
    exact held
  · intro happenings after followed undisturbed
    have held := (exported.follow undisturbed followed).held
    have shown := ready.shown_follow happenings
    rw [followed, unshown, List.nil_append] at shown
    refine ⟨Run.follow_inForm exported.asked form followed, shown ▸ held, ?_⟩
    rintro rfl
    exact held

/-- The options of a run that shows captions and keeps their records. -/
def captions : Options :=
  { encoding := some "ASCII", output := .text, exportTo := some (.ofString "subs.jsonl") }

/-- A letter, a byte that does not fit, and a letter, with an old file of records. -/
def lettersAround : Surroundings :=
  { input := [0x61, 0x0A, 0xFF, 0x0A, 0x62],
    files := ⟨[(["subs.jsonl"], .file [0x6F, 0x6C, 0x64])]⟩ }

theorem kept_is_shown_as_records_beside_captions :
    ∃ ready,
      prepare captions lettersAround = .ok ready ∧
        (run ["--encoding", "ASCII", "--export", "subs.jsonl", "--output", "text"]
          lettersAround).exit = .ok 1 ∧
        (run ["--encoding", "ASCII", "--export", "subs.jsonl"] lettersAround).exit = .ok 1 ∧
        (run ["--encoding", "ASCII", "--export", "subs.jsonl", "--output", "text"]
              lettersAround).files.read (.ofString "subs.jsonl") =
          .ok
            (Encoding.Utf8.encode
              (run ["--encoding", "ASCII", "--export", "subs.jsonl"] lettersAround).output) ∧
        (ready.session.subtitles (decodedPackets captions lettersAround)).map Subtitle.text =
          ["a", "b"] := by
  have texts :
      (prepare captions lettersAround).toOption.map (fun ready =>
        (ready.session.subtitles (decodedPackets captions lettersAround)).map Subtitle.text) =
          some ["a", "b"] := by
    decide +kernel
  have code :
      (run ["--encoding", "ASCII", "--export", "subs.jsonl", "--output", "text"]
        lettersAround).exit = .ok 1 := by
    decide +kernel
  rcases Option.map_eq_some_iff.1 texts with ⟨ready, found, decoded⟩
  cases prepared : prepare captions lettersAround with
  | error report =>
      rw [prepared] at found
      cases found
  | ok _ =>
      rw [prepared] at found
      cases found
      rcases
        (kept_is_shown_as_records
          ["--encoding", "ASCII", "--export", "subs.jsonl", "--output", "text"]
          ["--encoding", "ASCII", "--export", "subs.jsonl"] captions .json
          (.ofString "subs.jsonl") lettersAround ready (by decide +kernel) (by decide +kernel) rfl
          (by decide +kernel) prepared).1 1 code with
        ⟨same, -, -, records⟩
      exact ⟨ready, rfl, code, same, records rfl, decoded⟩

end CommandLine

end TimedText
