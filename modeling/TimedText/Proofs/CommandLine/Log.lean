import TimedText.Proofs.CommandLine.Reading
import TimedText.Proofs.Log.Logbook

/-!
# Runs that differ in their logs

A log shows the time of each record and the identity of its session, so no two runs write the same
one.  Two runs are alike here if they are the same but for their logs, and if their files are alike
away from the place of the log.  Every step of a run leaves alike runs alike, as long as it does not
read the log.

So what a run shows and writes elsewhere does not depend on the time, nor on its identity.
-/

namespace TimedText.CommandLine

/-- Two reports are the same but for what a log has written at a place and on the console. -/
inductive Report.Alike (place : List String) (report : Report) : (second : Report) → Prop where
  | intro
      (console : List Char)
      (files : FileTree)
      (alike : report.files.Alike place files) :
      Alike place report { report with console, files }

theorem Report.Alike.refl (place : List String) (report : Report) : report.Alike place report :=
  .intro report.console report.files (.refl place report.files)

namespace Run

/-- Two runs are the same but for their logs, which both go to a place. -/
inductive Alike (place : List String) (run : Run) : (second : Run) → Prop where
  | intro
      (other : Logbook)
      (left : run.logbook.LogsTo place)
      (right : other.LogsTo place)
      (files : run.files.Alike place other.files) :
      Alike place run { run with logbook := other }

/-- A step of two runs comes to runs that are alike, and both go on or neither does. -/
inductive SameOutcome (place : List String) : (first second : Run × Option Stop) → Prop where
  | intro (first second : Run) (stop : Option Stop) (alike : Alike place first second) :
      SameOutcome place (first, stop) (second, stop)

namespace Alike

variable {place : List String} {first second : Run}

theorem options_eq (alike : Alike place first second) : second.options = first.options := by
  cases alike
  rfl

/-- Whatever is noted, the runs stay alike. -/
theorem noteAll (alike : Alike place first second) (records others : List Log.Record) :
    Alike place (first.noteAll records) (second.noteAll others) := by
  cases alike with
  | intro other left right files =>
      rcases left.noteAll records with ⟨one, here⟩
      rcases right.noteAll others with ⟨two, there⟩
      exact .intro (other.noteAll others) one two ((here.symm.trans files).trans there)

theorem withFiles
    {one two : FileTree}
    (alike : Alike place first second)
    (others : one.Alike place two) :
    Alike place (first.withFiles one) (second.withFiles two) := by
  cases alike with
  | intro other left right files =>
      exact .intro (other.withFiles two) (left.withFiles one) (right.withFiles two) others

theorem files_alike (alike : Alike place first second) : first.files.Alike place second.files := by
  cases alike with
  | intro other left right files => exact files

/-! ## Keeping and showing -/

theorem extend (alike : Alike place first second) (path : Path) (subtitle : Subtitle) :
    SameOutcome place (first.extend path subtitle) (second.extend path subtitle) := by
  have written := RecordFile.agree_extend alike.files_alike path
    (if Form.json.isTooLong subtitle then [] else [subtitle])
  unfold Run.extend
  dsimp only
  generalize
    RecordFile.extend first.files path
      (if Form.json.isTooLong subtitle then [] else [subtitle]) = left,
    RecordFile.extend second.files path
      (if Form.json.isTooLong subtitle then [] else [subtitle]) = right at written ⊢
  cases written with
  | failed fault => exact .intro _ _ _ (alike.noteAll _ _)
  | changed one two others =>
      dsimp only
      split
      next => exact .intro _ _ _ (alike.withFiles others)
      next => exact .intro _ _ _ ((alike.withFiles others).noteAll _ _)

theorem keep (alike : Alike place first second) (subtitle : Subtitle) :
    SameOutcome place (first.keep subtitle) (second.keep subtitle) := by
  unfold Run.keep
  rw [alike.options_eq]
  cases first.options.exportTo with
  | none => exact .intro _ _ _ alike
  | some path => exact alike.extend path subtitle

theorem present (alike : Alike place first second) (subtitle : Subtitle) :
    SameOutcome place (first.present subtitle) (second.present subtitle) := by
  unfold Run.present
  rw [alike.options_eq]
  split
  next => exact .intro _ _ _ alike
  next =>
    cases alike with
    | intro other left right files =>
        have shown : Alike place { first with shown := first.shown ++ [subtitle] }
            { first with shown := first.shown ++ [subtitle], logbook := other } :=
          .intro other left right files
        exact shown.keep subtitle

theorem exporting (alike : Alike place first second) :
    SameOutcome place first.exporting second.exporting := by
  unfold Run.exporting
  rw [alike.options_eq]
  cases first.options.exportTo with
  | none => exact .intro _ _ _ alike
  | some path =>
      have written := RecordFile.agree_save alike.files_alike path []
      dsimp only
      generalize
        RecordFile.save first.files path [] = left,
        RecordFile.save second.files path [] = right at written ⊢
      cases written with
      | failed fault => exact .intro _ _ _ (alike.noteAll _ _)
      | changed one two others => exact .intro _ _ _ ((alike.withFiles others).noteAll _ _)

/-! ## Packets -/

theorem packet (alike : Alike place first second) (data : List UInt8) :
    SameOutcome place (first.packet data) (second.packet data) := by
  cases alike with
  | intro other left right files =>
      let taken := packetAt first.options.duration first.count data
      let step := first.session.decode taken
      have stepped : Alike place (first.stepped taken step)
          (Run.stepped { first with logbook := other } taken step) := by
        let records := first.session.packetRecords taken step.notices
        let decoded : Run :=
          { first with
            session := step.after,
            notices := first.notices ++ step.notices,
            count := first.count + 1 }
        have alike : Alike place decoded { decoded with logbook := other } :=
          .intro other left right files
        exact alike.noteAll records records
      unfold Run.packet
      dsimp only
      cases (first.session.decode (packetAt first.options.duration first.count data)).result with
      | error error => exact .intro _ _ _ stepped
      | ok result =>
          cases result with
          | none => exact .intro _ _ _ stepped
          | some subtitle => exact stepped.present subtitle

theorem packets (alike : Alike place first second) (packets : List (List UInt8)) :
    SameOutcome place (first.packets packets) (second.packets packets) ∧
      first.decodes packets = second.decodes packets := by
  induction packets generalizing first second with
  | nil => exact ⟨.intro _ _ _ alike, rfl⟩
  | cons data rest hypothesis =>
      have taken : packetAt second.options.duration second.count data =
          packetAt first.options.duration first.count data := by
        cases alike
        rfl
      have step := alike.packet data
      rw [packets_cons, packets_cons, decodes, decodes, taken]
      generalize first.packet data = one, second.packet data = two at step ⊢
      cases step with
      | intro one two stop after =>
          cases stop with
          | some stop => exact ⟨.intro _ _ _ after, rfl⟩
          | none =>
              rcases hypothesis after with ⟨outcome, decoded⟩
              exact ⟨outcome, congrArg _ decoded⟩

/-! ## Files to read -/

theorem readFiles
    (alike : Alike place first second)
    (paths : List Path)
    (unread : ∀ path ∈ paths, path.place ≠ place) :
    SameOutcome place (first.readFiles paths) (second.readFiles paths) ∧
      first.decodesFiles paths = second.decodesFiles paths := by
  induction paths generalizing first second with
  | nil => exact ⟨.intro _ _ _ alike, rfl⟩
  | cons path rest hypothesis =>
      have here : first.files.read path = second.files.read path :=
        alike.files_alike.read_other (unread path List.mem_cons_self)
      rw [Run.readFiles, Run.readFiles, decodesFiles, decodesFiles, here, alike.options_eq]
      cases second.files.read path with
      | error fault => exact ⟨.intro _ _ _ alike, rfl⟩
      | ok content =>
          dsimp only
          rcases alike.packets (filePackets first.options.lines content) with ⟨outcome, decoded⟩
          rw [decoded]
          generalize
            first.packets (filePackets first.options.lines content) = one,
            second.packets (filePackets first.options.lines content) = two at outcome ⊢
          cases outcome with
          | intro one two stop after =>
              cases stop with
              | some stop => exact ⟨.intro _ _ _ after, rfl⟩
              | none =>
                  rcases hypothesis after fun path member =>
                      unread path (List.mem_cons_of_mem _ member) with
                    ⟨last, others⟩
                  exact ⟨last, congrArg _ others⟩

theorem readAll
    (alike : Alike place first second)
    (unread : ∀ path ∈ first.options.files, path.place ≠ place)
    (input : List UInt8) :
    SameOutcome place (first.readAll input) (second.readAll input) ∧
      first.decodesAll input = second.decodesAll input := by
  unfold Run.readAll decodesAll
  rw [alike.options_eq]
  split
  next => exact alike.packets (streamPackets input)
  next => exact alike.readFiles first.options.files unread

end Alike

/-! ## From the session to the end -/

namespace Alike

variable {place : List String} {first second : Run}

theorem report (alike : Alike place first second) (exit : Except Stop Nat) :
    (first.report exit).Alike place (second.report exit) := by
  cases alike with
  | intro other left right files => exact .intro other.journal.console other.files files

theorem finish (alike : Alike place first second) : Alike place first.finish second.finish := by
  cases alike with
  | intro other left right files =>
      let records := first.session.closeRecords ++ first.store.stopRecords
      have finished : Alike place
          { first with session := first.session.close, store := first.store.stopWatch }
          { first with
            session := first.session.close,
            store := first.store.stopWatch,
            logbook := other } :=
        .intro other left right files
      exact finished.noteAll records records

theorem watched (alike : Alike place first second) (watcher : Settings.Watcher) :
    SameOutcome place (first.watched watcher) (second.watched watcher) := by
  cases alike with
  | intro other left right files =>
      unfold Run.watched
      dsimp only
      split
      next =>
        split
        next =>
          let store := ((first.store.subscribe subscriber).startWatch none watcher).1
          have watching : Alike place { first with store } { first with store, logbook := other } :=
            .intro other left right files
          exact .intro _ _ _ (watching.noteAll _ _)
        next =>
          have still : Alike place first { first with logbook := other } :=
            .intro other left right files
          exact .intro _ _ _ (still.noteAll _ _)
      next => exact .intro _ _ _ (.intro other left right files)

end Alike

/-- Two runs get ready alike, or are stopped with reports that are alike. -/
inductive SameReadiness (place : List String) : (first second : Except Report Run) → Prop where
  | ready (first second : Run) (alike : Alike place first second) :
      SameReadiness place (.ok first) (.ok second)
  | stopped (first second : Report) (alike : first.Alike place second) :
      SameReadiness place (.error first) (.error second)

variable {place : List String} {first second : Run}

theorem Alike.ready (alike : Alike place first second) (watcher : Settings.Watcher) :
    SameReadiness place (first.ready watcher) (second.ready watcher) := by
  have watched := alike.watched watcher
  unfold Run.ready
  generalize first.watched watcher = one, second.watched watcher = two at watched ⊢
  cases watched with
  | intro one two stop watching =>
      cases stop with
      | some stop => exact .stopped _ _ (watching.report _)
      | none =>
          have exported := watching.exporting
          dsimp only
          generalize one.exporting = third, two.exporting = fourth at exported ⊢
          cases exported with
          | intro third fourth stop after =>
              cases stop with
              | some stop => exact .stopped _ _ (after.report _)
              | none => exact .ready _ _ after

theorem Alike.conclude
    (alike : Alike place first second)
    (unread : ∀ path ∈ first.options.files, path.place ≠ place)
    (input : List UInt8) :
    (first.conclude input).Alike place (second.conclude input) := by
  have outcome := (alike.readAll unread input).1
  unfold Run.conclude
  generalize first.readAll input = one, second.readAll input = two at outcome ⊢
  cases outcome with
  | intro one two stop after =>
      cases stop with
      | some stop => exact after.finish.report _
      | none =>
          have tally : two.session = one.session := by
            cases after
            rfl
          dsimp only
          rw [exitCode, exitCode, tally]
          exact (after.finish.noteAll _ _).report _

end Run

/-! ## Whole runs -/

/-- The settings of a run, where they can be loaded and take what the command line asks for. -/
def Options.settled? (options : Options) (surroundings : Surroundings) : Option Settings :=
  (options.load surroundings).1.toOption.bind fun loaded => (options.applyTo loaded).toOption

/-- The path of the log of a run that comes to have one. -/
def Options.logs (options : Options) (surroundings : Surroundings) : List Path :=
  (options.settled? surroundings).toList.map fun settings => Journal.filePath settings.system

/-- A run that begins writes to the log of its settings. -/
theorem logsTo_of_begin
    {options : Options}
    {surroundings : Surroundings}
    {store : Settings.Store}
    {settings : Settings}
    {logbook : Logbook}
    {run : Run}
    (begun : begin options surroundings store settings = (logbook, .ok run)) :
    run.logbook.LogsTo (Journal.filePath settings.system).place := by
  rcases begin_eq_ok options surroundings store settings logbook run begun with
    ⟨fresh, records, session, notices, up, -, rfl⟩
  have only : fresh.LogsTo (Journal.filePath settings.system).place :=
    (Journal.setUp_cases (Logbook.setUp_of_begin? up)).1
  exact (only.noteAll records).1

/-- A prepared run has one log, and has come to empty its file of records. -/
theorem exporting_of_prepare
    {options : Options}
    {surroundings : Surroundings}
    {ready : Run}
    (prepared : prepare options surroundings = .ok ready) :
    ∃ (log : Path) (watching : Run),
      options.logs surroundings = [log] ∧
        watching.logbook.LogsTo log.place ∧
        watching.exporting = (ready, none) := by
  rcases stages_of_prepare options surroundings ready prepared with
    ⟨loaded, store, settings, logbook, run, loading, applied, begun, readied⟩
  rcases Run.stages_of_ready readied with ⟨watching, watched, exported⟩
  rcases run.logbook_watched surroundings.watcher with ⟨records, noted⟩
  rw [watched] at noted
  refine ⟨Journal.filePath settings.system, watching, ?_, ?_, exported⟩
  · simp [Options.logs, Options.settled?, loading, applied, Except.toOption]
  · exact noted ▸ ((logsTo_of_begin begun).noteAll records).1

/--
Two reports tell the same of a run, and every file that is not one of its logs has the same content
in both.
-/
structure Report.Agree (logs : List Path) (first second : Report) : Prop where
  told : second = { first with console := second.console, files := second.files }
  kept :
    ∀ path, (∀ log ∈ logs, path.place ≠ log.place) →
      second.files.read path = first.files.read path

theorem Report.Agree.refl (logs : List Path) (report : Report) : report.Agree logs report where
  told := rfl
  kept := fun _ _ => rfl

/-- Two runs begin alike, or are stopped in the same way with files that are alike. -/
inductive SameBeginning (place : List String) :
    (first second : Logbook × Except Stop Run) → Prop where
  | begun (one two : Logbook) (first second : Run) (alike : first.Alike place second) :
      SameBeginning place (one, .ok first) (two, .ok second)
  | stopped (one two : Logbook) (stop : Stop) (alike : one.files.Alike place two.files) :
      SameBeginning place (one, .error stop) (two, .error stop)

section Time

variable (options : Options) (surroundings : Surroundings)
variable (clock : Nat → Log.Moment) (identity : String)

/-- Runs begin alike at two times. -/
theorem begin_alike (store : Settings.Store) (settings : Settings) :
    SameBeginning (Journal.filePath settings.system).place
      (begin options surroundings store settings)
      (begin options { surroundings with clock, freshIdentity := identity } store settings) := by
  have logbooks := Logbook.begin?_alike surroundings.files settings.system surroundings.clock clock
    surroundings.freshIdentity identity
  unfold begin
  dsimp only
  generalize
    Logbook.begin? surroundings.files surroundings.clock settings.system
      surroundings.freshIdentity = one,
    Logbook.begin? surroundings.files clock settings.system identity = two at logbooks ⊢
  cases logbooks with
  | failed fault => exact .stopped _ _ _ (.refl _ surroundings.files)
  | begun one two left right alike =>
      let always := options.codec.isUtf8
      let records := Session.choiceRecords settings.decoder.preferences options.encoding always
      rcases left.noteAll records with ⟨first, here⟩
      rcases right.noteAll records with ⟨second, there⟩
      have noted := (here.symm.trans alike).trans there
      cases Session.open? settings.decoder options.codec options.encoding Color.byName
          surroundings.platform surroundings.catalogue with
      | error fault => exact .stopped _ _ _ noted
      | ok opened =>
          rcases opened with ⟨session, notices⟩
          let run : Run :=
            { options,
              environment := surroundings.environment,
              store,
              session,
              notices,
              logbook := one.noteAll records }
          have opened : run.Alike (Journal.filePath settings.system).place
              { run with logbook := two.noteAll records } :=
            .intro (two.noteAll records) first second noted
          exact .begun _ _ _ _ (opened.noteAll _ _)

/-- Runs get ready alike at two times. -/
theorem prepare_alike
    (place : List String)
    (logged : ∀ log ∈ options.logs surroundings, log.place = place) :
    Run.SameReadiness place (prepare options surroundings)
      (prepare options { surroundings with clock, freshIdentity := identity }) := by
  have loads : options.load { surroundings with clock, freshIdentity := identity } =
      options.load surroundings := rfl
  unfold prepare
  rw [loads]
  split
  next => exact .stopped _ _ (.refl place _)
  next =>
    rcases loading : options.load surroundings with ⟨cause | loaded, store⟩
    next => exact .stopped _ _ (.refl place _)
    next =>
      dsimp only
      cases applied : options.applyTo loaded with
      | error complaints => exact .stopped _ _ (.refl place _)
      | ok settings =>
          have here : (Journal.filePath settings.system).place = place :=
            logged _ (by simp [Options.logs, Options.settled?, loading, applied, Except.toOption])
          have beginning := begin_alike options surroundings clock identity store settings
          rw [here] at beginning
          dsimp only
          generalize
            begin options surroundings store settings = one,
            begin options { surroundings with clock, freshIdentity := identity } store
              settings = two at beginning ⊢
          cases beginning with
          | stopped one two stop alike => exact .stopped _ _ (.intro _ _ alike)
          | begun one two first second alike => exact alike.ready surroundings.watcher

/-- A run that is stopped before it has a log is the same at any time. -/
theorem prepare_of_unsettled (unsettled : options.settled? surroundings = none) :
    prepare options { surroundings with clock, freshIdentity := identity } =
      prepare options surroundings := by
  have loads : options.load { surroundings with clock, freshIdentity := identity } =
      options.load surroundings := rfl
  unfold prepare
  rw [loads]
  split
  next => rfl
  next =>
    rcases loading : options.load surroundings with ⟨cause | loaded, store⟩
    next => rfl
    next =>
      dsimp only
      cases applied : options.applyTo loaded with
      | error complaints => rfl
      | ok settings => simp [Options.settled?, loading, applied, Except.toOption] at unsettled

/--
What a run tells, and what it leaves in all files but its log, does not depend on the time or on the
identity of its session, if the log is none of the files that it reads.
-/
theorem agree_at_any_time
    (unread : ∀ path ∈ options.files, ∀ log ∈ options.logs surroundings, path.place ≠ log.place) :
    (runWith options surroundings).Agree (options.logs surroundings)
        (runWith options { surroundings with clock, freshIdentity := identity }) ∧
      decodedPackets options surroundings =
        decodedPackets options { surroundings with clock, freshIdentity := identity } := by
  rw [runWith_eq_prepare, runWith_eq_prepare, decodedPackets, decodedPackets]
  cases settled : options.settled? surroundings with
  | none =>
      rw [prepare_of_unsettled options surroundings clock identity settled]
      exact ⟨.refl _ _, rfl⟩
  | some settings =>
      let log := Journal.filePath settings.system
      have logs : options.logs surroundings = [log] := by simp [Options.logs, settled, log]
      rw [logs] at unread ⊢
      simp only [List.mem_singleton, forall_eq] at unread
      have readiness := prepare_alike options surroundings clock identity log.place (by simp [logs])
      have agrees {first second : Report} (alike : first.Alike log.place second) :
          first.Agree [log] second := by
        cases alike with
        | intro console files alike =>
            refine ⟨rfl, fun path apart => ?_⟩
            exact (alike.read_other (apart log List.mem_cons_self)).symm
      have asked (ready : Run) (prepared : prepare options surroundings = .ok ready) :
          ready.options = options :=
        (fresh_of_prepare options surroundings ready prepared).1
      generalize
        prepare options surroundings = one,
        prepare options { surroundings with clock, freshIdentity := identity } = two
          at asked readiness ⊢
      cases readiness with
      | stopped first second alike => exact ⟨agrees alike, rfl⟩
      | ready first second alike =>
          have same : first.options = options := asked first rfl
          rw [← same] at unread
          exact
            ⟨agrees (alike.conclude unread surroundings.input),
              (alike.readAll unread surroundings.input).2⟩

end Time

end TimedText.CommandLine
