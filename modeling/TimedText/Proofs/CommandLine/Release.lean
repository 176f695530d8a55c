import TimedText.Proofs.CommandLine.Log
import TimedText.Proofs.CommandLine.Overriding
import TimedText.Proofs.Session.Mismatch

/-!
# What a run leaves open

A run opens a session and may start a watch over its file of settings.  Both are to be over when it
ends, however it ends.  From the first packet on this is so: whatever stops the reading, the session
is closed and the watch is taken away.

Between the opening and the first packet there are two more steps, the start of the watch and the
emptying of the file of records.  If one of them fails the run stops there and then, with its session
open, and with its watch on if that was started.  Nothing else leaves anything open.
-/

namespace TimedText.CommandLine

/-! ## Runs that begin -/

/--
A run that has begun: its settings are loaded, its journal is set up and its session is open, and
only the log has been written since.
-/
structure Begun (options : Options) (surroundings : Surroundings) (run : Run) : Prop where
  asked : run.options = options
  unclosed : run.session.converter.closed = false
  settled :
    ∃ loaded journal place,
      (options.load surroundings).1 = .ok loaded ∧
        Journal.setUp { files := surroundings.files } loaded.system none
          surroundings.freshIdentity surroundings.clock = .ok journal ∧
        run.logbook.LogsTo place ∧
        journal.files.Alike place run.files

theorem Begun.noteAll
    {options : Options}
    {surroundings : Surroundings}
    {run : Run}
    (begun : Begun options surroundings run)
    (records : List Log.Record) :
    Begun options surroundings (run.noteAll records) := by
  rcases begun with ⟨asked, unclosed, loaded, journal, place, loading, up, only, alike⟩
  rcases only.noteAll records with ⟨still, noted⟩
  exact ⟨asked, unclosed, loaded, journal, place, loading, up, still, alike.trans noted⟩

theorem begun_of_begin
    {options : Options}
    {surroundings : Surroundings}
    {loaded settings : Settings}
    {store : Settings.Store}
    {logbook : Logbook}
    {run : Run}
    (loading : options.load surroundings = (.ok loaded, store))
    (applied : options.applyTo loaded = .ok settings)
    (started : begin options surroundings store settings = (logbook, .ok run)) :
    Begun options surroundings run ∧
      run.store.path = run.options.config ∧
      run.store.watch = none := by
  have normal := isNormal_of_load options surroundings loaded store loading
  rw [applyTo_of_isNormal options loaded normal, Except.ok.injEq] at applied
  subst applied
  have stored := store_of_load loading
  subst stored
  rcases begin_eq_ok options surroundings _ _ logbook run started with
    ⟨fresh, records, session, notices, up, opened, rfl⟩
  have journal := Logbook.setUp_of_begin? up
  rcases (show fresh.LogsTo _ from (Journal.setUp_cases journal).1).noteAll records with
    ⟨only, alike⟩
  refine ⟨⟨rfl, ?_, loaded, fresh.journal, _, ?_, journal, only, alike⟩, rfl, rfl⟩
  · exact Session.unclosed_of_open? opened
  · rw [loading]

/-- A run has neither a session nor a watch, or it begins and goes on to its end. -/
theorem runWith_begins (options : Options) (surroundings : Surroundings) :
    ((runWith options surroundings).session = none ∧
        (runWith options surroundings).store.watch = none) ∨
      ∃ run,
        (Begun options surroundings run ∧
          run.store.path = run.options.config ∧
          run.store.watch = none) ∧
          runWith options surroundings =
            run.toEnd surroundings.input surroundings.watcher := by
  have unwatched := watch_of_load options surroundings
  unfold runWith
  split
  next => exact .inl ⟨rfl, rfl⟩
  next =>
    rcases loading : options.load surroundings with ⟨cause | loaded, store⟩ <;>
      rw [loading] at unwatched
    next => exact .inl ⟨rfl, unwatched⟩
    next =>
      dsimp only
      rcases applied : options.applyTo loaded with complaints | settings
      next => exact .inl ⟨rfl, unwatched⟩
      next =>
        dsimp only
        rcases started : begin options surroundings store settings with ⟨logbook, stop | run⟩
        next => exact .inl ⟨rfl, unwatched⟩
        next => exact .inr ⟨run, begun_of_begin loading applied started, rfl⟩

/-! ## The watch -/

/-- The watch that a run is asked for cannot be had. -/
def Options.WatchFails
    (options : Options)
    (surroundings : Surroundings)
    (reason : String) : Prop :=
  ∃ watch, options.watch? = some watch ∧ surroundings.watcher watch = .error reason

/-- A run that begins goes on with the watch that it is asked for, or stops without any. -/
theorem Begun.watched_cases
    {options : Options}
    {surroundings : Surroundings}
    {run : Run}
    (begun : Begun options surroundings run)
    (known : run.store.path = run.options.config)
    (free : run.store.watch = none) :
    (∃ watching,
        run.watched surroundings.watcher = (watching, none) ∧
          (∀ reason, ¬ options.WatchFails surroundings reason) ∧
          Begun options surroundings watching ∧
          watching.store.watch = options.watch?) ∨
      ∃ stopped reason,
        run.watched surroundings.watcher = (stopped, some (.watch reason)) ∧
          (∀ other, options.WatchFails surroundings other ↔ other = reason) ∧
          Begun options surroundings stopped ∧
          stopped.store.watch = none := by
  have watches := run.watching_of_watched surroundings.watcher known free
  have same := begun.asked
  have held (store : Settings.Store) (records : List Log.Record) :
      Begun options surroundings (Run.noteAll { run with store } records) := by
    have stored : Begun options surroundings { run with store } :=
      ⟨begun.asked, begun.unclosed, begun.settled⟩
    exact stored.noteAll records
  generalize run.watched surroundings.watcher = outcome at watches ⊢
  cases watches with
  | unasked records nothing =>
      rw [same] at nothing
      refine .inl ⟨_, rfl, ?_, begun.noteAll records, free.trans nothing.symm⟩
      rintro reason ⟨watch, asked, -⟩
      cases nothing.symm.trans asked
  | started records watch asked runs =>
      rw [same] at asked
      refine .inl ⟨_, rfl, ?_, held _ records, asked.symm⟩
      rintro reason ⟨other, wanted, fails⟩
      cases asked.symm.trans wanted
      cases runs.symm.trans fails
  | failed records watch reason asked fails =>
      rw [same] at asked
      refine .inr ⟨_, reason, rfl, fun other => ?_, held _ records, free⟩
      simp [Options.WatchFails, asked, fails, eq_comm]

/-! ## The file of records -/

/-- The file of records that a run is asked for cannot be emptied when the journal is set up. -/
def Options.RecordsFail
    (options : Options)
    (surroundings : Surroundings)
    (fault : FileTree.Fault) : Prop :=
  ∃ path loaded journal,
    options.exportTo = some path ∧
      (options.load surroundings).1 = .ok loaded ∧
      Journal.setUp { files := surroundings.files } loaded.system none
        surroundings.freshIdentity surroundings.clock = .ok journal ∧
      RecordFile.save journal.files path [] = .error fault

/-- A run that has begun fails to empty its file of records in no other way. -/
theorem Begun.exporting_eq_iff
    {options : Options}
    {surroundings : Surroundings}
    {run : Run}
    (begun : Begun options surroundings run)
    (fault : FileTree.Fault) :
    run.exporting.2 = some (.file fault) ↔ options.RecordsFail surroundings fault := by
  rcases begun with ⟨rfl, -, loaded, journal, place, loading, up, -, alike⟩
  unfold Run.exporting Options.RecordsFail
  cases target : run.options.exportTo with
  | none => simp
  | some path =>
      -- What has been written to the log since the journal was set up does not matter.
      have saved := RecordFile.agree_save alike path []
      simp only [loading, up, Option.some.injEq, Except.ok.injEq, exists_eq_left',
        exists_and_left, ↓existsAndEq, true_and]
      generalize
        RecordFile.save journal.files path [] = one,
        RecordFile.save run.files path [] = two at saved ⊢
      cases saved with
      | changed => simp
      | failed => simp

/-! ## Ends of runs -/

/-- A report on a run whose session is closed and whose watch is over. -/
structure Report.Released (report : Report) : Prop where
  closed : ∀ session, report.session = some session → session.converter.closed = true
  unwatched : report.store.watch = none

/-- A run that comes to its packets leaves nothing open, whatever stops it there. -/
theorem Run.released_conclude (ready : Run) (input : List UInt8) :
    (ready.conclude input).Released := by
  unfold Run.conclude
  rcases ready.readAll input with ⟨after, _ | stop⟩ <;>
    exact ⟨by rintro session ⟨⟩; rfl, rfl⟩

/-- A run that has a session still has it at its end. -/
theorem Run.exists_session_toEnd (run : Run) (input : List UInt8) (watcher : Settings.Watcher) :
    ∃ session, (run.toEnd input watcher).session = some session := by
  unfold Run.toEnd
  rcases unready : run.ready watcher with report | ready <;> dsimp only
  next =>
    rcases Run.report_of_unready unready with ⟨store, logbook, stop, rfl⟩
    exact ⟨run.session, rfl⟩
  next =>
    unfold Run.conclude
    rcases ready.readAll input with ⟨after, _ | stop⟩ <;> exact ⟨_, rfl⟩

/-- A run that is stopped before its packets leaves its session open. -/
theorem Begun.unreleased
    {options : Options}
    {surroundings : Surroundings}
    {run : Run}
    (begun : Begun options surroundings run)
    (exit : Except Stop Nat) :
    ¬ (run.report exit).Released := by
  intro released
  cases begun.unclosed.symm.trans (released.closed _ rfl)

/--
A report of a run that leaves something open only where one of two steps fails: the start of the watch,
or after it the emptying of the file of records.
-/
structure Report.OpenOnFailure
    (options : Options)
    (surroundings : Surroundings)
    (report : Report) : Prop where
  released_iff :
    report.Released ↔
      (∀ reason, ¬ options.WatchFails surroundings reason) ∧
        ∀ fault, ¬ options.RecordsFail surroundings fault
  of_watchFails :
    ∀ session reason,
      report.session = some session →
        options.WatchFails surroundings reason →
          report.exit = .error (.watch reason) ∧
            session.converter.closed = false ∧
            report.store.watch = none
  of_recordsFail :
    ∀ session fault,
      report.session = some session →
        options.RecordsFail surroundings fault →
          (∀ reason, ¬ options.WatchFails surroundings reason) →
            report.exit = .error (.file fault) ∧
              session.converter.closed = false ∧
              report.store.watch = options.watch?

section

variable {options : Options} {surroundings : Surroundings} {run : Run}

/-- A run that is refused its watch stops there, with its session open. -/
theorem Begun.openOnFailure_of_unwatched
    {reason : String}
    (begun : Begun options surroundings run)
    (fails : ∀ other, options.WatchFails surroundings other ↔ other = reason)
    (free : run.store.watch = none) :
    (run.report (.error (.watch reason))).OpenOnFailure options surroundings := by
  have refused : options.WatchFails surroundings reason := (fails reason).2 rfl
  refine ⟨iff_of_false (begun.unreleased _) fun never => never.1 reason refused, ?_, ?_⟩
  · intro session other opened failed
    cases (fails other).1 failed
    cases opened
    exact ⟨rfl, begun.unclosed, free⟩
  · intro session fault _ _ never
    exact (never reason refused).elim

/-- A run that cannot empty its file of records stops there, with its session and its watch open. -/
theorem Begun.openOnFailure_of_unrecorded
    {fault : FileTree.Fault}
    (begun : Begun options surroundings run)
    (runs : ∀ reason, ¬ options.WatchFails surroundings reason)
    (fails : ∀ other, options.RecordsFail surroundings other ↔ other = fault)
    (watch : run.store.watch = options.watch?) :
    (run.report (.error (.file fault))).OpenOnFailure options surroundings := by
  have refused : options.RecordsFail surroundings fault := (fails fault).2 rfl
  refine ⟨iff_of_false (begun.unreleased _) fun never => never.2 fault refused, ?_, ?_⟩
  · intro session reason _ failed
    exact (runs reason failed).elim
  · intro session other opened failed _
    cases (fails other).1 failed
    cases opened
    exact ⟨rfl, begun.unclosed, watch⟩

/-- A run that begins leaves something open only where one of the two steps fails. -/
theorem Begun.openOnFailure_toEnd
    (begun : Begun options surroundings run)
    (known : run.store.path = run.options.config)
    (free : run.store.watch = none) :
    (run.toEnd surroundings.input surroundings.watcher).OpenOnFailure options surroundings := by
  unfold Run.toEnd Run.ready
  rcases begun.watched_cases known free with
    ⟨watching, watched, runs, watches, watch⟩ | ⟨stopped, reason, watched, fails, stops, watch⟩ <;>
    rw [watched] <;> dsimp only
  case inr => exact stops.openOnFailure_of_unwatched fails watch
  case inl =>
    have failed := watches.exporting_eq_iff
    rcases exported : watching.exporting with ⟨ready, none | stop⟩ <;>
      simp only [exported, reduceCtorEq, Option.some.injEq] at failed ⊢
    next =>
      have released := ready.released_conclude surroundings.input
      have never (fault : FileTree.Fault) : ¬ options.RecordsFail surroundings fault :=
        (failed fault).not.1 not_false
      refine ⟨iff_of_true released ⟨runs, never⟩, ?_, ?_⟩
      · exact fun _ reason _ refused => (runs reason refused).elim
      · exact fun _ fault _ refused => (never fault refused).elim
    next =>
      rcases Run.stop_of_exporting exported with ⟨fault, records, rfl, rfl⟩
      refine (watches.noteAll records).openOnFailure_of_unrecorded runs (fun other => ?_) watch
      rw [← failed other, Stop.file.injEq, eq_comm]

end

/--
A run that opens a session closes it and ends its watch exactly if the watch that it is asked for can
be had and the file of records that it is asked for can be emptied.  If there is no watch to be had,
the reason is what stops the run, and the session is left open.  If the file of records cannot be
emptied the fault is what stops the run, the session is left open, and the watch that was asked for
is left on.  A run that opens no session has no watch either.
-/
theorem released_unless_watch_or_records_fail (texts : List String) (surroundings : Surroundings) :
    let report := run texts surroundings
    (report.session = none → report.Released) ∧
      ∀ session,
        report.session = some session →
          ∃ options,
            Options.read texts = .ok options ∧
              (report.Released ↔
                (∀ reason, ¬ options.WatchFails surroundings reason) ∧
                  ∀ fault, ¬ options.RecordsFail surroundings fault) ∧
              (∀ reason,
                options.WatchFails surroundings reason →
                  report.exit = .error (.watch reason) ∧
                    session.converter.closed = false ∧
                    report.store.watch = none) ∧
              ∀ fault,
                options.RecordsFail surroundings fault →
                  (∀ reason, ¬ options.WatchFails surroundings reason) →
                    report.exit = .error (.file fault) ∧
                      session.converter.closed = false ∧
                      report.store.watch = options.watch? := by
  intro report
  have made : report = run texts surroundings := rfl
  clear_value report
  rw [run] at made
  rcases asked : Options.read texts with refusal | options <;> rw [asked] at made <;> subst made
  · refine ⟨fun _ => ⟨?_, rfl⟩, ?_⟩ <;> rintro session ⟨⟩
  dsimp only
  rcases runWith_begins options surroundings with
    ⟨none, unwatched⟩ | ⟨start, ⟨begun, known, free⟩, ends⟩
  · refine ⟨fun _ => ⟨?_, unwatched⟩, ?_⟩ <;> intro session some <;> cases none.symm.trans some
  rw [ends]
  have accounts := begun.openOnFailure_toEnd known free
  refine ⟨fun none => ?_, fun session opened => ⟨options, rfl, accounts.released_iff, ?_, ?_⟩⟩
  · rcases start.exists_session_toEnd surroundings.input surroundings.watcher with ⟨session, some⟩
    cases some.symm.trans none
  · exact fun reason => accounts.of_watchFails session reason opened
  · exact fun fault => accounts.of_recordsFail session fault opened

/-- An empty file of settings, and a directory in the place of the file of records. -/
def blockedRecords : Surroundings :=
  { files := ⟨[(["c.yaml"], .file []), (["records"], .directory)]⟩ }

/-- A directory in the place of the file of records leaves the session open and the watch on. -/
theorem blocked_records_release_nothing :
    let report := run ["--config", "c.yaml", "--watch", "--export", "records"] blockedRecords
    report.exit = .error (.file .isDirectory) ∧
      report.store.watch = some (.ofPath (.ofString "c.yaml")) ∧
      ∃ session, report.session = some session ∧ session.converter.closed = false := by
  intro report
  have unclosed : report.session.map (·.converter.closed) = some false := by
    decide +kernel
  refine ⟨by decide +kernel, by decide +kernel, ?_⟩
  exact Option.map_eq_some_iff.1 unclosed

end TimedText.CommandLine
