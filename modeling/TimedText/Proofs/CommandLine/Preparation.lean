import TimedText.Proofs.CommandLine.Run

/-!
# What a run is prepared with

A run that gets ready looks at some of its options only.  What it is to read, for how long packets
are shown and in which form it shows subtitles does not matter before the first packet.  So runs
whose options agree on the others are prepared alike, and each works with its own options from there
on.
-/

namespace TimedText.CommandLine

/-- The options that a run is prepared with; those for the time after that are put aside. -/
def Options.preparing (options : Options) : Options :=
  { options with files := [], lines := false, duration := 0, output := .json }

namespace Run

/-- The run with other options. -/
def under (run : Run) (options : Options) : Run :=
  { run with options }

variable (run : Run) (options : Options)

/-- A report on a run that has shown nothing does not depend on the options. -/
theorem report_under (exit : Except Stop Nat) (unshown : run.shown = []) :
    (run.under options).report exit = run.report exit := by
  have same : (run.under options).shown = run.shown := rfl
  unfold report output
  rw [same, unshown]
  rfl

/-- A change of files does not depend on the options. -/
theorem filesChanged_under (files : FileTree) (account : List Log.Record) :
    (run.under options).filesChanged files account =
      (run.filesChanged files account).under options := by
  have delivered (run : Run) (deliveries : List Settings.Delivery) :
      deliveries.foldl deliver (run.under options) =
        (deliveries.foldl deliver run).under options := by
    induction deliveries generalizing run with
    | nil => rfl
    | cons delivery rest hypothesis => exact hypothesis (run.deliver delivery)
  have same : (run.under options).store = run.store := rfl
  unfold filesChanged
  rw [same]
  cases run.store.watch with
  | none => rfl
  | some watch =>
      dsimp only
      have around : (run.under options).environment = run.environment := rfl
      rw [around]
      rcases run.store.notice files run.environment watch.name
        { path := watch.directory.child watch.name } with ⟨store, deliveries⟩
      exact delivered
        (Run.noteAll { run.withFiles files with store }
          (run.store.changeRecords files run.environment watch account))
        deliveries

variable (same : options.preparing = run.options.preparing)

include same

theorem watched_under (watcher : Settings.Watcher) :
    (run.under options).watched watcher =
      ((run.watched watcher).1.under options, (run.watched watcher).2) := by
  have watch : (run.under options).options.watch = run.options.watch :=
    (congrArg Options.watch same :)
  have given : (run.under options).options.config = run.options.config :=
    (congrArg Options.config same :)
  unfold watched
  rw [watch, given]
  split
  next => split <;> rfl
  next => rfl

theorem exporting_under :
    (run.under options).exporting =
      (run.exporting.1.under options, run.exporting.2) := by
  have target : (run.under options).options.exportTo = run.options.exportTo :=
    (congrArg Options.exportTo same :)
  have held : (run.under options).files = run.files := rfl
  unfold exporting
  rw [target, held]
  cases run.options.exportTo with
  | none => rfl
  | some path =>
      dsimp only
      cases RecordFile.save run.files path [] <;> rfl

theorem keep_under (subtitle : Subtitle) :
    (run.under options).keep subtitle =
      ((run.keep subtitle).1.under options, (run.keep subtitle).2) := by
  have target : (run.under options).options.exportTo = run.options.exportTo :=
    (congrArg Options.exportTo same :)
  have held : (run.under options).files = run.files := rfl
  unfold keep
  rw [target]
  cases run.options.exportTo with
  | none => rfl
  | some path =>
      dsimp only
      unfold extend
      rw [held]
      dsimp only
      split
      next => rfl
      next => split <;> rfl

/-- A run that has shown nothing gets ready without regard to the options for the time after. -/
theorem ready_under (watcher : Settings.Watcher) (unshown : run.shown = []) :
    (run.under options).ready watcher =
      (run.ready watcher).map fun ready => ready.under options := by
  have watching := run.watched_eq watcher
  unfold ready
  rw [run.watched_under options same]
  generalize run.watched watcher = first at watching ⊢
  rcases first with ⟨watched, _ | stop⟩
  · dsimp only at watching ⊢
    have asked : options.preparing = watched.options.preparing := by
      rw [watching]
      exact same
    have still : watched.shown = [] := by
      rw [watching]
      exact unshown
    have kept := watched.exporting_eq
    rw [watched.exporting_under options asked]
    generalize watched.exporting = second at kept ⊢
    rcases second with ⟨exported, _ | stop⟩
    · rfl
    · dsimp only at kept ⊢
      have shown : exported.shown = [] := by
        rw [kept]
        exact still
      exact congrArg Except.error (exported.report_under options _ shown)
  · dsimp only at watching ⊢
    have shown : watched.shown = [] := by
      rw [watching]
      exact unshown
    exact congrArg Except.error (watched.report_under options _ shown)

end Run

section Prepared

variable {options others : Options} (same : options.preparing = others.preparing)
variable (surroundings : Surroundings)

include same

theorem begin_under (store : Settings.Store) (settings : Settings) :
    begin options surroundings store settings =
      ((begin others surroundings store settings).1,
        (begin others surroundings store settings).2.map fun run => run.under options) := by
  have codec : options.codec = others.codec := (congrArg Options.codec same :)
  have encoding : options.encoding = others.encoding := (congrArg Options.encoding same :)
  unfold begin
  dsimp only
  rw [codec, encoding]
  split
  next => rfl
  next =>
    dsimp only
    split <;> rfl

/-- Runs whose options agree on what matters before the first packet are prepared alike. -/
theorem prepare_under :
    prepare options surroundings =
      (prepare others surroundings).map fun ready => ready.under options := by
  have listing : options.listEncodings = others.listEncodings :=
    (congrArg Options.listEncodings same :)
  have config : options.config = others.config := (congrArg Options.config same :)
  have align : options.align = others.align := (congrArg Options.align same :)
  have noDetection : options.noDetection = others.noDetection := (congrArg Options.noDetection same :)
  have plain : options.plain = others.plain := (congrArg Options.plain same :)
  have loads : options.load surroundings = others.load surroundings := by
    rw [Options.load, config, Options.load]
  have applies (settings : Settings) : options.applyTo settings = others.applyTo settings := by
    rw [Options.applyTo, Options.overrides, align, noDetection, plain]
    rfl
  unfold prepare
  rw [listing, loads]
  split
  next => rfl
  next =>
    rcases others.load surroundings with ⟨cause | loaded, store⟩
    next => rfl
    next =>
      dsimp only
      rw [applies]
      rcases others.applyTo loaded with complaints | settings
      next => rfl
      next =>
        dsimp only
        rw [begin_under same]
        rcases begun : begin others surroundings store settings with ⟨logbook, stop | run⟩
        next => rfl
        next =>
          rcases begin_eq_ok others surroundings store settings logbook run begun with
            ⟨fresh, records, session, notices, -, -, started⟩
          have asked : options.preparing = run.options.preparing := by
            rw [started]
            exact same
          have unshown : run.shown = [] := by rw [started]
          exact run.ready_under options asked surroundings.watcher unshown

end Prepared

end TimedText.CommandLine
