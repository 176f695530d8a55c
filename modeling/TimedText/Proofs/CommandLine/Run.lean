import TimedText.CommandLine.Run
import TimedText.Proofs.Session.Exit

/-!
# Runs that decode

A run is prepared before it reads its first packet: the settings are loaded, the log is set up, the
session is opened, the watch begins and the file of records is emptied.  A run that is stopped
on the way there has its report already.

From then on things happen to the run, one after the other.  A packet is taken by the session that
the run has at that moment, and what is shown comes from these packets alone.
-/

namespace TimedText

/-- A store without a watch asks the watcher for one over the file that it knows. -/
theorem Settings.Store.startWatch_of_free
    {path : Path}
    (store : Store)
    (watcher : Watcher)
    (known : store.path = some path)
    (free : store.watch = none) :
    store.startWatch none watcher =
      match watcher (.ofPath path) with
      | .ok () => ({ store with watch := some (.ofPath path) }, .ok (some (.ofPath path)))
      | .error reason => (store, .error reason) := by
  obtain ⟨active, _, subscribers, _⟩ := store
  subst known free
  rfl

namespace CommandLine

/-! ## Getting ready -/

/-- The run that is ready to read packets, or the report on one that is stopped before. -/
def prepare (options : Options) (surroundings : Surroundings) : Except Report Run :=
  if options.listEncodings then
    .error { exit := .ok 0, output := Charset.listing, files := surroundings.files }
  else
    match options.load surroundings with
    | (.error cause, store) => .error (unloaded surroundings store cause)
    | (.ok loaded, store) =>
        match options.applyTo loaded with
        | .error complaints =>
            .error { exit := .error (.invalid complaints), files := surroundings.files, store }
        | .ok settings =>
            match begin options surroundings store settings with
            | (logbook, .error stop) =>
                .error
                  { exit := .error stop,
                    console := logbook.journal.console,
                    files := logbook.files,
                    store }
            | (_, .ok run) => run.ready surroundings.watcher

/-- A run is prepared, and reads its packets if nothing has stopped it by then. -/
theorem runWith_eq_prepare (options : Options) (surroundings : Surroundings) :
    runWith options surroundings =
      match prepare options surroundings with
      | .error report => report
      | .ok ready => ready.conclude surroundings.input := by
  unfold runWith prepare
  split
  next => rfl
  next =>
    rcases options.load surroundings with ⟨cause | loaded, store⟩
    next => rfl
    next =>
      dsimp only
      rcases options.applyTo loaded with complaints | settings
      next => rfl
      next =>
        dsimp only
        rcases begin options surroundings store settings with ⟨logbook, stop | run⟩
        next => rfl
        next => rfl

/-- The stages of a run that gets ready. -/
theorem stages_of_prepare
    (options : Options)
    (surroundings : Surroundings)
    (ready : Run)
    (prepared : prepare options surroundings = .ok ready) :
    ∃ loaded store settings logbook run,
      options.load surroundings = (.ok loaded, store) ∧
        options.applyTo loaded = .ok settings ∧
        begin options surroundings store settings = (logbook, .ok run) ∧
        run.ready surroundings.watcher = .ok ready := by
  unfold prepare at prepared
  split at prepared
  next => cases prepared
  next =>
    split at prepared
    next => cases prepared
    next loaded store loading =>
      split at prepared
      next => cases prepared
      next settings applied =>
        split at prepared
        next => cases prepared
        next logbook run begun =>
          exact ⟨loaded, store, settings, logbook, run, loading, applied, begun, prepared⟩

/-- The ways in which a run is stopped before its first packet, each with its report. -/
inductive Unprepared (options : Options) (surroundings : Surroundings) :
    (report : Report) → Prop where
  | listing
      (asked : options.listEncodings = true) :
      Unprepared options surroundings
        { exit := .ok 0, output := Charset.listing, files := surroundings.files }
  | unloaded
      (cause : Settings.LoadError)
      (store : Settings.Store)
      (loading : options.load surroundings = (.error cause, store)) :
      Unprepared options surroundings (unloaded surroundings store cause)
  | invalid
      (loaded : Settings)
      (store : Settings.Store)
      (complaints : List Settings.Complaint)
      (loading : options.load surroundings = (.ok loaded, store))
      (refused : options.applyTo loaded = .error complaints) :
      Unprepared options surroundings
        { exit := .error (.invalid complaints), files := surroundings.files, store }
  | unbegun
      (settings : Settings)
      (store : Settings.Store)
      (logbook : Logbook)
      (stop : Stop)
      (begun : begin options surroundings store settings = (logbook, .error stop)) :
      Unprepared options surroundings
        { exit := .error stop,
          console := logbook.journal.console,
          files := logbook.files,
          store }
  | unready
      (settings : Settings)
      (store : Settings.Store)
      (logbook : Logbook)
      (run : Run)
      (report : Report)
      (begun : begin options surroundings store settings = (logbook, .ok run))
      (stopped : run.ready surroundings.watcher = .error report) :
      Unprepared options surroundings report

theorem unprepared_of_prepare
    {options : Options}
    {surroundings : Surroundings}
    {report : Report}
    (stopped : prepare options surroundings = .error report) :
    Unprepared options surroundings report := by
  unfold prepare at stopped
  split at stopped
  next asked =>
    cases stopped
    exact .listing asked
  next =>
    split at stopped
    next cause store loading =>
      cases stopped
      exact .unloaded cause store loading
    next loaded store loading =>
      split at stopped
      next complaints refused =>
        cases stopped
        exact .invalid loaded store complaints loading refused
      next settings applied =>
        split at stopped
        next logbook stop begun =>
          cases stopped
          exact .unbegun settings store logbook stop begun
        next logbook run begun => exact .unready settings store logbook run report begun stopped

/-- A run that begins has its log set up and its session opened. -/
theorem begin_eq_ok
    (options : Options)
    (surroundings : Surroundings)
    (store : Settings.Store)
    (settings : Settings)
    (logbook : Logbook)
    (run : Run)
    (begun : begin options surroundings store settings = (logbook, .ok run)) :
    ∃ fresh records session notices,
      Logbook.begin? surroundings.files surroundings.clock settings.system
          surroundings.freshIdentity = .ok fresh ∧
        Session.open? settings.decoder options.codec options.encoding Color.byName
          surroundings.platform surroundings.catalogue = .ok (session, notices) ∧
        run =
          { options,
            environment := surroundings.environment,
            store,
            session,
            notices,
            logbook := fresh.noteAll records } := by
  unfold begin at begun
  dsimp only at begun
  split at begun
  next => cases begun
  next fresh up =>
    split at begun
    next => cases begun
    next session notices opened =>
      cases begun
      let always := options.codec.isUtf8
      let preferences := settings.decoder.preferences
      let charset := Charset.choose preferences surroundings.platform options.encoding always
      refine
        ⟨fresh,
          Session.choiceRecords preferences options.encoding always
            ++ session.openRecords charset notices,
          session, notices, up, opened, ?_⟩
      rw [Logbook.noteAll_append]

/-- A run that does not begin has no log, or no name for its encoding. -/
theorem begin_eq_error
    {options : Options}
    {surroundings : Surroundings}
    {store : Settings.Store}
    {settings : Settings}
    {logbook : Logbook}
    {stop : Stop}
    (begun : begin options surroundings store settings = (logbook, .error stop)) :
    (∃ fault, stop = .file fault) ∨ ∃ fault, stop = .name fault := by
  unfold begin at begun
  dsimp only at begun
  split at begun
  next fault failed =>
    cases begun
    exact .inl ⟨fault, rfl⟩
  next =>
    split at begun
    next fault failed =>
      cases begun
      exact .inr ⟨fault, rfl⟩
    next => cases begun

/-- The watch that a run is asked for, over the file of its settings. -/
def Options.watch? (options : Options) : Option Settings.Watch :=
  if options.watch then options.config.map .ofPath else none

namespace Run

/-- A run gets ready in two steps: the watch, and the file of records. -/
theorem stages_of_ready
    {run ready : Run}
    {watcher : Settings.Watcher}
    (readied : run.ready watcher = .ok ready) :
    ∃ watching, run.watched watcher = (watching, none) ∧ watching.exporting = (ready, none) := by
  unfold Run.ready at readied
  split at readied
  next => cases readied
  next watching watched =>
    split at readied
    next => cases readied
    next kept exported =>
      cases readied
      exact ⟨watching, watched, exported⟩

/-- A run that does not get ready is stopped at one of the steps, and is reported as it is then. -/
theorem stop_of_ready
    {run : Run}
    {watcher : Settings.Watcher}
    {report : Report}
    (unready : run.ready watcher = .error report) :
    ∃ stopped stop,
      report = stopped.report (.error stop) ∧
        (run.watched watcher = (stopped, some stop) ∨
          ∃ watching,
            run.watched watcher = (watching, none) ∧
              watching.exporting = (stopped, some stop)) := by
  unfold Run.ready at unready
  split at unready
  next stopped stop watched =>
    cases unready
    exact ⟨stopped, stop, rfl, .inl watched⟩
  next watching watched =>
    split at unready
    next stopped stop exported =>
      cases unready
      exact ⟨stopped, stop, rfl, .inr ⟨watching, watched, exported⟩⟩
    next => cases unready

/-- Only the library that watches files keeps a run from watching its own. -/
theorem stop_of_watched
    {run stopped : Run}
    {watcher : Settings.Watcher}
    {stop : Stop}
    (watched : run.watched watcher = (stopped, some stop)) :
    ∃ reason, stop = .watch reason := by
  unfold Run.watched at watched
  dsimp only at watched
  split at watched
  next =>
    split at watched
    next =>
      split at watched
      next => cases watched
      next reason _ =>
        cases watched
        exact ⟨reason, rfl⟩
    next => cases watched
  next => cases watched

/-- What becomes of the watch that a run is asked for. -/
inductive Watching (run : Run) (watcher : Settings.Watcher) : (outcome : Run × Option Stop) → Prop
    where
  | unasked
      (records : List Log.Record)
      (nothing : run.options.watch? = none) :
      Watching run watcher (run.noteAll records, none)
  | started
      (records : List Log.Record)
      (watch : Settings.Watch)
      (asked : run.options.watch? = some watch)
      (runs : watcher watch = .ok ()) :
      Watching run watcher
        ( Run.noteAll
            { run with store := { run.store.subscribe subscriber with watch := some watch } } records,
          none )
  | failed
      (records : List Log.Record)
      (watch : Settings.Watch)
      (reason : String)
      (asked : run.options.watch? = some watch)
      (fails : watcher watch = .error reason) :
      Watching run watcher
        ( Run.noteAll { run with store := run.store.subscribe subscriber } records,
          some (.watch reason) )

/-- A run whose store has just loaded its settings. -/
theorem watching_of_watched
    (run : Run)
    (watcher : Settings.Watcher)
    (known : run.store.path = run.options.config)
    (free : run.store.watch = none) :
    run.Watching watcher (run.watched watcher) := by
  unfold watched
  cases wanted : run.options.watch with
  | false => exact .unasked [] (by simp [Options.watch?, wanted])
  | true =>
      cases given : run.options.config with
      | none => exact .unasked [watchIgnored] (by simp [Options.watch?, wanted, given])
      | some path =>
          have asked : run.options.watch? = some (.ofPath path) := by
            simp [Options.watch?, wanted, given]
          have start := (run.store.subscribe subscriber).startWatch_of_free watcher
            (known.trans given) free
          rw [if_pos rfl, if_pos Option.isSome_some]
          dsimp only
          rw [start]
          cases answer : watcher (.ofPath path) with
          | ok => exact .started _ _ asked answer
          | error reason => exact .failed _ _ reason asked answer

/-- Only its file keeps a run from emptying the file of records, and then it notes so and stops. -/
theorem stop_of_exporting
    {run stopped : Run}
    {stop : Stop}
    (exported : run.exporting = (stopped, some stop)) :
    ∃ fault records, stop = .file fault ∧ stopped = run.noteAll records := by
  unfold exporting at exported
  split at exported
  next => cases exported
  next path _ =>
    split at exported
    next => cases exported
    next fault _ =>
      cases exported
      exact ⟨fault, RecordFile.unsavedRecords run.files path fault, rfl, rfl⟩

/-- Emptying the file of records changes the files and the log of a run, and nothing else. -/
theorem exporting_eq (run : Run) :
    run.exporting.1 = { run with logbook := run.exporting.1.logbook } := by
  unfold exporting
  split
  next => rfl
  next => split <;> rfl

/-- A run that exports has an empty file of records, and is otherwise as before. -/
theorem exporting_eq_none
    {run ready : Run}
    (exported : run.exporting = (ready, none)) :
    run.options.exportTo = none ∧ ready = run ∨
      ∃ path files,
        run.options.exportTo = some path ∧
          RecordFile.save run.files path [] = .ok files ∧
          ready = (run.withFiles files).noteAll [RecordFile.savedRecord path 0] := by
  unfold exporting at exported
  split at exported
  next nowhere =>
    cases exported
    exact .inl ⟨nowhere, rfl⟩
  next path target =>
    split at exported
    next files saved =>
      cases exported
      exact .inr ⟨path, files, target, saved, rfl⟩
    next => cases exported

/-- Watching changes the store and the log of a run, and nothing else. -/
theorem watched_eq (run : Run) (watcher : Settings.Watcher) :
    (run.watched watcher).1 =
      { run with
        store := (run.watched watcher).1.store,
        logbook := (run.watched watcher).1.logbook } := by
  unfold watched
  split
  next => split <;> rfl
  next => rfl

/-- Watching leaves the files to the log. -/
theorem logbook_watched (run : Run) (watcher : Settings.Watcher) :
    ∃ records, (run.watched watcher).1.logbook = run.logbook.noteAll records := by
  unfold watched
  split
  next => split <;> exact ⟨_, rfl⟩
  next => exact ⟨[], rfl⟩

/-- Getting ready changes the store and the log of a run, and nothing else. -/
theorem ready_eq
    {run ready : Run}
    {watcher : Settings.Watcher}
    (readied : run.ready watcher = .ok ready) :
    ready = { run with store := ready.store, logbook := ready.logbook } := by
  rcases stages_of_ready readied with ⟨watching, watched, exported⟩
  have first := run.watched_eq watcher
  have second := watching.exporting_eq
  rw [watched] at first
  rw [exported] at second
  dsimp only at first second
  rw [second, first]

/-- A run that does not get ready has changed its store and its log, and nothing else. -/
theorem report_of_unready
    {run : Run}
    {watcher : Settings.Watcher}
    {report : Report}
    (unready : run.ready watcher = .error report) :
    ∃ store logbook stop, report = { run with store, logbook }.report (.error stop) := by
  rcases stop_of_ready unready with ⟨stopped, stop, rfl, watched | ⟨watching, watched, exported⟩⟩
  · have first := run.watched_eq watcher
    rw [watched] at first
    exact ⟨stopped.store, stopped.logbook, stop, congrArg (Run.report · (.error stop)) first⟩
  · have first := run.watched_eq watcher
    have second := watching.exporting_eq
    rw [watched] at first
    rw [exported] at second
    dsimp only at first second
    rw [first] at second
    exact
      ⟨watching.store, stopped.logbook, stop, congrArg (Run.report · (.error stop)) second⟩

end Run

/-- A prepared run has its options, and has neither read nor shown anything. -/
theorem fresh_of_prepare
    (options : Options)
    (surroundings : Surroundings)
    (ready : Run)
    (prepared : prepare options surroundings = .ok ready) :
    ready.options = options ∧ ready.count = 0 ∧ ready.shown = [] := by
  rcases stages_of_prepare options surroundings ready prepared with
    ⟨loaded, store, settings, logbook, run, -, -, begun, readied⟩
  rcases begin_eq_ok options surroundings store settings logbook run begun with
    ⟨fresh, records, session, notices, -, -, rfl⟩
  rw [Run.ready_eq readied]
  exact ⟨rfl, rfl, rfl⟩

/-! ## Taking packets -/

/-- A packet that a run reads, with the run that it finds. -/
structure Take where
  before : Run
  data : List UInt8

namespace Take

/-- The packet with its times. -/
def packet (take : Take) : Packet :=
  packetAt take.before.options.duration take.before.count take.data

/-- What comes of the packet. -/
def step (take : Take) : Session.Step :=
  take.before.session.decode take.packet

/-- The subtitle that is shown of the packet. -/
def shown? (take : Take) : Option Subtitle :=
  match take.step.result with
  | .ok (some subtitle) =>
      if take.before.options.output.isTooLong subtitle then none else some subtitle
  | _ => none

/-- A subtitle that is shown of a packet is what the session makes of it. -/
theorem decoded_of_shown?
    (take : Take)
    (subtitle : Subtitle)
    (shown : take.shown? = some subtitle) :
    take.step.result = .ok (some subtitle) := by
  unfold shown? at shown
  split at shown
  next found result =>
    split at shown
    next => cases shown
    next =>
      cases shown
      exact result
  next => cases shown

end Take

namespace Run

/-- The packets that a run reads while things happen to it. -/
def takes (run : Run) : List Happening → List Take
  | [] => []
  | .filesChanged files account :: rest => (run.filesChanged files account).takes rest
  | .packet data :: rest =>
      { before := run, data } ::
        match run.packet data with
        | (after, none) => after.takes rest
        | _ => []

/-- Keeping a subtitle changes the files and the log, and nothing else. -/
theorem keep_eq (run : Run) (subtitle : Subtitle) :
    (run.keep subtitle).1 = { run with logbook := (run.keep subtitle).1.logbook } := by
  unfold keep extend
  split
  next => rfl
  next =>
    dsimp only
    split
    next => rfl
    next => split <;> rfl

/-- Showing a subtitle adds it to what is shown, unless it is too long, and changes the log. -/
theorem present_eq (run : Run) (subtitle : Subtitle) :
    (run.present subtitle).1 =
      { run with
        shown :=
          run.shown ++ (if run.options.output.isTooLong subtitle then none else some subtitle).toList,
        logbook := (run.present subtitle).1.logbook } := by
  unfold present
  split
  next => simp
  next => rw [keep_eq]; rfl

/-- What a packet changes of a run: everything but what it works with. -/
theorem packet_eq (run : Run) (data : List UInt8) :
    (run.packet data).1 =
      { run with
        session := (Take.step ⟨run, data⟩).after,
        notices := run.notices ++ (Take.step ⟨run, data⟩).notices,
        count := run.count + 1,
        shown := run.shown ++ (Take.shown? ⟨run, data⟩).toList,
        logbook := (run.packet data).1.logbook } := by
  have read : (Take.step ⟨run, data⟩) =
      run.session.decode (packetAt run.options.duration run.count data) := rfl
  unfold packet Take.shown?
  dsimp only
  rw [← read]
  cases (Take.step ⟨run, data⟩).result with
  | error error => simp [stepped]
  | ok result =>
      cases result with
      | none => simp [stepped]
      | some subtitle =>
          dsimp only
          rw [present_eq]
          rfl

/-- What new settings change of a run: its session, its reports and its log. -/
theorem foldl_deliver_eq (run : Run) (deliveries : List Settings.Delivery) :
    deliveries.foldl deliver run =
      { run with
        session := (deliveries.foldl deliver run).session,
        notices := (deliveries.foldl deliver run).notices,
        logbook := (deliveries.foldl deliver run).logbook } := by
  induction deliveries generalizing run with
  | nil => rfl
  | cons delivery rest hypothesis =>
      rw [List.foldl_cons, hypothesis]
      rfl

/-- Telling a session about new settings leaves the files to the log. -/
theorem logbook_foldl_deliver (run : Run) (deliveries : List Settings.Delivery) :
    ∃ records, (deliveries.foldl deliver run).logbook = run.logbook.noteAll records := by
  induction deliveries generalizing run with
  | nil => exact ⟨[], rfl⟩
  | cons delivery rest hypothesis =>
      rcases hypothesis (run.deliver delivery) with ⟨records, noted⟩
      rw [List.foldl_cons, noted]
      exact ⟨_, (Logbook.noteAll_append run.logbook _ records).symm⟩

/-- What a change of files leaves of a run. -/
theorem filesChanged_eq (run : Run) (files : FileTree) (account : List Log.Record) :
    run.filesChanged files account =
      { run with
        store := (run.filesChanged files account).store,
        session := (run.filesChanged files account).session,
        notices := (run.filesChanged files account).notices,
        logbook := (run.filesChanged files account).logbook } := by
  unfold filesChanged
  split
  next => rfl
  next =>
    dsimp only
    rw [foldl_deliver_eq]
    rfl

/-- When files have changed, only the log is written. -/
theorem logbook_filesChanged (run : Run) (files : FileTree) (account : List Log.Record) :
    ∃ records,
      (run.filesChanged files account).logbook = (run.logbook.withFiles files).noteAll records := by
  unfold filesChanged
  split
  next => exact ⟨[], rfl⟩
  next =>
    dsimp only
    rcases logbook_foldl_deliver (Run.noteAll { run.withFiles files with store := _ } _) _ with
      ⟨records, noted⟩
    rw [noted]
    exact ⟨_, (Logbook.noteAll_append (run.logbook.withFiles files) _ records).symm⟩

/-- What is shown is what comes of the packets that are read, in their order. -/
theorem shown_follow (run : Run) (happenings : List Happening) :
    (run.follow happenings).1.shown =
      run.shown ++ (run.takes happenings).filterMap Take.shown? := by
  induction happenings generalizing run with
  | nil => simp [follow, takes]
  | cons happening rest hypothesis =>
      cases happening with
      | filesChanged files account =>
          rw [follow, takes, hypothesis, filesChanged_eq]
      | packet data =>
          have shown : (run.packet data).1.shown =
              run.shown ++ (Take.shown? ⟨run, data⟩).toList := by
            rw [packet_eq]
          rw [follow, takes]
          generalize run.packet data = read at shown ⊢
          rcases read with ⟨after, none | stop⟩
          next =>
            dsimp only at shown ⊢
            rw [hypothesis, shown, List.filterMap_cons, List.append_assoc]
            cases Take.shown? ⟨run, data⟩ <;> rfl
          next =>
            dsimp only at shown ⊢
            rw [shown, List.filterMap_cons]
            cases Take.shown? ⟨run, data⟩ <;> rfl

/-- Each packet that is read happens to a run that nothing has stopped before. -/
theorem happens_of_mem_takes
    (run : Run)
    (happenings : List Happening)
    (take : Take)
    (member : take ∈ run.takes happenings) :
    ∃ before after,
      happenings = before ++ .packet take.data :: after ∧
        run.follow before = (take.before, none) := by
  induction happenings generalizing run with
  | nil => cases member
  | cons happening rest hypothesis =>
      cases happening with
      | filesChanged files account =>
          rcases hypothesis (run.filesChanged files account) member with
            ⟨before, after, rfl, followed⟩
          exact ⟨.filesChanged files account :: before, after, rfl, followed⟩
      | packet data =>
          rcases List.mem_cons.1 member with rfl | later
          · exact ⟨[], rest, rfl, rfl⟩
          · split at later
            next next read =>
              rcases hypothesis next later with ⟨before, after, rfl, followed⟩
              refine ⟨.packet data :: before, after, rfl, ?_⟩
              rw [follow, read]
              exact followed
            next => cases later

/-! ## Packets in a row -/

/-- The packets that a run decodes of the given ones, up to the one that stops it. -/
def decodes (run : Run) : List (List UInt8) → List Packet
  | [] => []
  | data :: rest =>
      packetAt run.options.duration run.count data ::
        match run.packet data with
        | (after, none) => after.decodes rest
        | _ => []

/-- The packets that a run decodes of files. -/
def decodesFiles (run : Run) : List Path → List Packet
  | [] => []
  | path :: rest =>
      match run.files.read path with
      | .error _ => []
      | .ok content =>
          let packets := filePackets run.options.lines content
          run.decodes packets ++
            match run.packets packets with
            | (after, none) => after.decodesFiles rest
            | _ => []

/-- The packets that a run decodes. -/
def decodesAll (run : Run) (input : List UInt8) : List Packet :=
  if run.options.files.isEmpty then run.decodes (streamPackets input)
  else run.decodesFiles run.options.files

theorem packets_cons (run : Run) (data : List UInt8) (rest : List (List UInt8)) :
    run.packets (data :: rest) =
      match run.packet data with
      | (after, none) => after.packets rest
      | stopped => stopped :=
  rfl

/-- The packets that are decoded are the given ones in their order, all of them if nothing stops. -/
theorem decodes_prefix (run : Run) (packets : List (List UInt8)) :
    run.decodes packets <+:
        packets.mapIdx (fun index => packetAt run.options.duration (run.count + index)) ∧
      ((run.packets packets).2 = none →
        run.decodes packets =
          packets.mapIdx (fun index => packetAt run.options.duration (run.count + index))) := by
  induction packets generalizing run with
  | nil => exact ⟨List.prefix_rfl, fun _ => rfl⟩
  | cons data rest hypothesis =>
      have counted : (run.packet data).1.count = run.count + 1 := by rw [packet_eq]
      have asked : (run.packet data).1.options = run.options := by rw [packet_eq]
      rw [decodes, packets_cons, List.mapIdx_cons]
      generalize run.packet data = read at counted asked ⊢
      rcases read with ⟨after, none | stop⟩
      -- The run after the packet counts one more, as the places of the rest do.
      · rcases hypothesis after with ⟨others, whole⟩
        dsimp only at counted asked ⊢
        simp only [counted, asked, Nat.add_assoc, Nat.add_comm 1] at others whole
        exact ⟨List.cons_prefix_cons.2 ⟨rfl, others⟩, fun goesOn => by rw [whole goesOn]; rfl⟩
      · refine ⟨List.cons_prefix_cons.2 ⟨rfl, List.nil_prefix⟩, fun goesOn => ?_⟩
        cases goesOn

end Run

/-- The packets that a run with options decodes. -/
def decodedPackets (options : Options) (surroundings : Surroundings) : List Packet :=
  match prepare options surroundings with
  | .error _ => []
  | .ok ready => ready.decodesAll surroundings.input

end CommandLine

end TimedText
