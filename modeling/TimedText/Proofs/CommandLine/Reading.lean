import TimedText.Proofs.CommandLine.Run
import TimedText.Proofs.Session.Run

/-!
# The packets of a whole run

A run that reads files takes the packets of one after those of the other, up to a packet or a file
that stops it.  All of that comes to a single row of packets, whether something stops the run or not,
and what holds of packets in a row holds of the run.

The packets are counted from the first one on, those that are dropped with the others, and each is
taken with the options of the run.
-/

namespace TimedText.CommandLine

/-- A packet of a command line is shown at some time. -/
theorem positive_packetAt (duration : Int) (index : Nat) (data : List UInt8) :
    ∃ start, (packetAt duration index data).start = some start ∧ 0 < start := by
  refine ⟨_, rfl, Int.mul_pos ?_ ?_⟩ <;> omega

namespace Run

/-! ## One packet -/

/-- The run after its session has taken a packet, with nothing shown yet. -/
def taking (run : Run) (data : List UInt8) : Run :=
  run.stepped (Take.packet ⟨run, data⟩) (Take.step ⟨run, data⟩)

/-- What comes of a packet is shown, if the session makes a subtitle of it. -/
theorem packet_eq_taking (run : Run) (data : List UInt8) :
    run.packet data =
      match (Take.step ⟨run, data⟩).result with
      | .error error => (run.taking data, some (.packet error))
      | .ok none => (run.taking data, none)
      | .ok (some subtitle) => (run.taking data).present subtitle :=
  rfl

/-! ## Runs that nothing stops -/

/-- A run that nothing stops goes on after its first packet. -/
theorem follow_packet_eq
    {run after : Run}
    {data : List UInt8}
    {rest : List Happening}
    (followed : run.follow (.packet data :: rest) = (after, none)) :
    ∃ next, run.packet data = (next, none) ∧ next.follow rest = (after, none) := by
  rw [follow] at followed
  split at followed
  next next read => exact ⟨next, read, followed⟩
  next stopped =>
    rw [followed] at stopped
    exact (stopped after rfl).elim

/-- A run that nothing stops reads its first file and goes on after that. -/
theorem readFiles_cons_eq
    {run after : Run}
    {file : Path}
    {rest : List Path}
    (followed : run.readFiles (file :: rest) = (after, none)) :
    ∃ content next,
      run.files.read file = .ok content ∧
        run.packets (filePackets run.options.lines content) = (next, none) ∧
        next.readFiles rest = (after, none) := by
  rw [readFiles] at followed
  split at followed
  next => cases followed
  next content found =>
    split at followed
    next next read => exact ⟨content, next, found, read, followed⟩
    next stopped =>
      rw [followed] at stopped
      exact (stopped after rfl).elim

theorem options_packet
    {run after : Run}
    {data : List UInt8}
    (read : run.packet data = (after, none)) :
    after.options = run.options := by
  have asked : (run.packet data).1.options = run.options := by rw [packet_eq]
  rwa [read] at asked

/-- A run keeps its options whatever happens. -/
theorem options_follow
    {run after : Run}
    {happenings : List Happening}
    (followed : run.follow happenings = (after, none)) :
    after.options = run.options := by
  induction happenings generalizing run with
  | nil =>
      cases followed
      rfl
  | cons happening rest hypothesis =>
      cases happening with
      | filesChanged files account => rw [hypothesis followed, filesChanged_eq]
      | packet data =>
          rcases follow_packet_eq followed with ⟨next, read, others⟩
          exact (hypothesis others).trans (options_packet read)

/-! ## Packets in a row -/

/-- Every packet is taken with the options of the run. -/
theorem options_of_mem_takes
    (run : Run)
    (happenings : List Happening)
    (take : Take)
    (member : take ∈ run.takes happenings) :
    take.before.options = run.options := by
  rcases run.happens_of_mem_takes happenings take member with ⟨before, after, -, followed⟩
  exact options_follow followed

/-- The packets are counted one by one. -/
theorem counts_takes (run : Run) (happenings : List Happening) :
    (run.takes happenings).map (fun take => take.before.count) =
      List.range' run.count (run.takes happenings).length := by
  induction happenings generalizing run with
  | nil => rfl
  | cons happening rest hypothesis =>
      cases happening with
      | filesChanged files account =>
          have still : (run.filesChanged files account).count = run.count := by rw [filesChanged_eq]
          rw [takes, hypothesis, still]
      | packet data =>
          have counted : (run.packet data).1.count = run.count + 1 := by rw [packet_eq]
          rw [takes, List.map_cons, List.length_cons, List.range'_succ]
          generalize run.packet data = read at counted ⊢
          rcases read with ⟨after, _ | stop⟩
          · dsimp only at counted ⊢
            rw [hypothesis, counted]
          · rfl

/-- The packets that are decoded are those that are taken. -/
theorem decodes_eq_takes (run : Run) (packets : List (List UInt8)) :
    run.decodes packets = (run.takes (packets.map .packet)).map Take.packet := by
  induction packets generalizing run with
  | nil => rfl
  | cons data rest hypothesis =>
      rw [decodes, List.map_cons, takes, List.map_cons]
      generalize run.packet data = read
      rcases read with ⟨after, _ | stop⟩
      · exact congrArg _ (hypothesis after)
      · rfl

theorem packets_append
    {run next : Run}
    {first : List (List UInt8)}
    (read : run.packets first = (next, none))
    (second : List (List UInt8)) :
    run.packets (first ++ second) = next.packets second ∧
      run.decodes (first ++ second) = run.decodes first ++ next.decodes second := by
  induction first generalizing run with
  | nil =>
      cases read
      exact ⟨rfl, rfl⟩
  | cons data rest hypothesis =>
      rcases follow_packet_eq read with ⟨middle, here, others⟩
      rcases hypothesis others with ⟨followed, decoded⟩
      rw [List.cons_append, packets_cons, decodes, decodes, here]
      exact ⟨followed, congrArg _ decoded⟩

theorem takes_append
    {run next : Run}
    {first : List Happening}
    (followed : run.follow first = (next, none))
    (second : List Happening) :
    run.takes (first ++ second) = run.takes first ++ next.takes second := by
  induction first generalizing run with
  | nil =>
      cases followed
      rfl
  | cons happening rest hypothesis =>
      cases happening with
      | filesChanged files => exact hypothesis followed
      | packet data =>
          rcases follow_packet_eq followed with ⟨middle, here, others⟩
          rw [List.cons_append, takes, takes, here]
          exact congrArg _ (hypothesis others)

/-! ## Files -/

/-- The packets that a run takes of files. -/
def takesFiles (run : Run) : List Path → List Take
  | [] => []
  | path :: rest =>
      match run.files.read path with
      | .error _ => []
      | .ok content =>
          let packets := filePackets run.options.lines content
          run.takes (packets.map .packet) ++
            match run.packets packets with
            | (after, none) => after.takesFiles rest
            | _ => []

/-- The packets that a run takes. -/
def takesAll (run : Run) (input : List UInt8) : List Take :=
  if run.options.files.isEmpty then run.takes ((streamPackets input).map .packet)
  else run.takesFiles run.options.files

theorem decodesFiles_eq_takes (run : Run) (files : List Path) :
    run.decodesFiles files = (run.takesFiles files).map Take.packet := by
  induction files generalizing run with
  | nil => rfl
  | cons file rest hypothesis =>
      rw [decodesFiles, takesFiles]
      cases run.files.read file with
      | error fault => rfl
      | ok content =>
          dsimp only
          rw [List.map_append, decodes_eq_takes]
          generalize run.packets (filePackets run.options.lines content) = read
          rcases read with ⟨after, _ | stop⟩
          · exact congrArg _ (hypothesis after)
          · rfl

theorem decodesAll_eq_takes (run : Run) (input : List UInt8) :
    run.decodesAll input = (run.takesAll input).map Take.packet := by
  unfold decodesAll takesAll
  split
  next => exact run.decodes_eq_takes (streamPackets input)
  next => exact run.decodesFiles_eq_takes run.options.files

/--
A run that comes to packets in a row: what it takes is what it takes of these, and it is left as they
leave it.  If nothing stops it no packet does.
-/
structure ComesTo
    (run : Run)
    (packets : List (List UInt8))
    (taken : List Take)
    (outcome : Run × Option Stop) :
    Prop where
  taken_eq : taken = run.takes (packets.map .packet)
  after_eq : outcome.1 = (run.packets packets).1
  unstopped : outcome.2 = none → (run.packets packets).2 = none

/-- Only a file that is read as a whole makes an empty packet. -/
theorem filled_of_mem_filePackets
    {byLine : Bool}
    {content data : List UInt8}
    (member : data ∈ filePackets byLine content)
    (nothing : data = []) :
    byLine = false := by
  unfold filePackets at member
  split at member
  next => simp [nothing] at member
  next whole => exact Bool.not_eq_true _ ▸ whole

/-- Files come to packets in a row. -/
theorem comesTo_readFiles (run : Run) (files : List Path) :
    ∃ packets,
      run.ComesTo packets (run.takesFiles files) (run.readFiles files) ∧
        ∀ data ∈ packets, data = [] → run.options.lines = false := by
  induction files generalizing run with
  | nil => exact ⟨[], ⟨rfl, rfl, fun _ => rfl⟩, List.forall_mem_nil _⟩
  | cons file rest hypothesis =>
      rw [takesFiles, readFiles]
      cases run.files.read file with
      | error fault =>
          have stopped := Option.some_ne_none (Stop.file fault)
          exact ⟨[], ⟨rfl, rfl, fun goesOn => absurd goesOn stopped⟩, List.forall_mem_nil _⟩
      | ok content =>
          dsimp only
          have filled (data : List UInt8) (member : data ∈ filePackets run.options.lines content) :
              data = [] → run.options.lines = false :=
            filled_of_mem_filePackets member
          rcases read : run.packets (filePackets run.options.lines content) with ⟨next, _ | stop⟩
          · rcases hypothesis next with ⟨packets, ⟨taken, after, unstopped⟩, others⟩
            have asked : next.options = run.options := options_follow read
            have joined := (packets_append read packets).1
            refine ⟨filePackets run.options.lines content ++ packets, ⟨?_, ?_, ?_⟩, ?_⟩
            · rw [List.map_append, takes_append read, ← taken]
            · rw [joined]
              exact after
            · rw [joined]
              exact unstopped
            · intro data member nothing
              rcases List.mem_append.1 member with here | later
              · exact filled data here nothing
              · exact asked ▸ others data later nothing
          · refine ⟨filePackets run.options.lines content, ⟨?_, ?_, ?_⟩, filled⟩
            · exact List.append_nil _
            · rw [read]
            · intro goesOn
              exact absurd goesOn (Option.some_ne_none stop)

/-- The whole input comes to packets in a row; only files that are read as a whole make empty ones. -/
theorem comesTo_readAll (run : Run) (input : List UInt8) :
    ∃ packets,
      run.ComesTo packets (run.takesAll input) (run.readAll input) ∧
        ∀ data ∈ packets,
          data = [] → run.options.files ≠ [] ∧ run.options.lines = false := by
  unfold takesAll readAll
  split
  next streams =>
    refine ⟨streamPackets input, ⟨rfl, rfl, id⟩, fun data member nothing => ?_⟩
    simp [streamPackets, nothing] at member
  next given =>
    rcases run.comesTo_readFiles run.options.files with ⟨packets, comes, filled⟩
    rw [List.isEmpty_iff] at given
    exact ⟨packets, comes, fun data member nothing => ⟨given, filled data member nothing⟩⟩

/-- Packets in a row that a run which nothing stops comes to do not stop it. -/
theorem ComesTo.follow_eq
    {run after : Run}
    {packets : List (List UInt8)}
    {taken : List Take}
    (comes : run.ComesTo packets taken (after, none)) :
    run.packets packets = (after, none) :=
  Prod.ext comes.after_eq.symm (comes.unstopped rfl)

theorem packets_of_readAll
    {run after : Run}
    {input : List UInt8}
    (followed : run.readAll input = (after, none)) :
    ∃ packets,
      run.packets packets = (after, none) ∧ run.decodesAll input = run.decodes packets := by
  rcases run.comesTo_readAll input with ⟨packets, comes, -⟩
  rw [followed] at comes
  refine ⟨packets, comes.follow_eq, ?_⟩
  rw [decodesAll_eq_takes, comes.taken_eq, decodes_eq_takes]

/-! ## Whole runs -/

/-- A prepared run with an exit code has read its whole input. -/
theorem conclude_eq_ok
    {ready : Run}
    {input : List UInt8}
    {code : Nat}
    (ended : (ready.conclude input).exit = .ok code) :
    ∃ after,
      ready.readAll input = (after, none) ∧
        code = after.exitCode ∧
        ready.conclude input =
          (after.finish.noteAll [endRecord after.session.tally]).report (.ok code) := by
  unfold conclude at ended ⊢
  split at ended
  next after followed =>
    cases ended
    exact ⟨after, followed, rfl, rfl⟩
  next => cases ended

/-- The report on a prepared run that reads its packets is about the run that they leave. -/
theorem report_conclude (ready : Run) (input : List UInt8) :
    ∃ exit records,
      ready.conclude input = ((ready.readAll input).1.finish.noteAll records).report exit := by
  unfold conclude
  rcases ready.readAll input with ⟨after, _ | stop⟩
  · exact ⟨_, _, rfl⟩
  · exact ⟨_, [], rfl⟩

end Run

theorem run_eq_conclude
    {texts : List String}
    {options : Options}
    {surroundings : Surroundings}
    {ready : Run}
    (asked : Options.read texts = .ok options)
    (prepared : prepare options surroundings = .ok ready) :
    run texts surroundings = ready.conclude surroundings.input := by
  rw [run, asked]
  dsimp only
  rw [runWith_eq_prepare, prepared]

/-- The packets that a run with options takes. -/
def taken (options : Options) (surroundings : Surroundings) : List Take :=
  match prepare options surroundings with
  | .error _ => []
  | .ok ready => ready.takesAll surroundings.input

theorem decodedPackets_eq_taken (options : Options) (surroundings : Surroundings) :
    decodedPackets options surroundings = (taken options surroundings).map Take.packet := by
  unfold decodedPackets taken
  cases prepare options surroundings with
  | error report => rfl
  | ok ready => exact ready.decodesAll_eq_takes surroundings.input

/-- A run that is stopped before its first packet has its report already. -/
theorem run_eq_report
    {texts : List String}
    {options : Options}
    {surroundings : Surroundings}
    {report : Report}
    (asked : Options.read texts = .ok options)
    (stopped : prepare options surroundings = .error report) :
    run texts surroundings = report := by
  rw [run, asked]
  dsimp only
  rw [runWith_eq_prepare, stopped]

/-- A prepared run has the session that was opened for it, and what was reported then. -/
theorem opened_of_prepare
    {options : Options}
    {surroundings : Surroundings}
    {ready : Run}
    (prepared : prepare options surroundings = .ok ready) :
    ∃ settings,
      Session.open? settings options.codec options.encoding Color.byName surroundings.platform
          surroundings.catalogue =
        .ok (ready.session, ready.notices) := by
  rcases stages_of_prepare options surroundings ready prepared with
    ⟨loaded, store, settings, logbook, run, -, -, begun, readied⟩
  rcases begin_eq_ok options surroundings store settings logbook run begun with
    ⟨fresh, records, session, notices, -, opened, rfl⟩
  rw [Run.ready_eq readied]
  exact ⟨settings.decoder, opened⟩

/-- A run that is stopped before its first packet shows nothing, and reports its opening at most. -/
theorem unshown_of_prepare
    {options : Options}
    {surroundings : Surroundings}
    {report : Report}
    (stopped : prepare options surroundings = .error report) :
    report.shown = [] ∧
      (report.notices = [] ∨
        ∃ settings session,
          Session.open? settings options.codec options.encoding Color.byName
              surroundings.platform surroundings.catalogue =
            .ok (session, report.notices)) := by
  cases unprepared_of_prepare stopped with
  | listing | unloaded | invalid | unbegun => exact ⟨rfl, .inl rfl⟩
  | unready settings store logbook run report begun unready =>
      rcases begin_eq_ok options surroundings store settings logbook run begun with
        ⟨fresh, records, session, notices, -, opened, started⟩
      rcases Run.report_of_unready unready with ⟨store, logbook, stop, rfl⟩
      rw [started]
      exact ⟨rfl, .inr ⟨settings.decoder, session, opened⟩⟩

end TimedText.CommandLine
