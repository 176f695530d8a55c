import TimedText.Proofs.CommandLine.Run
import TimedText.Proofs.Settings.Attempt
import TimedText.Proofs.Settings.Normalization

/-!
# The command line over accepted settings

What the command line asks for is put over the raw value of the settings that are loaded, and the
result is validated again.  Settings that are loaded are in normal form, and neither a part of the
screen nor a switch turned off changes that.  So the second validation never fails: it replaces what
is asked for and nothing else, and no run ends with a complaint about settings.
-/

namespace TimedText.CommandLine

/-! ## Replacing settings -/

/-- Decoder settings with what the command line asks for in place of theirs. -/
def Options.imposedOn (options : Options) (settings : DecoderSettings) : DecoderSettings :=
  { settings with
    align := options.align.getD settings.align,
    detectUtf8 := settings.detectUtf8 && !options.noDetection,
    formatted := settings.formatted && !options.plain }

section Imposed

variable (options : Options)

/-- What the command line asks for is replaced in the raw value, and nothing else. -/
theorem putAll_entries (settings : DecoderSettings) :
    putAll settings.entries options.overrides = (options.imposedOn settings).entries := by
  unfold Options.overrides Options.imposedOn
  rcases options.align with _ | part <;>
    rcases options.noDetection with _ | _ <;>
      rcases options.plain with _ | _ <;>
        simp [putAll, DecoderSettings.entries, Entries.put]

/-- A command line that asks for nothing leaves the settings as they are. -/
theorem imposedOn_of_isEmpty
    (settings : DecoderSettings)
    (nothing : options.overrides.isEmpty = true) :
    options.imposedOn settings = settings := by
  rw [List.isEmpty_iff, Options.overrides, List.append_eq_nil_iff, List.append_eq_nil_iff] at nothing
  rcases nothing with ⟨⟨align, detection⟩, plain⟩
  have unasked : options.align = none := by simpa using align
  have detecting : options.noDetection = false := by simpa using detection
  have formatting : options.plain = false := by simpa using plain
  simp [Options.imposedOn, unasked, detecting, formatting]

/-- The command line can be put over any settings in normal form. -/
theorem applyTo_of_isNormal (settings : Settings) (normal : settings.decoder.IsNormal) :
    options.applyTo settings =
      .ok { settings with decoder := options.imposedOn settings.decoder } := by
  unfold Options.applyTo
  split
  next nothing => rw [imposedOn_of_isEmpty options settings.decoder nothing]
  next =>
    have still : (options.imposedOn settings.decoder).IsNormal :=
      ⟨normal.encoding, normal.locale, normal.named⟩
    rw [putAll_entries]
    exact
      (Settings.validate_entries_eq_ok_iff
        { settings with decoder := options.imposedOn settings.decoder }).2 still

/-- The settings that a run loads are in normal form. -/
theorem isNormal_of_load
    (surroundings : Surroundings)
    (settings : Settings)
    (store : Settings.Store)
    (loading : options.load surroundings = (.ok settings, store)) :
    settings.decoder.IsNormal := by
  have normal (source : Entries → Prop)
      (outcome : Settings.Outcome surroundings.environment source (.ok settings)) :
      settings.decoder.IsNormal := by
    cases outcome with
    | valid entries _ given checked => exact Settings.isNormal_of_validate _ settings checked
  unfold Options.load at loading
  dsimp only at loading
  split at loading
  next path given =>
    unfold Settings.Store.load at loading
    split at loading
    next loaded read =>
      cases loading
      have again := Settings.reread_of_load _ _ path _ read
      exact normal _ (again ▸ Settings.outcome_reread _ _ path)
    next => cases loading
  next =>
    unfold Settings.Store.loadDefaults at loading
    split at loading
    next loaded made =>
      cases loading
      rw [Settings.ofEnvironment] at made
      exact normal _ (made ▸ Settings.outcome_ofEntries _ (· = []) [] rfl)
    next => cases loading

end Imposed

/-! ## The store of a run -/

theorem watch_of_load (options : Options) (surroundings : Surroundings) :
    (options.load surroundings).2.watch = none := by
  unfold Options.load Settings.Store.load Settings.Store.loadDefaults
  dsimp only
  split <;> split <;> rfl

/-- The store knows the file that the settings were loaded from. -/
theorem store_of_load
    {options : Options}
    {surroundings : Surroundings}
    {loaded : Settings}
    {store : Settings.Store}
    (loading : options.load surroundings = (.ok loaded, store)) :
    store = { active := some loaded, path := options.config } := by
  unfold Options.load at loading
  dsimp only at loading
  split at loading
  next path given =>
    rw [given]
    unfold Settings.Store.load at loading
    split at loading <;> cases loading
    rfl
  next given =>
    rw [given]
    unfold Settings.Store.loadDefaults at loading
    split at loading <;> cases loading
    rfl

/-! ## What stops a run -/

/-- A stop that comes up when packets are read: by a file, a packet or a number. -/
def Stop.IsOfReading : Stop → Prop
  | .file _ => True
  | .packet _ => True
  | .numeralTooLong => True
  | _ => False

namespace Run

variable (run : Run)

theorem isOfReading_keep (subtitle : Subtitle) : ∀ stop ∈ (run.keep subtitle).2, stop.IsOfReading := by
  unfold keep extend
  split
  next => exact nofun
  next =>
    dsimp only
    split
    next => simp [Stop.IsOfReading]
    next => split <;> simp [Stop.IsOfReading]

theorem isOfReading_packet (data : List UInt8) : ∀ stop ∈ (run.packet data).2, stop.IsOfReading := by
  unfold packet
  dsimp only
  split
  next => simp [Stop.IsOfReading]
  next => exact nofun
  next =>
    unfold present
    split
    next => simp [Stop.IsOfReading]
    next => exact isOfReading_keep _ _

theorem isOfReading_follow (happenings : List Happening) :
    ∀ stop ∈ (run.follow happenings).2, stop.IsOfReading := by
  induction happenings generalizing run with
  | nil => exact nofun
  | cons happening rest hypothesis =>
      cases happening with
      | filesChanged files account => exact hypothesis (run.filesChanged files account)
      | packet data =>
          have first := run.isOfReading_packet data
          rw [follow]
          generalize run.packet data = read at first ⊢
          rcases read with ⟨after, _ | stop⟩
          · exact hypothesis after
          · exact first

theorem isOfReading_readFiles (files : List Path) :
    ∀ stop ∈ (run.readFiles files).2, stop.IsOfReading := by
  induction files generalizing run with
  | nil => exact nofun
  | cons file rest hypothesis =>
      rw [readFiles]
      split
      next => simp [Stop.IsOfReading]
      next content found =>
        have first := run.isOfReading_follow
          ((filePackets run.options.lines content).map Happening.packet)
        rw [Run.packets]
        generalize run.follow _ = read at first ⊢
        rcases read with ⟨after, _ | stop⟩
        · exact hypothesis after
        · exact first

theorem isOfReading_readAll (input : List UInt8) :
    ∀ stop ∈ (run.readAll input).2, stop.IsOfReading := by
  unfold readAll
  split
  next => exact run.isOfReading_follow _
  next => exact run.isOfReading_readFiles _

/-- Reading packets ends with an exit code or with a stop of reading. -/
theorem exit_conclude (input : List UInt8) (stop : Stop)
    (stopped : (run.conclude input).exit = .error stop) :
    stop.IsOfReading := by
  have reading := run.isOfReading_readAll input
  unfold conclude at stopped
  generalize run.readAll input = read at reading stopped
  rcases read with ⟨after, _ | cause⟩
  · cases stopped
  · cases stopped
    exact reading _ rfl

end Run

/-- A run that is stopped before its first packet has no complaint about settings. -/
theorem exit_ne_invalid_of_prepare
    (options : Options)
    (surroundings : Surroundings)
    (report : Report)
    (complaints : List Settings.Complaint)
    (stopped : prepare options surroundings = .error report) :
    report.exit ≠ .error (.invalid complaints) := by
  cases unprepared_of_prepare stopped with
  | listing => exact nofun
  | unloaded cause => cases cause <;> exact nofun
  | invalid loaded store others loading refused =>
      have normal := isNormal_of_load options surroundings loaded store loading
      rw [applyTo_of_isNormal options loaded normal] at refused
      cases refused
  | unbegun settings store files stop begun =>
      rcases begin_eq_error begun with ⟨fault, rfl⟩ | ⟨fault, rfl⟩ <;> exact nofun
  | unready settings store logbook run report begun unready =>
      rcases Run.stop_of_ready unready with
        ⟨stopped, stop, rfl, watched | ⟨watching, -, exported⟩⟩
      · rcases Run.stop_of_watched watched with ⟨reason, rfl⟩
        exact nofun
      · rcases Run.stop_of_exporting exported with ⟨fault, -, rfl, -⟩
        exact nofun

/-- No run ends with a complaint about settings. -/
theorem exit_ne_invalid
    (texts : List String)
    (surroundings : Surroundings)
    (complaints : List Settings.Complaint) :
    (run texts surroundings).exit ≠ .error (.invalid complaints) := by
  intro ended
  unfold run at ended
  split at ended
  next options read =>
    rw [runWith_eq_prepare] at ended
    split at ended
    next report stopped =>
      exact exit_ne_invalid_of_prepare options surroundings report complaints stopped ended
    next ready prepared => exact ready.exit_conclude _ _ ended
  next => cases ended

/-! ## The whole of it -/

/--
Settings that validation accepts, in whichever spelling, have one of the five levels, one of the two
formats and one of the three places, with trimmed names of encodings and one for the locale.  Their
raw value is accepted again, for the same settings.  So whatever the command line asks for can be put
over them, and replaces just that.
-/
theorem accepted_settings_are_normal
    (entries : Entries)
    (settings : Settings)
    (accepted : Settings.validate entries = .ok settings) :
    settings.system.logLevel.name ∈ ["DEBUG", "INFO", "WARNING", "ERROR", "CRITICAL"] ∧
      settings.system.logFormat.name ∈ ["json", "text"] ∧
      settings.decoder.align.bits ∈ [0, 1, 2] ∧
      Text.trimmed settings.decoder.encoding = settings.decoder.encoding ∧
      Text.trimmed settings.decoder.localeEncoding = settings.decoder.localeEncoding ∧
      settings.decoder.localeEncoding ≠ "" ∧
      Settings.validate settings.entries = .ok settings ∧
      ∀ options : Options,
        options.applyTo settings =
          .ok
            { settings with
              decoder :=
                { settings.decoder with
                  align := options.align.getD settings.decoder.align,
                  detectUtf8 := settings.decoder.detectUtf8 && !options.noDetection,
                  formatted := settings.decoder.formatted && !options.plain } } := by
  have normal := Settings.isNormal_of_validate entries settings accepted
  refine ⟨?_, ?_, ?_, ?_, ?_, normal.named, ?_, ?_⟩
  · cases settings.system.logLevel <;> decide
  · cases settings.system.logFormat <;> decide
  · cases settings.decoder.align <;> decide
  · exact (Text.trimmed_eq_self_iff _).2 normal.encoding
  · exact (Text.trimmed_eq_self_iff _).2 normal.locale
  · exact (Settings.validate_entries_eq_ok_iff settings).2 normal
  · exact fun options => applyTo_of_isNormal options settings normal

/-- Entries that spell their settings in odd ways: a dotless letter, padded names, other kinds. -/
def oddlySpelled : Entries :=
  [ (.name "system",
      .mapping [(.name "log_level", .text "ınfo"), (.name "session_id", .bytes [0x61])]),
    (.name "decoder",
      .shared "d"
        [ (.other, .null),
          (.name "encoding", .text "\tUTF-16 \n"),
          (.name "locale_encoding", .text "\u3000EUC-KR"),
          (.name "autodetect_utf8", .text "oN"),
          (.name "align", .text " +1.0 "),
          (.name "formatted", .real (.finite 0 0)) ]) ]

/-- The settings that the odd spellings stand for. -/
def plainlySpelled : Settings :=
  { system := { sessionId := "a" },
    decoder :=
      { encoding := "UTF-16", localeEncoding := "EUC-KR", align := .left, formatted := false } }

theorem accepted_settings_are_normal_of_oddlySpelled :
    Settings.validate oddlySpelled = .ok plainlySpelled ∧
      Settings.validate plainlySpelled.entries = .ok plainlySpelled ∧
      Options.applyTo { align := some .right, noDetection := true } plainlySpelled =
        .ok
          { plainlySpelled with
            decoder := { plainlySpelled.decoder with align := .right, detectUtf8 := false } } := by
  have accepted : Settings.validate oddlySpelled = .ok plainlySpelled := by decide +kernel
  rcases accepted_settings_are_normal oddlySpelled plainlySpelled accepted with
    ⟨-, -, -, -, -, -, again, replaced⟩
  exact ⟨accepted, again, replaced { align := some .right, noDetection := true }⟩

end TimedText.CommandLine
