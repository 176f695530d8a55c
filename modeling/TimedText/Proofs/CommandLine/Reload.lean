import TimedText.Proofs.CommandLine.Overriding
import TimedText.Proofs.CommandLine.Run
import TimedText.Proofs.Session.Placement
import TimedText.Proofs.Session.Run

/-!
# Settings of the command line and of a changed file

What the command line asks for is put over the settings of the file and of the environment when a
run is prepared.  A run that watches its file reads it again when it changes, and tells its session
about the new settings as they come from the file and the environment.  What the command line asks
for is not put over them.

So the place and the styling that the command line asks for hold up to the first change of the file
that can be read, and from there on those of the file hold.
-/

namespace TimedText

namespace CommandLine

/-! ## Runs whose store tells their session -/

namespace Run

/--
A run that watches its file: the store tells the session of the run about the settings that it reads
from the path, and the session has the colours of the web names.
-/
structure Linked (run : Run) (environment : Environment) (path : Path) : Prop where
  surrounded : run.environment = environment
  known : run.store.path = some path
  watching : run.store.watch = some (.ofPath path)
  told : run.store.subscribers = [subscriber]
  loaded : run.store.active.isSome = true
  colors : run.session.lookup = Color.byName

/-- A change of the watched file concerns the watch. -/
theorem concerns_watch (path : Path) :
    Settings.Modification.concerns
      { path := (Settings.Watch.ofPath path).directory.child (Settings.Watch.ofPath path).name }
      (Settings.Watch.ofPath path).name = true := by
  simp [Settings.Modification.concerns, Path.child, Path.name]

/-- The settings that a change of files brings, if what stands at the path then can be read. -/
def Happening.settings? (environment : Environment) (path : Path) : Happening → Option Settings
  | .packet _ => none
  | .filesChanged files _ => (Settings.reread files environment path).toOption

/-- A watched file that can be read gives the session its settings, as they are. -/
theorem Linked.filesChanged
    {run : Run}
    {environment : Environment}
    {path : Path}
    (linked : run.Linked environment path)
    (files : FileTree)
    (account : List Log.Record) :
    (run.filesChanged files account).Linked environment path ∧
      (run.filesChanged files account).session.settings =
        (((Happening.filesChanged files account).settings? environment path).map
          Settings.decoder).getD run.session.settings := by
  rcases linked with ⟨rfl, known, watching, told, loaded, colors⟩
  rcases Option.isSome_iff_exists.1 loaded with ⟨old, active⟩
  unfold Run.filesChanged
  rw [watching]
  simp only [Settings.Store.notice, concerns_watch, if_true, Settings.Store.reload, known,
    Happening.settings?]
  cases Settings.reread files run.environment path with
  | error cause => exact ⟨⟨rfl, known, watching, told, loaded, colors⟩, rfl⟩
  | ok new =>
      simp only [active, Settings.Store.deliveries, told]
      exact ⟨⟨rfl, rfl, watching, rfl, rfl, colors⟩, rfl⟩

/-- A packet leaves the watch and the settings as they are. -/
theorem Linked.packet
    {run : Run}
    {environment : Environment}
    {path : Path}
    (linked : run.Linked environment path)
    (data : List UInt8) :
    (run.packet data).1.Linked environment path ∧
      (run.packet data).1.session.settings = run.session.settings := by
  rcases linked with ⟨rfl, known, watching, told, loaded, colors⟩
  rcases run.session.settings_decode (Take.packet ⟨run, data⟩) with ⟨settings, lookup⟩
  rw [packet_eq]
  exact ⟨⟨rfl, known, watching, told, loaded, lookup.trans colors⟩, settings⟩

/-- The settings of a session are those of the last change of the file that could be read. -/
theorem Linked.follow
    {run after : Run}
    {environment : Environment}
    {path : Path}
    (linked : run.Linked environment path)
    (happenings : List Happening)
    (followed : run.follow happenings = (after, none)) :
    after.Linked environment path ∧
      after.session.settings =
        ((happenings.filterMap (Happening.settings? environment path)).getLast?.map
          Settings.decoder).getD run.session.settings := by
  induction happenings generalizing run with
  | nil =>
      cases followed
      exact ⟨linked, rfl⟩
  | cons happening rest hypothesis =>
      cases happening with
      | filesChanged files account =>
          rcases linked.filesChanged files account with ⟨still, settings⟩
          rcases hypothesis still followed with ⟨last, lastSettings⟩
          refine ⟨last, ?_⟩
          rw [lastSettings, settings, List.filterMap_cons]
          cases (Happening.filesChanged files account).settings? environment path with
          | none => rfl
          | some new =>
              -- These settings stay in force only if no later change can be read.
              rw [List.getLast?_cons]
              cases (rest.filterMap (Happening.settings? environment path)).getLast? <;> rfl
      | packet data =>
          rcases linked.packet data with ⟨still, settings⟩
          rw [Run.follow] at followed
          generalize run.packet data = read at still settings followed
          rcases read with ⟨next, none | stop⟩
          next =>
            rcases hypothesis still followed with ⟨last, lastSettings⟩
            rw [settings] at lastSettings
            exact ⟨last, lastSettings⟩
          next => cases followed

end Run

/-! ## Prepared runs -/

theorem session_of_open?
    {settings : DecoderSettings}
    {codec : Codec}
    {declaration : Option String}
    {lookup : Color.Lookup}
    {platform : String}
    {catalogue : Encoding.Catalogue}
    {session : Session}
    {notices : List Notice}
    (opened :
      Session.open? settings codec declaration lookup platform catalogue =
        .ok (session, notices)) :
    session.settings = settings ∧ session.lookup = lookup := by
  rcases Session.open?_eq_ok opened with ⟨converter, refusal, -, rfl⟩
  exact ⟨rfl, rfl⟩

/-- A prepared run that watches its file has the settings of the file and of the command line. -/
theorem linked_of_prepare
    (options : Options)
    (surroundings : Surroundings)
    (path : Path)
    (ready : Run)
    (given : options.config = some path)
    (watch : options.watch = true)
    (prepared : prepare options surroundings = .ok ready) :
    ready.Linked surroundings.environment path ∧
      ready.shown = [] ∧
      ∃ loaded,
        (options.load surroundings).1 = .ok loaded ∧
          ready.session.settings.align = options.align.getD loaded.decoder.align ∧
          ready.session.settings.formatted = (loaded.decoder.formatted && !options.plain) := by
  rcases stages_of_prepare options surroundings ready prepared with
    ⟨loaded, store, settings, logbook, run, loading, applied, begun, readied⟩
  rcases begin_eq_ok options surroundings store settings logbook run begun with
    ⟨fresh, records, session, notices, -, opened, begins⟩
  rcases session_of_open? opened with ⟨sessionSettings, colors⟩
  have normal := isNormal_of_load options surroundings loaded store loading
  rw [applyTo_of_isNormal options loaded normal, Except.ok.injEq] at applied
  subst applied
  have stored : store = { active := some loaded, path := some path } := by
    rw [store_of_load loading, given]
  subst stored
  have wanted : options.watch? = some (.ofPath path) := by simp [Options.watch?, watch, given]
  rcases Run.stages_of_ready readied with ⟨watching, watched, exported⟩
  have known : run.store.path = run.options.config := by
    rw [begins]
    exact given.symm
  have watches := run.watching_of_watched surroundings.watcher known (by rw [begins])
  rw [watched] at watches
  subst begins
  cases watches with
  | unasked records nothing => cases nothing.symm.trans wanted
  | started records _ asked runs =>
      cases asked.symm.trans wanted
      rcases Run.exporting_eq_none exported with ⟨-, rfl⟩ | ⟨target, kept, -, -, rfl⟩
      all_goals
        refine ⟨⟨rfl, rfl, rfl, rfl, rfl, colors⟩, rfl, loaded, ?_, ?_, ?_⟩
        · rw [loading]
        · exact congrArg DecoderSettings.align sessionSettings
        · exact congrArg DecoderSettings.formatted sessionSettings

/-! ## What is shown -/

/--
The decoder settings in force after the file was read again some times: those of the last reading,
or at first those that were loaded with what the command line asks for over them.
-/
def Options.InForce
    (options : Options)
    (loaded : Settings)
    (reloaded : List Settings)
    (settings : DecoderSettings) : Prop :=
  match reloaded.getLast? with
  | none =>
      settings.align = options.align.getD loaded.decoder.align ∧
        settings.formatted = (loaded.decoder.formatted && !options.plain)
  | some new => settings = new.decoder

/--
Every subtitle that a watching run shows comes from a packet, and has its place and its segments by
the settings that are in force when that packet is read.
-/
theorem shown_by_settings_in_force
    (options : Options)
    (surroundings : Surroundings)
    (path : Path)
    (ready : Run)
    (happenings : List Run.Happening)
    (subtitle : Subtitle)
    (given : options.config = some path)
    (watch : options.watch = true)
    (prepared : prepare options surroundings = .ok ready)
    (shown : subtitle ∈ (ready.follow happenings).1.shown) :
    ∃ loaded before data after run settings text outcome,
      (options.load surroundings).1 = .ok loaded ∧
        happenings = before ++ .packet data :: after ∧
        ready.follow before = (run, none) ∧
        (run.session.converter.convert data).result = .ok text ∧
        Markup.parse Color.byName settings.defaultAlign text = .ok outcome ∧
        subtitle.align = (Markup.place? text).getD settings.defaultAlign ∧
        subtitle.segments = Session.styled settings outcome ∧
        options.InForce loaded
          (before.filterMap (Run.Happening.settings? surroundings.environment path)) settings := by
  rcases linked_of_prepare options surroundings path ready given watch prepared with
    ⟨linked, nothing, loaded, loading, align, formatted⟩
  rw [Run.shown_follow, nothing, List.nil_append, List.mem_filterMap] at shown
  rcases shown with ⟨take, member, shown⟩
  rcases Run.happens_of_mem_takes ready happenings take member with
    ⟨before, after, order, followed⟩
  rcases linked.follow before followed with ⟨still, settings⟩
  have decoded := take.decoded_of_shown? subtitle shown
  rcases take.before.session.shown_of_decode take.packet subtitle decoded with
    ⟨start, text, outcome, read, parsed, rfl⟩
  rw [still.colors] at parsed
  refine ⟨loaded, before, take.data, after, take.before, take.before.session.settings, text,
    outcome, loading, order, followed, read, parsed, ?_, rfl, ?_⟩
  · exact Markup.align_of_parse _ _ text outcome parsed
  · unfold Options.InForce
    rw [settings]
    split
    next none => exact ⟨by rw [none]; exact align, by rw [none]; exact formatted⟩
    next new last => rw [last]; rfl

/-! ### A run whose file is empty -/

/-- The options of a run that watches its file and asks for a place and for plain text. -/
def plainLeft : Options :=
  { config := some (.ofString "c.yaml"), watch := true, align := some .left, plain := true }

/-- An empty file of settings. -/
def emptySettings : FileTree :=
  ⟨[(["c.yaml"], .file [])]⟩

/-- The bytes of a text with a tag and no block. -/
def tagged : List UInt8 :=
  [0x61, 0x3C, 0x62, 0x3E, 0x62]

/-- The file is written again, as it is, between two packets. -/
def rewritten : List Run.Happening :=
  [.packet tagged, .filesChanged emptySettings, .packet tagged]

/-- The run shows two subtitles, the second one by the settings of the file alone. -/
theorem shown_rewritten :
    ∃ ready,
      prepare plainLeft { files := emptySettings } = .ok ready ∧
        (ready.follow rewritten).1.shown =
          [ { start := 2000000, stop := 4000000, ephemeral := false,
              align := .place .bottom .left,
              segments := [⟨"ab", {}⟩] },
            { start := 4000000, stop := 6000000, ephemeral := false,
              align := .place .bottom .center,
              segments := [⟨"a", {}⟩, ⟨"b", { flags := StyleFlag.bold.bits }⟩] } ] := by
  have shown :
      (prepare plainLeft { files := emptySettings }).toOption.map
          (fun ready => (ready.follow rewritten).1.shown) =
        some
          [ { start := 2000000, stop := 4000000, ephemeral := false,
              align := .place .bottom .left,
              segments := [⟨"ab", {}⟩] },
            { start := 4000000, stop := 6000000, ephemeral := false,
              align := .place .bottom .center,
              segments := [⟨"a", {}⟩, ⟨"b", { flags := StyleFlag.bold.bits }⟩] } ] := by
    decide +kernel
  rcases Option.map_eq_some_iff.1 shown with ⟨ready, prepared, same⟩
  cases outcome : prepare plainLeft { files := emptySettings } with
  | error report =>
      rw [outcome] at prepared
      cases prepared
  | ok _ =>
      rw [outcome] at prepared
      cases prepared
      exact ⟨ready, rfl, same⟩

theorem shown_by_settings_in_force_of_empty_file :
    ∃ ready subtitle loaded before data after run settings text outcome,
      prepare plainLeft { files := emptySettings } = .ok ready ∧
        subtitle ∈ (ready.follow rewritten).1.shown ∧
        (plainLeft.load { files := emptySettings }).1 = .ok loaded ∧
        rewritten = before ++ .packet data :: after ∧
        ready.follow before = (run, none) ∧
        (run.session.converter.convert data).result = .ok text ∧
        Markup.parse Color.byName settings.defaultAlign text = .ok outcome ∧
        subtitle.align = (Markup.place? text).getD settings.defaultAlign ∧
        subtitle.segments = Session.styled settings outcome ∧
        plainLeft.InForce loaded
          (before.filterMap (Run.Happening.settings? {} (.ofString "c.yaml"))) settings := by
  rcases shown_rewritten with ⟨ready, prepared, shown⟩
  have member := shown ▸ List.mem_cons_self (a := (_ : Subtitle)) (l := _)
  rcases shown_by_settings_in_force plainLeft { files := emptySettings } (.ofString "c.yaml") ready
    rewritten _ rfl rfl prepared member with
    ⟨loaded, before, data, after, run, settings, text, outcome, shows⟩
  exact ⟨ready, _, loaded, before, data, after, run, settings, text, outcome, prepared, member,
    shows⟩

/--
A file that is written again as it was takes away the place and the plain text that the command line
asks for, though the text of the packet names no key.
-/
theorem rewritten_file_drops_options :
    Options.read ["--config", "c.yaml", "--watch", "--align", "1", "--plain"] = .ok plainLeft ∧
      Markup.place? "a<b>b".toList = none ∧
      ∃ ready,
        prepare plainLeft { files := emptySettings } = .ok ready ∧
          ∃ subtitle ∈ (ready.follow rewritten).1.shown,
            subtitle.align ≠ .place .bottom .left ∧
              ∀ text, subtitle.segments ≠ [{ text }] := by
  rcases shown_rewritten with ⟨ready, prepared, shown⟩
  refine ⟨by decide +kernel, by decide +kernel, ready, prepared, ?_⟩
  rw [shown]
  refine ⟨_, List.mem_cons_of_mem _ List.mem_cons_self, by decide, ?_⟩
  intro text plain
  cases congrArg List.length plain

end CommandLine

end TimedText
